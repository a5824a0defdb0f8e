import VesselBus.Bus.Transcript

/-!
# File trees

Can a file be opened for writing under a path, and what becomes of the text? The names of the path lead from
the root through one folder after the other; the last of them is the file's own, and may be that of a file
that is there already.
-/

namespace VesselBus

inductive PathFault where
  | isFolder
  | notFolder
  | missing
  | denied
  | noDevice
  | tooLong
  | nul
  deriving DecidableEq, Repr

def PathFault.message : PathFault → String
  | .isFolder => "Is a directory (os error 21)"
  | .notFolder => "Not a directory (os error 20)"
  | .missing => "No such file or directory (os error 2)"
  | .denied => "Permission denied (os error 13)"
  | .noDevice => "No such device or address (os error 6)"
  | .tooLong => "File name too long (os error 36)"
  | .nul => "file name contained an unexpected NUL byte"

/-- What becomes of the text that is written to a file. -/
inductive FileKind where
  | plain
  /-- Everything is taken, and nothing can be read. -/
  | discarding
  /-- Nothing is taken, for some cause. -/
  | refusing (cause : String)
  /-- It does not come to writing. -/
  | blocked (fault : PathFault)
  deriving DecidableEq, Repr

/-- How many bytes wait before they are written to a file. -/
def bufferSize : Nat := 8192

/-- The sink of a file that takes nothing: a flush fails, and a write for which too much waits already. -/
def Sink.refusing (cause : String) : Sink where
  writeFault waiting offered :=
    if bufferSize < waiting.size + offered.size then some ⟨0, cause⟩ else none
  flushFault _ := some cause

def FileKind.sink : FileKind → Except PathFault Sink
  | .plain | .discarding => .ok {}
  | .refusing cause => .ok (.refusing cause)
  | .blocked fault => .error fault

/-- The folders other than the root, and the files, each by the names that lead to it. -/
structure FileTree where
  folders : List (List String)
  files : List (List String × FileKind)
  /-- Folders that take no new file, neither themselves nor in the folders below, and why. -/
  closed : List (List String × PathFault) := []
  deriving DecidableEq, Repr

namespace FileTree

def maxNameSize : Nat := 255

def maxPathSize : Nat := 4095

/-- Why a folder takes no new file, if it takes none. -/
def closure? (t : FileTree) (folder : List String) : Option PathFault :=
  (t.closed.find? (·.1.isPrefixOf folder)).map (·.2)

/-- Whether a folder has no room for a name. One that takes no new file does not look at lengths. -/
def isTooLong (t : FileTree) (folder : List String) (name : String) : Bool :=
  (t.closure? folder).isNone && maxNameSize < name.utf8ByteSize

def newFile (t : FileTree) (folder : List String) (name : String) : FileKind :=
  if t.isTooLong folder name then .blocked .tooLong
  else (t.closure? folder).elim .plain .blocked

/-- The file under these names, from a folder on. -/
def follow (t : FileTree) (here : List String) : List String → FileKind
  | [] => .blocked .isFolder
  | name :: rest =>
    let there := here ++ [name]
    if name = "" ∨ name = "." then t.follow here rest
    else if name = ".." then t.follow here.dropLast rest
    else if t.folders.contains there then t.follow there rest
    else if rest = [] then (t.files.lookup there).getD (t.newFile here name)
    else if rest.all (· == "") then .blocked .isFolder
    else if (t.files.lookup there).isSome then .blocked .notFolder
    else if t.isTooLong here name then .blocked .tooLong
    else .blocked .missing

def fileAt (t : FileTree) (path : String) : FileKind :=
  if path.toList.contains '\x00' then .blocked .nul
  else if maxPathSize < path.utf8ByteSize then .blocked .tooLong
  else t.follow [] (path.splitOn "/")

end FileTree

end VesselBus
