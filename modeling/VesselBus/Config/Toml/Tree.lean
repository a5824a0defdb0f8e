import VesselBus.Number.Word

/-!
# Configuration documents as trees

The meaning of a document in the TOML format is a tree of tables. How a table came about decides who may
add to it: a header opens a table once, dotted keys add only to tables that dotted keys made, and what is
written in one piece is closed.
-/

namespace VesselBus.Toml

/-- How a table came about. -/
inductive TableKind where
  /-- By a header of its own. -/
  | headed
  /-- By the header of a table inside it. -/
  | implied
  /-- By a dotted key. -/
  | dotted
  /-- Between braces. -/
  | inline
  deriving DecidableEq, Repr

inductive Value where
  | text (s : String)
  | integer (n : Int)
  | number (x : Double)
  | boolean (b : Bool)
  /-- A date, a time of day or both; nothing asks which. -/
  | moment
  | array (items : List Value)
  | table (kind : TableKind) (entries : List (String × Value))
  /-- Tables that were added one by one, the last one last. -/
  | tables (items : List Value)

/-- The entries of a table, in the order they were made. -/
abbrev Entries := List (String × Value)

def Entries.get? (es : Entries) (key : String) : Option Value := es.lookup key

def Entries.set (es : Entries) (key : String) (v : Value) : Entries :=
  es.map fun entry => if entry.1 = key then (key, v) else entry

structure KeyPath where
  path : List String
  key : String
  deriving DecidableEq, Repr

structure OpenTable where
  kind : TableKind
  entries : Entries

namespace OpenTable

def close (t : OpenTable) : Value := .table t.kind t.entries

/-- May a path of dotted keys, or else of a header, go through a table of this kind? -/
def passable (byDots : Bool) : TableKind → Bool
  | .inline => false
  | .implied | .dotted => true
  | .headed => !byDots

/-- Changes the table at the end of a path. Tables that are missing on the way are made; of tables that
were added one by one the last is meant. -/
def reach (byDots : Bool) (change : OpenTable → Option OpenTable) :
    List String → OpenTable → Option OpenTable
  | [], t => change t
  | key :: path, t => do
    match t.entries.get? key with
    | none =>
      let made ← reach byDots change path ⟨if byDots then .dotted else .implied, []⟩
      return { t with entries := t.entries ++ [(key, made.close)] }
    | some (.table kind entries) =>
      guard (passable byDots kind)
      let changed ← reach byDots change path ⟨kind, entries⟩
      return { t with entries := t.entries.set key changed.close }
    | some (.tables items) =>
      let .table kind entries ← items.getLast? | none
      let changed ← reach byDots change path ⟨kind, entries⟩
      return { t with entries := t.entries.set key (.tables (items.dropLast ++ [changed.close])) }
    | some _ => none

/-- Gives a new key a value. A dotted path has to end in a table that dotted keys made. -/
def assign (k : KeyPath) (v : Value) : OpenTable → Option OpenTable :=
  reach true (fun t => do
    guard ((t.kind == .dotted) != k.path.isEmpty)
    guard (t.entries.get? k.key).isNone
    return { t with entries := t.entries ++ [(k.key, v)] }) k.path

/-- Opens the table of a header. There may be a table already, if only headers inside it implied it. -/
def openTable (k : KeyPath) : OpenTable → Option OpenTable :=
  reach false (fun t =>
    match t.entries.get? k.key with
    | none => some { t with entries := t.entries ++ [(k.key, .table .headed [])] }
    | some (.table .implied entries) =>
      some { t with entries := t.entries.set k.key (.table .headed entries) }
    | some _ => none) k.path

/-- Adds one more table under the key of a doubled header. -/
def addTable (k : KeyPath) : OpenTable → Option OpenTable :=
  reach false (fun t =>
    match t.entries.get? k.key with
    | none => some { t with entries := t.entries ++ [(k.key, .tables [.table .headed []])] }
    | some (.tables items) =>
      some { t with entries := t.entries.set k.key (.tables (items ++ [.table .headed []])) }
    | some _ => none) k.path

end OpenTable

inductive Statement where
  | header (k : KeyPath)
  | doubledHeader (k : KeyPath)
  | assignment (k : KeyPath) (v : Value)

/-- A document in the making: its tree, and the path of the table that assignments go to. -/
structure Draft where
  root : OpenTable := ⟨.headed, []⟩
  current : List String := []

def Draft.add (d : Draft) : Statement → Option Draft
  | .header k => do
    let root ← d.root.openTable k
    return ⟨root, k.path ++ [k.key]⟩
  | .doubledHeader k => do
    let root ← d.root.addTable k
    return ⟨root, k.path ++ [k.key]⟩
  | .assignment k v => do
    let root ← d.root.reach false (OpenTable.assign k v) d.current
    return { d with root }

/-- The tree of a whole document, if its statements agree with each other. -/
def Entries.ofStatements (statements : List Statement) : Option Entries := do
  let d ← statements.foldlM Draft.add {}
  return d.root.entries

end VesselBus.Toml
