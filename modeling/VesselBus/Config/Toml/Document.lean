import VesselBus.Config.Toml.Literal
import VesselBus.Config.Toml.Quotes

/-!
# Documents

A document is a list of statements, one to a line. Values may be nested in arrays and in tables between
braces, and only arrays may run over several lines. What is nested too deep is refused.
-/

namespace VesselBus.Toml

/-- No value and no key is nested as deep as this. -/
def depthLimit : Nat := 80

def keyPath : Scan KeyPath := fun cs => do
  let (path, rest) ← keys (cs.length + 1) cs
  guard (path.length < depthLimit)
  let key ← path.getLast?
  return (⟨path.dropLast, key⟩, rest)

/-- The table that assignments between braces make. -/
def Value.ofAssignments (pairs : List (KeyPath × Value)) : Option Value := do
  let t ← pairs.foldlM (fun t pair => t.assign pair.1 pair.2) (⟨.inline, []⟩ : OpenTable)
  return t.close

mutual

/-- A value, nested at most `room` deep; `fuel` bounds how much of the text is looked at. -/
def value : Nat → Nat → Scan Value
  | 0, _, _ => none
  | fuel + 1, room, cs =>
    match cs with
    | '"' :: _ | '\'' :: _ => do
      let (s, rest) ← quotedText cs
      return (.text s, rest)
    | '[' :: rest => do
      guard (0 < room)
      let (items, rest) ← items fuel (room - 1) rest
      return (.array items, rest)
    | '\x7b' :: rest => do
      guard (0 < room)
      let (pairs, rest) ←
        match skipBlanks rest with
        | '\x7d' :: rest => some ([], rest)
        | rest => pairs fuel (room - 1) rest
      return (← Value.ofAssignments pairs, rest)
    | _ => literal cs

/-- The rest of an array. A comma may stand before its end. -/
def items : Nat → Nat → Scan (List Value)
  | 0, _, _ => none
  | fuel + 1, room, cs =>
    match skipLines fuel cs with
    | ']' :: rest => some ([], rest)
    | rest => do
      let (v, rest) ← value fuel room rest
      match skipLines fuel rest with
      | ']' :: rest => return ([v], rest)
      | ',' :: rest => do
        let (vs, rest) ← items fuel room rest
        return (v :: vs, rest)
      | _ => none

/-- The rest of a table between braces, which is not empty. -/
def pairs : Nat → Nat → Scan (List (KeyPath × Value))
  | 0, _, _ => none
  | fuel + 1, room, cs => do
    let (k, rest) ← keyPath cs
    let '=' :: rest := rest | none
    let (v, rest) ← value fuel room (skipBlanks rest)
    match skipBlanks rest with
    | '\x7d' :: rest => return ([(k, v)], rest)
    | ',' :: rest => do
      let (more, rest) ← pairs fuel room rest
      return ((k, v) :: more, rest)
    | _ => none

end

/-- One statement, up to the end of its line. -/
def statement : Scan Statement := fun cs => do
  match cs with
  | '[' :: '[' :: rest =>
    let (k, rest) ← keyPath rest
    let ']' :: ']' :: rest := rest | none
    return (.doubledHeader k, ← finishLine rest)
  | '[' :: rest =>
    let (k, rest) ← keyPath rest
    let ']' :: rest := rest | none
    return (.header k, ← finishLine rest)
  | _ =>
    let (k, rest) ← keyPath cs
    let '=' :: rest := rest | none
    let (v, rest) ← value (2 * rest.length + 2) (depthLimit - 1) (skipBlanks rest)
    return (.assignment k v, ← finishLine rest)

/-- The statements of a text; `fuel` bounds their number. -/
def statements : Nat → List Char → Option (List Statement)
  | 0, _ => none
  | fuel + 1, cs =>
    match skipComment (skipLines fuel cs) with
    | [] => some []
    | rest => do
      let (s, rest) ← statement rest
      return s :: (← statements fuel rest)

/-- The tree of a document, if it is one. A byte order mark at its start is passed over. -/
def parse? (text : String) : Option Entries := do
  let cs := match text.toList with
    | '\ufeff' :: cs => cs
    | cs => cs
  Entries.ofStatements (← statements (cs.length + 1) cs)

end VesselBus.Toml
