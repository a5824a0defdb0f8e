import VesselBus.Config.Toml.Scan

/-!
# Text between quotes

Text stands between double quotes, with escapes, or between single quotes, as it is. Three quotes at each
end let it run over several lines.
-/

namespace VesselBus.Toml

def charOfCode? (code : Nat) : Option Char :=
  if code.isValidChar then some (Char.ofNat code) else none

/-- A character given by `width` hexadecimal digits. -/
def coded (width : Nat) : Scan Char := fun cs => do
  let digits := cs.take width
  guard (digits.length = width ∧ digits.all fun c => (hexDigit? c).isSome)
  let c ← charOfCode? (number 16 digits)
  return (c, cs.drop width)

def escape : Scan Char
  | 'b' :: rest => some ('\x08', rest)
  | 't' :: rest => some ('\t', rest)
  | 'n' :: rest => some ('\n', rest)
  | 'f' :: rest => some ('\x0c', rest)
  | 'r' :: rest => some ('\r', rest)
  | '"' :: rest => some ('"', rest)
  | '\\' :: rest => some ('\\', rest)
  | 'u' :: rest => coded 4 rest
  | 'U' :: rest => coded 8 rest
  | _ => none

/-- The rest of a text on one line, after its opening quote. -/
def lineOfText (escapes : Bool) (quote : Char) : Nat → Scan (List Char)
  | 0, _ => none
  | _, [] => none
  | fuel + 1, c :: rest =>
    if c = quote then some ([], rest)
    else if c = '\\' ∧ escapes then do
      let (c, rest) ← escape rest
      let (cs, rest) ← lineOfText escapes quote fuel rest
      return (c :: cs, rest)
    else if isPlain c then do
      let (cs, rest) ← lineOfText escapes quote fuel rest
      return (c :: cs, rest)
    else none

/-- After a backslash at the end of a line: everything up to the next character that shows. -/
def skipFold (cs : List Char) : Option (List Char) := do
  let rest ← lineEnd? (skipBlanks cs)
  return skipSpace rest.length rest

/-- The rest of a text over several lines, after its opening quotes. Up to two quotes may stand right
before the three that close it. -/
def linesOfText (escapes : Bool) (quote : Char) : Nat → Scan (List Char)
  | 0, _ => none
  | _, [] => none
  | fuel + 1, c :: rest =>
    if c = quote then
      let run := ((c :: rest).takeWhile (· == quote)).take 5
      let after := (c :: rest).drop run.length
      if 3 ≤ run.length then some (run.drop 3, after)
      else do
        let (cs, rest) ← linesOfText escapes quote fuel after
        return (run ++ cs, rest)
    else if c = '\\' ∧ escapes then
      match skipFold rest with
      | some rest => linesOfText escapes quote fuel rest
      | none => do
        let (c, rest) ← escape rest
        let (cs, rest) ← linesOfText escapes quote fuel rest
        return (c :: cs, rest)
    else
      match lineEnd? (c :: rest) with
      | some rest => do
        let (cs, rest) ← linesOfText escapes quote fuel rest
        return ('\n' :: cs, rest)
      | none => do
        guard (isPlain c)
        let (cs, rest) ← linesOfText escapes quote fuel rest
        return (c :: cs, rest)

def quotedLine : Scan String := fun cs => do
  let quote :: rest := cs | none
  guard (quote == '"' || quote == '\'')
  let (text, rest) ← lineOfText (quote == '"') quote (rest.length + 1) rest
  return (String.ofList text, rest)

/-- Text with its quotes. A line that ends right after three quotes is not part of it. -/
def quotedText : Scan String := fun cs => do
  match cs with
  | a :: b :: c :: rest =>
    if (a == '"' || a == '\'') && b == a && c == a then
      let rest := (lineEnd? rest).getD rest
      let (text, rest) ← linesOfText (a == '"') a (rest.length + 1) rest
      return (String.ofList text, rest)
    else quotedLine cs
  | _ => quotedLine cs

def isBareKey (c : Char) : Bool := c.isAlphanum || c == '_' || c == '-'

def simpleKey : Scan String := fun cs =>
  match cs with
  | '"' :: _ | '\'' :: _ => quotedLine cs
  | _ => do
    let bare := cs.takeWhile isBareKey
    guard !bare.isEmpty
    return (String.ofList bare, cs.dropWhile isBareKey)

/-- Keys with points between them, and blanks around the points. -/
def keys : Nat → Scan (List String)
  | 0, _ => none
  | fuel + 1, cs => do
    let (key, rest) ← simpleKey (skipBlanks cs)
    match skipBlanks rest with
    | '.' :: rest => do
      let (path, rest) ← keys fuel rest
      return (key :: path, rest)
    | rest => return ([key], rest)

end VesselBus.Toml
