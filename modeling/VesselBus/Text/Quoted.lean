import VesselBus.Text.Unprintable

/-!
# Quoted text

Text in double quotes, so that a reader sees every character of it: quotes and backslashes are escaped,
line ends and tabs have their letters, and a character that does not show is given by its code.
-/

namespace VesselBus.Text

def escape (c : Char) : List Char :=
  if c = '"' then ['\\', '"']
  else if c = '\\' then ['\\', '\\']
  else if c = '\n' then ['\\', 'n']
  else if c = '\r' then ['\\', 'r']
  else if c = '\t' then ['\\', 't']
  else if c = '\x00' then ['\\', '0']
  else if isUnprintable c then ['\\', 'u', '\x7b'] ++ Nat.toDigits 16 c.toNat ++ ['\x7d']
  else [c]

def quoted (s : String) : String := String.ofList ('"' :: s.toList.flatMap escape ++ ['"'])

end VesselBus.Text
