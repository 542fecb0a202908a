import DerivedQuery.Text.Printable

/-!
# Texts in diagnostic output

`quoted` shows a text between double quotes so that every character can be seen: quotes,
backslashes and the usual control characters are written with a backslash, and characters without a
form of their own by their code point.
-/

namespace DerivedQuery.Text

/-- A number in hexadecimal digits. -/
def hexadecimal (n : Nat) : List Char :=
  (Nat.toDigits 16 n)

/-- One character of a quoted text. -/
def quotedChar (c : Char) : List Char :=
  if c = '"' then ['\\', '"']
  else if c = '\\' then ['\\', '\\']
  else if c = '\n' then ['\\', 'n']
  else if c = '\r' then ['\\', 'r']
  else if c = '\t' then ['\\', 't']
  else if c.toNat = 0 then ['\\', '0']
  else if extendsGrapheme c || !isPrintable c then
    ['\\', 'u', '\x7b'] ++ hexadecimal c.toNat ++ ['\x7d']
  else [c]

/-- A text between double quotes. -/
def quoted (s : String) : String :=
  "\"" ++ String.ofList (s.toList.flatMap quotedChar) ++ "\""

end DerivedQuery.Text
