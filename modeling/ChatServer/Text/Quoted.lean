import ChatServer.Text.Printable

/-!
Texts in double quotes, as descriptions of values show them. A double quote and a backslash
are escaped, the usual controls have short forms, and every other character that is not
printable is written by its code point.
-/

namespace ChatServer.Text

/-- The lower-case hexadecimal digits of a number, without leading zeros. -/
def hexDigits (n : Nat) : List Char :=
  Nat.toDigits 16 n

/-- A character as it stands inside the quotes. -/
def quotedChar (c : Char) : List Char :=
  if c = '"' then ['\\', '"']
  else if c = '\\' then ['\\', '\\']
  else if c = '\n' then ['\\', 'n']
  else if c = '\t' then ['\\', 't']
  else if c = '\r' then ['\\', 'r']
  else if c = '\x00' then ['\\', '0']
  else if isPrintable c then [c]
  else ['\\', 'u', '\x7b'] ++ hexDigits c.toNat ++ ['\x7d']

/-- The text between double quotes. -/
def quoted (s : String) : String :=
  .ofList ('"' :: s.toList.flatMap quotedChar ++ ['"'])

end ChatServer.Text
