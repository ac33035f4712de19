import S7Request.Text.Printable

/-!
# Quoted text

A text between double quotes. The quote, the backslash and the usual control characters are
escaped by a letter, every other character that would not be shown as itself by its number in
hexadecimal digits between braces.
-/
namespace S7Request.Text

def quotedChar (c : Char) : List Char :=
  if c = '"' then ['\\', '"']
  else if c = '\\' then ['\\', '\\']
  else if c = '\n' then ['\\', 'n']
  else if c = '\r' then ['\\', 'r']
  else if c = '\t' then ['\\', 't']
  else if c.toNat = 0 then ['\\', '0']
  else if isShown c then [c]
  else ['\\', 'u', '{'] ++ Nat.toDigits 16 c.toNat ++ ['}']

def quoted (s : String) : String :=
  String.ofList ('"' :: s.toList.flatMap quotedChar ++ ['"'])

end S7Request.Text
