namespace PlotBoard.Text

/-!
# Quoted text

A text between double quotation marks, with quotation marks, backslashes and
control characters escaped. Characters beyond ASCII stand for themselves.
-/

/-- The code point of a character in small hexadecimal digits between braces. -/
def codePoint (character : Char) : List Char :=
  ['\\', 'u', '\x7b'] ++ Nat.toDigits 16 character.toNat ++ ['\x7d']

/-- What is written for a character between quotation marks. -/
def escape (character : Char) : List Char :=
  if character = '"' then
    ['\\', '"']
  else if character = '\\' then
    ['\\', '\\']
  else if character = '\n' then
    ['\\', 'n']
  else if character = '\r' then
    ['\\', 'r']
  else if character = '\t' then
    ['\\', 't']
  else if character.toNat = 0 then
    ['\\', '0']
  else if character.toNat < 0x20 ∨ character.toNat = 0x7F then
    codePoint character
  else
    [character]

/-- A text between quotation marks. -/
def quoted (text : String) : String :=
  String.ofList ('"' :: (text.toList.flatMap escape ++ ['"']))

end PlotBoard.Text
