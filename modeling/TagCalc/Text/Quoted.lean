/-
  TagCalc.Text.Quoted

  Text between double quotes, as error reports show it: quotes and backslashes
  are escaped, and characters that have no visible form, or would attach to the
  character before them, are written by their code point.
-/

import TagCalc.Text.PrintTable

namespace TagCalc.Text

/-- A code point as an escape in lower-case hexadecimal digits. -/
def codeEscape (c : Char) : List Char :=
  ['\\', 'u', '\x7b'] ++ Nat.toDigits 16 c.toNat ++ ['\x7d']

/-- One character between quotes. -/
def quotedChar (c : Char) : List Char :=
  match c with
  | '"' => ['\\', '"']
  | '\\' => ['\\', '\\']
  | '\n' => ['\\', 'n']
  | '\r' => ['\\', 'r']
  | '\t' => ['\\', 't']
  | '\x00' => ['\\', '0']
  | c =>
    if PrintTable.combining.contains c || PrintTable.unprintable.contains c then codeEscape c
    else [c]

/-- The text in double quotes. -/
def quoted (s : String) : String :=
  String.ofList ('"' :: s.toList.flatMap quotedChar ++ ['"'])

end TagCalc.Text
