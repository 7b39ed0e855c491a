/-
  TagCalc.Text.Lowercase

  Lower case of a text: each character is replaced by its lower-case form, with
  two peculiarities. The dotted capital `U+0130` becomes two characters, and a
  capital sigma becomes the final form `ς` at the end of a word and `σ`
  elsewhere.
-/

import TagCalc.Text.CaseTable

namespace TagCalc.Text

/-- The lower-case form of one character, apart from its neighbours. -/
def lowerChar (c : Char) : List Char :=
  if c.toNat < 0x80 then
    [c.toLower]
  else if c.toNat = 0x130 then
    ['i', Char.ofNat 0x307]
  else
    match CaseTable.runs.find? fun r =>
      r.first ≤ c.toNat && c.toNat ≤ r.last && (c.toNat - r.first) % r.stride == 0 with
    | some r => [Char.ofNat (c.toNat + r.shift).toNat]
    | none => [c]

/-- Whether a cased character comes first once the characters that case
    ignores are passed over. -/
def startsCased (cs : List Char) : Bool :=
  match cs.dropWhile CaseTable.caseIgnorable.contains with
  | c :: _ => CaseTable.cased.contains c
  | [] => false

/-- A sigma ends a word when a cased character comes before it and none after
    it. The text before it is given backwards. -/
def endsWord (before after : List Char) : Bool :=
  startsCased before && !startsCased after

/-- Lower case of what follows a text that is given backwards. -/
def lowerAfter (before : List Char) : List Char → List Char
  | [] => []
  | c :: rest =>
    (if c = 'Σ' then [if endsWord before rest then 'ς' else 'σ'] else lowerChar c)
      ++ lowerAfter (c :: before) rest

/-- The text in lower case. -/
def lowercase (s : String) : String :=
  String.ofList (lowerAfter [] s.toList)

end TagCalc.Text
