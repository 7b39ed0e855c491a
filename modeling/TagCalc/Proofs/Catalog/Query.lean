/-
  TagCalc.Proofs.Catalog.Query

  Names as inputs. The query of a name leaves out its operand characters and the blanks
  at both ends, and keeps its words. Lower case turns characters of words into characters
  of words, and leaves the others as they are (`isWordChar_of_mem_lowerChar`,
  `lowerChar_of_not_isWordChar`), so a name and its query have as many characters of words
  in lower case. A name therefore contains its query, case ignored, just when no operand
  character stands between its words (`infix_lowercase_queryOf_iff`).
-/

import TagCalc.Proofs.Catalog.Search
import TagCalc.Proofs.Text.Lowercase

namespace TagCalc

open Text

/-! ## Characters of words -/

/-- A character of a word is neither blank nor an operand character. -/
def isWordChar (c : Char) : Bool := !isBlank c && !isOperandChar c

/-- The code points of the blanks. -/
def blankCodes : List Nat :=
  [0x09, 0x0A, 0x0B, 0x0C, 0x0D, 0x20, 0x85, 0xA0, 0x1680, 0x2000, 0x2001, 0x2002, 0x2003, 0x2004,
    0x2005, 0x2006, 0x2007, 0x2008, 0x2009, 0x200A, 0x2028, 0x2029, 0x202F, 0x205F, 0x3000]

/-- The code points of the operand characters. -/
def operandCodes : List Nat := ['+', '*', '-', '/', '^', '(', ')'].map Char.toNat

/-- The code points of all characters that are in no word. -/
def separatorCodes : List Nat := blankCodes ++ operandCodes

theorem isBlank_iff {c : Char} : isBlank c = true ↔ c.toNat ∈ blankCodes := by
  simp only [isBlank, blankCodes, Bool.or_eq_true, Bool.and_eq_true, decide_eq_true_eq,
    beq_iff_eq, List.mem_cons, List.not_mem_nil, or_false]
  omega

theorem isOperandChar_iff {c : Char} : isOperandChar c = true ↔ c.toNat ∈ operandCodes := by
  simp only [isOperandChar, operandCodes, List.map_cons, List.map_nil, Bool.or_eq_true,
    beq_iff_eq, List.mem_cons, List.not_mem_nil, or_false, Char.toNat_inj, or_assoc]

theorem isWordChar_eq_false_iff {c : Char} :
    isWordChar c = false ↔ c.toNat ∈ separatorCodes := by
  rw [separatorCodes, List.mem_append, ← isBlank_iff, ← isOperandChar_iff, isWordChar]
  cases isBlank c <;> cases isOperandChar c <;> decide

theorem isWordChar_iff {c : Char} : isWordChar c = true ↔ c.toNat ∉ separatorCodes := by
  rw [← isWordChar_eq_false_iff, Bool.not_eq_false]

theorem isWordChar_of_isOperandChar {c : Char} (h : isOperandChar c = true) :
    isWordChar c = false := by
  rw [isWordChar, h, Bool.not_true, Bool.and_false]

theorem isWordChar_of_isBlank {c : Char} (h : isBlank c = true) : isWordChar c = false := by
  rw [isWordChar, h, Bool.not_true, Bool.false_and]

theorem isBlank_of_isWordChar {c : Char} (h : isWordChar c = true) : isBlank c = false := by
  rw [isWordChar, Bool.and_eq_true] at h
  simpa using h.1

theorem isOperandChar_of_isWordChar {c : Char} (h : isWordChar c = true) :
    isOperandChar c = false := by
  rw [isWordChar, Bool.and_eq_true] at h
  simpa using h.2

/-! ## Lower case of words -/

/-- No separator is in a run of the table, and none is the lower case of another
    character. -/
theorem separatorCodes_not_in_runs : ∀ r ∈ CaseTable.runs.toList, ∀ n ∈ separatorCodes,
    (n < r.first ∨ r.last < n) ∧ ((n : Int) < r.first + r.shift ∨ r.last + r.shift < n) := by
  decide +kernel

theorem separatorCodes_not_cased :
    ∀ n ∈ separatorCodes, CaseTable.cased.containsCode n = false := by
  decide +kernel

/-- In ASCII, lower case keeps the separators and makes no others. -/
theorem toLower_ascii {c : Char} (h : c.toNat < 0x80) :
    isWordChar c.toLower = isWordChar c ∧ (isWordChar c = false → c.toLower = c) := by
  have hall : ∀ n < 0x80, isWordChar (Char.ofNat n).toLower = isWordChar (Char.ofNat n)
      ∧ (isWordChar (Char.ofNat n) = false → (Char.ofNat n).toLower = Char.ofNat n) := by
    decide +kernel
  have hc := hall c.toNat h
  rwa [Char.ofNat_toNat] at hc

/-- A number that is no code point gives the null character. -/
theorem toNat_ofNat_cases (n : Nat) : (Char.ofNat n).toNat = n ∨ (Char.ofNat n).toNat = 0 := by
  by_cases hvalid : n.isValidChar
  · have heq : Char.ofNat n = Char.ofNatAux n hvalid := dif_pos hvalid
    exact Or.inl (by rw [heq]; rfl)
  · have heq : Char.ofNat n = '\x00' := dif_neg hvalid
    exact Or.inr (by rw [heq]; rfl)

theorem lowerChar_cases (c : Char) :
    (c.toNat < 0x80 ∧ lowerChar c = [c.toLower])
    ∨ (c.toNat = 0x130 ∧ lowerChar c = ['i', Char.ofNat 0x307])
    ∨ (∃ r ∈ CaseTable.runs.toList, r.first ≤ c.toNat ∧ c.toNat ≤ r.last
        ∧ lowerChar c = [Char.ofNat (c.toNat + r.shift).toNat])
    ∨ lowerChar c = [c] := by
  rw [lowerChar]
  by_cases hascii : c.toNat < 0x80
  · exact Or.inl ⟨hascii, if_pos hascii⟩
  · rw [if_neg hascii]
    by_cases hdotted : c.toNat = 0x130
    · exact Or.inr (Or.inl ⟨hdotted, if_pos hdotted⟩)
    · rw [if_neg hdotted]
      split
      · rename_i r hfound
        have hin := Array.find?_some hfound
        simp only [Bool.and_eq_true, decide_eq_true_eq] at hin
        have hmem : r ∈ CaseTable.runs.toList :=
          Array.mem_toList_iff.2 (Array.mem_of_find?_eq_some hfound)
        exact Or.inr (Or.inr (Or.inl ⟨r, hmem, hin.1.1, hin.1.2, rfl⟩))
      · exact Or.inr (Or.inr (Or.inr rfl))

/-- Blanks and operand characters have no lower case of their own. -/
theorem lowerChar_of_not_isWordChar {c : Char} (h : isWordChar c = false) :
    lowerChar c = [c] := by
  have hcode := isWordChar_eq_false_iff.1 h
  rcases lowerChar_cases c with ⟨hascii, heq⟩ | ⟨hdotted, -⟩ | ⟨r, hr, hfirst, hlast, -⟩ | heq
  · rw [heq, (toLower_ascii hascii).2 h]
  · rw [hdotted] at hcode
    exact absurd hcode (by decide)
  · have hout := (separatorCodes_not_in_runs r hr c.toNat hcode).1
    omega
  · exact heq

/-- The lower case of a character of a word is made of such characters. -/
theorem isWordChar_of_mem_lowerChar {c d : Char} (h : isWordChar c = true)
    (hd : d ∈ lowerChar c) : isWordChar d = true := by
  rcases lowerChar_cases c with ⟨hascii, heq⟩ | ⟨-, heq⟩ | ⟨r, hr, hfirst, hlast, heq⟩ | heq
  · rw [heq, List.mem_singleton] at hd
    rw [hd, (toLower_ascii hascii).1, h]
  · rw [heq] at hd
    simp only [List.mem_cons, List.not_mem_nil, or_false] at hd
    rcases hd with rfl | rfl
    · decide
    · decide
  · rw [heq, List.mem_singleton] at hd
    rw [hd, isWordChar_iff]
    intro hcode
    have hzero : 0 ∉ separatorCodes := by decide
    rcases toNat_ofNat_cases (c.toNat + r.shift).toNat with hvalid | hnull
    · rw [hvalid] at hcode
      have hpos : (c.toNat + r.shift).toNat ≠ 0 := fun hneg => hzero (hneg ▸ hcode)
      have hout := (separatorCodes_not_in_runs r hr _ hcode).2
      omega
    · exact hzero (hnull ▸ hcode)
  · rw [heq, List.mem_singleton] at hd
    rw [hd, h]

theorem lowerChar_ne_nil (c : Char) : lowerChar c ≠ [] := by
  rcases lowerChar_cases c with ⟨-, heq⟩ | ⟨-, heq⟩ | ⟨r, -, -, -, heq⟩ | heq <;>
    rw [heq] <;> exact List.cons_ne_nil _ _

/-- Text without a word has no cased character. -/
theorem startsCased_of_not_isWordChar {cs : List Char} (h : ∀ c ∈ cs, isWordChar c = false) :
    startsCased cs = false := by
  rw [startsCased]
  split
  · rename_i c rest heq
    have hmem : c ∈ cs := (List.dropWhile_sublist _).subset (heq ▸ List.mem_cons_self ..)
    exact separatorCodes_not_cased _ (isWordChar_eq_false_iff.1 (h c hmem))
  · rfl

/-! ## Lower case of texts with words -/

/-- Where it stands makes no difference to what kind of character one is in lower case. -/
theorem isWordChar_of_mem_lowerAt {before after : List Char} {c d : Char}
    (h : isWordChar c = true) (hd : d ∈ lowerAt before c after) : isWordChar d = true := by
  rw [lowerAt] at hd
  split at hd
  · rw [List.mem_singleton] at hd
    rw [hd]
    split <;> decide
  · exact isWordChar_of_mem_lowerChar h hd

theorem lowerAt_of_not_isWordChar (before after : List Char) {c : Char}
    (h : isWordChar c = false) : lowerAt before c after = [c] := by
  have hsigma : c ≠ 'Σ' := by
    rintro rfl
    exact absurd h (by decide)
  rw [lowerAt, if_neg hsigma, lowerChar_of_not_isWordChar h]

/-- The characters of words in the lower case of a text come from those in the text. -/
theorem countP_lowerBetween (before text after : List Char) :
    (lowerBetween before text after).countP isWordChar
      = ((text.filter isWordChar).flatMap lowerChar).length := by
  induction text generalizing before with
  | nil => rfl
  | cons c rest ih =>
    rw [lowerBetween, List.countP_append, ih]
    cases hc : isWordChar c with
    | true =>
      have hall : (lowerAt before c (rest ++ after)).countP isWordChar
          = (lowerChar c).length := by
        rw [← length_lowerAt before (rest ++ after), List.countP_eq_length]
        intro d hd
        exact isWordChar_of_mem_lowerAt hc hd
      rw [hall, List.filter_cons_of_pos hc, List.flatMap_cons, List.length_append]
    | false =>
      rw [lowerAt_of_not_isWordChar _ _ hc, List.filter_cons_of_neg (by simp [hc]),
        List.countP_singleton, hc, if_neg Bool.false_ne_true, Nat.zero_add]

/-- A separator in the lower case of a text was there before. -/
theorem mem_of_mem_lowerBetween {before text after : List Char} {o : Char}
    (ho : isWordChar o = false) (h : o ∈ lowerBetween before text after) : o ∈ text := by
  induction text generalizing before with
  | nil => cases h
  | cons c rest ih =>
    rw [lowerBetween, List.mem_append] at h
    rcases h with h | h
    · cases hc : isWordChar c with
      | true =>
        rw [isWordChar_of_mem_lowerAt hc h] at ho
        cases ho
      | false =>
        rw [lowerAt_of_not_isWordChar _ _ hc, List.mem_singleton] at h
        exact List.mem_cons.2 (Or.inl h)
    · exact List.mem_cons_of_mem _ (ih h)

/-- A text with a word has one in lower case. -/
theorem exists_mem_lowerBetween {text : List Char} (h : ∃ c ∈ text, isWordChar c = true)
    (before after : List Char) :
    ∃ d ∈ lowerBetween before text after, isWordChar d = true := by
  obtain ⟨c, hc, hword⟩ := h
  obtain ⟨left, right, rfl⟩ := List.append_of_mem hc
  rw [lowerBetween_append, lowerBetween]
  have hfilled : lowerAt (left.reverse ++ before) c (right ++ after) ≠ [] := by
    intro hnil
    have hlength := length_lowerAt (left.reverse ++ before) (right ++ after) c
    rw [hnil] at hlength
    exact lowerChar_ne_nil c (List.eq_nil_of_length_eq_zero hlength.symm)
  obtain ⟨d, hd⟩ := List.exists_mem_of_ne_nil _ hfilled
  refine ⟨d, ?_, isWordChar_of_mem_lowerAt hword hd⟩
  exact List.mem_append_right _ (List.mem_append_left _ hd)

/-! ## Queries -/

theorem toList_queryOf (input : String) :
    (queryOf input).toList = trimmed (input.toList.filter fun c => !isOperandChar c) := by
  rw [queryOf, String.toList_ofList]

/-- Trimming takes away no character of a word. -/
theorem filter_isWordChar_trimmed (cs : List Char) :
    (trimmed cs).filter isWordChar = cs.filter isWordChar := by
  have hnone : ∀ {ds : List Char}, (∀ c ∈ ds, isBlank c = true) → ds.filter isWordChar = [] := by
    intro ds hblank
    rw [List.filter_eq_nil_iff]
    intro c hc
    rw [isWordChar_of_isBlank (hblank c hc)]
    exact Bool.false_ne_true
  obtain ⟨first, last, hparts, hfirst, hlast⟩ := exists_append_trimmed cs
  calc (trimmed cs).filter isWordChar
      = first.filter isWordChar ++ (trimmed cs).filter isWordChar ++ last.filter isWordChar := by
        rw [hnone hfirst, hnone hlast, List.nil_append, List.append_nil]
    _ = cs.filter isWordChar := by rw [← List.filter_append, ← List.filter_append, ← hparts]

/-- The query of an input has the words of the input. -/
theorem filter_isWordChar_queryOf (input : String) :
    (queryOf input).toList.filter isWordChar = input.toList.filter isWordChar := by
  rw [toList_queryOf, filter_isWordChar_trimmed, List.filter_filter]
  apply List.filter_congr
  intro c _
  cases hc : isWordChar c with
  | true => rw [isOperandChar_of_isWordChar hc]; rfl
  | false => rfl

/-- The query of an input has no operand character. -/
theorem isOperandChar_of_mem_queryOf {input : String} {c : Char}
    (h : c ∈ (queryOf input).toList) : isOperandChar c = false := by
  rw [toList_queryOf] at h
  obtain ⟨first, last, hparts, -, -⟩ :=
    exists_append_trimmed (input.toList.filter fun c => !isOperandChar c)
  have hmem : c ∈ input.toList.filter fun c => !isOperandChar c := by
    rw [hparts]
    exact List.mem_append_left _ (List.mem_append_right _ h)
  simpa using (List.mem_filter.1 hmem).2

/-- Without words, only blanks are left once the operand characters are taken out. -/
theorem isBlank_of_mem_filter {cs : List Char} (h : ∀ c ∈ cs, isWordChar c = false) :
    ∀ c ∈ cs.filter fun c => !isOperandChar c, isBlank c = true := by
  intro c hc
  obtain ⟨hmem, hkept⟩ := List.mem_filter.1 hc
  have hword := h c hmem
  rw [isWordChar, hkept, Bool.and_true, Bool.not_eq_false'] at hword
  exact hword

/-- An input asks for nothing just when it has no word. -/
theorem queryOf_eq_empty_iff {input : String} :
    queryOf input = "" ↔ ∀ c ∈ input.toList, isWordChar c = false := by
  constructor
  · intro h
    have hwords := filter_isWordChar_queryOf input
    rw [h] at hwords
    intro c hc
    exact eq_false_of_ne_true (List.filter_eq_nil_iff.1 hwords.symm c hc)
  · intro h
    rw [queryOf, trimmed, dropWhile_isBlank_of_blank (isBlank_of_mem_filter h)]
    rfl

/-! ## Names and their queries -/

/-- No operand character stands between two words. -/
def OperandsOutside (cs : List Char) : Prop :=
  ∀ left o right, cs = left ++ o :: right → isOperandChar o = true →
    (∀ c ∈ left, isWordChar c = false) ∨ (∀ c ∈ right, isWordChar c = false)

/-- A text, from its first word to its last. -/
structure Framed (cs first words last : List Char) : Prop where
  parts : cs = first ++ words ++ last
  before : ∀ c ∈ first, isWordChar c = false
  after : ∀ c ∈ last, isWordChar c = false
  starts : ∃ c rest, words = c :: rest ∧ isWordChar c = true
  ends : ∃ front c, words = front ++ [c] ∧ isWordChar c = true

theorem exists_framed {cs : List Char} (h : ∃ c ∈ cs, isWordChar c = true) :
    ∃ first words last, Framed cs first words last := by
  -- the first character of a word, and then the last one from there on
  obtain ⟨a, ha⟩ := Option.isSome_iff_exists.1 (List.find?_isSome.2 h)
  obtain ⟨hstart, first, rest, hcs, hfirst⟩ := List.find?_eq_some_iff_append.1 ha
  have hback : ∃ c ∈ (a :: rest).reverse, isWordChar c = true :=
    ⟨a, List.mem_reverse.2 (List.mem_cons_self ..), hstart⟩
  obtain ⟨b, hb⟩ := Option.isSome_iff_exists.1 (List.find?_isSome.2 hback)
  obtain ⟨hend, last, front, hrest, hlast⟩ := List.find?_eq_some_iff_append.1 hb
  have hparts : a :: rest = front.reverse ++ [b] ++ last.reverse := by
    rw [← List.reverse_reverse (a :: rest), hrest, List.reverse_append, List.reverse_cons]
  have hhead : (front.reverse ++ [b]).head? = some a := by
    have hsame := congrArg List.head? hparts
    rw [List.head?_append, Option.or_of_isSome (by simp)] at hsame
    exact hsame.symm
  obtain ⟨words, hwords⟩ := List.head?_eq_some_iff.1 hhead
  refine ⟨first, front.reverse ++ [b], last.reverse, ?_, ?_, ?_, ⟨a, words, hwords, hstart⟩,
    ⟨front.reverse, b, rfl, hend⟩⟩
  · rw [hcs, hparts, List.append_assoc first]
  · intro c hc
    simpa using hfirst c hc
  · intro c hc
    simpa using hlast c (List.mem_reverse.1 hc)

namespace Framed

variable {cs first words last : List Char}

/-- The words have no blanks at their ends. -/
theorem trimmed_words (h : Framed cs first words last) : trimmed words = words := by
  obtain ⟨a, rest, hstart, ha⟩ := h.starts
  obtain ⟨front, b, hend, hb⟩ := h.ends
  apply trimmed_of_ends
  · intro c hc
    rw [hstart] at hc
    rw [← Option.some.inj hc]
    exact isBlank_of_isWordChar ha
  · intro c hc
    rw [hend, List.getLast?_concat] at hc
    rw [← Option.some.inj hc]
    exact isBlank_of_isWordChar hb

/-- With all operand characters outside, none is among the words. -/
theorem isOperandChar_of_mem (h : Framed cs first words last) (houtside : OperandsOutside cs)
    {c : Char} (hc : c ∈ words) : isOperandChar c = false := by
  cases ho : isOperandChar c with
  | false => rfl
  | true =>
    exfalso
    have hnot := isWordChar_of_isOperandChar ho
    obtain ⟨left, right, hsplit⟩ := List.append_of_mem hc
    obtain ⟨a, rest, hstart, ha⟩ := h.starts
    obtain ⟨front, b, hend, hb⟩ := h.ends
    -- the first character of the words is on its left, and the last one on its right
    have hleft : a ∈ left := by
      cases left with
      | nil =>
        obtain ⟨rfl, -⟩ := List.cons.inj (hstart.symm.trans hsplit)
        rw [hnot] at ha
        cases ha
      | cons d left =>
        obtain ⟨rfl, -⟩ := List.cons.inj (hstart.symm.trans hsplit)
        exact List.mem_cons_self ..
    have hright : b ∈ right := by
      have hlast := congrArg List.getLast? (hend.symm.trans hsplit)
      rw [List.getLast?_concat, List.getLast?_append, List.getLast?_cons, Option.some_or] at hlast
      cases hback : right.getLast? with
      | none =>
        rw [hback] at hlast
        rw [Option.some.inj hlast, Option.getD_none, hnot] at hb
        cases hb
      | some d =>
        rw [hback] at hlast
        rw [Option.some.inj hlast]
        exact List.mem_of_getLast? hback
    have hcs : cs = (first ++ left) ++ c :: (right ++ last) := by
      rw [h.parts, hsplit]
      simp
    rcases houtside _ c _ hcs ho with hnone | hnone
    · rw [hnone a (List.mem_append_right _ hleft)] at ha
      cases ha
    · rw [hnone b (List.mem_append_left _ hright)] at hb
      cases hb

end Framed

/-- A text that is found between two words, and has as many characters of words as the
    whole, has what stands between the two. -/
theorem mem_of_infix_of_countP {query left right : List Char} {o : Char}
    (hleft : ∃ c ∈ left, isWordChar c = true) (hright : ∃ c ∈ right, isWordChar c = true)
    (hcount : (left ++ o :: right).countP isWordChar = query.countP isWordChar)
    (h : query <:+: left ++ o :: right) : o ∈ query := by
  obtain ⟨before, after, heq⟩ := h
  have hsum := congrArg (List.countP isWordChar) heq
  rw [List.countP_append, List.countP_append] at hsum
  -- all characters of words are in the query, so none is before or after it
  have hbefore : ¬∃ c ∈ before, isWordChar c = true := by
    rw [← List.countP_pos_iff]
    omega
  have hafter : ¬∃ c ∈ after, isWordChar c = true := by
    rw [← List.countP_pos_iff]
    omega
  rw [List.append_assoc] at heq
  obtain ⟨a, ha, hworda⟩ := hleft
  obtain ⟨b, hb, hwordb⟩ := hright
  rcases List.append_eq_append_iff.1 heq with ⟨rest, -, hrest⟩ | ⟨rest, hstart, -⟩
  · rcases List.append_eq_append_iff.1 hrest with ⟨more, -, hend⟩ | ⟨more, hquery, hend⟩
    · refine absurd ⟨b, ?_, hwordb⟩ hafter
      rw [hend]
      exact List.mem_append_right _ (List.mem_cons_of_mem _ hb)
    · cases more with
      | nil =>
        refine absurd ⟨b, ?_, hwordb⟩ hafter
        rw [← List.nil_append after, ← hend]
        exact List.mem_cons_of_mem _ hb
      | cons d more =>
        obtain ⟨rfl, -⟩ := List.cons.inj hend
        rw [hquery]
        exact List.mem_append_right _ (List.mem_cons_self ..)
  · refine absurd ⟨a, ?_, hworda⟩ hbefore
    rw [hstart]
    exact List.mem_append_left _ ha

/-- The lower case of a name has as many characters of words as that of its query. -/
theorem countP_lowercase_queryOf (name : String) :
    (lowercase name).toList.countP isWordChar
      = (lowercase (queryOf name)).toList.countP isWordChar := by
  rw [toList_lowercase, toList_lowercase, countP_lowerBetween, countP_lowerBetween,
    filter_isWordChar_queryOf]

/-- An operand character between two words is missing in the query. -/
theorem operandsOutside_of_occurs {name : String}
    (h : (lowercase (queryOf name)).toList <:+: (lowercase name).toList) :
    OperandsOutside name.toList := by
  intro left o right hname ho
  have hnot := isWordChar_of_isOperandChar ho
  have hcount := countP_lowercase_queryOf name
  rw [toList_lowercase name, hname, lowerBetween_append, lowerBetween,
    lowerAt_of_not_isWordChar _ _ hnot, List.singleton_append] at h hcount
  by_cases hleft : ∃ c ∈ left, isWordChar c = true
  · by_cases hright : ∃ c ∈ right, isWordChar c = true
    · have hmem := mem_of_infix_of_countP (exists_mem_lowerBetween hleft _ _)
        (exists_mem_lowerBetween hright _ _) hcount h
      rw [toList_lowercase] at hmem
      rw [isOperandChar_of_mem_queryOf (mem_of_mem_lowerBetween hnot hmem)] at ho
      cases ho
    · exact Or.inr (by simpa using hright)
  · exact Or.inl (by simpa using hleft)

/-- With all operand characters outside, the query is what stands in the name from its
    first word to its last. -/
theorem Framed.toList_queryOf {name : String} {first words last : List Char}
    (h : Framed name.toList first words last) (houtside : OperandsOutside name.toList) :
    (queryOf name).toList = words := by
  have hwords : words.filter (fun c => !isOperandChar c) = words := by
    rw [List.filter_eq_self]
    intro c hc
    rw [h.isOperandChar_of_mem houtside hc]
    rfl
  rw [TagCalc.toList_queryOf, h.parts, List.filter_append, List.filter_append, hwords,
    trimmed_append_of_blank (isBlank_of_mem_filter h.before) (isBlank_of_mem_filter h.after),
    h.trimmed_words]

/-- Case ignored, a name contains its query just when no operand character stands between
    two of its words. -/
theorem infix_lowercase_queryOf_iff {name : String} :
    (lowercase (queryOf name)).toList <:+: (lowercase name).toList
      ↔ OperandsOutside name.toList := by
  refine ⟨operandsOutside_of_occurs, ?_⟩
  intro houtside
  by_cases hword : ∃ c ∈ name.toList, isWordChar c = true
  · obtain ⟨first, words, last, h⟩ := exists_framed hword
    have halike : SigmasAlike words first.reverse last [] [] := by
      apply sigmasAlike_of_startsCased
      · apply startsCased_of_not_isWordChar
        intro c hc
        exact h.before c (List.mem_reverse.1 hc)
      · exact startsCased_of_not_isWordChar h.after
    rw [toList_lowercase, toList_lowercase, h.toList_queryOf houtside, h.parts,
      lowerBetween_of_occurs, lowerBetween_eq_iff.2 halike]
    exact ⟨_, _, rfl⟩
  · have hempty : queryOf name = "" := queryOf_eq_empty_iff.2 (by simpa using hword)
    rw [hempty]
    exact List.nil_infix

end TagCalc
