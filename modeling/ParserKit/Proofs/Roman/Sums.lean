import ParserKit.Proofs.Roman.Symbols

/-! What words are worth. Without regard to form, the longest word at the beginning of a text is read, and there is a
result unless the sum of its symbols exceeds the limit. A pair is worth its two letters less twice the first one; so
the sum is that of the letters, less twice the first letters of the pairs. The symbols of two words that are put
together are those of both, as long as the letters at the join make no pair. -/

namespace ParserKit.Roman

open ParserKit.Parser

/-- The pairs that are read in a word. -/
def pairsOf : List Letter → List Pair
  | [] => []
  | [_] => []
  | l :: m :: w => match Pair.ofLetters? l m with
    | some p => p :: pairsOf w
    | none => pairsOf (m :: w)

theorem sum_symbolsOf_add (w : List Letter) :
    (symbolsOf w).sum + 2 * ((pairsOf w).map fun p => p.less.value).sum = (w.map Letter.value).sum := by
  fun_induction symbolsOf w with
  | case1 => rfl
  | case2 l => rfl
  | case3 l m w p hpair ih =>
      have hletters : p.less = l ∧ p.greater = m := by
        simpa [Pair.letters] using Pair.letters_of_ofLetters? hpair
      obtain ⟨rfl, rfl⟩ := hletters
      have hvalue := p.value_add_less
      simp only [pairsOf, hpair, List.map_cons, List.sum_cons]
      omega
  | case4 l m w hnone ih =>
      simp only [pairsOf, hnone, List.map_cons, List.sum_cons] at ih ⊢
      omega

theorem run_uncheckedNumeral_spell (w : List Letter) {rest : Text} (hrest : rest.startsWith isLetter = false) :
    uncheckedNumeral.run (spell w ++ rest) =
      if (symbolsOf w).sum ≤ maxUnsigned then [((symbolsOf w).sum, rest)] else [] := by
  rw [run_uncheckedNumeral_word hrest, checkedSum_eq_checked_sum, checked]
  split
  · rfl
  · rfl

/-- The reader without regard to form takes the longest word at the beginning of a text. It gives the sum of the
symbols of the word, and fails only if this sum exceeds the limit. -/
theorem run_uncheckedNumeral_eq (s : Text) : ∃ w : List Letter,
    w.map Letter.toChar = s.takeWhile isLetter ∧
    uncheckedNumeral.run s =
      (if (symbolsOf w).sum ≤ maxUnsigned then [((symbolsOf w).sum, s.dropWhile isLetter)] else []) ∧
    (symbolsOf w).sum + 2 * ((pairsOf w).map fun p => p.less.value).sum = (w.map Letter.value).sum := by
  obtain ⟨w, hw, hs⟩ := exists_spell_append s
  have hrun := run_uncheckedNumeral_spell w (s.startsWith_dropWhile isLetter)
  rw [← hs] at hrun
  exact ⟨w, hw, hrun, sum_symbolsOf_add w⟩

/-- No pair has its first letter at the end of `v` and its second one at the beginning of `w`. -/
def CutBetween (v w : List Letter) : Prop := ∀ l ∈ v.getLast?, ∀ m ∈ w.head?, ∀ p : Pair, p.letters ≠ [l, m]

theorem CutBetween.tail {l : Letter} {v w : List Letter} (h : CutBetween (l :: v) w) : CutBetween v w := by
  intro m hm
  cases v with
  | nil => cases hm
  | cons k v =>
      apply h m
      rwa [List.getLast?_cons_cons]

/-- A cut that no pair lies across ends a symbol, wherever the symbols of the first word begin and end. -/
theorem symbolsOf_append {v w : List Letter} (h : CutBetween v w) :
    symbolsOf (v ++ w) = symbolsOf v ++ symbolsOf w := by
  fun_induction symbolsOf v with
  | case1 => rfl
  | case2 l =>
      cases w with
      | nil => rfl
      | cons m w =>
          have hnone : Pair.ofLetters? l m = none := Pair.ofLetters?_eq_none_iff.mpr (h l rfl m rfl)
          simp only [List.cons_append, List.nil_append, symbolsOf, hnone]
  | case3 l m v p hpair ih =>
      -- the pair may end at the cut, and then nothing is asked of the second word
      simp only [List.cons_append, symbolsOf, hpair, ih h.tail.tail]
  | case4 l m v hnone ih =>
      have hrest : symbolsOf (m :: (v ++ w)) = symbolsOf (m :: v) ++ symbolsOf w := ih h.tail
      simp only [List.cons_append, symbolsOf, hnone, hrest]

theorem run_uncheckedNumeral_alone (w : List Letter) : uncheckedNumeral.run (spell w) =
    if (symbolsOf w).sum ≤ maxUnsigned then [((symbolsOf w).sum, ∅)] else [] := by
  have hrun : uncheckedNumeral.run (spell w ++ ∅) = _ := run_uncheckedNumeral_spell w rfl
  rwa [Text.append_eq_prepend, Text.prepend_empty] at hrun

/-- Two words that no pair joins are worth, in front of any text that does not go on with a letter, what both are worth
alone, as long as this is within the limit. What a word is worth alone is the sum of its symbols. -/
theorem run_uncheckedNumeral_append {v w : List Letter} (hcut : CutBetween v w) {tail : Text}
    (htail : tail.startsWith isLetter = false) :
    uncheckedNumeral.run (spell v) =
      (if (symbolsOf v).sum ≤ maxUnsigned then [((symbolsOf v).sum, ∅)] else []) ∧
    uncheckedNumeral.run (spell w) =
      (if (symbolsOf w).sum ≤ maxUnsigned then [((symbolsOf w).sum, ∅)] else []) ∧
    uncheckedNumeral.run (spell v ++ (spell w ++ tail)) =
      if (symbolsOf v).sum + (symbolsOf w).sum ≤ maxUnsigned then
        [((symbolsOf v).sum + (symbolsOf w).sum, tail)] else [] := by
  refine ⟨run_uncheckedNumeral_alone v, run_uncheckedNumeral_alone w, ?_⟩
  rw [← spell_append_append, run_uncheckedNumeral_spell (v ++ w) htail, symbolsOf_append hcut, List.sum_append]

/-- A pair in front of the cut and one behind it, and a text behind both. -/
theorem run_uncheckedNumeral_append_xix_iv :
    CutBetween [.X, .I, .X] [.I, .V] ∧ (Text.ofString "!").startsWith isLetter = false ∧
      uncheckedNumeral.run (spell [.X, .I, .X]) = [(19, ∅)] ∧ uncheckedNumeral.run (spell [.I, .V]) = [(4, ∅)] ∧
      uncheckedNumeral.run (spell [.X, .I, .X] ++ (spell [.I, .V] ++ Text.ofString "!")) =
        [(23, Text.ofString "!")] := by
  have hcut : CutBetween [.X, .I, .X] [.I, .V] := by
    rintro l hl m hm p
    cases hl
    cases hm
    cases p <;> decide
  have htail : (Text.ofString "!").startsWith isLetter = false := by decide
  have hv : (symbolsOf [.X, .I, .X]).sum = 19 := by decide
  have hw : (symbolsOf [.I, .V]).sum = 4 := by decide
  have hread := run_uncheckedNumeral_append hcut htail
  rw [hv, hw, if_pos (by decide), if_pos (by decide), if_pos (by decide)] at hread
  exact ⟨hcut, htail, hread⟩

end ParserKit.Roman
