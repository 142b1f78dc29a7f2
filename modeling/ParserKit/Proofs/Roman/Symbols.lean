import ParserKit.Proofs.Roman.Unchecked

/-! The symbols of a word. Without regard to form a word is read from the left: a pair wherever the next two
letters make one, and a single letter elsewhere. No word is refused for its shape, and what a word is worth is the
sum of its symbols. -/

namespace ParserKit.Roman

open ParserKit.Parser

/-- The pair that two letters make, if they make one. -/
def Pair.ofLetters? (l m : Letter) : Option Pair := Pair.all.find? fun p => p.letters = [l, m]

theorem Pair.letters_of_ofLetters? {l m : Letter} {p : Pair} (h : ofLetters? l m = some p) :
    p.letters = [l, m] := by
  unfold ofLetters? at h
  have hfound := List.find?_some h
  exact of_decide_eq_true hfound

theorem Pair.ofLetters?_eq_none_iff {l m : Letter} : ofLetters? l m = none ↔ ∀ p : Pair, p.letters ≠ [l, m] := by
  unfold ofLetters?
  rw [List.find?_eq_none]
  constructor
  · intro h p
    simpa using h p p.mem_all
  · intro h p _
    simpa using h p

/-- The values of the symbols of a word. -/
def symbolsOf : List Letter → List Nat
  | [] => []
  | [l] => [l.value]
  | l :: m :: w => match Pair.ofLetters? l m with
    | some p => p.value :: symbolsOf w
    | none => l.value :: symbolsOf (m :: w)

section Reading

variable {rest : Text} (hrest : rest.startsWith isLetter = false)

include hrest

theorem run_many_symbolValue_word (w : List Letter) :
    symbolValue.many.run (spell w ++ rest) = [(symbolsOf w, rest)] := by
  fun_induction symbolsOf w with
  | case1 =>
      rw [spell_nil_append]
      exact run_many_of_eq_nil (run_symbolValue_eq_nil hrest)
  | case2 l =>
      have hlast : ∀ p : Pair, p.less = l → (spell [] ++ rest).startsWith (· == p.greater.toChar) = false := by
        intro p _
        rw [spell_nil_append]
        exact startsWith_toChar_eq_false hrest p.greater
      have hnone : symbolValue.many.run (spell [] ++ rest) = [([], rest)] := by
        rw [spell_nil_append]
        exact run_many_of_eq_nil (run_symbolValue_eq_nil hrest)
      rw [spell_cons_append]
      exact run_many_of_run (run_symbolValue_letter hlast) (by simp) hnone
  | case3 l m w p hpair ih =>
      have hword : spell (l :: m :: w) ++ rest = spell p.letters ++ (spell w ++ rest) := by
        rw [Pair.letters_of_ofLetters? hpair, ← spell_append_append]
        rfl
      rw [hword]
      refine run_many_of_run (run_symbolValue_pair p _) ?_ ih
      rw [Pair.letters, spell_cons_append, Text.size_cons]
      exact Nat.lt_succ_of_le (Text.size_le_append _ _)
  | case4 l m w hnone ih =>
      have hnext : ∀ p : Pair, p.less = l →
          (spell (m :: w) ++ rest).startsWith (· == p.greater.toChar) = false := by
        rintro p rfl
        rw [spell_cons_append]
        apply startsWith_cons_toChar
        rintro rfl
        exact Pair.ofLetters?_eq_none_iff.mp hnone p rfl
      rw [spell_cons_append]
      exact run_many_of_run (run_symbolValue_letter hnext) (by simp) ih

/-- A word is worth the sum of its symbols, and is refused only if this sum exceeds the limit. -/
theorem run_uncheckedNumeral_word (w : List Letter) :
    uncheckedNumeral.run (spell w ++ rest) =
      ((checkedSum maxUnsigned (symbolsOf w)).map fun v => (v, rest)).toList := by
  rw [uncheckedNumeral, run_bind_of_run (run_many_symbolValue_word hrest w), run_ofOption]

end Reading

end ParserKit.Roman
