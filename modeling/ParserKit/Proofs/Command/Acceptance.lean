import ParserKit.Command.Basic
import ParserKit.Proofs.Arithmetic.Completeness
import ParserKit.Proofs.Roman.Symbols

/-! What commands accept. A command that allows no remainder answers exactly if all of its input belongs to its
language, and then with the value there; every other input is an error, which carries the input where nothing could
be read and the reading where something was left over. -/

namespace ParserKit

open ParserKit.Parser

namespace Roman

/-- A text of letters only is its own longest word. -/
theorem dropWhile_isLetter_eq_empty {s : Text} {w : List Letter} (h : w.map Letter.toChar = s.chars) :
    s.dropWhile isLetter = ∅ := by
  apply Text.dropWhile_eq_empty
  intro c hc
  rw [← h] at hc
  obtain ⟨l, -, rfl⟩ := List.mem_map.mp hc
  exact isLetter_toChar l

theorem first_numeral_eq_whole_iff {s : Text} {v : Nat} :
    numeral.first s = some (v, ∅) ↔ IsNumeral s.chars v := by
  obtain ⟨o, hrun, hiff⟩ := exists_run_numeral_eq s
  have hfirst : numeral.first s = o.map fun v => (v, s.dropWhile isLetter) := by
    rw [first, hrun]
    cases o <;> rfl
  rw [hfirst]
  constructor
  · intro h
    obtain ⟨u, rfl, heq⟩ := Option.map_eq_some_iff.mp h
    obtain ⟨rfl, hdrop⟩ := Prod.mk.inj heq
    rw [← Text.takeWhile_eq_chars hdrop]
    exact (hiff u).mpr rfl
  · rintro ⟨n, hne, hn, hvalue⟩
    have hdrop := dropWhile_isLetter_eq_empty hn
    have ho : o = some v := by
      rw [← hiff, Text.takeWhile_eq_chars hdrop]
      exact ⟨n, hne, hn, hvalue⟩
    rw [ho, hdrop]
    rfl

theorem first_uncheckedNumeral_eq_whole_iff {s : Text} {v : Nat} :
    uncheckedNumeral.first s = some (v, ∅) ↔
      ∃ w : List Letter, w.map Letter.toChar = s.chars ∧ (symbolsOf w).sum = v ∧ v ≤ maxUnsigned := by
  obtain ⟨w, hw, hs⟩ := exists_spell_append s
  have hfirst : uncheckedNumeral.first s =
      (checkedSum maxUnsigned (symbolsOf w)).map fun v => (v, s.dropWhile isLetter) := by
    conv_lhs => rw [hs]
    rw [first, run_uncheckedNumeral_word (Text.startsWith_dropWhile _ _)]
    cases checkedSum maxUnsigned (symbolsOf w) <;> rfl
  rw [hfirst]
  constructor
  · intro h
    obtain ⟨u, hsum, heq⟩ := Option.map_eq_some_iff.mp h
    obtain ⟨rfl, hdrop⟩ := Prod.mk.inj heq
    exact ⟨w, hw.trans (Text.takeWhile_eq_chars hdrop), checkedSum_eq_some_iff.mp hsum⟩
  · rintro ⟨w', hw', hsum⟩
    have hdrop := dropWhile_isLetter_eq_empty hw'
    obtain rfl : w' = w := map_toChar_injective (by rw [hw', hw, Text.takeWhile_eq_chars hdrop])
    rw [checkedSum_eq_some_iff.mpr hsum, hdrop]
    rfl

end Roman

namespace Command

/-- The inputs that a command reads as a whole, with the numbers they stand for: sentences of arithmetic with every
value within its limit, numerals in proper form, or words of Roman letters. -/
def Accepts : Command → Nat → Prop
  | eval expression _, v =>
    ∃ e : Arithmetic.Sum, Arithmetic.Written e.tokens expression.chars ∧ e.Within maxSigned ∧ e.value = v
  | roman numeral false _, v => Roman.IsNumeral numeral.chars v
  | roman numeral true _, v =>
    ∃ w : List Roman.Letter, w.map Roman.Letter.toChar = numeral.chars ∧ (Roman.symbolsOf w).sum = v ∧ v ≤ maxUnsigned

theorem first_parser_eq_whole_iff (c : Command) {v : Nat} :
    c.parser.first c.input = some (v, ∅) ↔ c.Accepts v := by
  cases c with
  | eval expression allowPartial => exact Arithmetic.first_expr_eq_whole_iff
  | roman numeral unchecked allowPartial =>
      cases unchecked with
      | false => exact Roman.first_numeral_eq_whole_iff
      | true => exact Roman.first_uncheckedNumeral_eq_whole_iff

/-- All that an answer can be: the input as an error, the whole reading, or the reading of a part, which only the
choice to allow it makes an answer. -/
theorem answer_cases (p : Parser Nat) (input : Text) :
    (p.first input = none ∧ ∀ allowPartial, answer p input allowPartial = .error (.noParse input)) ∨
      (∃ v, p.first input = some (v, ∅) ∧ ∀ allowPartial, answer p input allowPartial = .ok (.whole v)) ∨
      ∃ v rest, p.first input = some (v, rest) ∧ rest ≠ ∅ ∧
        answer p input true = .ok (.part v rest) ∧ answer p input false = .error (.unconsumed v rest) := by
  unfold answer
  cases hfirst : p.first input with
  | none => exact .inl ⟨rfl, fun _ => rfl⟩
  | some reading =>
      obtain ⟨v, rest⟩ := reading
      by_cases hrest : rest = ∅
      · subst hrest
        exact .inr (.inl ⟨v, rfl, fun _ => rfl⟩)
      · have hempty : ¬rest.isEmpty = true := by
          rw [Text.isEmpty_iff]
          exact hrest
        refine .inr (.inr ⟨v, rest, rfl, hrest, ?_, ?_⟩)
        · simp [hempty]
        · simp [hempty]

/-- A strict command gives nothing, the whole reading, or the reading of a part as an error. -/
theorem run_cases {c : Command} (hstrict : c.allowPartial = false) :
    (c.parser.first c.input = none ∧ c.run = .error (.noParse c.input)) ∨
      (∃ v, c.parser.first c.input = some (v, ∅) ∧ c.run = .ok (.whole v)) ∨
      ∃ v rest, c.parser.first c.input = some (v, rest) ∧ rest ≠ ∅ ∧ c.run = .error (.unconsumed v rest) := by
  rw [run, hstrict]
  rcases answer_cases c.parser c.input with ⟨hfirst, hrun⟩ | ⟨v, hfirst, hrun⟩ | ⟨v, rest, hfirst, hrest, -, hrun⟩
  · exact .inl ⟨hfirst, hrun false⟩
  · exact .inr (.inl ⟨v, hfirst, hrun false⟩)
  · exact .inr (.inr ⟨v, rest, hfirst, hrest, hrun⟩)

/-- A command that allows no remainder answers exactly if its language has all of the input, with the decimal text of
the value there. Every other input is an error: one that nothing can be read from comes back as it is, and else the
error has the value that was read and the rest. -/
theorem run_strict (c : Command) (hstrict : c.allowPartial = false) :
    (∀ t, c.run.map Answer.text = .ok t ↔ ∃ v, c.Accepts v ∧ toString v = t) ∧
      ∀ e, c.run = .error e ↔
        (c.parser.run c.input = [] ∧ e = .noParse c.input) ∨
          ∃ v rest, c.parser.first c.input = some (v, rest) ∧ rest ≠ ∅ ∧ e = .unconsumed v rest := by
  simp only [← first_parser_eq_whole_iff, ← first_eq_none_iff]
  rcases run_cases hstrict with ⟨hfirst, hrun⟩ | ⟨v, hfirst, hrun⟩ | ⟨v, rest, hfirst, hrest, hrun⟩
  · rw [hfirst, hrun]
    simp [Except.map, eq_comm]
  · rw [hfirst, hrun]
    simp [Except.map, Answer.text, Answer.render]
  · rw [hfirst, hrun]
    simp [Except.map, hrest, eq_comm]

/-- A numeral that is read as a whole, and an expression with a sign left over. -/
theorem run_strict_xiv :
    (Command.roman "XIV" false false).allowPartial = false ∧
      (Command.roman "XIV" false false).run.map Answer.text = .ok "14" ∧
      (Command.eval "2*3-4" false).allowPartial = false ∧
      (Command.eval "2*3-4" false).run = .error (.unconsumed 6 "-4") := by
  have hnumeral : (Command.roman "XIV" false false).Accepts 14 :=
    ⟨⟨0, ⟨false, false, false, 0⟩, ⟨false, false, false, 1⟩, ⟨false, false, true, 0⟩⟩, by decide, by decide,
      by decide, by decide⟩
  have hfirst : Arithmetic.expr.first "2*3-4" = some (6, ↑"-4") := by decide +kernel
  have hrest : (↑"-4" : Text) ≠ ∅ := by decide
  exact ⟨rfl, ((run_strict (.roman "XIV" false false) rfl).1 "14").mpr ⟨14, hnumeral, by decide⟩, rfl,
    ((run_strict (.eval "2*3-4" false) rfl).2 _).mpr (.inr ⟨6, "-4", hfirst, hrest, rfl⟩)⟩

end Command

end ParserKit
