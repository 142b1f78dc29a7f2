import ParserKit.Proofs.Arithmetic.Completeness

/-! The beginnings that arithmetic can read. A factor is a number within the limit or a sum in parentheses that is a
sentence as a whole: where a part of it exceeds the limit, the reading of the sum stops in front of the closing
parenthesis and there is no factor. Products and sums read on behind a factor and never need more than it, so the
three parsers succeed on the same texts, and each consumes at least what the one before it does. -/

namespace ParserKit.Arithmetic

open ParserKit.Parser

/-- A text that begins, behind white space, with a number within the limit, where all the digits that stand together
belong to the number, or with a sum in parentheses all of whose values are within the limit. -/
inductive BeginsWithFactor (s : Text) : Prop
  | number : s.trimStart.takeWhile Char.isDigit ≠ [] →
      decimalValue (s.trimStart.takeWhile Char.isDigit) ≤ maxSigned → BeginsWithFactor s
  | paren (e : Sum) (inside : List Char) (after : Text) :
      s.trimStart = .cons '(' (inside ++ Text.cons ')' after) → Written e.tokens inside → e.Within maxSigned →
      BeginsWithFactor s

theorem BeginsWithFactor.run_ne_nil {s : Text} (h : BeginsWithFactor s) : factor.run s ≠ [] := by
  cases h with
  | number hne hle =>
      have hdigit := Text.takeWhile_ne_nil_iff.mp hne
      rw [run_factor_of_digit hdigit, run_natural hdigit, checked_eq_some_iff.mpr ⟨hle, rfl⟩]
      exact List.cons_ne_nil _ _
  | paren e inside after hopen hinside he =>
      rw [run_factor_of_written he hinside hopen]
      exact List.cons_ne_nil _ _

/-- What is read as a factor is written at the beginning, but the text has to be asked where a number ends. -/
theorem beginsWithFactor_of_run_ne_nil {s : Text} (h : factor.run s ≠ []) : BeginsWithFactor s := by
  by_cases hdigit : s.trimStart.startsWith Char.isDigit = true
  · refine .number (Text.takeWhile_ne_nil_iff.mpr hdigit) ?_
    by_contra hlt
    apply h
    rw [run_factor_of_digit hdigit, run_natural hdigit, checked_eq_none_iff.mpr (by omega)]
    rfl
  · rcases readsFrom_factor s with hnil | ⟨_, _, consumed, rest, -, rfl, hw, f, rfl, rfl, hf⟩
    · exact absurd hnil h
    · cases f with
      | number n =>
          obtain ⟨v, w, hv, -, rfl⟩ := hw.exists_of_singleton
          exfalso
          apply hdigit
          rw [Text.append_prepend, Text.append_prepend, Token.chars, n.trimStart_append hv]
          exact n.startsWith_isDigit _
      | paren e =>
          obtain ⟨v, inside, w, hv, hinside, -, rfl⟩ := hw.exists_of_paren
          have hsplit : v ++ '(' :: (inside ++ ')' :: w) ++ rest =
              v ++ Text.cons '(' (inside ++ Text.cons ')' (w ++ rest)) := by
            simp
          refine .paren e inside (w ++ rest) ?_ hinside hf
          rw [hsplit]
          exact trimStart_sign hv (by decide) _

/-- On every text the three parsers fail together, or they have a reading each and the text begins with a factor. What
the factor consumes, `first`, is then the beginning of what the product consumes, `first` and `second`, and this the
beginning of what the sum consumes. -/
theorem run_eq_nil_or_beginsWithFactor (s : Text) :
    (¬BeginsWithFactor s ∧ factor.run s = [] ∧ term.run s = [] ∧ expr.run s = []) ∨
      (BeginsWithFactor s ∧ ∃ (a b c : Nat) (first second third : List Char) (rest : Text),
        s = first ++ (second ++ (third ++ rest)) ∧
        factor.run s = [(a, second ++ (third ++ rest))] ∧
        term.run s = [(b, third ++ rest)] ∧
        expr.run s = [(c, rest)]) := by
  rcases isOperand_factor.atMostOne.eq_nil_or s with hnil | ⟨a, rest, hfactor⟩
  · have hterm : term.run s = [] := isOperand_factor.run_chain_of_eq_nil hnil
    have hexpr : expr.run s = [] := by
      rw [expr_eq]
      exact isOperand_term.run_chain_of_eq_nil hterm
    exact .inl ⟨fun h => h.run_ne_nil hnil, hnil, hterm, hexpr⟩
  · have hbegins : BeginsWithFactor s := by
      apply beginsWithFactor_of_run_ne_nil
      rw [hfactor]
      exact List.cons_ne_nil _ _
    obtain ⟨first, hfirst⟩ := leavesSuffix_factor.exists_of_first (first_eq_of_run hfactor)
    obtain ⟨b, second, rest, hterm, rfl⟩ := isOperand_factor.exists_run_chain leavesSuffix_term hfactor
    have hexpr : ∃ c third rest', expr.run s = [(c, rest')] ∧ rest = (third : List Char) ++ rest' := by
      rw [expr_eq]
      exact isOperand_term.exists_run_chain (expr_eq ▸ leavesSuffix_expr) hterm
    obtain ⟨c, third, rest, hexpr, rfl⟩ := hexpr
    exact .inr ⟨hbegins, a, b, c, first, second, third, rest, hfirst, hfactor, hterm, hexpr⟩

/-- The sum in the inner parentheses exceeds the limit, so there is no factor. -/
example : factor.run (Text.ofString "((9223372036854775807+1)*0)") = [] := by decide +kernel

end ParserKit.Arithmetic
