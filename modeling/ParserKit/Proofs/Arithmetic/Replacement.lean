import ParserKit.Proofs.Arithmetic.Interchange
import ParserKit.Proofs.Arithmetic.Stopping

/-! What may be written in the place of something else. Anywhere in a text, well formed or not, a sum in parentheses
may be replaced by the digits of its value, and white space may be put between two characters that are not both
digits: the parsers find the same value or fail as before, and what they leave differs by the replacement at most. -/

namespace ParserKit.Arithmetic

open ParserKit.Parser

/-- A sum that is read as a whole is read within parentheses, whatever stands behind them. -/
theorem run_factor_of_run_expr {s : Text} {v : Nat} (h : expr.run s = [(v, ∅)]) (post : Text) :
    factor.run (.cons '(' (s ++ Text.cons ')' post)) = [(v, post.trimStart)] ∧ v ≤ maxSigned := by
  obtain ⟨e, hw, he, rfl⟩ := first_expr_eq_whole_iff.mp (first_eq_of_run h)
  exact ⟨run_factor_of_written he hw (Text.trimStart_cons (by decide) _), e.value_le he⟩

theorem run_factor_toDigits {v : Nat} (hv : v ≤ maxSigned) {post : Text}
    (hpost : post.startsWith Char.isDigit = false) :
    factor.run (Nat.toDigits 10 v ++ post) = [(v, post.trimStart)] := by
  have hvalue : (Factor.number (.ofNat v)).value = v := decimalValue_toDigits v
  have hwithin : (Factor.number (.ofNat v)).Within maxSigned := Nat.le_trans (Nat.le_of_eq hvalue) hv
  have hwritten : Written (Factor.number (.ofNat v)).tokens (Nat.toDigits 10 v) := by
    have h := Written.singleton (.number (.ofNat v)) .nil .nil
    rwa [List.append_nil, List.nil_append] at h
  have hends : Ends [] post := ⟨hpost, fun _ hc => absurd hc List.not_mem_nil⟩
  rw [Factor.run_factor hwithin hwritten hends, hvalue]

theorem opens_paren (s : Text) : Opens (.cons '(' s) := by
  rw [Opens, Text.startsWith_cons]
  decide

theorem opens_of_startsWith_isDigit {s : Text} (h : s.startsWith Char.isDigit = true) : Opens s := by
  apply Text.startsWith_eq_false_of_disjoint h
  intro c hdigit
  rw [Bool.or_eq_false_iff]
  constructor
  · cases hspace : Unicode.isWhiteSpace c with
    | false => rfl
    | true => rw [Text.isDigit_of_isWhiteSpace hspace] at hdigit; cases hdigit
  · cases hsign : closingSigns.contains c with
    | false => rfl
    | true =>
        have hc : c ∈ closingSigns := List.contains_iff_mem.mp hsign
        simp only [closingSigns, List.mem_cons, List.not_mem_nil, or_false] at hc
        rcases hc with rfl | rfl | rfl <;> exact absurd hdigit (by decide)

/-- A sum in parentheses may be replaced by its value in any surroundings, as long as the digits of the value do not
touch other digits. -/
theorem run_expr_value_for_parentheses {s : Text} {v : Nat} (h : expr.run s = [(v, ∅)]) {pre : List Char}
    (hpre : pre.getLast?.any Char.isDigit = false) {post : Text} (hpost : post.startsWith Char.isDigit = false) :
    Lockstep (Parallel pre (.cons '(' (s ++ Text.cons ')' post)) (Nat.toDigits 10 v ++ post))
      (expr.run (pre ++ Text.cons '(' (s ++ Text.cons ')' post))) (expr.run (pre ++ (Nat.toDigits 10 v ++ post))) := by
  obtain ⟨hparen, hv⟩ := run_factor_of_run_expr h post
  have hinterchangeable :
      Interchangeable pre (.cons '(' (s ++ Text.cons ')' post)) (Nat.toDigits 10 v ++ post) := {
    run_factor := by rw [hparen, run_factor_toDigits hv hpost]
    sign := .inr ⟨opens_paren _, opens_of_startsWith_isDigit ((Digits.ofNat v).startsWith_isDigit post)⟩
    digits := .inl hpre }
  exact hinterchangeable.lockstep_expr (.front (List.suffix_refl pre))

/-- In front of a product that goes beyond the limit and behind a parenthesis that is never closed. -/
theorem run_expr_value_for_parentheses_open :
    expr.run (Text.ofString " 2 *3") = [(6, ∅)] ∧ "1+(".toList.getLast?.any Char.isDigit = false ∧
    (Text.ofString "*9223372036854775807").startsWith Char.isDigit = false ∧
    Lockstep
      (Parallel "1+(".toList (Text.ofString "( 2 *3)*9223372036854775807")
        (Nat.toDigits 10 6 ++ Text.ofString "*9223372036854775807"))
      (expr.run (Text.ofString "1+(( 2 *3)*9223372036854775807"))
      (expr.run (Text.ofString "1+(6*9223372036854775807")) := by
  have hexpr : expr.run (Text.ofString " 2 *3") = [(6, ∅)] := by decide +kernel
  have hpre : "1+(".toList.getLast?.any Char.isDigit = false := by decide
  have hpost : (Text.ofString "*9223372036854775807").startsWith Char.isDigit = false := by decide
  have hparen : Text.cons '(' (Text.ofString " 2 *3" ++ Text.cons ')' (Text.ofString "*9223372036854775807")) =
      Text.ofString "( 2 *3)*9223372036854775807" := by decide
  have htext : "1+(".toList ++ Text.ofString "( 2 *3)*9223372036854775807" =
      Text.ofString "1+(( 2 *3)*9223372036854775807" := by decide
  have htext' : "1+(".toList ++ (Nat.toDigits 10 6 ++ Text.ofString "*9223372036854775807") =
      Text.ofString "1+(6*9223372036854775807" := by decide
  have hlockstep := run_expr_value_for_parentheses hexpr hpre hpost
  rw [hparen, htext, htext'] at hlockstep
  exact ⟨hexpr, hpre, hpost, hlockstep⟩

/-! ### White space between -/

theorem leavesTrimmed_of_mem {p : Parser Nat} (hp : p ∈ [expr, term, factor]) : p.LeavesTrimmed := by
  simp only [List.mem_cons, List.not_mem_nil, or_false] at hp
  rcases hp with rfl | rfl | rfl
  · exact leavesTrimmed_expr
  · exact leavesTrimmed_term
  · exact leavesTrimmed_factor

theorem startsWith_isDigit_blank_append {w : List Char} (hw : Blank w) (hne : w ≠ []) (s : Text) :
    (w ++ s).startsWith Char.isDigit = false := by
  obtain ⟨c, cs, rfl⟩ := List.exists_cons_of_ne_nil hne
  exact Text.isDigit_of_isWhiteSpace (hw c List.mem_cons_self)

/-- White space between `a` and `b` changes no reading, unless it divides a number. It is left where it was put if
something of `a` is left, and otherwise nothing is seen of it. -/
theorem run_blank_between {p : Parser Nat} (hp : p ∈ [expr, term, factor]) {a w : List Char} {b : Text}
    (hjoin : ¬(a.getLast?.any Char.isDigit = true ∧ b.startsWith Char.isDigit = true)) (hw : Blank w) (hne : w ≠ []) :
    Lockstep
      (fun rest rest' => rest = rest' ∧ rest'.size ≤ b.size ∨
        ∃ y, y ≠ [] ∧ y <:+ a ∧ rest = y ++ (w ++ b) ∧ rest' = y ++ b)
      (p.run (a ++ (w ++ b))) (p.run (a ++ b)) := by
  have htrim : (w ++ b).trimStart = b.trimStart := Text.trimStart_blank_append hw b
  have hinterchangeable : Interchangeable a (w ++ b) b := {
    run_factor := by rw [← run_factor_trimStart, htrim, run_factor_trimStart]
    sign := .inl htrim
    digits := by
      cases ha : a.getLast?.any Char.isDigit with
      | false => exact .inl rfl
      | true =>
          have hb : b.startsWith Char.isDigit = false := by simpa [ha] using hjoin
          exact .inr ⟨startsWith_isDigit_blank_append hw hne b, hb⟩ }
  apply (hinterchangeable.lockstep_all hp (.front (List.suffix_refl a))).mono
  intro v rest rest' hrun _ hrest
  cases hrest with
  | same hsize => exact .inl ⟨rfl, hsize⟩
  | @front y hy =>
      refine .inr ⟨y, ?_, hy, rfl, rfl⟩
      rintro rfl
      -- a remainder does not begin with the white space that was put in
      have hstart := (leavesTrimmed_of_mem hp).of_run hrun
      obtain ⟨c, cs, rfl⟩ := List.exists_cons_of_ne_nil hne
      have hspace : Unicode.isWhiteSpace c = false := hstart
      rw [hw c List.mem_cons_self] at hspace
      cases hspace

/-- A tab within what is left over, behind a number that reaches the limit. -/
theorem run_blank_between_tab :
    term ∈ [expr, term, factor] ∧
    ¬("9223372036854775807*2".toList.getLast?.any Char.isDigit = true ∧
      (Text.ofString "+1").startsWith Char.isDigit = true) ∧
    Blank ['\t'] ∧ ['\t'] ≠ [] ∧
    Lockstep
      (fun rest rest' => rest = rest' ∧ rest'.size ≤ (Text.ofString "+1").size ∨
        ∃ y, y ≠ [] ∧ y <:+ "9223372036854775807*2".toList ∧ rest = y ++ (['\t'] ++ Text.ofString "+1") ∧
          rest' = y ++ Text.ofString "+1")
      (term.run (Text.ofString "9223372036854775807*2\t+1")) (term.run (Text.ofString "9223372036854775807*2+1")) := by
  have hmem : term ∈ [expr, term, factor] := by simp
  have hjoin : ¬("9223372036854775807*2".toList.getLast?.any Char.isDigit = true ∧
      (Text.ofString "+1").startsWith Char.isDigit = true) := by decide
  have htab : Blank ['\t'] := by
    simp only [Blank, List.mem_singleton, forall_eq]
    decide
  have htext : "9223372036854775807*2".toList ++ (['\t'] ++ Text.ofString "+1") =
      Text.ofString "9223372036854775807*2\t+1" := by decide
  have htext' : "9223372036854775807*2".toList ++ Text.ofString "+1" =
      Text.ofString "9223372036854775807*2+1" := by decide
  have hlockstep := run_blank_between hmem hjoin htab (List.cons_ne_nil _ _)
  rw [htext, htext'] at hlockstep
  exact ⟨hmem, hjoin, htab, List.cons_ne_nil _ _, hlockstep⟩

end ParserKit.Arithmetic
