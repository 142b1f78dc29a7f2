import ParserKit.Proofs.Arithmetic.Chains
import ParserKit.Proofs.Parser.Lockstep

/-! Tails that can be exchanged. Two texts begin with the same characters and end in two tails. If arithmetic reads
the same factor at the beginning of both tails and sees the same signs there, its parsers keep step on the two texts:
whatever is tried in front of the tails, in parentheses or behind signs that are given up later, comes to the same
end on both. What they leave is the same text, or the same characters in front of the two tails. -/

namespace ParserKit

namespace Text

/-- Characters of one kind that begin in `cs` do not go on in `s`, if `cs` ends or `s` begins with another kind. -/
theorem span_append {accepts : Char → Bool} {cs : List Char} (hcs : cs ≠ []) {s : Text}
    (h : cs.getLast?.any accepts = false ∨ s.startsWith accepts = false) :
    (cs ++ s).takeWhile accepts = cs.takeWhile accepts ∧
      (cs ++ s).dropWhile accepts = cs.dropWhile accepts ++ s := by
  induction cs with
  | nil => exact absurd rfl hcs
  | cons c cs ih =>
      rw [cons_prepend, takeWhile_cons, dropWhile_cons, List.takeWhile_cons, List.dropWhile_cons]
      cases hc : accepts c with
      | false => simp
      | true =>
          cases cs with
          | nil =>
              have hs : s.startsWith accepts = false := by simpa [hc] using h
              simp [takeWhile_eq_nil hs, dropWhile_eq_self hs]
          | cons d ds =>
              rw [List.getLast?_cons_cons] at h
              obtain ⟨htake, hdrop⟩ := ih (List.cons_ne_nil d ds) h
              exact ⟨congrArg (c :: ·) htake, hdrop⟩

end Text

namespace Arithmetic

open ParserKit.Parser

/-- The signs that may stand behind an operand. -/
def closingSigns : List Char := ['+', '*', ')']

/-- A text that begins neither with white space nor with a sign that belongs behind an operand. -/
def Opens (s : Text) : Prop :=
  s.startsWith (fun c => Unicode.isWhiteSpace c || closingSigns.contains c) = false

theorem Opens.trimStart {s : Text} (h : Opens s) : s.trimStart = s :=
  Text.trimStart_eq_self (Text.startsWith_eq_false_of_imp h (by simp +contextual))

theorem Opens.startsWith_sign {s : Text} (h : Opens s) {c : Char} (hc : c ∈ closingSigns) :
    s.startsWith (· == c) = false := by
  apply Text.startsWith_eq_false_of_imp h
  intro d hd
  rw [eq_of_beq hd, Bool.or_eq_true, List.contains_iff_mem]
  exact .inr hc

/-- Two tails that arithmetic cannot tell apart behind `front`. -/
structure Interchangeable (front : List Char) (tail tail' : Text) : Prop where
  run_factor : factor.run tail = factor.run tail'
  sign : tail.trimStart = tail'.trimStart ∨ Opens tail ∧ Opens tail'
  digits : front.getLast?.any Char.isDigit = false ∨
    tail.startsWith Char.isDigit = false ∧ tail'.startsWith Char.isDigit = false

/-- Two remainders: the same text, no longer than the second tail, or the same end of `front` with a tail behind. -/
inductive Parallel (front : List Char) (tail tail' : Text) : Text → Text → Prop
  | same {s : Text} : s.size ≤ tail'.size → Parallel front tail tail' s s
  | front {y : List Char} : y <:+ front → Parallel front tail tail' (y ++ tail) (y ++ tail')

variable {front : List Char} {tail tail' s t : Text}

theorem Parallel.tails : Parallel front tail tail' tail tail' := by
  have h : Parallel front tail tail' (([] : List Char) ++ tail) (([] : List Char) ++ tail') := .front List.nil_suffix
  rwa [Text.nil_prepend, Text.nil_prepend] at h

/-- A parser that skips white space keeps step where nothing else is in front of the same text. -/
theorem lockstep_of_trimStart_eq {α : Type} {p : Parser α} (hone : p.AtMostOne) (hsuffix : p.LeavesSuffix)
    (htrim : ∀ s : Text, p.run s.trimStart = p.run s) (heq : s.trimStart = t.trimStart)
    (hsize : t.trimStart.size ≤ tail'.size) : Lockstep (Parallel front tail tail') (p.run s) (p.run t) := by
  have hrun : p.run s = p.run t := by rw [← htrim s, heq, htrim]
  refine hone.lockstep hrun ?_
  intro a rest hread
  rw [hrun, ← htrim] at hread
  exact .same (Nat.le_trans (hsuffix.size_le (first_eq_of_run hread)) hsize)

namespace Interchangeable

variable (h : Interchangeable front tail tail')

include h

/-- Without white space in front, two remainders are the same, or the two tails, or they begin with the same
character, which stands in front of the tails. -/
theorem trimStart_cases (hst : Parallel front tail tail' s t) :
    (s.trimStart = t.trimStart ∧ t.trimStart.size ≤ tail'.size) ∨
    (s.trimStart = tail ∧ t.trimStart = tail' ∧ Opens tail ∧ Opens tail') ∨
    ∃ d y, d :: y <:+ front ∧ Unicode.isWhiteSpace d = false ∧
      s.trimStart = .cons d (y ++ tail) ∧ t.trimStart = .cons d (y ++ tail') := by
  cases hst with
  | same hsize => exact .inl ⟨rfl, Nat.le_trans s.size_trimStart_le hsize⟩
  | @front y hy =>
      induction y with
      | nil =>
          rw [Text.nil_prepend, Text.nil_prepend]
          rcases h.sign with heq | ⟨hopens, hopens'⟩
          · exact .inl ⟨heq, tail'.size_trimStart_le⟩
          · exact .inr (.inl ⟨hopens.trimStart, hopens'.trimStart, hopens, hopens'⟩)
      | cons d y ih =>
          rw [Text.cons_prepend, Text.cons_prepend]
          cases hd : Unicode.isWhiteSpace d with
          | true =>
              have hskip : ∀ u : Text, (Text.cons d u).trimStart = u.trimStart := by
                intro u
                rw [Text.trimStart, Text.dropWhile_cons, if_pos hd]
                rfl
              rw [hskip, hskip]
              exact ih ((List.suffix_cons d y).trans hy)
          | false =>
              exact .inr (.inr ⟨d, y, hy, hd, Text.trimStart_cons hd _, Text.trimStart_cons hd _⟩)

theorem trimStart (hst : Parallel front tail tail' s t) : Parallel front tail tail' s.trimStart t.trimStart := by
  rcases h.trimStart_cases hst with ⟨heq, hsize⟩ | ⟨hs, ht, -, -⟩ | ⟨d, y, hy, -, hs, ht⟩
  · rw [heq]
    exact .same hsize
  · rw [hs, ht]
    exact .tails
  · rw [hs, ht, ← Text.cons_prepend, ← Text.cons_prepend]
    exact .front hy

section Front

variable {d : Char} {y : List Char} (hy : d :: y <:+ front) (hs : s.trimStart = .cons d (y ++ tail))
  (ht : t.trimStart = .cons d (y ++ tail'))

include hy hs ht

theorem lockstep_symbol_of_front (c : Char) :
    Lockstep (Parallel front tail tail') ((symbol (.ofList [c])).run s) ((symbol (.ofList [c])).run t) := by
  by_cases hd : d = c
  · subst hd
    rw [run_symbol_of_cons hs, run_symbol_of_cons ht]
    exact lockstep_singleton _ (h.trimStart (.front ((List.suffix_cons d y).trans hy)))
  · have hother : ∀ u : Text, (Text.cons d u).startsWith (· == c) = false := fun u => beq_eq_false_iff_ne.mpr hd
    rw [run_symbol_eq_nil (by rw [hs]; exact hother _), run_symbol_eq_nil (by rw [ht]; exact hother _)]
    exact lockstep_nil

/-- The digits of a number that begins in front of the tails end there. -/
theorem lockstep_natural_of_front :
    Lockstep (Parallel front tail tail') (natural.run s) (natural.run t) := by
  obtain ⟨x, hx⟩ := hy
  have hlast : (d :: y).getLast? = front.getLast? := by
    rw [← hx, List.getLast?_append_of_ne_nil _ (List.cons_ne_nil d y)]
  have hspan : ∀ u : Text, (front.getLast?.any Char.isDigit = false ∨ u.startsWith Char.isDigit = false) →
      (Text.cons d (y ++ u)).takeWhile Char.isDigit = (d :: y).takeWhile Char.isDigit ∧
        (Text.cons d (y ++ u)).dropWhile Char.isDigit = (d :: y).dropWhile Char.isDigit ++ u := by
    intro u hu
    exact Text.span_append (List.cons_ne_nil d y) (hlast ▸ hu)
  obtain ⟨htake, hdrop⟩ := hspan tail (h.digits.imp_right And.left)
  obtain ⟨htake', hdrop'⟩ := hspan tail' (h.digits.imp_right And.right)
  rw [natural, run_token, run_token, hs, ht, first, first]
  cases hd : d.isDigit with
  | false =>
      rw [run_nat_eq_nil (s := .cons d (y ++ tail)) hd, run_nat_eq_nil (s := .cons d (y ++ tail')) hd]
      exact lockstep_nil
  | true =>
      rw [run_nat (s := .cons d (y ++ tail)) hd, run_nat (s := .cons d (y ++ tail')) hd, htake, hdrop, htake', hdrop']
      cases checked maxSigned (decimalValue ((d :: y).takeWhile Char.isDigit)) with
      | none => exact lockstep_nil
      | some n =>
          have hsuffix : (d :: y).dropWhile Char.isDigit <:+ front :=
            (List.dropWhile_suffix Char.isDigit).trans ⟨x, hx⟩
          exact lockstep_singleton n (h.trimStart (.front hsuffix))

end Front

theorem lockstep_symbol (hst : Parallel front tail tail' s t) {c : Char} (hc : c ∈ closingSigns) :
    Lockstep (Parallel front tail tail') ((symbol (.ofList [c])).run s) ((symbol (.ofList [c])).run t) := by
  rcases h.trimStart_cases hst with ⟨heq, hsize⟩ | ⟨hs, ht, hopens, hopens'⟩ | ⟨d, y, hy, -, hs, ht⟩
  · exact lockstep_of_trimStart_eq (atMostOne_keepLeft _ space) (leavesSuffix_symbol _) (run_token_trimStart _) heq
      hsize
  · rw [run_symbol_eq_nil (by rw [hs]; exact hopens.startsWith_sign hc),
      run_symbol_eq_nil (by rw [ht]; exact hopens'.startsWith_sign hc)]
    exact lockstep_nil
  · exact h.lockstep_symbol_of_front hy hs ht c

/-- Factors keep step if the sums within their parentheses do. -/
theorem lockstep_factor (hst : Parallel front tail tail' s t)
    (hexpr : ∀ s' t' : Text, s'.size < s.size → Parallel front tail tail' s' t' →
      Lockstep (Parallel front tail tail') (expr.run s') (expr.run t')) :
    Lockstep (Parallel front tail tail') (factor.run s) (factor.run t) := by
  rcases h.trimStart_cases hst with ⟨heq, hsize⟩ | ⟨hs, ht, -, -⟩ | ⟨d, y, hy, -, hs, ht⟩
  · exact lockstep_of_trimStart_eq isOperand_factor.atMostOne leavesSuffix_factor run_factor_trimStart heq hsize
  · refine isOperand_factor.atMostOne.lockstep ?_ ?_
    · rw [← run_factor_trimStart s, hs, h.run_factor, ← ht, run_factor_trimStart]
    · intro v rest hrun
      rw [← run_factor_trimStart, hs, h.run_factor] at hrun
      exact .same (leavesSuffix_factor.size_le (first_eq_of_run hrun))
  · rw [factor_eq]
    refine .orElse (.bind (h.lockstep_symbol_of_front hy hs ht '(') ?_) (h.lockstep_natural_of_front hy hs ht)
    intro l after after' hopen hafter
    have hlt := size_of_first_symbol (first_eq_of_run hopen)
    refine .bind (hexpr after after' hlt hafter) ?_
    intro v rest rest' _ hrest
    exact (h.lockstep_symbol hrest (by decide)).map _

/-- Chains keep step if their operands do. -/
theorem lockstep_chain {operand : Parser Nat} (hoperand : IsOperand operand) {c : Char} (hc : c ∈ closingSigns)
    {combine : Nat → Nat → Nat} {n : Nat}
    (hstep : ∀ s t : Text, s.size ≤ n → Parallel front tail tail' s t →
      Lockstep (Parallel front tail tail') (operand.run s) (operand.run t))
    (s t : Text) (hn : s.size ≤ n) (hst : Parallel front tail tail' s t) :
    Lockstep (Parallel front tail tail') ((chain operand (.ofList [c]) combine).run s)
      ((chain operand (.ofList [c]) combine).run t) := by
  induction hm : s.size using Nat.strongRecOn generalizing s t with
  | ind m ih =>
      rw [chain_eq hoperand.leavesSuffix]
      refine .bind (hstep s t hn hst) ?_
      intro a rest rest' hrun hrest
      have hle := hoperand.leavesSuffix.size_le (first_eq_of_run hrun)
      refine .orElse (.bind (h.lockstep_symbol hrest hc) ?_) (lockstep_singleton a hrest)
      intro l after after' hsign hafter
      have hlt := size_of_first_symbol (first_eq_of_run hsign)
      refine .bind (ih after.size (by omega) after after' (by omega) hafter rfl) ?_
      intro b rest rest' _ hrest
      exact lockstep_ofOption _ hrest

/-- The parsers of arithmetic keep step on texts that differ by interchangeable tails. -/
theorem lockstep_expr (hst : Parallel front tail tail' s t) :
    Lockstep (Parallel front tail tail') (expr.run s) (expr.run t) := by
  induction hn : s.size using Nat.strongRecOn generalizing s t with
  | ind n ih =>
      have hfactor : ∀ s t : Text, s.size ≤ n → Parallel front tail tail' s t →
          Lockstep (Parallel front tail tail') (factor.run s) (factor.run t) := by
        intro s t hs hst
        apply h.lockstep_factor hst
        intro s' t' hlt hst'
        exact ih s'.size (by omega) hst' rfl
      have hterm : ∀ s t : Text, s.size ≤ n → Parallel front tail tail' s t →
          Lockstep (Parallel front tail tail') (term.run s) (term.run t) := by
        rw [term_eq]
        exact h.lockstep_chain isOperand_factor (by decide) hfactor
      rw [expr_eq]
      exact h.lockstep_chain isOperand_term (by decide) hterm s t (by omega) hst

theorem lockstep_all {p : Parser Nat} (hp : p ∈ [expr, term, factor]) (hst : Parallel front tail tail' s t) :
    Lockstep (Parallel front tail tail') (p.run s) (p.run t) := by
  have hfactor : ∀ s t : Text, Parallel front tail tail' s t →
      Lockstep (Parallel front tail tail') (factor.run s) (factor.run t) :=
    fun s t hst => h.lockstep_factor hst fun _ _ _ => h.lockstep_expr
  simp only [List.mem_cons, List.not_mem_nil, or_false] at hp
  rcases hp with rfl | rfl | rfl
  · exact h.lockstep_expr hst
  · rw [term_eq]
    exact h.lockstep_chain isOperand_factor (by decide) (fun s t _ => hfactor s t) s t (Nat.le_refl _) hst
  · exact hfactor s t hst

end Interchangeable

end Arithmetic

end ParserKit
