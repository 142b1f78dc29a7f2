import ParserKit.Proofs.Arithmetic.Equations
import ParserKit.Proofs.Parser.Remainders

/-! How a chain of operands goes on. Behind an operand there are two ways: the sign stands there, the chain
behind it is read and the result is within the limit, or the operand is the last one and what it left is left
by the whole chain. A property that both ways hand on holds of every reading of a chain. Products and sums are
chains, of operands that have one reading at most and see no white space in front of their text. -/

namespace ParserKit.Arithmetic

open ParserKit.Parser

/-- An operator in front of `s` is given up if its left side is worth `a`: `p`, which reads the right side, fails
on `s`, or finds a value with which the result exceeds the limit. -/
def Refuses (p : Parser Nat) (combine : Nat → Nat → Nat) (a : Nat) (s : Text) : Prop :=
  p.run s = [] ∨ ∃ b rest, p.run s = [(b, rest)] ∧ maxSigned < combine a b

/-- What is given up for one left side is given up for every one with greater results. -/
theorem Refuses.mono {p : Parser Nat} {combine : Nat → Nat → Nat} {a a' : Nat} {s : Text}
    (h : Refuses p combine a s) (hle : ∀ b, combine a b ≤ combine a' b) : Refuses p combine a' s := by
  rcases h with hnil | ⟨b, rest, hrun, hlt⟩
  · exact .inl hnil
  · exact .inr ⟨b, rest, hrun, Nat.lt_of_lt_of_le hlt (hle b)⟩

/-- What a chain needs of its operand. -/
structure IsOperand (operand : Parser Nat) : Prop where
  leavesSuffix : operand.LeavesSuffix
  atMostOne : operand.AtMostOne
  run_trimStart : ∀ s : Text, operand.run s.trimStart = operand.run s

section Chain

variable {c : Char} {combine : Nat → Nat → Nat} {operand : Parser Nat} {s rest : Text} {a : Nat}

theorem atMostOne_continuation (self : Parser Nat) (sign : Text) :
    (continuation self sign combine a).AtMostOne :=
  AtMostOne.bind (fun _ => AtMostOne.bind (fun _ => atMostOne_ofOption _) self) (symbol sign)

variable (hoperand : IsOperand operand)

include hoperand

theorem IsOperand.atMostOne_chain : (chain operand (.ofList [c]) combine).AtMostOne := by
  rw [chain_eq hoperand.leavesSuffix]
  exact AtMostOne.bind (fun a => (atMostOne_continuation _ _).orElse (atMostOne_succeed a)) operand

theorem IsOperand.run_chain_of_eq_nil (hrun : operand.run s = []) :
    (chain operand (.ofList [c]) combine).run s = [] := by
  rw [chain_eq hoperand.leavesSuffix]
  exact run_bind_of_eq_nil hrun _

theorem IsOperand.run_chain_trimStart (s : Text) :
    (chain operand (.ofList [c]) combine).run s.trimStart = (chain operand (.ofList [c]) combine).run s := by
  rw [chain_eq hoperand.leavesSuffix]
  exact run_bind_congr (hoperand.run_trimStart s) fun _ _ _ => rfl

theorem IsOperand.run_chain_of_sign (hrun : operand.run s = [(a, rest)]) {after rest' : Text} {b : Nat}
    (hsign : rest.trimStart = .cons c after)
    (hchain : (chain operand (.ofList [c]) combine).run after = [(b, rest')]) (hle : combine a b ≤ maxSigned) :
    (chain operand (.ofList [c]) combine).run s = [(combine a b, rest')] := by
  have hcont : (continuation (chain operand (.ofList [c]) combine) (.ofList [c]) combine a).run rest =
      [(combine a b, rest')] := by
    rw [← hoperand.run_chain_trimStart] at hchain
    rw [continuation, run_bind_of_run (run_symbol_of_cons hsign), run_bind_of_run hchain, run_ofOption,
      checked_eq_some_iff.mpr ⟨hle, rfl⟩]
    rfl
  rw [chain_eq hoperand.leavesSuffix, run_bind_of_run hrun]
  exact run_orElse_of_run hcont _

theorem IsOperand.run_chain_of_cons {after rest' : Text} {b : Nat} (hrun : operand.run s = [(a, .cons c after)])
    (hspace : Unicode.isWhiteSpace c = false)
    (hchain : (chain operand (.ofList [c]) combine).run after = [(b, rest')]) (hle : combine a b ≤ maxSigned) :
    (chain operand (.ofList [c]) combine).run s = [(combine a b, rest')] :=
  hoperand.run_chain_of_sign hrun (Text.trimStart_cons hspace after) hchain hle

/-- A chain stops behind an operand if there is no sign, or what stands behind the sign is refused. -/
theorem IsOperand.run_chain_of_refuses (hrun : operand.run s = [(a, rest)])
    (hrefuses : ∀ after, rest.trimStart = .cons c after →
      Refuses (chain operand (.ofList [c]) combine) combine a after) :
    (chain operand (.ofList [c]) combine).run s = [(a, rest)] := by
  rw [chain_eq hoperand.leavesSuffix, run_bind_of_run hrun, run_orElse_of_eq_nil]
  · rfl
  rcases run_continuation_cases (chain operand (.ofList [c]) combine) (.ofList [c]) combine a rest with
    hgiven | ⟨l, after, b, rest', hsign, hb, hle, -⟩
  · exact hgiven
  · exfalso
    obtain ⟨t, ht, rfl⟩ := of_first_symbol hsign
    rw [first, hoperand.run_chain_trimStart] at hb
    rcases hrefuses t ht with hnil | ⟨b', rest'', hrun', hlt⟩
    · rw [hnil] at hb
      cases hb
    · rw [hrun'] at hb
      cases hb
      omega

theorem IsOperand.run_chain_of_not_sign (hrun : operand.run s = [(a, rest)])
    (hsign : rest.trimStart.startsWith (· == c) = false) :
    (chain operand (.ofList [c]) combine).run s = [(a, rest)] := by
  apply hoperand.run_chain_of_refuses hrun
  intro after hafter
  rw [hafter, Text.startsWith_cons, beq_self_eq_true] at hsign
  cases hsign

/-- All that a chain can do behind its first operand. -/
theorem IsOperand.run_chain_cases (hrun : operand.run s = [(a, rest)]) :
    ((chain operand (.ofList [c]) combine).run s = [(a, rest)] ∧
      ∀ after, rest.trimStart = .cons c after →
        Refuses (chain operand (.ofList [c]) combine) combine a after) ∨
    ∃ after b rest', rest.trimStart = .cons c after ∧
      (chain operand (.ofList [c]) combine).run after = [(b, rest')] ∧ combine a b ≤ maxSigned ∧
      (chain operand (.ofList [c]) combine).run s = [(combine a b, rest')] := by
  by_cases hrefuses : ∀ after, rest.trimStart = .cons c after →
      Refuses (chain operand (.ofList [c]) combine) combine a after
  · exact .inl ⟨hoperand.run_chain_of_refuses hrun hrefuses, hrefuses⟩
  · push Not at hrefuses
    obtain ⟨after, hsign, haccepts⟩ := hrefuses
    rcases hoperand.atMostOne_chain.eq_nil_or after with hnil | ⟨b, rest', hchain⟩
    · exact absurd (.inl hnil) haccepts
    · have hle : combine a b ≤ maxSigned := by
        by_contra hlt
        exact haccepts (.inr ⟨b, rest', hchain, by omega⟩)
      exact .inr ⟨after, b, rest', hsign, hchain, hle, hoperand.run_chain_of_sign hrun hsign hchain hle⟩

/-- A chain reads on where its first operand has stopped. -/
theorem IsOperand.exists_run_chain (hsuffix : (chain operand (.ofList [c]) combine).LeavesSuffix)
    (hrun : operand.run s = [(a, rest)]) : ∃ v taken rest',
      (chain operand (.ofList [c]) combine).run s = [(v, rest')] ∧ rest = (taken : List Char) ++ rest' := by
  rcases hoperand.run_chain_cases hrun with ⟨hstop, -⟩ | ⟨after, b, rest', hsign, hchain, -, hgo⟩
  · exact ⟨a, [], rest, hstop, (Text.nil_prepend rest).symm⟩
  · obtain ⟨w, -, hrest⟩ := rest.exists_blank_append_trimStart
    obtain ⟨taken, hafter⟩ := hsuffix.exists_of_first (first_eq_of_run hchain)
    refine ⟨combine a b, w ++ c :: taken, rest', hgo, ?_⟩
    calc rest = w ++ Text.cons c after := by rw [← hsign, ← hrest]
      _ = w ++ Text.cons c (taken ++ rest') := by rw [hafter]
      _ = (w ++ c :: taken) ++ rest' := by rw [Text.append_prepend, Text.cons_prepend]

/-- Induction on a reading of a chain, from its last operand to its first one. -/
theorem IsOperand.chain_induction {motive : Text → Nat → Text → Prop}
    (last : ∀ s a rest, operand.run s = [(a, rest)] →
      (∀ after, rest.trimStart = .cons c after →
        Refuses (chain operand (.ofList [c]) combine) combine a after) → motive s a rest)
    (sign : ∀ s a middle after b rest, operand.run s = [(a, middle)] → middle.trimStart = .cons c after →
      (chain operand (.ofList [c]) combine).run after = [(b, rest)] → combine a b ≤ maxSigned →
      motive after b rest → motive s (combine a b) rest)
    {v : Nat} (h : (chain operand (.ofList [c]) combine).run s = [(v, rest)]) : motive s v rest := by
  induction hn : s.size using Nat.strongRecOn generalizing s v with
  | ind n ih =>
      rcases hoperand.atMostOne.eq_nil_or s with hnil | ⟨a, middle, hrun⟩
      · rw [hoperand.run_chain_of_eq_nil hnil] at h
        cases h
      · rcases hoperand.run_chain_cases hrun with ⟨hstop, hrefuses⟩ | ⟨after, b, rest', hsign, hchain, hle, hgo⟩
        · obtain ⟨rfl, rfl⟩ := run_singleton_inj hstop h
          exact last s a middle hrun hrefuses
        · obtain ⟨rfl, rfl⟩ := run_singleton_inj hgo h
          have hmiddle := hoperand.leavesSuffix.size_le (first_eq_of_run hrun)
          have hafter := middle.size_trimStart_le
          rw [hsign, Text.size_cons] at hafter
          exact sign s a middle after b rest' hrun hsign hchain hle (ih after.size (by omega) hchain rfl)

end Chain

theorem isOperand_factor : IsOperand factor where
  leavesSuffix := leavesSuffix_factor
  atMostOne := by
    rw [factor_eq]
    refine AtMostOne.orElse ?_ (atMostOne_keepLeft _ space)
    exact AtMostOne.bind (fun _ => atMostOne_keepLeft expr _) (symbol "(")
  run_trimStart := run_factor_trimStart

theorem isOperand_term : IsOperand term where
  leavesSuffix := leavesSuffix_term
  atMostOne := isOperand_factor.atMostOne_chain
  run_trimStart := isOperand_factor.run_chain_trimStart

theorem atMostOne_expr : expr.AtMostOne := by
  rw [expr_eq]
  exact isOperand_term.atMostOne_chain

theorem run_expr_trimStart (s : Text) : expr.run s.trimStart = expr.run s := by
  rw [expr_eq]
  exact isOperand_term.run_chain_trimStart s

end ParserKit.Arithmetic
