import ParserKit.Proofs.Arithmetic.Soundness

/-! The rules of arithmetic as equations. The parsers are made by recursion on shorter texts; since every
occurrence of a rule within itself comes after a sign, the rules hold of the parsers as they stand. A factor is
then described by the first character behind the white space in front of it. -/

namespace ParserKit.Arithmetic

open ParserKit.Parser

section Chain

variable {c : Char} {combine : Nat → Nat → Nat} {operand : Parser Nat} {s : Text} {a : Nat}

/-- A continuation runs its own parser only behind the sign. -/
theorem run_continuation_congr {p q : Parser Nat} (h : ∀ t : Text, t.size < s.size → p.run t = q.run t) :
    (continuation p (.ofList [c]) combine a).run s = (continuation q (.ofList [c]) combine a).run s := by
  apply run_bind_congr rfl
  intro l after hsign
  exact run_bind_congr (h after (size_of_first_symbol hsign)) fun _ _ _ => rfl

theorem chain_eq (hoperand : operand.LeavesSuffix) :
    chain operand (.ofList [c]) combine = operand.bind fun a =>
      (continuation (chain operand (.ofList [c]) combine) (.ofList [c]) combine a).orElse (succeed a) := by
  rw [chain_eq_recur]
  -- the two parsers agree on shorter texts, and the rule asks them only behind the operand and the sign
  apply recur_eq
  intro p q s hpq
  apply run_bind_congr rfl
  intro a rest hfirst
  have hle := hoperand.size_le hfirst
  exact run_orElse_congr (run_continuation_congr fun t ht => hpq t (by omega)) rfl

/-- Chains of operands that read the same on texts up to a size read the same on those texts. -/
theorem run_chain_congr {operand' : Parser Nat} {sign : Text} {n : Nat}
    (h : ∀ t : Text, t.size ≤ n → operand.run t = operand'.run t) (hs : s.size ≤ n) :
    (chain operand sign combine).run s = (chain operand' sign combine).run s := by
  refine run_recur_congr ?_ s hs
  intro p t ht
  exact run_bind_congr (h t ht) fun _ _ _ => rfl

end Chain

theorem leavesSuffix_of_readsFrom {L : Language} {p : Parser Nat} (h : ∀ s, ReadsFrom L s (p.run s)) :
    p.LeavesSuffix := by
  intro s reading hmem
  rcases h s with hnil | ⟨_, v, consumed, rest, hrun, hs, -, -⟩
  · rw [hnil] at hmem
    cases hmem
  · rw [hrun, List.mem_singleton] at hmem
    exact ⟨consumed, by rw [hmem, hs]⟩

theorem leavesSuffix_expr : expr.LeavesSuffix := leavesSuffix_of_readsFrom readsFrom_expr

theorem leavesSuffix_term : term.LeavesSuffix := leavesSuffix_of_readsFrom readsFrom_term

theorem leavesSuffix_factor : factor.LeavesSuffix := leavesSuffix_of_readsFrom readsFrom_factor

theorem run_factorOf_congr {p q : Parser Nat} {s : Text}
    (h : ∀ t : Text, t.size < s.size → p.run t = q.run t) : (factorOf p).run s = (factorOf q).run s := by
  refine run_orElse_congr (run_bind_congr rfl ?_) rfl
  intro l after hopen
  exact run_bind_congr (h after (size_of_first_symbol hopen)) fun _ _ _ => rfl

theorem expr_eq : expr = chain term "+" (· + ·) := by
  rw [term]
  apply recur_eq
  intro p q s hpq
  refine run_chain_congr ?_ (Nat.le_refl s.size)
  intro t ht
  refine run_chain_congr ?_ ht
  intro u hu
  exact run_factorOf_congr fun v hv => hpq v (by omega)

theorem term_eq : term = chain factor "*" (· * ·) := rfl

theorem factor_eq : factor = ((symbol "(").bind fun _ => expr.keepLeft (symbol ")")).orElse natural := rfl

theorem run_symbol_of_digit {c : Char} (hc : c.isDigit = false) {s : Text}
    (h : s.trimStart.startsWith Char.isDigit = true) : (symbol (.ofList [c])).run s = [] := by
  apply run_symbol_eq_nil
  apply Text.startsWith_eq_false_of_disjoint h
  intro d hd
  rw [beq_eq_false_iff_ne]
  rintro rfl
  rw [hc] at hd
  cases hd

theorem run_factor_of_digit {s : Text} (h : s.trimStart.startsWith Char.isDigit = true) :
    factor.run s = natural.run s := by
  have hopen : (symbol "(").run s = [] := run_symbol_of_digit (c := '(') rfl h
  rw [factor_eq, run_orElse_of_eq_nil (run_bind_of_eq_nil hopen _)]

theorem run_factor_trimStart (s : Text) : factor.run s.trimStart = factor.run s := by
  rw [factor_eq]
  exact run_orElse_congr (run_bind_congr (run_token_trimStart _ s) fun _ _ _ => rfl) (run_token_trimStart nat s)

end ParserKit.Arithmetic
