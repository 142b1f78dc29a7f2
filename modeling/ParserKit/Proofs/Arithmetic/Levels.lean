import ParserKit.Proofs.Arithmetic.Equations

/-! The levels of the recursion. A rule of arithmetic is run again behind a parenthesis or behind its sign, always on
a shorter text; the rule at its head is run on the same text and belongs to the same level. Here the rules are run
level by level, with a budget of levels, and a run that finds the budget used up has no outcome at all. The outcome
with one level more than the text has characters is that of the parser. -/

namespace ParserKit

namespace Parser

/-- A parser whose runs may be cut off: it has readings on a text, or no outcome. -/
abbrev Attempt (α : Type) := Text → Option (List (α × Text))

namespace Attempt

variable {α β : Type}

/-- A parser that is never cut off. -/
def ofParser (p : Parser α) : Attempt α := fun s => some (p.run s)

/-- Goes on with `f` from the canonical reading of `p`. If one of them is cut off, so is the whole. -/
def bind (p : Attempt α) (f : α → Attempt β) : Attempt β := fun s =>
  match p s with
  | none => none
  | some [] => some []
  | some ((v, rest) :: _) => f v rest

/-- The readings of `p` if there are any, else those of `q`. If a part that is run is cut off, so is the whole. -/
def orElse (p q : Attempt α) : Attempt α := fun s =>
  match p s with
  | none => none
  | some [] => q s
  | some (reading :: others) => some (reading :: others)

variable {p q : Attempt α} {P Q : Parser α} {s rest : Text} {v : α}

theorem bind_eq_none (h : p s = none) (f : α → Attempt β) : p.bind f s = none := by
  simp only [bind, h]

theorem bind_of_first (hp : p s = some (P.run s)) (h : P.first s = some (v, rest)) (f : α → Attempt β) :
    p.bind f s = f v rest := by
  obtain ⟨others, hrun⟩ := List.head?_eq_some_iff.mp h
  simp only [bind, hp, hrun]

theorem orElse_eq_none (h : p s = none) (q : Attempt α) : p.orElse q s = none := by
  simp only [orElse, h]

/-- A sequence has the outcome of the parser if its parts have, where they are run. -/
theorem bind_eq_run {f : α → Attempt β} {F : α → Parser β} (hp : p s = some (P.run s))
    (hf : ∀ v rest, P.first s = some (v, rest) → f v rest = some ((F v).run rest)) :
    p.bind f s = some ((P.bind F).run s) := by
  cases h : P.first s with
  | none =>
      rw [run_bind_of_none h]
      rw [first_eq_none_iff.mp h] at hp
      simp only [bind, hp]
  | some reading =>
      obtain ⟨v, rest⟩ := reading
      rw [run_bind_of_first h, bind_of_first hp h]
      exact hf v rest h

theorem orElse_eq_run (hp : p s = some (P.run s)) (hq : q s = some (Q.run s)) :
    p.orElse q s = some ((P.orElse Q).run s) := by
  rw [run_orElse]
  cases h : P.run s with
  | nil =>
      rw [h] at hp
      simp only [orElse, hp]
      exact hq
  | cons reading others =>
      rw [h] at hp
      simp only [orElse, hp]
      rfl

end Attempt

end Parser

namespace Arithmetic

open ParserKit.Parser

/-- The rules of arithmetic. -/
inductive Rule
  | sum | product | factor
deriving DecidableEq

def Rule.parser : Rule → Parser Nat
  | sum => expr
  | product => term
  | factor => Arithmetic.factor

/-- What may follow an operand of value `a` in a chain, with `self` behind the sign. -/
def attemptContinuation (self : Attempt Nat) (sign : Text) (combine : Nat → Nat → Nat) (a : Nat) : Attempt Nat :=
  (Attempt.ofParser (symbol sign)).bind fun _ => self.bind fun b =>
    .ofParser (ofOption (checked maxSigned (combine a b)))

/-- A chain of operands, with `self` behind the sign. -/
def attemptChain (operand self : Attempt Nat) (sign : Text) (combine : Nat → Nat → Nat) : Attempt Nat :=
  operand.bind fun a => (attemptContinuation self sign combine a).orElse (.ofParser (succeed a))

/-- A parenthesised sum, with `sum` behind the parenthesis, or a number. -/
def attemptFactor (sum : Attempt Nat) : Attempt Nat :=
  ((Attempt.ofParser (symbol "(")).bind fun _ => sum.bind fun v => .ofParser ((symbol ")").map fun _ => v)).orElse
    (.ofParser natural)

/-- A product of factors, with `sum` behind the parenthesis and `self` behind the sign. -/
def attemptProduct (sum self : Attempt Nat) : Attempt Nat := attemptChain (attemptFactor sum) self "*" (· * ·)

/-- One level: a run of a rule, where the runs behind parentheses and signs are those of `reenter`. -/
def level (reenter : Rule → Attempt Nat) : Rule → Attempt Nat
  | .factor => attemptFactor (reenter .sum)
  | .product => attemptProduct (reenter .sum) (reenter .product)
  | .sum => attemptChain (attemptProduct (reenter .sum) (reenter .product)) (reenter .sum) "+" (· + ·)

/-- Runs of the rules with at most `budget` levels. Where one more would be needed, they are cut off. -/
def runWithin : Nat → Rule → Attempt Nat
  | 0, _ => fun _ => none
  | budget + 1, r => level (runWithin budget) r

/-- `Reenters r s r' t` when the run of `r` on `s` has another run, of `r'` on `t`, behind a parenthesis or a sign. The
rule at the head of `r` is run on `s` too, and what it runs in this way counts for `r`. -/
inductive Reenters : Rule → Text → Rule → Text → Prop
  | paren {s l t : Text} : (symbol "(").first s = some (l, t) → Reenters .factor s .sum t
  | factor {s t : Text} {r : Rule} : Reenters .factor s r t → Reenters .product s r t
  | times {s rest l t : Text} {a : Nat} : factor.first s = some (a, rest) → (symbol "*").first rest = some (l, t) →
      Reenters .product s .product t
  | product {s t : Text} {r : Rule} : Reenters .product s r t → Reenters .sum s r t
  | plus {s rest l t : Text} {a : Nat} : term.first s = some (a, rest) → (symbol "+").first rest = some (l, t) →
      Reenters .sum s .sum t

/-- Behind a parenthesis or a sign there is less to read. -/
theorem Reenters.size_lt {r r' : Rule} {s t : Text} (h : Reenters r s r' t) : t.size < s.size := by
  induction h with
  | paren hopen => exact size_of_first_symbol hopen
  | factor _ ih => exact ih
  | times hfactor hsign =>
      have hle := leavesSuffix_factor.size_le hfactor
      have hlt := size_of_first_symbol hsign
      omega
  | product _ ih => exact ih
  | plus hterm hsign =>
      have hle := leavesSuffix_term.size_le hterm
      have hlt := size_of_first_symbol hsign
      omega

/-! ### What a level needs -/

section Chain

variable {c : Char} {combine : Nat → Nat → Nat} {P : Parser Nat} {operand self : Attempt Nat} {s : Text}

theorem attemptChain_eq_run (hP : P.LeavesSuffix) (hoperand : operand s = some (P.run s))
    (hself : ∀ a rest l t, P.first s = some (a, rest) → (symbol (.ofList [c])).first rest = some (l, t) →
      self t = some ((chain P (.ofList [c]) combine).run t)) :
    attemptChain operand self (.ofList [c]) combine s = some ((chain P (.ofList [c]) combine).run s) := by
  rw [chain_eq hP]
  apply Attempt.bind_eq_run hoperand
  intro a rest hfirst
  refine Attempt.orElse_eq_run ?_ rfl
  apply Attempt.bind_eq_run rfl
  intro l t hsign
  exact Attempt.bind_eq_run (hself a rest l t hfirst hsign) fun _ _ _ => rfl

theorem attemptChain_eq_none (hoperand : operand s = some (P.run s)) {a : Nat} {rest l t : Text}
    (hfirst : P.first s = some (a, rest)) (hsign : (symbol (.ofList [c])).first rest = some (l, t))
    (hself : self t = none) : attemptChain operand self (.ofList [c]) combine s = none := by
  rw [attemptChain, Attempt.bind_of_first hoperand hfirst]
  apply Attempt.orElse_eq_none
  rw [attemptContinuation, Attempt.bind_of_first rfl hsign]
  exact Attempt.bind_eq_none hself _

end Chain

section Level

variable {reenter : Rule → Attempt Nat} {r r' : Rule} {s t : Text}

theorem level_factor_eq_run
    (h : ∀ r' t, Reenters .factor s r' t → reenter r' t = some (r'.parser.run t)) :
    level reenter .factor s = some (factor.run s) := by
  rw [factor_eq]
  refine Attempt.orElse_eq_run ?_ rfl
  apply Attempt.bind_eq_run rfl
  intro l t hopen
  exact Attempt.bind_eq_run (h .sum t (.paren hopen)) fun _ _ _ => rfl

theorem level_product_eq_run
    (h : ∀ r' t, Reenters .product s r' t → reenter r' t = some (r'.parser.run t)) :
    level reenter .product s = some (term.run s) := by
  rw [term_eq]
  apply attemptChain_eq_run leavesSuffix_factor
  · exact level_factor_eq_run fun r' t hr => h r' t (.factor hr)
  · intro a rest l t hfirst hsign
    exact h .product t (.times hfirst hsign)

theorem level_sum_eq_run (h : ∀ r' t, Reenters .sum s r' t → reenter r' t = some (r'.parser.run t)) :
    level reenter .sum s = some (expr.run s) := by
  rw [expr_eq]
  apply attemptChain_eq_run leavesSuffix_term
  · exact level_product_eq_run fun r' t hr => h r' t (.product hr)
  · intro a rest l t hfirst hsign
    show reenter .sum t = some ((chain term "+" (· + ·)).run t)
    rw [← expr_eq]
    exact h .sum t (.plus hfirst hsign)

/-- A level has the outcome of the parser if the runs behind its parentheses and signs have that of theirs. -/
theorem level_eq_run (h : ∀ r' t, Reenters r s r' t → reenter r' t = some (r'.parser.run t)) :
    level reenter r s = some (r.parser.run s) := by
  cases r with
  | factor => exact level_factor_eq_run h
  | product => exact level_product_eq_run h
  | sum => exact level_sum_eq_run h

/-- The outcomes of all runs but that of `r` on `s`, which is cut off. -/
def allBut (r : Rule) (s : Text) : Rule → Attempt Nat :=
  fun r' t => if r' = r ∧ t = s then none else some (r'.parser.run t)

theorem allBut_self (r : Rule) (s : Text) : allBut r s r s = none := if_pos ⟨rfl, rfl⟩

theorem level_allBut_eq_run (h : ¬Reenters r s r' t) : level (allBut r' t) r s = some (r.parser.run s) := by
  apply level_eq_run
  intro q u hq
  rw [allBut, if_neg]
  rintro ⟨rfl, rfl⟩
  exact h hq

theorem level_factor_allBut (h : Reenters .factor s r' t) : level (allBut r' t) .factor s = none := by
  cases h with
  | paren hopen =>
      apply Attempt.orElse_eq_none
      rw [Attempt.bind_of_first rfl hopen]
      exact Attempt.bind_eq_none (allBut_self _ _) _

theorem level_product_allBut (h : Reenters .product s r' t) : level (allBut r' t) .product s = none := by
  -- a factor that has the run already is cut off itself, before a sign is looked for
  by_cases hhead : Reenters .factor s r' t
  · exact Attempt.bind_eq_none (level_factor_allBut hhead) _
  · cases h with
    | factor h => exact absurd h hhead
    | times hfactor hsign =>
        exact attemptChain_eq_none (level_allBut_eq_run hhead) hfactor hsign (allBut_self _ _)

theorem level_sum_allBut (h : Reenters .sum s r' t) : level (allBut r' t) .sum s = none := by
  by_cases hhead : Reenters .product s r' t
  · exact Attempt.bind_eq_none (level_product_allBut hhead) _
  · cases h with
    | product h => exact absurd h hhead
    | plus hterm hsign =>
        exact attemptChain_eq_none (level_allBut_eq_run hhead) hterm hsign (allBut_self _ _)

/-- The runs that a level cannot do without are those behind its parentheses and signs. -/
theorem reenters_iff_level_allBut : Reenters r s r' t ↔ level (allBut r' t) r s = none := by
  constructor
  · intro h
    cases r with
    | factor => exact level_factor_allBut h
    | product => exact level_product_allBut h
    | sum => exact level_sum_allBut h
  · intro hnone
    by_contra h
    rw [level_allBut_eq_run h] at hnone
    cases hnone

end Level

/-- Each level is on a shorter text than the one around it. -/
theorem runWithin_eq_run {budget : Nat} (r : Rule) {s : Text} (h : s.size < budget) :
    runWithin budget r s = some (r.parser.run s) := by
  induction budget generalizing r s with
  | zero => omega
  | succ budget ih =>
      apply level_eq_run
      intro r' t hr
      have hlt := hr.size_lt
      exact ih r' (by omega)

/-- The recursion of arithmetic ends on every text: the runs that a rule has behind its parentheses and signs, which are
those that its level cannot do without, are on shorter texts, and so a budget of one level more than there are
characters suffices. With this budget and every greater one the outcome is that of the parser. -/
theorem recursion_within_size (r : Rule) (s : Text) :
    (∀ r' t, Reenters r s r' t ↔ level (allBut r' t) r s = none) ∧
      (∀ r' t, Reenters r s r' t → t.size < s.size) ∧
      ∀ more, runWithin (s.size + 1 + more) r s = some (r.parser.run s) := by
  refine ⟨fun r' t => reenters_iff_level_allBut, fun r' t h => h.size_lt, ?_⟩
  intro more
  apply runWithin_eq_run
  omega

/-- A level for the factor, and one for each parenthesis. -/
example : runWithin 2 .factor "((7))" = none ∧ runWithin 3 .factor "((7))" = some [(7, ∅)] := by
  decide +kernel

end Arithmetic

end ParserKit
