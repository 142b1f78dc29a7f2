import Mathlib.Algebra.BigOperators.Group.List.Basic
import Mathlib.Algebra.BigOperators.Group.List.Lemmas
import Mathlib.Algebra.BigOperators.Ring.List
import Mathlib.Algebra.GroupWithZero.Nat
import ParserKit.Proofs.Arithmetic.Completeness

/-! Chains of numbers that grow beyond the limit. A chain is combined from the right, and an operator whose result
would exceed the limit is given up together with all that stands behind it; so the place at which a chain stops is
found from its end, not from a running total. A sum that fits is read as a whole, since no part of it is greater.
A product may fit because of a `0` in front of parts that do not. -/

namespace ParserKit.Arithmetic

open ParserKit.Parser

/-- What the numbers `n, ns` come to in a chain, and how many of `ns` take part. -/
def reach (combine : Nat → Nat → Nat) : Nat → List Nat → Nat × Nat
  | n, [] => (n, 0)
  | n, m :: ms =>
    let behind := reach combine m ms
    if combine n behind.1 ≤ maxSigned then (combine n behind.1, behind.2 + 1) else (n, 0)

section Reach

variable {combine : Nat → Nat → Nat} {n m : Nat} {ms : List Nat}

theorem reach_cons_of_le (h : combine n (reach combine m ms).1 ≤ maxSigned) :
    reach combine n (m :: ms) = (combine n (reach combine m ms).1, (reach combine m ms).2 + 1) := if_pos h

theorem reach_cons_of_lt (h : maxSigned < combine n (reach combine m ms).1) :
    reach combine n (m :: ms) = (n, 0) := if_neg (by omega)

theorem reach_snd_le (n : Nat) (ns : List Nat) : (reach combine n ns).2 ≤ ns.length := by
  induction ns generalizing n with
  | nil => exact Nat.le_refl 0
  | cons m ms ih =>
      by_cases hle : combine n (reach combine m ms).1 ≤ maxSigned
      · rw [reach_cons_of_le hle]
        exact Nat.succ_le_succ (ih m)
      · rw [reach_cons_of_lt (by omega)]
        exact Nat.zero_le _

variable {e : Nat} (hunit : ∀ n, combine n e = n)

include hunit

/-- A chain comes to what the numbers that take part come to. -/
theorem reach_fst (n : Nat) (ns : List Nat) :
    (reach combine n ns).1 = (n :: ns.take (reach combine n ns).2).foldr combine e := by
  induction ns generalizing n with
  | nil => exact (hunit n).symm
  | cons m ms ih =>
      by_cases hle : combine n (reach combine m ms).1 ≤ maxSigned
      · rw [reach_cons_of_le hle]
        exact congrArg (combine n) (ih m)
      · rw [reach_cons_of_lt (by omega)]
        exact (hunit n).symm

/-- All numbers take part if and only if no end of the chain exceeds the limit. -/
theorem reach_snd_eq_length_iff (n : Nat) (ns : List Nat) :
    (reach combine n ns).2 = ns.length ↔
      ∀ i < ns.length, ((n :: ns).drop i).foldr combine e ≤ maxSigned := by
  induction ns generalizing n with
  | nil => simp [reach]
  | cons m ms ih =>
      rw [List.length_cons, Nat.forall_lt_succ_left, List.drop_zero, List.foldr_cons]
      simp only [List.drop_succ_cons]
      rw [← ih m]
      have hwhole : (reach combine m ms).2 = ms.length →
          (reach combine m ms).1 = (m :: ms).foldr combine e := by
        intro hall
        rw [reach_fst hunit, hall, List.take_length]
      by_cases hle : combine n (reach combine m ms).1 ≤ maxSigned
      · rw [reach_cons_of_le hle]
        constructor
        · intro hall
          have hbehind : (reach combine m ms).2 = ms.length := Nat.succ.inj hall
          exact ⟨hwhole hbehind ▸ hle, hbehind⟩
        · rintro ⟨-, hbehind⟩
          exact congrArg Nat.succ hbehind
      · rw [reach_cons_of_lt (by omega)]
        constructor
        · intro hall
          cases hall
        · rintro ⟨hfits, hbehind⟩
          rw [← hwhole hbehind] at hfits
          exact absurd hfits hle

end Reach

/-- The ends of a sum are no greater than the sum. -/
theorem reach_add_of_sum_le {n : Nat} {ns : List Nat} (h : (n :: ns).sum ≤ maxSigned) :
    (reach (· + ·) n ns).2 = ns.length := by
  rw [reach_snd_eq_length_iff (e := 0) Nat.add_zero]
  intro i _
  rw [← List.sum_eq_foldr]
  have hsplit := List.sum_take_add_sum_drop (n :: ns) i
  omega

/-- The ends of a product are no greater than the product, if that is not `0`. -/
theorem reach_mul_of_prod_le {n : Nat} {ns : List Nat} (hzero : 0 ∉ n :: ns) (h : (n :: ns).prod ≤ maxSigned) :
    (reach (· * ·) n ns).2 = ns.length := by
  rw [reach_snd_eq_length_iff (e := 1) Nat.mul_one]
  intro i _
  rw [← List.prod_eq_foldr]
  have hpos : 0 < (n :: ns).prod := Nat.pos_of_ne_zero (List.prod_ne_zero hzero)
  have hle := Nat.le_of_dvd hpos (List.drop_sublist i (n :: ns)).prod_dvd_prod
  omega

/-! ### As it is written -/

/-- A number within the limit, written with white space around it. -/
structure SpacedNumber where
  before : List Char
  digits : Digits
  after : List Char
  blank_before : Blank before
  blank_after : Blank after
  value_le : decimalValue digits.chars ≤ maxSigned

namespace SpacedNumber

def value (x : SpacedNumber) : Nat := decimalValue x.digits.chars

def chars (x : SpacedNumber) : List Char := x.before ++ x.digits.chars ++ x.after

/-- The decimal digits of `n` without white space. -/
def ofNat (n : Nat) (h : n ≤ maxSigned) : SpacedNumber where
  before := []
  digits := .ofNat n
  after := []
  blank_before := by simp [Blank]
  blank_after := by simp [Blank]
  value_le := by rwa [Digits.ofNat, decimalValue_toDigits]

theorem written (x : SpacedNumber) : Written [.number x.digits] x.chars :=
  .singleton _ x.blank_before x.blank_after

end SpacedNumber

/-- Numbers with the sign `c` in front of each of them. -/
def chainTail (c : Char) : List SpacedNumber → Text
  | [] => ∅
  | x :: xs => .cons c (x.chars ++ chainTail c xs)

/-- A chain of numbers with the sign `c` between them. -/
def chainText (c : Char) (x : SpacedNumber) (xs : List SpacedNumber) : Text := x.chars ++ chainTail c xs

section Sign

variable {c : Char} (hspace : Unicode.isWhiteSpace c = false) (xs : List SpacedNumber)

include hspace

theorem trimStart_chainTail : (chainTail c xs).trimStart = chainTail c xs := by
  cases xs with
  | nil => rfl
  | cons x xs => exact Text.trimStart_cons hspace _

theorem ends_chainTail {signs : List Char} (hdigit : c.isDigit = false) (hc : c ∉ signs) :
    Ends signs (chainTail c xs) := by
  cases xs with
  | nil => exact ⟨rfl, fun _ _ => rfl⟩
  | cons x xs => exact ends_cons hspace hdigit hc _

end Sign

theorem run_factor_number (x : SpacedNumber) (xs : List SpacedNumber) :
    factor.run (chainText '*' x xs) = [(x.value, chainTail '*' xs)] := by
  have hends : Ends [] (chainTail '*' xs) := ends_chainTail (by decide) xs (by decide) (by decide)
  have hrun := Factor.run_factor (f := .number x.digits) x.value_le x.written hends
  rwa [trimStart_chainTail (by decide)] at hrun

theorem run_term_number (x : SpacedNumber) (xs : List SpacedNumber) :
    term.run (chainText '+' x xs) = [(x.value, chainTail '+' xs)] := by
  have hends : Ends ['*'] (chainTail '+' xs) := ends_chainTail (by decide) xs (by decide) (by decide)
  have hrun := Product.run_term (t := .single (.number x.digits)) x.value_le x.written hends
  rwa [trimStart_chainTail (by decide)] at hrun

/-- A chain is read as far as its numbers reach: step by step from its last number, each operator is kept or given
up by its own result. -/
theorem IsOperand.run_chain_numbers {operand : Parser Nat} (hoperand : IsOperand operand) {c : Char}
    (hspace : Unicode.isWhiteSpace c = false) {combine : Nat → Nat → Nat}
    (hnumber : ∀ x xs, operand.run (chainText c x xs) = [(x.value, chainTail c xs)])
    (x : SpacedNumber) (xs : List SpacedNumber) :
    (chain operand (.ofList [c]) combine).run (chainText c x xs) =
      [((reach combine x.value (xs.map SpacedNumber.value)).1,
        chainTail c (xs.drop (reach combine x.value (xs.map SpacedNumber.value)).2))] := by
  induction xs generalizing x with
  | nil => exact hoperand.run_chain_of_not_sign (hnumber x []) rfl
  | cons y ys ih =>
      rw [List.map_cons]
      by_cases hle : combine x.value (reach combine y.value (ys.map SpacedNumber.value)).1 ≤ maxSigned
      · rw [reach_cons_of_le hle, List.drop_succ_cons]
        exact hoperand.run_chain_of_cons (hnumber x (y :: ys)) hspace (ih y) hle
      · rw [reach_cons_of_lt (by omega), List.drop_zero]
        apply hoperand.run_chain_of_refuses (hnumber x (y :: ys))
        intro after hafter
        rw [trimStart_chainTail hspace] at hafter
        obtain rfl : chainText c y ys = after := (Text.cons_inj_iff.mp hafter).2
        exact .inr ⟨_, _, ih y, by omega⟩

/-- The two numbers at the end fit, so the first one meets their sum and is left alone. -/
example : expr.run (Text.ofString "1+9223372036854775806+1") = [(1, Text.ofString "+9223372036854775806+1")] := by
  decide +kernel

/-- How far a chain of numbers is read, what it comes to, and when nothing of it is left. -/
theorem run_number_chain (x : SpacedNumber) (xs : List SpacedNumber) :
    (∃ total taken, reach (· + ·) x.value (xs.map SpacedNumber.value) = (total, taken) ∧ taken ≤ xs.length ∧
      expr.run (chainText '+' x xs) = [(total, chainTail '+' (xs.drop taken))] ∧
      total = (((x :: xs).map SpacedNumber.value).take (taken + 1)).sum ∧
      (((x :: xs).map SpacedNumber.value).sum ≤ maxSigned → taken = xs.length)) ∧
    (∃ total taken, reach (· * ·) x.value (xs.map SpacedNumber.value) = (total, taken) ∧ taken ≤ xs.length ∧
      term.run (chainText '*' x xs) = [(total, chainTail '*' (xs.drop taken))] ∧
      total = (((x :: xs).map SpacedNumber.value).take (taken + 1)).prod ∧
      (taken = xs.length ↔
        ∀ i < xs.length, (((x :: xs).map SpacedNumber.value).drop i).prod ≤ maxSigned) ∧
      (0 ∉ (x :: xs).map SpacedNumber.value →
        ((x :: xs).map SpacedNumber.value).prod ≤ maxSigned → taken = xs.length)) := by
  have hlength : (xs.map SpacedNumber.value).length = xs.length := List.length_map _
  constructor
  · refine ⟨_, _, rfl, hlength ▸ reach_snd_le _ _, ?_, ?_, ?_⟩
    · rw [expr_eq]
      exact isOperand_term.run_chain_numbers (by decide) run_term_number x xs
    · rw [reach_fst (e := 0) Nat.add_zero, List.map_cons, List.take_succ_cons, List.sum_eq_foldr]
    · intro hsum
      rw [reach_add_of_sum_le hsum, hlength]
  · refine ⟨_, _, rfl, hlength ▸ reach_snd_le _ _, ?_, ?_, ?_, ?_⟩
    · rw [term_eq]
      exact isOperand_factor.run_chain_numbers (by decide) run_factor_number x xs
    · rw [reach_fst (e := 1) Nat.mul_one, List.map_cons, List.take_succ_cons, List.prod_eq_foldr]
    · rw [← hlength, reach_snd_eq_length_iff (e := 1) Nat.mul_one]
      simp only [List.map_cons, List.prod_eq_foldr]
    · intro hzero hprod
      rw [reach_mul_of_prod_le hzero hprod, hlength]

/-- At the limit: the sum of the three numbers is the greatest there is, and their product fits as well. -/
theorem run_number_chain_at_limit :
    [9223372036854775805, 1, 1].sum ≤ maxSigned ∧
    expr.run (chainText '+' (.ofNat 9223372036854775805 (by decide)) [.ofNat 1 (by decide), .ofNat 1 (by decide)]) =
      [(9223372036854775807, ∅)] ∧
    0 ∉ [9223372036854775805, 1, 1] ∧ [9223372036854775805, 1, 1].prod ≤ maxSigned ∧
    term.run (chainText '*' (.ofNat 9223372036854775805 (by decide)) [.ofNat 1 (by decide), .ofNat 1 (by decide)]) =
      [(9223372036854775805, ∅)] := by
  obtain ⟨⟨sum, taken, -, -, hsum, rfl, hallSum⟩, product, taken', -, -, hproduct, rfl, -, hallProduct⟩ :=
    run_number_chain (.ofNat 9223372036854775805 (by decide)) [.ofNat 1 (by decide), .ofNat 1 (by decide)]
  obtain rfl := hallSum (by decide +kernel)
  obtain rfl := hallProduct (by decide +kernel) (by decide +kernel)
  exact ⟨by decide, hsum, by decide, by decide, hproduct⟩

/-- A product that fits is not always read as a whole: a `0` in front does not help what stands behind it. -/
theorem run_term_zero_in_front :
    [0, 9223372036854775807, 2].prod ≤ maxSigned ∧
    term.run (Text.ofString "0*9223372036854775807*2") = [(0, Text.ofString "*2")] ∧
    ¬∀ (x : SpacedNumber) (xs : List SpacedNumber), ((x :: xs).map SpacedNumber.value).prod ≤ maxSigned →
      term.run (chainText '*' x xs) = [(((x :: xs).map SpacedNumber.value).prod, ∅)] := by
  have hrun : term.run (Text.ofString "0*9223372036854775807*2") = [(0, Text.ofString "*2")] := by decide +kernel
  refine ⟨by decide, hrun, ?_⟩
  intro hwhole
  have htext : chainText '*' (.ofNat 0 (by decide)) [.ofNat 9223372036854775807 (by decide), .ofNat 2 (by decide)] =
      Text.ofString "0*9223372036854775807*2" := by decide +kernel
  have hread := hwhole (.ofNat 0 (by decide)) [.ofNat 9223372036854775807 (by decide), .ofNat 2 (by decide)]
    (by decide +kernel)
  rw [htext, hrun] at hread
  obtain ⟨-, hrest⟩ := Prod.mk.inj (List.singleton_inj.mp hread)
  exact absurd hrest (by decide +kernel)

end ParserKit.Arithmetic
