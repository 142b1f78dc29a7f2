/-! Limits of numbers. A number that a parser reads or computes is a natural number below the limit of
its kind; one beyond the limit is no result, never a wrapped one. -/

namespace ParserKit

/-- The greatest number that arithmetic works with: that of signed words of 64 bits. -/
def maxSigned : Nat := 0x7FFFFFFFFFFFFFFF

/-- The greatest number that a numeral may stand for: that of unsigned words of 64 bits. -/
def maxUnsigned : Nat := 0xFFFFFFFFFFFFFFFF

/-- `n`, if it does not exceed `limit`. -/
def checked (limit n : Nat) : Option Nat := if n ≤ limit then some n else none

/-- The sum of `ns`, if neither it nor any sum on the way to it exceeds `limit`. -/
def checkedSum (limit : Nat) (ns : List Nat) : Option Nat :=
  ns.foldlM (fun total n => checked limit (total + n)) 0

theorem checked_eq_some_iff {limit n m : Nat} : checked limit n = some m ↔ n ≤ limit ∧ n = m := by
  simp [checked]

theorem checked_eq_none_iff {limit n : Nat} : checked limit n = none ↔ limit < n := by
  simp [checked]

/-- The numbers of a list, if all of them keep the limit. -/
theorem mapM_checked_eq_some_iff {limit : Nat} {ns ms : List Nat} :
    ns.mapM (checked limit) = some ms ↔ (∀ n ∈ ns, n ≤ limit) ∧ ns = ms := by
  induction ns generalizing ms with
  | nil => simp
  | cons n ns ih =>
    rw [List.mapM_cons]
    by_cases hn : n ≤ limit
    · have hchecked : checked limit n = some n := checked_eq_some_iff.2 ⟨hn, rfl⟩
      simp [hchecked, hn, Option.bind_eq_some_iff, ih, and_assoc]
    · simp [checked, hn]

theorem le_foldl_add (ns : List Nat) (total : Nat) : total ≤ ns.foldl (fun total n => total + n) total := by
  induction ns generalizing total with
  | nil => exact Nat.le_refl total
  | cons n ns ih => exact Nat.le_trans (Nat.le_add_right total n) (ih (total + n))

theorem foldlM_checked_add {limit total : Nat} (h : total ≤ limit) (ns : List Nat) :
    ns.foldlM (fun total n => checked limit (total + n)) total =
      checked limit (ns.foldl (fun total n => total + n) total) := by
  induction ns generalizing total with
  | nil => exact (checked_eq_some_iff.2 ⟨h, rfl⟩).symm
  | cons n ns ih =>
    rw [List.foldlM_cons, List.foldl_cons]
    by_cases hn : total + n ≤ limit
    · rw [checked_eq_some_iff.2 ⟨hn, rfl⟩]
      exact ih hn
    · have hle := le_foldl_add ns (total + n)
      rw [checked_eq_none_iff.2 (by omega), checked_eq_none_iff.2 (by omega)]
      rfl

/-- The sums on the way never exceed a limit that the whole sum keeps. -/
theorem checkedSum_eq (limit : Nat) (ns : List Nat) :
    checkedSum limit ns = checked limit (ns.foldl (fun total n => total + n) 0) :=
  foldlM_checked_add (Nat.zero_le limit) ns

end ParserKit
