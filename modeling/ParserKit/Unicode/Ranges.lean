/-! Sets of characters given as closed ranges of code points. The ranges of a table ascend and do not
touch, so a search may stop at the first range that begins above the code point sought. -/

namespace ParserKit.Unicode

/-- Closed ranges of code points, each given by its ends. -/
abbrev Ranges := List (Nat × Nat)

namespace Ranges

/-- Every range is non-empty and ends below the beginning of the next one. -/
def ascending : Ranges → Bool
  | [] => true
  | [(lo, hi)] => lo ≤ hi
  | (lo, hi) :: (lo', hi') :: rest => lo ≤ hi && hi < lo' && ascending ((lo', hi') :: rest)

/-- Whether an ascending table has a range with `n` in it. -/
def covers : Ranges → Nat → Bool
  | [], _ => false
  | (lo, hi) :: rest, n => lo ≤ n && (n ≤ hi || covers rest n)

/-- Whether an ascending table has a range with the code point of `c` in it. -/
def contains (rs : Ranges) (c : Char) : Bool := rs.covers c.toNat

theorem ascending_tail {r : Nat × Nat} {rs : Ranges} (h : ascending (r :: rs) = true) :
    ascending rs = true := by
  cases rs with
  | nil => rfl
  | cons r' rs => simp only [ascending, Bool.and_eq_true] at h; exact h.2

theorem lt_of_mem_tail {lo hi : Nat} {rs : Ranges} (h : ascending ((lo, hi) :: rs) = true)
    {r : Nat × Nat} (hr : r ∈ rs) : lo ≤ hi ∧ hi < r.1 := by
  induction rs generalizing lo hi with
  | nil => cases hr
  | cons r' rs ih =>
    have h' := h
    simp only [ascending, Bool.and_eq_true, decide_eq_true_eq] at h
    cases hr with
    | head => exact h.1
    | tail _ hr =>
      have := ih (ascending_tail h') hr
      omega

/-- The early stop loses nothing. -/
theorem covers_iff {rs : Ranges} (h : rs.ascending = true) {n : Nat} :
    rs.covers n = true ↔ ∃ r ∈ rs, r.1 ≤ n ∧ n ≤ r.2 := by
  induction rs with
  | nil => simp [covers]
  | cons r rs ih =>
    simp only [covers, Bool.and_eq_true, Bool.or_eq_true, decide_eq_true_eq, ih (ascending_tail h),
      List.mem_cons, exists_eq_or_imp]
    constructor
    · rintro ⟨hlo, hhi | hrest⟩
      · exact .inl ⟨hlo, hhi⟩
      · exact .inr hrest
    · rintro (⟨hlo, hhi⟩ | ⟨r', hr', hlo, hhi⟩)
      · exact ⟨hlo, .inl hhi⟩
      · have := lt_of_mem_tail h hr'
        exact ⟨by omega, .inr ⟨r', hr', hlo, hhi⟩⟩

end Ranges

end ParserKit.Unicode
