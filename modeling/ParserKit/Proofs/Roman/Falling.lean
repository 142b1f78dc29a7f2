import Mathlib.Algebra.GroupWithZero.Nat
import Mathlib.Algebra.Order.BigOperators.Group.List
import Mathlib.Algebra.Order.Group.Nat
import Mathlib.Data.List.Sort
import ParserKit.Proofs.Roman.Groups

/-! Groups in proper form. What groups in proper form are worth falls, which compares each group with the whole of
the one in front of it. Here their units fall: the value of the pair, or that of one letter of the run. For groups
that are read from a word the two say the same, since a run within its limit never reaches the next greater
unit. A group that is worth more than the limit of numerals has no value; the sum of the groups exceeds the limit
then too, so that the numerals are the same as if every group had one. -/

namespace ParserKit.Roman

theorem Letter.value_injective {l m : Letter} (h : l.value = m.value) : l = m := by
  cases l <;> cases m <;> first | rfl | exact absurd h (by decide)

theorem Pair.value_injective {p q : Pair} (h : p.value = q.value) : p = q := by
  cases p <;> cases q <;> first | rfl | exact absurd h (by decide)

theorem Pair.value_ne_letter (p : Pair) (l : Letter) : p.value ≠ l.value := by
  cases p <;> cases l <;> decide

theorem Pair.less_value_lt_value (p : Pair) : p.less.value < p.value := by cases p <;> decide

/-- A letter at its limit does not reach the next greater letter. -/
theorem Letter.exists_maxRun_lt_letter {l m : Letter} (h : l.value < m.value) :
    ∃ limit, l.maxRun = some limit ∧ l.value * limit < m.value := by
  cases l <;> cases m <;> first | exact absurd h (by decide) | exact ⟨_, rfl, by decide⟩

theorem Letter.exists_maxRun_lt_pair {l : Letter} {p : Pair} (h : l.value < p.value) :
    ∃ limit, l.maxRun = some limit ∧ l.value * limit < p.value := by
  cases l <;> cases p <;> first | exact absurd h (by decide) | exact ⟨_, rfl, by decide⟩

namespace Group

/-- What a group is worth, whether this is within the limit of numerals or not. -/
def worth : Group → Nat
  | pair p => p.value
  | run l n => l.value * n

theorem value_eq_checked (g : Group) : g.value = checked maxUnsigned g.worth := by
  cases g with
  | pair p =>
      have hle : p.value ≤ maxUnsigned := by cases p <;> decide
      exact (checked_eq_some_iff.mpr ⟨hle, rfl⟩).symm
  | run l n =>
      rw [value, worth]
      by_cases hn : n ≤ maxUnsigned
      · rw [checked_eq_some_iff.mpr ⟨hn, rfl⟩, Option.bind_some]
      · -- a letter is worth something, so the product exceeds the limit together with the count
        have hpos : 0 < l.value := by cases l <;> decide
        have hle : n ≤ l.value * n := Nat.le_mul_of_pos_left n hpos
        rw [checked_eq_none_iff.mpr (by omega), checked_eq_none_iff.mpr (by omega), Option.bind_none]

/-- The value of the pair, or of one letter of the run. -/
def unit : Group → Nat
  | pair p => p.value
  | run l _ => l.value

theorem unit_le_worth {g : Group} (hg : g.Nonempty) : g.unit ≤ g.worth := by
  cases g with
  | pair p => exact Nat.le_refl _
  | run l n => exact Nat.le_mul_of_pos_right _ hg

theorem head_value_le_unit (g : Group) : g.head.value ≤ g.unit := by
  cases g with
  | pair p => exact Nat.le_of_lt p.less_value_lt_value
  | run l n => exact Nat.le_refl _

theorem le_of_withinLimit {l : Letter} {n limit : Nat} (h : (run l n).withinLimit = true)
    (hlimit : l.maxRun = some limit) : n ≤ limit := by
  simpa [withinLimit, hlimit] using h

theorem worth_lt_unit {g h : Group} (hg : g.withinLimit = true) (hlt : g.unit < h.unit) : g.worth < h.unit := by
  cases g with
  | pair p => exact hlt
  | run l n =>
      obtain ⟨limit, hlimit, hmul⟩ : ∃ limit, l.maxRun = some limit ∧ l.value * limit < h.unit := by
        cases h with
        | pair p => exact Letter.exists_maxRun_lt_pair hlt
        | run m k => exact Letter.exists_maxRun_lt_letter hlt
      exact (Nat.mul_le_mul_left l.value (le_of_withinLimit hg hlimit)).trans_lt hmul

/-- Groups of one unit are one pair twice, or runs of one letter. -/
theorem not_endsBefore_or_worth_eq {g h : Group} (heq : g.unit = h.unit) :
    ¬g.EndsBefore h ∨ g.worth = h.worth := by
  cases g with
  | pair p =>
      cases h with
      | pair q => exact .inr heq
      | run m k => exact absurd heq (p.value_ne_letter m)
  | run l n =>
      cases h with
      | pair q => exact absurd heq.symm (q.value_ne_letter l)
      | run m k => exact .inl fun hends => hends.1 (Letter.value_injective heq).symm

/-- The head of `h` is worth less than the letter of a run `g`, so that it neither prolongs the run nor makes a
pair with its last letter. -/
theorem endsBefore_of_unit_lt {g h : Group} (hlt : h.unit < g.unit) : g.EndsBefore h := by
  cases g with
  | pair p => trivial
  | run l n =>
      have hhead : h.head.value < l.value := h.head_value_le_unit.trans_lt hlt
      refine ⟨fun heq => Nat.lt_irrefl _ (heq ▸ hhead), ?_⟩
      intro _ p hp
      obtain ⟨rfl, hgreater⟩ : p.less = l ∧ p.greater = h.head := by simpa [Pair.letters] using hp
      have := p.value_add_less
      have := p.less_value_lt_value
      rw [← hgreater] at hhead
      omega

theorem worth_lt_worth_iff {g h : Group} (hg : g.Nonempty) (hh : h.Nonempty) (hglimit : g.withinLimit = true)
    (hhlimit : h.withinLimit = true) (hends : g.EndsBefore h) : h.worth < g.worth ↔ h.unit < g.unit := by
  constructor
  · intro hlt
    rcases Nat.lt_trichotomy h.unit g.unit with hunit | hunit | hunit
    · exact hunit
    · -- two runs of one letter would have been read as one
      rcases not_endsBefore_or_worth_eq hunit.symm with hnot | heq
      · exact absurd hends hnot
      · omega
    · have hvalue := worth_lt_unit hglimit hunit
      have := unit_le_worth hh
      omega
  · intro hunit
    exact (worth_lt_unit hhlimit hunit).trans_le (unit_le_worth hg)

end Group

/-- Whether groups make a numeral in proper form, by their units. -/
structure Proper (gs : List Group) : Prop where
  nonempty : ∀ g ∈ gs, g.Nonempty
  withinLimit : ∀ g ∈ gs, g.withinLimit = true
  falling : gs.Pairwise fun g h => h.unit < g.unit

theorem Proper.tail {g : Group} {gs : List Group} (h : Proper (g :: gs)) : Proper gs where
  nonempty k hk := h.nonempty k (List.mem_cons_of_mem g hk)
  withinLimit k hk := h.withinLimit k (List.mem_cons_of_mem g hk)
  falling := h.falling.of_cons

theorem Proper.canonical {gs : List Group} (h : Proper gs) : Canonical gs :=
  ⟨h.nonempty, h.falling.isChain.imp fun _ _ => Group.endsBefore_of_unit_lt⟩

theorem strictlyFalling_iff {ns : List Nat} : strictlyFalling ns = true ↔ ns.IsChain (· > ·) := by
  fun_induction strictlyFalling ns with
  | case1 a b rest ih =>
      rw [Bool.and_eq_true, decide_eq_true_iff, ih, List.isChain_cons_cons]
  | case2 ns hns =>
      match ns, hns with
      | [], _ => simp
      | [a], _ => simp
      | a :: b :: rest, hns => exact absurd rfl (hns a b rest)

theorem isChain_worth_iff {gs : List Group} (h : Canonical gs) (hlimit : ∀ g ∈ gs, g.withinLimit = true) :
    gs.IsChain (fun g h => h.worth < g.worth) ↔ gs.IsChain fun g h => h.unit < g.unit := by
  induction gs with
  | nil => exact ⟨fun _ => .nil, fun _ => .nil⟩
  | cons g gs ih =>
      cases gs with
      | nil => exact ⟨fun _ => .singleton g, fun _ => .singleton g⟩
      | cons k gs =>
          have hk : k ∈ g :: k :: gs := List.mem_cons_of_mem g List.mem_cons_self
          rw [List.isChain_cons_cons, List.isChain_cons_cons,
            Group.worth_lt_worth_iff (h.1 g List.mem_cons_self) (h.1 k hk) (hlimit g List.mem_cons_self)
              (hlimit k hk) (List.isChain_cons_cons.mp h.2).1,
            ih h.tail fun k hk => hlimit k (List.mem_cons_of_mem g hk)]

/-- Groups that are read from a word are in proper form exactly if they keep the limits of their letters and what they
are worth falls. -/
theorem proper_iff {gs : List Group} (h : Canonical gs) :
    Proper gs ↔ (∀ g ∈ gs, g.withinLimit = true) ∧ gs.IsChain fun g h => h.worth < g.worth := by
  constructor
  · intro hproper
    exact ⟨hproper.withinLimit, (isChain_worth_iff h hproper.withinLimit).mpr hproper.falling.isChain⟩
  · rintro ⟨hlimit, hworth⟩
    exact ⟨h.1, hlimit, ((isChain_worth_iff h hlimit).mp hworth).pairwise⟩

theorem checkedSum_eq_checked_sum (limit : Nat) (ns : List Nat) : checkedSum limit ns = checked limit ns.sum := by
  rw [checkedSum_eq, List.sum_eq_foldl_nat]

theorem checkedSum_eq_some_iff {limit v : Nat} {ns : List Nat} :
    checkedSum limit ns = some v ↔ ns.sum = v ∧ v ≤ limit := by
  rw [checkedSum_eq_checked_sum, checked_eq_some_iff]
  constructor
  · rintro ⟨hle, rfl⟩
    exact ⟨rfl, hle⟩
  · rintro ⟨rfl, hle⟩
    exact ⟨hle, rfl⟩

/-- All groups have values exactly if all of them are within the limit of numerals. -/
theorem mapM_value_eq_some_iff {gs : List Group} {values : List Nat} :
    gs.mapM Group.value = some values ↔ (∀ g ∈ gs, g.worth ≤ maxUnsigned) ∧ gs.map Group.worth = values := by
  have hvalue : Group.value = checked maxUnsigned ∘ Group.worth := funext Group.value_eq_checked
  rw [hvalue, ← List.mapM_map, mapM_checked_eq_some_iff, List.forall_mem_map]

/-- The checks of single groups change nothing: where one of them fails, the check of the sum fails too. -/
theorem valueOf?_eq (gs : List Group) : valueOf? gs =
    if gs.all Group.withinLimit = true ∧ strictlyFalling (gs.map Group.worth) = true then
      checkedSum maxUnsigned (gs.map Group.worth) else none := by
  unfold valueOf?
  by_cases hall : ∀ g ∈ gs, g.worth ≤ maxUnsigned
  · have hvalues : gs.mapM Group.value = some (gs.map Group.worth) := mapM_value_eq_some_iff.mpr ⟨hall, rfl⟩
    rw [hvalues, Option.bind_some, ite_and]
  · have hvalues : gs.mapM Group.value = none := by
      rw [Option.eq_none_iff_forall_ne_some]
      exact fun values h => hall (mapM_value_eq_some_iff.mp h).1
    have hsum : checkedSum maxUnsigned (gs.map Group.worth) = none := by
      rw [checkedSum_eq_checked_sum, checked_eq_none_iff]
      obtain ⟨g, hg, hlt⟩ : ∃ g ∈ gs, maxUnsigned < g.worth := by simpa using hall
      exact hlt.trans_le (List.le_sum_of_mem (List.mem_map_of_mem hg))
    rw [hvalues, hsum, Option.bind_none, ite_self, ite_self]

theorem valueOf?_eq_some_iff {gs : List Group} (h : Canonical gs) {v : Nat} :
    valueOf? gs = some v ↔ Proper gs ∧ (gs.map Group.worth).sum = v ∧ v ≤ maxUnsigned := by
  have hproper : Proper gs ↔ gs.all Group.withinLimit = true ∧ strictlyFalling (gs.map Group.worth) = true := by
    rw [proper_iff h, List.all_eq_true, strictlyFalling_iff, List.isChain_map]
  rw [valueOf?_eq, hproper]
  split
  · next hwell => rw [checkedSum_eq_some_iff, and_iff_right hwell]
  · next hwell =>
    constructor
    · intro hnone
      cases hnone
    · rintro ⟨hboth, -⟩
      exact absurd hboth hwell

end ParserKit.Roman
