import Mathlib.Data.List.Sort
import Mathlib.Data.List.Nodup
import Mathlib.Algebra.GroupWithZero.Nat
import ParserKit.Proofs.Roman.Falling
import ParserKit.Roman.Proper

/-! Numerals in proper form are the language of the reader. The parts of a proper numeral are groups whose units
run down the list of denominations, so their units fall; and groups whose units fall are the parts of the numeral
that has, for each denomination, the group of that unit among them. -/

namespace ParserKit.Roman

open ParserKit.Parser

/-- The letters of one kind, as a group if there are any. -/
def runs (l : Letter) (n : Nat) : List Group := if n = 0 then [] else [.run l n]

def Place.groups (p : Place) (nine : Pair) (five : Letter) (four : Pair) (one : Letter) : List Group :=
  (if p.nine then [.pair nine] else []) ++ (if p.five then [.run five 1] else []) ++
    (if p.four then [.pair four] else []) ++ runs one p.ones

def ProperNumeral.groups (n : ProperNumeral) : List Group :=
  runs .M n.thousands ++ n.hundreds.groups .CM .D .CD .C ++ n.tens.groups .XC .L .XL .X ++
    n.units.groups .IX .V .IV .I

theorem lettersOf_append (gs hs : List Group) : lettersOf (gs ++ hs) = lettersOf gs ++ lettersOf hs :=
  List.flatMap_append

theorem lettersOf_runs (l : Letter) (n : Nat) : lettersOf (runs l n) = List.replicate n l := by
  cases n with
  | zero => rfl
  | succ n => exact List.append_nil _

theorem lettersOf_place (p : Place) (nine : Pair) (five : Letter) (four : Pair) (one : Letter) :
    lettersOf (p.groups nine five four one) = p.letters nine five four one := by
  rw [Place.groups, Place.letters, lettersOf_append, lettersOf_append, lettersOf_append, lettersOf_runs]
  rcases p with ⟨⟨⟩, ⟨⟩, ⟨⟩, k⟩ <;> simp [Group.letters]

theorem lettersOf_groups (n : ProperNumeral) : lettersOf n.groups = n.letters := by
  simp only [ProperNumeral.groups, ProperNumeral.letters, lettersOf_append, lettersOf_runs, lettersOf_place]

theorem sum_worth_runs (l : Letter) (n : Nat) : ((runs l n).map Group.worth).sum = l.value * n := by
  cases n with
  | zero => rfl
  | succ n => exact Nat.add_zero _

theorem sum_worth_place (p : Place) {nine : Pair} {five : Letter} {four : Pair} {one : Letter}
    (hnine : nine.value = one.value * 9) (hfive : five.value = one.value * 5) (hfour : four.value = one.value * 4) :
    ((p.groups nine five four one).map Group.worth).sum = one.value * p.value := by
  have hone : one.value * p.value = (if p.nine then one.value * 9 else 0) + (if p.five then one.value * 5 else 0) +
      (if p.four then one.value * 4 else 0) + one.value * p.ones := by
    simp only [Place.value, Nat.mul_add, mul_ite, Nat.mul_zero]
  simp only [Place.groups, List.map_append, List.sum_append, sum_worth_runs, hone]
  rcases p with ⟨⟨⟩, ⟨⟩, ⟨⟩, k⟩ <;> simp [Group.worth, hnine, hfive, hfour]

theorem sum_worth_groups (n : ProperNumeral) : (n.groups.map Group.worth).sum = n.value := by
  simp only [ProperNumeral.groups, List.map_append, List.sum_append, sum_worth_runs]
  rw [sum_worth_place n.hundreds rfl rfl rfl, sum_worth_place n.tens rfl rfl rfl,
    sum_worth_place n.units rfl rfl rfl]
  simp only [Letter.value, ProperNumeral.value]
  omega

theorem mem_runs {l : Letter} {n : Nat} {g : Group} : g ∈ runs l n ↔ 0 < n ∧ g = .run l n := by
  cases n with
  | zero => simp [runs]
  | succ n => simp [runs]

theorem Place.mem_groups {p : Place} {nine : Pair} {five : Letter} {four : Pair} {one : Letter} {g : Group} :
    g ∈ p.groups nine five four one ↔ (p.nine = true ∧ g = .pair nine) ∨ (p.five = true ∧ g = .run five 1) ∨
      (p.four = true ∧ g = .pair four) ∨ 0 < p.ones.val ∧ g = .run one p.ones := by
  simp only [groups, List.mem_append, mem_runs, or_assoc]
  rcases p with ⟨⟨⟩, ⟨⟩, ⟨⟩, k⟩ <;> simp

theorem units_runs (l : Letter) (n : Nat) : ((runs l n).map Group.unit).Sublist [l.value] := by
  cases n with
  | zero => exact List.nil_sublist _
  | succ n => exact List.Sublist.refl _

theorem units_place (p : Place) (nine : Pair) (five : Letter) (four : Pair) (one : Letter) :
    ((p.groups nine five four one).map Group.unit).Sublist
      [nine.value, five.value, four.value, one.value] := by
  have hif : ∀ (b : Bool) (g : Group), ((if b then [g] else []).map Group.unit).Sublist [g.unit] := by
    intro b g
    cases b with
    | false => exact List.nil_sublist _
    | true => exact List.Sublist.refl _
  rw [Place.groups, List.map_append, List.map_append, List.map_append]
  exact (((hif p.nine (.pair nine)).append (hif p.five (.run five 1))).append
    (hif p.four (.pair four))).append (units_runs one p.ones)

/-- The units of a numeral are denominations, in their order. -/
theorem units_groups (n : ProperNumeral) :
    (n.groups.map Group.unit).Sublist (denominations.map Prod.fst) := by
  rw [ProperNumeral.groups, List.map_append, List.map_append, List.map_append]
  exact (((units_runs .M n.thousands).append (units_place n.hundreds .CM .D .CD .C)).append
    (units_place n.tens .XC .L .XL .X)).append (units_place n.units .IX .V .IV .I)

theorem falling_denominations : (denominations.map Prod.fst).Pairwise (· > ·) := by decide

theorem admissible_of_mem_place {p : Place} {nine : Pair} {five : Letter} {four : Pair} {one : Letter}
    (hfive : five.maxRun = some 1) (hone : one.maxRun = some 3) {g : Group}
    (h : g ∈ p.groups nine five four one) : g.Nonempty ∧ g.withinLimit = true := by
  rcases Place.mem_groups.mp h with ⟨-, rfl⟩ | ⟨-, rfl⟩ | ⟨-, rfl⟩ | ⟨hpos, rfl⟩
  · exact ⟨trivial, rfl⟩
  · exact ⟨Nat.one_pos, by simp [Group.withinLimit, hfive]⟩
  · exact ⟨trivial, rfl⟩
  · exact ⟨hpos, by simpa [Group.withinLimit, hone] using Nat.le_of_lt_succ p.ones.isLt⟩

theorem ProperNumeral.mem_groups {n : ProperNumeral} {g : Group} : g ∈ n.groups ↔
    g ∈ runs .M n.thousands ∨ g ∈ n.hundreds.groups .CM .D .CD .C ∨ g ∈ n.tens.groups .XC .L .XL .X ∨
      g ∈ n.units.groups .IX .V .IV .I := by
  simp only [groups, List.mem_append, or_assoc]

theorem proper_groups (n : ProperNumeral) : Proper n.groups := by
  have hall : ∀ g ∈ n.groups, g.Nonempty ∧ g.withinLimit = true := by
    intro g hg
    rcases ProperNumeral.mem_groups.mp hg with h | h | h | h
    · obtain ⟨hpos, rfl⟩ := mem_runs.mp h
      exact ⟨hpos, rfl⟩
    · exact admissible_of_mem_place rfl rfl h
    · exact admissible_of_mem_place rfl rfl h
    · exact admissible_of_mem_place rfl rfl h
  exact ⟨fun g hg => (hall g hg).1, fun g hg => (hall g hg).2,
    List.pairwise_map.mp (falling_denominations.sublist (units_groups n))⟩

/-! ### Proper groups are those of a proper numeral -/

/-- There is at most one run of a letter among groups whose units fall. -/
theorem Proper.exists_runs {gs : List Group} (h : Proper gs) (l : Letter) :
    ∃ k, (∀ n, .run l n ∈ gs ↔ 0 < k ∧ n = k) ∧ ∀ limit, l.maxRun = some limit → k ≤ limit := by
  by_cases hrun : ∃ k, .run l k ∈ gs
  · obtain ⟨k, hk⟩ := hrun
    have hpos : 0 < k := h.nonempty _ hk
    refine ⟨k, ?_, fun limit => Group.le_of_withinLimit (h.withinLimit _ hk)⟩
    intro n
    constructor
    · intro hn
      have hnodup : (gs.map Group.unit).Nodup :=
        List.Pairwise.imp (fun hlt => Nat.ne_of_gt hlt) (List.pairwise_map.mpr h.falling)
      have heq : Group.run l n = .run l k := List.inj_on_of_nodup_map hnodup hn hk rfl
      exact ⟨hpos, (Group.run.inj heq).2⟩
    · rintro ⟨-, rfl⟩
      exact hk
  · refine ⟨0, ?_, fun _ _ => Nat.zero_le _⟩
    intro n
    constructor
    · exact fun hn => absurd ⟨n, hn⟩ hrun
    · exact fun hn => absurd hn.1 (Nat.lt_irrefl 0)

theorem Proper.exists_place {gs : List Group} (h : Proper gs) (nine : Pair) (five : Letter) (four : Pair)
    (one : Letter) (hfive : five.maxRun = some 1) (hone : one.maxRun = some 3) :
    ∃ p : Place, ∀ g, g ∈ p.groups nine five four one ↔
      g ∈ gs ∧ (g = .pair nine ∨ (∃ n, g = .run five n) ∨ g = .pair four ∨ ∃ n, g = .run one n) := by
  -- the limit of the five leaves one of it or none, that of the ones leaves three at most
  obtain ⟨k, hk, hklimit⟩ := h.exists_runs five
  obtain ⟨m, hm, hmlimit⟩ := h.exists_runs one
  have hk1 : k ≤ 1 := hklimit 1 hfive
  have hm3 : m ≤ 3 := hmlimit 3 hone
  refine ⟨⟨.pair nine ∈ gs, k = 1, .pair four ∈ gs, ⟨m, by omega⟩⟩, ?_⟩
  intro g
  rw [Place.mem_groups]
  constructor
  · rintro (⟨hg, rfl⟩ | ⟨hg, rfl⟩ | ⟨hg, rfl⟩ | ⟨hg, rfl⟩)
    · exact ⟨of_decide_eq_true hg, .inl rfl⟩
    · have hk1 : k = 1 := of_decide_eq_true hg
      exact ⟨(hk 1).mpr (by omega), .inr (.inl ⟨1, rfl⟩)⟩
    · exact ⟨of_decide_eq_true hg, .inr (.inr (.inl rfl))⟩
    · exact ⟨(hm m).mpr ⟨hg, rfl⟩, .inr (.inr (.inr ⟨m, rfl⟩))⟩
  · rintro ⟨hg, rfl | ⟨n, rfl⟩ | rfl | ⟨n, rfl⟩⟩
    · exact .inl ⟨decide_eq_true hg, rfl⟩
    · obtain ⟨hpos, rfl⟩ := (hk n).mp hg
      obtain rfl : n = 1 := by omega
      exact .inr (.inl ⟨rfl, rfl⟩)
    · exact .inr (.inr (.inl ⟨decide_eq_true hg, rfl⟩))
    · obtain ⟨hpos, rfl⟩ := (hm n).mp hg
      exact .inr (.inr (.inr ⟨hpos, rfl⟩))

/-- The parts are found by their kind, and falling units leave only one order for them. -/
theorem Proper.exists_groups_eq {gs : List Group} (h : Proper gs) : ∃ n : ProperNumeral, n.groups = gs := by
  obtain ⟨k, hk, -⟩ := h.exists_runs .M
  obtain ⟨hundreds, hhundreds⟩ := h.exists_place .CM .D .CD .C rfl rfl
  obtain ⟨tens, htens⟩ := h.exists_place .XC .L .XL .X rfl rfl
  obtain ⟨units, hunits⟩ := h.exists_place .IX .V .IV .I rfl rfl
  refine ⟨⟨k, hundreds, tens, units⟩, ?_⟩
  -- every pair and every letter belongs to one place, or is the letter of the thousands
  have hmem : ∀ g, g ∈ (ProperNumeral.mk k hundreds tens units).groups ↔ g ∈ gs := by
    intro g
    rw [ProperNumeral.mem_groups, mem_runs, hhundreds, htens, hunits]
    cases g with
    | pair p => cases p <;> simp
    | run l n => cases l <;> simp [hk]
  have : Std.Irrefl fun g h : Group => h.unit < g.unit := ⟨fun g => Nat.lt_irrefl g.unit⟩
  have : Std.Antisymm fun g h : Group => h.unit < g.unit := ⟨fun _ _ hlt hgt => absurd hlt (Nat.lt_asymm hgt)⟩
  exact (proper_groups _).falling.eq_of_mem_iff h.falling hmem

/-- Whether `w` is a numeral in proper form, and `v` its value within the limit of numerals. -/
def IsNumeral (w : List Char) (v : Nat) : Prop :=
  ∃ n : ProperNumeral, n.letters ≠ [] ∧ n.letters.map Letter.toChar = w ∧ n.value = v ∧ v ≤ maxUnsigned

theorem isNumeral_iff {gs : List Group} (h : Canonical gs) {v : Nat} :
    IsNumeral ((lettersOf gs).map Letter.toChar) v ↔ gs ≠ [] ∧ valueOf? gs = some v := by
  rw [valueOf?_eq_some_iff h, ne_eq, h.eq_nil_iff]
  constructor
  · rintro ⟨n, hne, hw, hv, hle⟩
    have hletters : lettersOf n.groups = lettersOf gs := by
      rw [lettersOf_groups]
      exact map_toChar_injective hw
    obtain rfl := (proper_groups n).canonical.eq_of_lettersOf_eq h hletters
    rw [lettersOf_groups, sum_worth_groups]
    exact ⟨hne, proper_groups n, hv, hle⟩
  · rintro ⟨hne, hproper, hv, hle⟩
    obtain ⟨n, rfl⟩ := hproper.exists_groups_eq
    rw [lettersOf_groups] at hne ⊢
    rw [sum_worth_groups] at hv
    exact ⟨n, hne, rfl, hv, hle⟩

theorem exists_run_numeral_eq (s : Text) : ∃ o : Option Nat,
    numeral.run s = (o.map fun v => (v, s.dropWhile isLetter)).toList ∧
      ∀ v, IsNumeral (s.takeWhile isLetter) v ↔ o = some v := by
  rcases run_many1_group_cases s with ⟨hs, hrun⟩ | ⟨-, gs, hne, hgs, hletters, hrun⟩
  · refine ⟨none, ?_, ?_⟩
    · rw [numeral, run_bind_of_eq_nil hrun]
      rfl
    · intro v
      rw [Text.takeWhile_eq_nil hs]
      simp +contextual [IsNumeral]
  · refine ⟨valueOf? gs, ?_, ?_⟩
    · rw [numeral, run_bind_of_run hrun, run_ofOption]
    · intro v
      rw [← hletters, isNumeral_iff hgs]
      simp [hne]

/-- The reader of numerals takes the longest word of letters at the beginning of a text, and has a result exactly
where that word is a numeral in proper form. -/
theorem run_numeral_eq_iff (s : Text) :
    (∀ v rest, numeral.run s = [(v, rest)] ↔ rest = s.dropWhile isLetter ∧ IsNumeral (s.takeWhile isLetter) v) ∧
      (numeral.run s = [] ↔ ∀ v, ¬IsNumeral (s.takeWhile isLetter) v) := by
  obtain ⟨o, hrun, hiff⟩ := exists_run_numeral_eq s
  simp only [hrun, hiff]
  cases o with
  | none => simp
  | some u =>
      constructor
      · intro v rest
        simp only [Option.map_some, Option.toList_some, List.cons.injEq, Prod.mk.injEq, and_true, Option.some.injEq]
        rw [and_comm, eq_comm]
      · simp

end ParserKit.Roman
