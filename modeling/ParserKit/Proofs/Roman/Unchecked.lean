import ParserKit.Proofs.Roman.ProperForm

/-! What the reader without regard to form makes of a numeral in proper form. It takes a pair wherever the next two
letters make one, also where the first of them ends a run; in proper form this never happens, because the letter
behind a run is worth less than the letter of the run. So both readers find the same pairs, and the second one
finds each run letter by letter. -/

namespace ParserKit.Roman

open ParserKit.Parser

theorem run_symbolValue_pair (p : Pair) (s : Text) :
    symbolValue.run (spell p.letters ++ s) = [(p.value, s)] :=
  run_orElse_of_run (run_map_of_run (run_anyPair_append p s) Pair.value) _

theorem run_symbolValue_letter {l : Letter} {s : Text}
    (h : ∀ p : Pair, p.less = l → s.startsWith (· == p.greater.toChar) = false) :
    symbolValue.run (.cons l.toChar s) = [(l.value, s)] := by
  have hnone : (anyPair.map Pair.value).run (.cons l.toChar s) = [] :=
    run_map_of_eq_nil (run_anyPair_cons_eq_nil h) Pair.value
  rw [symbolValue, run_orElse_of_eq_nil hnone, run_map_of_run (run_anyLetter_cons l s)]

theorem run_symbolValue_eq_nil {s : Text} (h : s.startsWith isLetter = false) : symbolValue.run s = [] := by
  have hnone : (anyPair.map Pair.value).run s = [] :=
    run_map_of_eq_nil (run_anyPair_eq_nil_of_not_letter h) Pair.value
  rw [symbolValue, run_orElse_of_eq_nil hnone, run_map_of_eq_nil (run_anyLetter_eq_nil h)]

/-- A run is read letter by letter where no greater letter stands behind it. -/
theorem run_many_symbolValue_run {l : Letter} {s rest : Text} {values : List Nat} (n : Nat)
    (hs : ∀ p : Pair, p.less = l → s.startsWith (· == p.greater.toChar) = false)
    (h : symbolValue.many.run s = [(values, rest)]) :
    symbolValue.many.run (spell (List.replicate n l) ++ s) = [(List.replicate n l.value ++ values, rest)] := by
  induction n with
  | zero =>
      rw [List.replicate_zero, spell_nil_append, h]
      rfl
  | succ n ih =>
      have hnext : ∀ p : Pair, p.less = l →
          (spell (List.replicate n l) ++ s).startsWith (· == p.greater.toChar) = false := by
        rintro p rfl
        exact startsWith_greater_eq_false n fun _ => hs p rfl
      rw [List.replicate_succ, spell_cons_append]
      exact run_many_of_run (run_symbolValue_letter hnext) (by simp) ih

/-- The values of the symbols of a group, where each letter of a run is one. -/
def Group.symbols : Group → List Nat
  | pair p => [p.value]
  | run l n => List.replicate n l.value

theorem Group.sum_symbols (g : Group) : g.symbols.sum = g.worth := by
  cases g with
  | pair p => exact Nat.add_zero _
  | run l n =>
      rw [symbols, List.sum_replicate_nat, worth, Nat.mul_comm]

theorem sum_symbols (gs : List Group) : (gs.flatMap Group.symbols).sum = (gs.map Group.worth).sum := by
  induction gs with
  | nil => rfl
  | cons g gs ih =>
      calc ((g :: gs).flatMap Group.symbols).sum
          = g.symbols.sum + (gs.flatMap Group.symbols).sum := by rw [List.flatMap_cons, List.sum_append]
        _ = g.worth + (gs.map Group.worth).sum := by rw [g.sum_symbols, ih]
        _ = ((g :: gs).map Group.worth).sum := by rw [List.map_cons, List.sum_cons]

theorem Proper.head_ne_greater {l : Letter} {n : Nat} {gs : List Group} (h : Proper (.run l n :: gs)) {p : Pair}
    (hp : p.less = l) : ∀ g ∈ gs.head?, g.head ≠ p.greater := by
  intro g hg heq
  have hunit : g.unit < l.value := (List.pairwise_cons.mp h.falling).1 g (List.mem_of_mem_head? hg)
  have hhead : p.greater.value < p.less.value := by
    rw [← heq, hp]
    exact g.head_value_le_unit.trans_lt hunit
  have hpair := p.value_add_less
  omega

theorem run_many_symbolValue {gs : List Group} (h : Proper gs) {rest : Text}
    (hrest : rest.startsWith isLetter = false) :
    symbolValue.many.run (spell (lettersOf gs) ++ rest) = [(gs.flatMap Group.symbols, rest)] := by
  induction gs with
  | nil =>
      rw [lettersOf_nil, spell_nil_append]
      exact run_many_of_eq_nil (run_symbolValue_eq_nil hrest)
  | cons g gs ih =>
      rw [lettersOf_cons, spell_append_append, List.flatMap_cons]
      cases g with
      | pair p =>
          refine run_many_of_run (run_symbolValue_pair p _) ?_ (ih h.tail)
          rw [Group.letters, Pair.letters, spell_cons_append, Text.size_cons]
          exact Nat.lt_succ_of_le (Text.size_le_append _ _)
      | run l n =>
          refine run_many_symbolValue_run n ?_ (ih h.tail)
          intro p hp
          exact startsWith_lettersOf hrest h.tail.canonical (h.head_ne_greater hp)

theorem exists_proper_of_run_numeral {s : Text} {v : Nat} {rest : Text} (h : numeral.run s = [(v, rest)]) :
    ∃ gs, Proper gs ∧ s = spell (lettersOf gs) ++ rest ∧ rest.startsWith isLetter = false ∧
      (gs.map Group.worth).sum = v ∧ v ≤ maxUnsigned := by
  obtain ⟨o, hrun, hiff⟩ := exists_run_numeral_eq s
  rw [h] at hrun
  cases o with
  | none => cases hrun
  | some u =>
      obtain ⟨rfl, rfl⟩ := Prod.mk.inj (List.singleton_inj.mp hrun)
      obtain ⟨n, -, hw, hv, hle⟩ := (hiff v).mpr rfl
      refine ⟨n.groups, proper_groups n, ?_, Text.startsWith_dropWhile _ _, ?_, hle⟩
      · calc s = s.takeWhile isLetter ++ s.dropWhile isLetter := (Text.takeWhile_append_dropWhile _ s).symm
          _ = n.letters.map Letter.toChar ++ s.dropWhile isLetter := by rw [hw]
          _ = spell (lettersOf n.groups) ++ s.dropWhile isLetter := by rw [lettersOf_groups]; rfl
      · rw [sum_worth_groups, hv]

/-- Where the reader of proper numerals has a result, the reader without regard to form has the same one. -/
theorem run_uncheckedNumeral_of_run_numeral {s : Text} {v : Nat} {rest : Text} (h : numeral.run s = [(v, rest)]) :
    uncheckedNumeral.run s = [(v, rest)] := by
  obtain ⟨gs, hproper, rfl, hrest, hv, hle⟩ := exists_proper_of_run_numeral h
  have hsum : checkedSum maxUnsigned (gs.flatMap Group.symbols) = some v :=
    checkedSum_eq_some_iff.mpr ⟨(sum_symbols gs).trans hv, hle⟩
  rw [uncheckedNumeral, run_bind_of_run (run_many_symbolValue hproper hrest), run_ofOption,
    hsum]
  rfl

/-- A numeral with a run in front of a pair, and a text behind it. -/
theorem run_uncheckedNumeral_of_run_numeral_xxix :
    numeral.run (Text.ofList ['X', 'X', 'I', 'X', '!']) = [(29, Text.ofList ['!'])] ∧
      uncheckedNumeral.run (Text.ofList ['X', 'X', 'I', 'X', '!']) = [(29, Text.ofList ['!'])] := by
  have hread : numeral.run (Text.ofList ['X', 'X', 'I', 'X', '!']) = [(29, Text.ofList ['!'])] := by decide +kernel
  exact ⟨hread, run_uncheckedNumeral_of_run_numeral hread⟩

end ParserKit.Roman
