import Mathlib.Data.List.Basic
import ParserKit.Parser.Repetition
import ParserKit.Proofs.Text.Spans

/-! What combined parsers read, from the readings of their parts: single characters, sequences, choices among several
parsers, repetition and recursion. A property that every rule for shorter texts passes on holds of a recursive
parser on all texts (`recur_induction`). -/

namespace ParserKit.Parser

universe u v

variable {α : Type u} {β : Type v} {p q : Parser α} {s rest : Text} {a : α}

theorem first_eq_of_run (h : p.run s = [(a, rest)]) : p.first s = some (a, rest) := by
  rw [first, h]
  rfl

theorem run_singleton_inj {b : α} {t : Text} (h : p.run s = [(a, rest)]) (h' : p.run s = [(b, t)]) :
    a = b ∧ rest = t := Prod.mk.inj (List.singleton_inj.mp (h.symm.trans h'))

section Characters

variable {accepts : Char → Bool}

theorem run_satisfy_of_accepts {c : Char} (h : accepts c = true) (s : Text) :
    (satisfy accepts).run (.cons c s) = [(c, s)] := by
  rw [run_satisfy_cons, if_pos h]

theorem run_satisfy_eq_nil (h : s.startsWith accepts = false) : (satisfy accepts).run s = [] := by
  cases s with
  | empty => rfl
  | cons c s => rw [run_satisfy_cons, if_neg (by simpa using h)]

end Characters

theorem first_bind (p : Parser α) (f : α → Parser β) (s : Text) :
    (p.bind f).first s = (p.first s).bind fun reading => (f reading.1).first reading.2 := by
  rw [first, run_bind]
  cases p.first s <;> rfl

theorem run_bind_of_first (h : p.first s = some (a, rest)) (f : α → Parser β) :
    (p.bind f).run s = (f a).run rest := by
  rw [run_bind, h]
  rfl

theorem run_bind_of_none (h : p.first s = none) (f : α → Parser β) : (p.bind f).run s = [] := by
  rw [run_bind, h]
  rfl

theorem run_bind_of_run (h : p.run s = [(a, rest)]) (f : α → Parser β) : (p.bind f).run s = (f a).run rest :=
  run_bind_of_first (first_eq_of_run h) f

theorem run_bind_of_eq_nil (h : p.run s = []) (f : α → Parser β) : (p.bind f).run s = [] :=
  run_bind_of_none (first_eq_none_iff.mpr h) f

theorem run_map_of_run (h : p.run s = [(a, rest)]) (f : α → β) : (p.map f).run s = [(f a, rest)] := by
  rw [run_map, first_eq_of_run h]
  rfl

theorem run_map_of_eq_nil (h : p.run s = []) (f : α → β) : (p.map f).run s = [] := by
  rw [run_map, first_eq_none_iff.mpr h]
  rfl

theorem run_ofOption (o : Option α) (s : Text) : (ofOption o).run s = (o.map fun a => (a, s)).toList := by
  cases o <;> rfl

/-- Two sequences read the same of two texts if their first parts do and go on alike. -/
theorem run_bind_congr {t : Text} {f g : α → Parser β} (hp : p.run s = q.run t)
    (hf : ∀ a rest, q.first t = some (a, rest) → (f a).run rest = (g a).run rest) :
    (p.bind f).run s = (q.bind g).run t := by
  have hfirst : p.first s = q.first t := congrArg List.head? hp
  cases h : q.first t with
  | none => rw [run_bind_of_none (hfirst.trans h), run_bind_of_none h]
  | some reading =>
      rw [run_bind_of_first (hfirst.trans h), run_bind_of_first h]
      exact hf reading.1 reading.2 h

theorem run_orElse_of_ne_nil (h : p.run s ≠ []) (q : Parser α) : (p.orElse q).run s = p.run s := by
  rw [run_orElse, if_neg h]

theorem run_orElse_of_eq_nil (h : p.run s = []) (q : Parser α) : (p.orElse q).run s = q.run s := by
  rw [run_orElse, if_pos h]

theorem run_orElse_of_run (h : p.run s = [(a, rest)]) (q : Parser α) : (p.orElse q).run s = [(a, rest)] := by
  have hne : p.run s ≠ [] := by
    rw [h]
    exact List.cons_ne_nil _ _
  rw [run_orElse_of_ne_nil hne, h]

theorem run_orElse_congr {t : Text} {p' q' : Parser α} (hp : p.run s = p'.run t) (hq : q.run s = q'.run t) :
    (p.orElse q).run s = (p'.orElse q').run t := by
  rw [run_orElse, run_orElse, hp, hq]

theorem orElse_fail (p : Parser α) : p.orElse fail = p := by
  ext1
  funext s
  rw [run_orElse, run_fail]
  split
  · exact Eq.symm ‹p.run s = []›
  · rfl

theorem orElse_assoc (p q r : Parser α) : (p.orElse q).orElse r = p.orElse (q.orElse r) := by
  ext1
  funext s
  simp only [run_orElse]
  split_ifs <;> simp_all

theorem foldl_orElse (ps : List (Parser α)) (p : Parser α) :
    ps.foldl orElse p = p.orElse (oneOf ps) := by
  induction ps generalizing p with
  | nil => exact (orElse_fail p).symm
  | cons q ps ih =>
      rw [List.foldl_cons, ih (p.orElse q), orElse_assoc]
      exact congrArg p.orElse (ih q).symm

theorem oneOf_cons (p : Parser α) (ps : List (Parser α)) : oneOf (p :: ps) = p.orElse (oneOf ps) := by
  rw [oneOf, List.foldl_cons, foldl_orElse]
  rfl

theorem run_oneOf_eq_nil {ps : List (Parser α)} (h : ∀ p ∈ ps, p.run s = []) :
    (oneOf ps).run s = [] := by
  induction ps with
  | nil => rfl
  | cons p ps ih =>
      rw [oneOf_cons, run_orElse_of_eq_nil (h p List.mem_cons_self)]
      exact ih fun q hq => h q (List.mem_cons_of_mem p hq)

/-- Where no other parser succeeds, a choice reads what the remaining one reads. -/
theorem run_oneOf_map {ι : Type v} {f : ι → Parser α} {is : List ι} {i : ι} (hi : i ∈ is)
    (hother : ∀ j ∈ is, j ≠ i → (f j).run s = []) : (oneOf (is.map f)).run s = (f i).run s := by
  induction is with
  | nil => cases hi
  | cons j is ih =>
      rw [List.map_cons, oneOf_cons]
      by_cases hmem : i ∈ is
      · by_cases hj : (f j).run s = []
        · rw [run_orElse_of_eq_nil hj]
          exact ih hmem fun k hk => hother k (List.mem_cons_of_mem j hk)
        · have heq : j = i := by
            by_contra hne
            exact hj (hother j List.mem_cons_self hne)
          rw [run_orElse_of_ne_nil hj, heq]
      · have heq : i = j := (List.mem_cons.mp hi).resolve_right hmem
        subst heq
        have hrest : (oneOf (is.map f)).run s = [] := by
          apply run_oneOf_eq_nil
          intro q hq
          obtain ⟨k, hk, rfl⟩ := List.mem_map.mp hq
          exact hother k (List.mem_cons_of_mem i hk) fun h => hmem (h ▸ hk)
        rw [run_orElse, hrest]
        split
        · exact Eq.symm ‹(f i).run s = []›
        · rfl

theorem run_fold (p : Parser α) (seed : β) (step : β → α → β) (s : Text) :
    (p.fold seed step).run s = [p.iterate step seed s] := rfl

section Many

variable {as : List α} {t : Text}

theorem run_many_of_none (h : p.first s = none) : p.many.run s = [([], s)] := by
  simp only [many, collect, iterate_of_none h, List.reverse_nil]

theorem run_many_of_lt (h : p.first s = some (a, rest)) (hlt : rest.size < s.size)
    (hmany : p.many.run rest = [(as, t)]) : p.many.run s = [(a :: as, t)] := by
  have hrest : p.collect [] rest = (as, t) := List.singleton_inj.mp hmany
  have hstep : p.collect [] s = p.collect [a] rest := by
    simp only [collect, iterate_of_lt h hlt]
  show [p.collect [] s] = _
  rw [hstep, collect_append, hrest]
  rfl

theorem run_many_of_not_lt (h : p.first s = some (a, rest)) (hlt : ¬rest.size < s.size) :
    p.many.run s = [([a], rest)] := by
  simp only [many, collect, iterate_of_not_lt h hlt, List.reverse_singleton]

theorem run_many_of_eq_nil (h : p.run s = []) : p.many.run s = [([], s)] :=
  run_many_of_none (first_eq_none_iff.mpr h)

theorem run_many_of_run (h : p.run s = [(a, rest)]) (hlt : rest.size < s.size)
    (hmany : p.many.run rest = [(as, t)]) : p.many.run s = [(a :: as, t)] :=
  run_many_of_lt (first_eq_of_run h) hlt hmany

theorem run_many1_of_none (h : p.first s = none) : p.many1.run s = [] := by
  simp only [many1, h]

theorem run_many1_of_lt (h : p.first s = some (a, rest)) (hlt : rest.size < s.size)
    (hmany : p.many.run rest = [(as, t)]) : p.many1.run s = [(a :: as, t)] := by
  have hrest : p.collect [] rest = (as, t) := List.singleton_inj.mp hmany
  simp only [many1, h, if_pos hlt]
  rw [collect_append, hrest]
  rfl

theorem run_many1_of_not_lt (h : p.first s = some (a, rest)) (hlt : ¬rest.size < s.size) :
    p.many1.run s = [([a], rest)] := by
  simp only [many1, h, if_neg hlt]

theorem run_many1_of_eq_nil (h : p.run s = []) : p.many1.run s = [] :=
  run_many1_of_none (first_eq_none_iff.mpr h)

theorem run_many1_of_run (h : p.run s = [(a, rest)]) (hlt : rest.size < s.size)
    (hmany : p.many.run rest = [(as, t)]) : p.many1.run s = [(a :: as, t)] :=
  run_many1_of_lt (first_eq_of_run h) hlt hmany

end Many

theorem run_optional_of_none (h : p.first s = none) : p.optional.run s = [(none, s)] := by
  simp only [optional, h]

theorem run_optional_of_first (h : p.first s = some (a, rest)) : p.optional.run s = [(some a, rest)] := by
  simp only [optional, h]

/-- Induction on a text along the turns of a repetition of `p`: from what a turn leaves to the text it began at, as
long as the turn takes something. -/
@[elab_as_elim]
theorem repetition_induction (p : Parser α) {motive : Text → Prop}
    (failed : ∀ s, p.first s = none → motive s)
    (last : ∀ s a rest, p.first s = some (a, rest) → ¬rest.size < s.size → motive s)
    (turn : ∀ s a rest, p.first s = some (a, rest) → rest.size < s.size → motive rest → motive s)
    (s : Text) : motive s := by
  induction hn : s.size using Nat.strongRecOn generalizing s with
  | ind n ih =>
      cases h : p.first s with
      | none => exact failed s h
      | some reading =>
          obtain ⟨a, rest⟩ := reading
          by_cases hlt : rest.size < s.size
          · exact turn s a rest h hlt (ih rest.size (by omega) rest rfl)
          · exact last s a rest h hlt

/-- A property of readings that failure has, and that a rule has whenever its own occurrences have it,
holds of the recursive parser. -/
theorem recur_induction {rule : Parser α → Parser α} {P : Text → List (α × Text) → Prop}
    (hfail : ∀ s, P s []) (hrule : ∀ p : Parser α, (∀ s, P s (p.run s)) → ∀ s, P s ((rule p).run s))
    (s : Text) : P s ((recur rule).run s) := by
  induction hn : s.size using Nat.strongRecOn generalizing s with
  | ind n ih =>
      rw [run_recur]
      apply hrule
      intro t
      dsimp only
      split
      · exact ih t.size (by omega) t rfl
      · exact hfail t

/-- Two rules that read the same on texts up to a size, with the same parser for their own occurrences, make
recursive parsers that read the same on those texts. -/
theorem run_recur_congr {rule rule' : Parser α → Parser α} {n : Nat}
    (h : ∀ p s, s.size ≤ n → (rule p).run s = (rule' p).run s) (s : Text) (hs : s.size ≤ n) :
    (recur rule).run s = (recur rule').run s := by
  induction hm : s.size using Nat.strongRecOn generalizing s with
  | ind m ih =>
      have hself : (⟨fun t => if t.size < s.size then (recur rule).run t else []⟩ : Parser α) =
          ⟨fun t => if t.size < s.size then (recur rule').run t else []⟩ := by
        ext1
        funext t
        dsimp only
        split
        · exact ih t.size (by omega) t (by omega) rfl
        · rfl
      rw [run_recur, run_recur, hself]
      exact h _ s hs

/-- Every reading leaves an end of the text. -/
def LeavesSuffix (p : Parser α) : Prop :=
  ∀ s, ∀ reading ∈ p.run s, ∃ consumed : List Char, s = consumed ++ reading.2

theorem LeavesSuffix.size_le (hp : p.LeavesSuffix) (h : p.first s = some (a, rest)) :
    rest.size ≤ s.size := by
  obtain ⟨consumed, hs⟩ := hp s (a, rest) (List.mem_of_mem_head? h)
  rw [hs, Text.size_prepend]
  exact Nat.le_add_left _ _

end ParserKit.Parser
