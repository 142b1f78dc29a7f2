import ParserKit.Proofs.Parser.Canonical
import ParserKit.Proofs.Parser.Repetition

/-! Laws of repetition. The three ways to repeat a parser read the same turns: a fold gathers the values that `many`
lists, and `many1` differs from `many` only where there are none. Of a parser that always takes something, `many` is
the recursive parser that reads one value and then the others, and a repetition of what may take nothing comes to its
end: it reads nothing once, after all that there is to read. -/

namespace ParserKit.Parser

universe u

section Agreement

variable {α : Type u}

theorem exists_run_many (p : Parser α) (s : Text) : ∃ values rest, p.many.run s = [(values, rest)] := ⟨_, _, rfl⟩

/-- Either both repetitions find nothing, and only `many` succeeds, or they read the same. -/
theorem run_many1_cases (p : Parser α) (s : Text) :
    p.many1.run s = [] ∧ p.many.run s = [([], s)] ∨
      ∃ a as rest, p.many1.run s = [(a :: as, rest)] ∧ p.many.run s = [(a :: as, rest)] := by
  cases h : p.first s with
  | none => exact .inl ⟨run_many1_of_none h, run_many_of_none h⟩
  | some reading =>
      obtain ⟨a, rest⟩ := reading
      right
      by_cases hlt : rest.size < s.size
      · obtain ⟨as, t, hmany⟩ := exists_run_many p rest
        exact ⟨a, as, t, run_many1_of_lt h hlt hmany, run_many_of_lt h hlt hmany⟩
      · exact ⟨a, [], rest, run_many1_of_not_lt h hlt, run_many_of_not_lt h hlt⟩

theorem many_eq_many1_orElse (p : Parser α) : p.many = p.many1.orElse (succeed []) := by
  ext1
  funext s
  rcases run_many1_cases p s with ⟨hmany1, hmany⟩ | ⟨a, as, rest, hmany1, hmany⟩
  · rw [run_orElse_of_eq_nil hmany1, run_succeed, hmany]
  · rw [run_orElse_of_run hmany1, hmany]

end Agreement

theorem run_fold_of_run_many {α β : Type} {p : Parser α} {s rest : Text} {values : List α}
    (h : p.many.run s = [(values, rest)]) (seed : β) (step : β → α → β) :
    (p.fold seed step).run s = [(values.foldl step seed, rest)] := by
  have hrepeated : p.canonical.repeated s = (values, rest) :=
    List.singleton_inj.mp ((run_many_eq_repeated p s).symm.trans h)
  rw [run_fold, iterate_eq, hrepeated]

/-- The three repetitions of a parser read the same turns. A fold leaves what `many` leaves and combines its values
from the left; `many1` fails where `many` finds no value and else reads what `many` reads. -/
theorem fold_and_many1_agree_with_many {α : Type} (p : Parser α) (s : Text) :
    ∃ values rest, p.many.run s = [(values, rest)] ∧
      (∀ {β : Type} (seed : β) (step : β → α → β), (p.fold seed step).run s = [(values.foldl step seed, rest)]) ∧
      (p.many1.run s = [] ↔ values = []) ∧
      (p.many1.run s ≠ [] → p.many1.run s = p.many.run s) := by
  rcases run_many1_cases p s with ⟨hmany1, hmany⟩ | ⟨a, as, rest, hmany1, hmany⟩
  · refine ⟨[], s, hmany, run_fold_of_run_many hmany, ?_, ?_⟩
    · simp [hmany1]
    · intro hne
      exact absurd hmany1 hne
  · refine ⟨a :: as, rest, hmany, run_fold_of_run_many hmany, ?_, ?_⟩
    · simp [hmany1]
    · intro _
      rw [hmany1, hmany]

section Consuming

variable {α : Type u} {p : Parser α} {s rest : Text} {a : α}

/-- The parser never succeeds without taking something. -/
def Consumes (p : Parser α) : Prop := ∀ s a rest, p.first s = some (a, rest) → rest ≠ s

theorem consumes_satisfy (accepts : Char → Bool) : (satisfy accepts).Consumes := by
  intro s c rest h heq
  subst heq
  cases rest with
  | empty => cases h
  | cons d t =>
      rw [first, run_satisfy_cons] at h
      split at h
      · obtain ⟨-, ht⟩ := Prod.mk.inj (Option.some.inj h)
        have hsize := congrArg Text.size ht
        rw [Text.size_cons] at hsize
        omega
      · cases h

theorem LeavesSuffix.size_lt (hp : p.LeavesSuffix) (hc : p.Consumes) (h : p.first s = some (a, rest)) :
    rest.size < s.size := by
  by_contra hlt
  exact hc s a rest h (hp.eq_of_not_lt h hlt)

/-- What holds where a parser fails, and of a turn once it holds of the turns after it, holds of the whole repetition:
with a parser that always takes something, no turn is the last one because it took nothing. -/
theorem LeavesSuffix.many_induction (hp : p.LeavesSuffix) (hc : p.Consumes) {motive : Text → List α → Text → Prop}
    (failed : ∀ s, p.first s = none → motive s [] s)
    (turn : ∀ s a rest as t, p.first s = some (a, rest) → rest.size < s.size → motive rest as t →
      motive s (a :: as) t)
    {values : List α} (h : p.many.run s = [(values, rest)]) : motive s values rest := by
  induction s using repetition_induction p generalizing values with
  | failed s hfirst =>
      obtain ⟨rfl, rfl⟩ := run_singleton_inj (run_many_of_none hfirst) h
      exact failed s hfirst
  | last s a rest' hfirst hlt => exact absurd (hp.size_lt hc hfirst) hlt
  | turn s a rest' hfirst hlt ih =>
      obtain ⟨as, t, hmany⟩ := exists_run_many p rest'
      obtain ⟨rfl, rfl⟩ := run_singleton_inj (run_many_of_lt hfirst hlt hmany) h
      exact turn s a rest' as t hfirst hlt (ih hmany)

/-- Any number of runs of `p` by recursion: a value of `p` in front of those that the recursive parser reads behind
it, or no value where `p` fails. -/
def recursiveMany (p : Parser α) : Parser (List α) :=
  recur fun self => (p.bind fun a => self.map fun as => a :: as).orElse (succeed [])

theorem recursiveMany_eq (hp : p.LeavesSuffix) (hc : p.Consumes) :
    p.recursiveMany = (p.bind fun a => p.recursiveMany.map fun as => a :: as).orElse (succeed []) := by
  -- the recursive parser is asked only for what a run of `p` leaves, which is shorter
  apply recur_eq
  intro q q' s hq
  refine run_orElse_congr (run_bind_congr rfl ?_) rfl
  intro a rest h
  rw [run_map, run_map, first, first, hq rest (hp.size_lt hc h)]

theorem many1_eq_bind (hp : p.LeavesSuffix) (hc : p.Consumes) :
    p.many1 = p.bind fun a => p.many.map fun as => a :: as := by
  ext1
  funext s
  cases h : p.first s with
  | none => rw [run_many1_of_none h, run_bind_of_none h]
  | some reading =>
      obtain ⟨a, rest⟩ := reading
      obtain ⟨as, t, hmany⟩ := exists_run_many p rest
      rw [run_many1_of_lt h (hp.size_lt hc h) hmany, run_bind_of_first h, run_map_of_run hmany]

/-- There is one parser only that reads a value and then what it reads itself, or else nothing. -/
theorem eq_many_of_eq (hp : p.LeavesSuffix) (hc : p.Consumes) {q : Parser (List α)}
    (hq : q = (p.bind fun a => q.map fun as => a :: as).orElse (succeed [])) : q = p.many := by
  ext1
  funext s
  obtain ⟨values, rest, hmany⟩ := exists_run_many p s
  rw [hmany]
  refine hp.many_induction hc (motive := fun s values rest => q.run s = [(values, rest)]) ?_ ?_ hmany
  · intro s h
    rw [hq, run_orElse_of_eq_nil (run_bind_of_none h _), run_succeed]
  · intro s a rest as t h _ ih
    have hturn : (p.bind fun a => q.map fun as => a :: as).run s = [(a :: as, t)] := by
      rw [run_bind_of_first h, run_map_of_run ih]
    rw [hq, run_orElse_of_run hturn]

/-- The loop is the recursive parser. Of a parser that never succeeds without taking something, `many` is the parser
which is defined by recursion on the text, and `many1` a value followed by what the recursive parser reads; whatever
a parser takes, `many` is `many1`, or no value where it fails. -/
theorem many_eq_recursiveMany (hp : p.LeavesSuffix) :
    (p.Consumes →
      p.recursiveMany = (p.bind fun a => p.recursiveMany.map fun as => a :: as).orElse (succeed []) ∧
      p.many = p.recursiveMany ∧
      p.many1 = p.bind fun a => p.recursiveMany.map fun as => a :: as) ∧
    p.many = p.many1.orElse (succeed []) := by
  refine ⟨fun hc => ?_, many_eq_many1_orElse p⟩
  have heq := recursiveMany_eq hp hc
  have hmany : p.recursiveMany = p.many := eq_many_of_eq hp hc heq
  refine ⟨heq, hmany.symm, ?_⟩
  rw [hmany]
  exact many1_eq_bind hp hc

/-- Digits by recursion. -/
theorem many_eq_recursiveMany_digit :
    digit.LeavesSuffix ∧ digit.Consumes ∧ digit.recursiveMany.run "42km" = [(['4', '2'], ↑"km")] ∧
      digit.many = digit.many1.orElse (succeed []) := by
  have hsuffix : digit.LeavesSuffix := leavesSuffix_satisfy _
  have hconsumes : digit.Consumes := consumes_satisfy _
  obtain ⟨hrecursive, hmany1⟩ := many_eq_recursiveMany hsuffix
  obtain ⟨-, hmany, -⟩ := hrecursive hconsumes
  refine ⟨hsuffix, hconsumes, ?_, hmany1⟩
  rw [← hmany, digit, run_many_satisfy]
  decide

/-- Where a repetition ends, its parser fails. -/
theorem LeavesSuffix.first_eq_none_of_run_many (hp : p.LeavesSuffix) (hc : p.Consumes) {values : List α}
    (h : p.many.run s = [(values, rest)]) : p.first rest = none := by
  refine hp.many_induction hc (motive := fun _ _ rest => p.first rest = none) ?_ ?_ h
  · intro s hnone
    exact hnone
  · intro s a rest as t _ _ ih
    exact ih

theorem LeavesSuffix.size_lt_of_run_many (hp : p.LeavesSuffix) (hc : p.Consumes) {as : List α}
    (h : p.many.run s = [(a :: as, rest)]) : rest.size < s.size := by
  cases hfirst : p.first s with
  | none =>
      rw [run_many_of_none hfirst] at h
      cases h
  | some reading =>
      obtain ⟨b, middle⟩ := reading
      have hlt : middle.size < s.size := hp.size_lt hc hfirst
      obtain ⟨bs, t, hmany⟩ := exists_run_many p middle
      obtain ⟨-, rfl⟩ := run_singleton_inj (run_many_of_lt hfirst hlt hmany) h
      calc t.size ≤ middle.size := hp.many.size_le (first_eq_of_run hmany)
        _ < s.size := hlt

theorem run_many_optional (hp : p.LeavesSuffix) (hc : p.Consumes) {values : List α}
    (h : p.many.run s = [(values, rest)]) : p.optional.many.run s = [(values.map some ++ [none], rest)] := by
  refine hp.many_induction hc
    (motive := fun s values rest => p.optional.many.run s = [(values.map some ++ [none], rest)]) ?_ ?_ h
  · intro s hnone
    exact run_many_of_not_lt (first_eq_of_run (run_optional_of_none hnone)) (Nat.lt_irrefl _)
  · intro s a rest as t hfirst hlt ih
    exact run_many_of_lt (first_eq_of_run (run_optional_of_first hfirst)) hlt ih

/-- A repetition that finds nothing ends the one around it. -/
theorem run_many_many_of_nil (h : p.many.run s = [([], s)]) : p.many.many.run s = [([[]], s)] :=
  run_many_of_not_lt (first_eq_of_run h) (Nat.lt_irrefl _)

theorem run_many_many_of_cons (hp : p.LeavesSuffix) (hc : p.Consumes) {as : List α}
    (h : p.many.run s = [(a :: as, rest)]) : p.many.many.run s = [([a :: as, []], rest)] := by
  have hnone : p.first rest = none := hp.first_eq_none_of_run_many hc h
  have hrest : p.many.many.run rest = [([[]], rest)] := run_many_many_of_nil (run_many_of_none hnone)
  exact run_many_of_lt (first_eq_of_run h) (hp.size_lt_of_run_many hc h) hrest

/-- Repeating what may take nothing ends, for a parser that never succeeds without taking something. An optional value
is read as long as there is one, and then its absence once; a repetition of repetitions reads all values in its first
turn, if there are any, and none in its last one. -/
theorem run_many_nullable (hp : p.LeavesSuffix) (hc : p.Consumes) :
    (WellFounded fun t s => p.optional.GoesOn s t) ∧
      (WellFounded fun t s => p.many.GoesOn s t) ∧
      ∀ s, ∃ values rest, p.many.run s = [(values, rest)] ∧
        p.optional.many.run s = [(values.map some ++ [none], rest)] ∧
        (values ≠ [] → p.many.many.run s = [([values, []], rest)]) ∧
        (values = [] → p.many.many.run s = [([[]], rest)]) ∧
        ∃ nested, p.many.many.run s = [(nested, rest)] ∧ nested.flatten = values := by
  refine ⟨hp.optional.wellFounded_goesOn, hp.many.wellFounded_goesOn, fun s => ?_⟩
  rcases run_many1_cases p s with ⟨-, hmany⟩ | ⟨a, as, rest, -, hmany⟩
  · have hnested := run_many_many_of_nil hmany
    refine ⟨[], s, hmany, run_many_optional hp hc hmany, ?_, fun _ => hnested, [[]], hnested, rfl⟩
    intro hne
    exact absurd rfl hne
  · have hnested := run_many_many_of_cons hp hc hmany
    refine ⟨a :: as, rest, hmany, run_many_optional hp hc hmany, fun _ => hnested, ?_, [a :: as, []], hnested, ?_⟩
    · intro hnil
      cases hnil
    · simp

/-- Two digits, and what follows them. -/
theorem run_many_nullable_digit :
    digit.LeavesSuffix ∧ digit.Consumes ∧
      digit.optional.many.run "42km" = [([some '4', some '2', none], ↑"km")] ∧
      digit.many.many.run "42km" = [([['4', '2'], []], ↑"km")] := by
  have hsuffix : digit.LeavesSuffix := leavesSuffix_satisfy _
  have hconsumes : digit.Consumes := consumes_satisfy _
  have hdigits : digit.many.run "42km" = [(['4', '2'], ↑"km")] := by
    rw [digit, run_many_satisfy]
    decide
  obtain ⟨-, -, hruns⟩ := run_many_nullable hsuffix hconsumes
  obtain ⟨values, rest, hmany, hoptional, hcons, -⟩ := hruns "42km"
  obtain ⟨rfl, rfl⟩ := run_singleton_inj hdigits hmany
  exact ⟨hsuffix, hconsumes, hoptional, hcons (List.cons_ne_nil _ _)⟩

end Consuming

end ParserKit.Parser
