import ParserKit.Proofs.Parser.Remainders
import ParserKit.Traced

/-! The turns of a repetition. Each turn runs the parser on what the turn before left, so the places where it is run
move to the end of the text; a turn that took nothing is the last one, since it would repeat itself for ever. What a
repetition reads is then determined by its places: they are listed here turn by turn, together with the reason why
the last one is the last, and with the record that a marked parser keeps of its runs. -/

namespace ParserKit.Parser

universe u v

variable {α : Type u} {β : Type v} {p : Parser α} {s rest : Text} {a : α}

theorem LeavesSuffix.eq_of_not_lt (hp : p.LeavesSuffix) (h : p.first s = some (a, rest)) (hlt : ¬rest.size < s.size) :
    rest = s := by
  obtain ⟨taken, hs⟩ := hp.exists_of_first h
  have hsize : s.size = taken.length + rest.size := by
    rw [hs, Text.size_prepend]
  have hnil : taken = [] := List.eq_nil_of_length_eq_zero (by omega)
  rw [hs, hnil, Text.nil_prepend]

theorem LeavesSuffix.size_lt_iff (hp : p.LeavesSuffix) (h : p.first s = some (a, rest)) :
    rest.size < s.size ↔ rest.size ≠ s.size := by
  have hle := hp.size_le h
  omega

/-- A turn at `s` that is not the last one: the parser succeeds there and leaves `t`, a text of another size. -/
def GoesOn (p : Parser α) (s t : Text) : Prop := ∃ a, p.first s = some (a, t) ∧ t.size ≠ s.size

theorem LeavesSuffix.size_lt_of_goesOn (hp : p.LeavesSuffix) {t : Text} (h : p.GoesOn s t) : t.size < s.size := by
  obtain ⟨a, hfirst, hne⟩ := h
  exact (hp.size_lt_iff hfirst).mpr hne

/-- The loop with the other guard: a turn is the last one if it leaves a text of the same size. -/
theorem LeavesSuffix.iterate_eq (hp : p.LeavesSuffix) (step : β → α → β) (acc : β) (s : Text) :
    p.iterate step acc s = match p.first s with
      | none => (acc, s)
      | some (a, rest) => if rest.size = s.size then (step acc a, rest) else p.iterate step (step acc a) rest := by
  cases h : p.first s with
  | none => exact iterate_of_none h step acc
  | some reading =>
      obtain ⟨a, rest⟩ := reading
      show _ = if rest.size = s.size then _ else _
      by_cases hsize : rest.size = s.size
      · rw [iterate_of_not_lt h (by omega), if_pos hsize]
      · rw [iterate_of_lt h ((hp.size_lt_iff h).mpr hsize), if_neg hsize]

theorem LeavesSuffix.run_many1_eq (hp : p.LeavesSuffix) (s : Text) :
    p.many1.run s = match p.first s with
      | none => []
      | some (a, rest) => if rest.size = s.size then [([a], rest)] else [p.collect [a] rest] := by
  cases h : p.first s with
  | none => exact run_many1_of_none h
  | some reading =>
      obtain ⟨a, rest⟩ := reading
      show _ = if rest.size = s.size then _ else _
      by_cases hsize : rest.size = s.size
      · rw [run_many1_of_not_lt h (by omega), if_pos hsize]
      · have hlt : rest.size < s.size := (hp.size_lt_iff h).mpr hsize
        rw [if_neg hsize]
        simp only [Parser.many1, h, if_pos hlt]

/-- No repetition goes on for ever. -/
theorem LeavesSuffix.wellFounded_goesOn (hp : p.LeavesSuffix) : WellFounded fun t s => p.GoesOn s t :=
  Subrelation.wf (fun h => hp.size_lt_of_goesOn h) (measure Text.size).wf

theorem attemptsAfter_eq (p : Parser α) (earlier : List Text) (s : Text) :
    p.attemptsAfter earlier s = p.attemptsAfter [] s ++ earlier := by
  induction s using repetition_induction p generalizing earlier with
  | failed s h =>
      rw [attemptsAfter, attemptsAfter, h]
      rfl
  | last s a rest h hlt =>
      rw [attemptsAfter, attemptsAfter, h]
      simp only [if_neg hlt]
      rfl
  | turn s a rest h hlt ih =>
      rw [attemptsAfter, attemptsAfter, h]
      simp only [if_pos hlt]
      rw [ih (s :: earlier), ih [s], List.append_assoc]
      rfl

theorem attempts_of_none (h : p.first s = none) : p.attempts s = [s] := by
  rw [attempts, attemptsAfter, h]
  rfl

theorem attempts_of_lt (h : p.first s = some (a, rest)) (hlt : rest.size < s.size) :
    p.attempts s = s :: p.attempts rest := by
  rw [attempts, attemptsAfter, h]
  simp only [if_pos hlt]
  rw [attemptsAfter_eq, List.reverse_append]
  rfl

theorem attempts_of_not_lt (h : p.first s = some (a, rest)) (hlt : ¬rest.size < s.size) : p.attempts s = [s] := by
  rw [attempts, attemptsAfter, h]
  simp only [if_neg hlt]
  rfl

/-- The parser is run on the text where the repetition begins, and on those of a repetition that begins at a shorter
one, if there are any more turns. -/
theorem attempts_induction (p : Parser α) {motive : Text → List Text → Prop} (one : ∀ s, motive s [s])
    (more : ∀ s rest, rest.size < s.size → motive rest (p.attempts rest) → motive s (s :: p.attempts rest))
    (s : Text) : motive s (p.attempts s) := by
  induction s using repetition_induction p with
  | failed s h =>
      rw [attempts_of_none h]
      exact one s
  | last s a rest h hlt =>
      rw [attempts_of_not_lt h hlt]
      exact one s
  | turn s a rest h hlt ih =>
      rw [attempts_of_lt h hlt]
      exact more s rest hlt ih

theorem size_le_of_mem_attempts (p : Parser α) (s : Text) : ∀ t ∈ p.attempts s, t.size ≤ s.size := by
  refine attempts_induction p (motive := fun s attempts => ∀ t ∈ attempts, t.size ≤ s.size) ?_ ?_ s
  · intro s t ht
    exact Nat.le_of_eq (congrArg Text.size (List.mem_singleton.mp ht))
  · intro s rest hlt ih t ht
    rcases List.mem_cons.mp ht with rfl | ht
    · exact Nat.le_refl _
    · exact Nat.le_trans (ih t ht) (Nat.le_of_lt hlt)

/-- Each run has a shorter text than the runs before. -/
theorem pairwise_attempts (p : Parser α) (s : Text) : (p.attempts s).Pairwise fun t t' => t'.size < t.size := by
  refine attempts_induction p (motive := fun _ attempts => attempts.Pairwise fun t t' => t'.size < t.size) ?_ ?_ s
  · intro s
    exact List.pairwise_singleton _ s
  · intro s rest hlt ih
    refine List.pairwise_cons.mpr ⟨?_, ih⟩
    intro t ht
    exact Nat.lt_of_le_of_lt (size_le_of_mem_attempts p rest t ht) hlt

theorem nodup_attempts (p : Parser α) (s : Text) : (p.attempts s).Nodup := by
  refine (pairwise_attempts p s).imp ?_
  rintro t t' hlt rfl
  exact Nat.lt_irrefl _ hlt

theorem length_attempts_le (p : Parser α) (s : Text) : (p.attempts s).length ≤ s.size + 1 := by
  refine attempts_induction p (motive := fun s attempts => attempts.length ≤ s.size + 1) ?_ ?_ s
  · intro s
    rw [List.length_singleton]
    omega
  · intro s rest hlt ih
    rw [List.length_cons]
    omega

/-- The loop logs a visit of the marked parser for each text that it is run on, and no other. -/
theorem snd_recordIterate_mark (p : Parser α) (mark : String) (step : β → α → β) (acc : β) (s : Text) (log : Log) :
    (((Traced.plain p).mark mark).recordIterate step acc s log).2 =
      ((p.attempts s).map (Visit.mk mark)).reverse ++ log := by
  have hrecord : ∀ s log, ((Traced.plain p).mark mark).record s log = (p.run s, ⟨mark, s⟩ :: log) := fun _ _ => rfl
  induction s using repetition_induction p generalizing acc log with
  | failed s h =>
      rw [Traced.recordIterate, hrecord, first_eq_none_iff.mp h, attempts_of_none h]
      rfl
  | last s a rest h hlt =>
      obtain ⟨others, hrun⟩ := List.head?_eq_some_iff.mp h
      rw [Traced.recordIterate, hrecord, hrun, attempts_of_not_lt h hlt]
      simp only [if_neg hlt]
      rfl
  | turn s a rest h hlt ih =>
      obtain ⟨others, hrun⟩ := List.head?_eq_some_iff.mp h
      rw [Traced.recordIterate, hrecord, hrun, attempts_of_lt h hlt]
      simp only [if_pos hlt]
      rw [ih, List.map_cons, List.reverse_cons, List.append_assoc]
      rfl

/-- The turns of a repetition of `p` that begins at `s`. Turn `j` is a run of `p` at `place j`; it gives the value of
that number and leaves `place (j + 1)`. Every turn but the last takes something. -/
structure Turns (p : Parser α) (s : Text) (values : List α) (place : Nat → Text) : Prop where
  start : place 0 = s
  reads : ∀ (j : Nat) (h : j < values.length), p.first (place j) = some (values[j], place (j + 1))
  shorter : ∀ j, j + 1 < values.length → (place (j + 1)).size < (place j).size

/-- The places of a repetition with one turn at `s` in front. -/
def before (s : Text) (place : Nat → Text) : Nat → Text
  | 0 => s
  | j + 1 => place j

theorem map_before_range (s : Text) (place : Nat → Text) (n : Nat) :
    (List.range (n + 1)).map (before s place) = s :: (List.range n).map place := by
  rw [List.range_succ_eq_map, List.map_cons, List.map_map]
  rfl

theorem Turns.cons {values : List α} {place : Nat → Text} (h : p.first s = some (a, rest))
    (hlt : rest.size < s.size) (hrest : Turns p rest values place) : Turns p s (a :: values) (before s place) where
  start := rfl
  reads := by
    intro j hj
    cases j with
    | zero =>
        show p.first s = some (a, place 0)
        rw [h, hrest.start]
    | succ j => exact hrest.reads j (Nat.lt_of_succ_lt_succ hj)
  shorter := by
    intro j hj
    cases j with
    | zero =>
        show (place 0).size < s.size
        rw [hrest.start]
        exact hlt
    | succ j => exact hrest.shorter j (Nat.lt_of_succ_lt_succ hj)

/-- All places of a repetition lie in its text. -/
theorem Turns.exists_taken (hp : p.LeavesSuffix) {values : List α} {place : Nat → Text}
    (h : Turns p s values place) (j : Nat) (hj : j ≤ values.length) : ∃ taken : List Char, s = taken ++ place j := by
  induction j with
  | zero => exact ⟨[], by rw [h.start, Text.nil_prepend]⟩
  | succ j ih =>
      obtain ⟨front, hfront⟩ := ih (by omega)
      obtain ⟨back, hback⟩ := hp.exists_of_first (h.reads j hj)
      exact ⟨front ++ back, by rw [Text.append_prepend, ← hback, hfront]⟩

/-- A repetition that has come to its end, for one of two reasons that exclude each other: the parser fails there, so
that the end is one more text that it was run on, or it succeeded in the last turn and took nothing. -/
def Stops (p : Parser α) (turns : Nat) (place : Nat → Text) (attempts : List Text) : Prop :=
  p.run (place turns) = [] ∧ attempts = (List.range (turns + 1)).map place ∨
    p.run (place turns) ≠ [] ∧
      ∃ j, turns = j + 1 ∧ place (j + 1) = place j ∧ attempts = (List.range (j + 1)).map place

theorem Stops.before {turns : Nat} {place : Nat → Text} {attempts : List Text} (h : Stops p turns place attempts)
    (s : Text) : Stops p (turns + 1) (before s place) (s :: attempts) := by
  rcases h with ⟨hrun, rfl⟩ | ⟨hrun, j, rfl, hplace, rfl⟩
  · exact .inl ⟨hrun, (map_before_range s place _).symm⟩
  · exact .inr ⟨hrun, j + 1, rfl, hplace, (map_before_range s place _).symm⟩

theorem LeavesSuffix.exists_turns (hp : p.LeavesSuffix) (s : Text) : ∃ (values : List α) (place : Nat → Text),
    p.many.run s = [(values, place values.length)] ∧ Turns p s values place ∧
      Stops p values.length place (p.attempts s) := by
  induction s using repetition_induction p with
  | failed s h =>
      refine ⟨[], fun _ => s, run_many_of_none h, ⟨rfl, ?_, ?_⟩, .inl ⟨first_eq_none_iff.mp h, attempts_of_none h⟩⟩
      · intro j hj
        cases hj
      · intro j hj
        cases hj
  | last s a rest h hlt =>
      obtain rfl := hp.eq_of_not_lt h hlt
      have hne : p.run rest ≠ [] := by
        intro hnil
        rw [first_eq_none_iff.mpr hnil] at h
        cases h
      refine ⟨[a], fun _ => rest, run_many_of_not_lt h hlt, ⟨rfl, ?_, ?_⟩,
        .inr ⟨hne, 0, rfl, rfl, attempts_of_not_lt h hlt⟩⟩
      · intro j hj
        obtain rfl : j = 0 := by simpa using hj
        exact h
      · intro j hj
        simp at hj
  | turn s a rest h hlt ih =>
      obtain ⟨values, place, hrun, hturns, hstops⟩ := ih
      refine ⟨a :: values, before s place, run_many_of_lt h hlt hrun, hturns.cons h hlt, ?_⟩
      rw [attempts_of_lt h hlt]
      exact hstops.before s

/-- A repetition ends on every text and has one reading. It takes turns from place to place, collects their values in
order and leaves the place where it stops: there the parser fails, or the last turn took nothing. The parser is never
run twice on the same text, and no more often than there are characters, and once more; a marked parser records just
these runs. -/
theorem run_many_turns (hp : p.LeavesSuffix) :
    (WellFounded fun t s => p.GoesOn s t) ∧
      ∀ s, ∃ (values : List α) (place : Nat → Text),
        p.many.run s = [(values, place values.length)] ∧
        Turns p s values place ∧
        (∀ j ≤ values.length, ∃ taken : List Char, s = taken ++ place j) ∧
        Stops p values.length place (p.attempts s) ∧
        (p.attempts s).Nodup ∧
        (p.attempts s).length ≤ s.size + 1 ∧
        ∀ (mark : String) (log : Log), ((Traced.plain p).mark mark).many.record s log =
          (p.many.run s, ((p.attempts s).map (Visit.mk mark)).reverse ++ log) := by
  refine ⟨hp.wellFounded_goesOn, fun s => ?_⟩
  obtain ⟨values, place, hrun, hturns, hstops⟩ := hp.exists_turns s
  refine ⟨values, place, hrun, hturns, hturns.exists_taken hp, hstops, nodup_attempts p s, length_attempts_le p s, ?_⟩
  intro mark log
  exact Prod.ext (Traced.readings_record _ s log) (snd_recordIterate_mark p mark _ [] s log)

/-- Two letters, or nothing. -/
def lettersOrNothing : Parser Text := (literal "ab").orElse (succeed ∅)

/-- Two turns that take letters, and one that takes nothing. -/
theorem run_many_turns_lettersOrNothing :
    lettersOrNothing.LeavesSuffix ∧ lettersOrNothing.many.run "ababc" = [([↑"ab", ↑"ab", ∅], ↑"c")] ∧
      ∃ place : Nat → Text, Turns lettersOrNothing "ababc" [↑"ab", ↑"ab", ∅] place ∧ place 3 = ↑"c" ∧
        Stops lettersOrNothing 3 place (lettersOrNothing.attempts "ababc") ∧
        (lettersOrNothing.attempts "ababc").length ≤ 6 := by
  have hsuffix : lettersOrNothing.LeavesSuffix := (leavesSuffix_literal _).orElse (leavesSuffix_succeed _)
  have hmany : lettersOrNothing.many.run "ababc" = [([↑"ab", ↑"ab", ∅], ↑"c")] := by cbv
  obtain ⟨-, hruns⟩ := run_many_turns hsuffix
  obtain ⟨values, place, hrun, hturns, -, hstops, -, hlength, -⟩ := hruns "ababc"
  obtain ⟨rfl, hplace⟩ := run_singleton_inj hmany hrun
  exact ⟨hsuffix, hmany, place, hturns, hplace.symm, hstops, hlength⟩

end ParserKit.Parser
