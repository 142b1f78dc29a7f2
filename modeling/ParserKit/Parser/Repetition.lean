import ParserKit.Parser.Basic

/-! Repetition and recursion. In a repetition a parser is run again and again, each time on what the run before
left over, until it fails. A match that takes nothing counts once and ends the repetition, since the next run would
only repeat it; so every run but the last leaves a shorter text and the loop ends. The loop asks for a shorter
remainder where it could ask for one of another size: this is the same for every parser that leaves an end of its
text (`LeavesSuffix.iterate_eq`, `LeavesSuffix.run_many1_eq`), and a parser that answers with a longer text, which
could be run for ever, has its last turn there.

A rule that mentions itself is a function of the parser for its own occurrences. Those occurrences come after at least
one character has been taken, so it is enough that they work on shorter texts: `recur` gives the rule a parser that
runs on shorter texts only, and so always ends. -/

namespace ParserKit.Parser

universe u v

variable {α : Type u} {β : Type v}

/-- Folds `step` over the values of repeated runs of `p` on `s`, starting from `acc`, and gives the
text that is left. A run that leaves no shorter text is the last one. -/
@[specialize]
def iterate (p : Parser α) (step : β → α → β) (acc : β) (s : Text) : β × Text :=
  match p.first s with
  | none => (acc, s)
  | some (v, rest) =>
    if rest.size < s.size then iterate p step (step acc v) rest else (step acc v, rest)
termination_by s.size

/-- Any number of runs of `p`, their values folded from `seed`. Never fails. -/
def fold (p : Parser α) (seed : β) (step : β → α → β) : Parser β :=
  ⟨fun s => [p.iterate step seed s]⟩

/-- Any number of runs of `p`, after values already collected, the latest first. -/
def collect (p : Parser α) (latest : List α) (s : Text) : List α × Text :=
  let (values, rest) := p.iterate (fun values v => v :: values) latest s
  (values.reverse, rest)

/-- The values of any number of runs of `p`. Never fails. -/
def many (p : Parser α) : Parser (List α) := ⟨fun s => [p.collect [] s]⟩

/-- The values of one run of `p` or more. -/
def many1 (p : Parser α) : Parser (List α) :=
  ⟨fun s => match p.first s with
    | none => []
    | some (v, rest) => if rest.size < s.size then [p.collect [v] rest] else [([v], rest)]⟩

/-- The value of `p`, if it succeeds. Never fails. -/
def optional (p : Parser α) : Parser (Option α) :=
  ⟨fun s => match p.first s with
    | some (v, rest) => [(some v, rest)]
    | none => [(none, s)]⟩

/-- Exactly `n` runs of `p`. -/
def times : Nat → Parser α → Parser (List α)
  | 0, _ => succeed []
  | n + 1, p => p.bind fun v => (times n p).map fun vs => v :: vs

/-- The texts that a repetition of `p` on `s` runs `p` on, after those of `earlier`, the latest
first. -/
def attemptsAfter (p : Parser α) (earlier : List Text) (s : Text) : List Text :=
  match p.first s with
  | none => s :: earlier
  | some (_, rest) =>
    if rest.size < s.size then attemptsAfter p (s :: earlier) rest else s :: earlier
termination_by s.size

/-- The texts that a repetition of `p` on `s` runs `p` on, in order. -/
def attempts (p : Parser α) (s : Text) : List Text := (p.attemptsAfter [] s).reverse

theorem iterate_of_none {p : Parser α} {s : Text} (h : p.first s = none) (step : β → α → β) (acc : β) :
    p.iterate step acc s = (acc, s) := by
  rw [iterate, h]

theorem iterate_of_lt {p : Parser α} {s rest : Text} {v : α} (h : p.first s = some (v, rest))
    (hlt : rest.size < s.size) (step : β → α → β) (acc : β) :
    p.iterate step acc s = p.iterate step (step acc v) rest := by
  rw [iterate, h]
  simp [hlt]

theorem iterate_of_not_lt {p : Parser α} {s rest : Text} {v : α} (h : p.first s = some (v, rest))
    (hlt : ¬ rest.size < s.size) (step : β → α → β) (acc : β) :
    p.iterate step acc s = (step acc v, rest) := by
  rw [iterate, h]
  simp [hlt]

/-- Values collected earlier stand in front of those of the runs to come. -/
theorem collect_append (p : Parser α) (latest : List α) (s : Text) :
    p.collect latest s = (latest.reverse ++ (p.collect [] s).1, (p.collect [] s).2) := by
  have key : ∀ (earlier latest : List α),
      p.iterate (fun values v => v :: values) (latest ++ earlier) s =
        ((p.iterate (fun values v => v :: values) latest s).1 ++ earlier,
          (p.iterate (fun values v => v :: values) latest s).2) := by
    intro earlier latest
    fun_induction iterate p (fun values v => v :: values) latest s with
    | case1 acc s h => rw [iterate_of_none h]
    | case2 acc s v rest h hlt ih => rw [iterate_of_lt h hlt, ← ih]; rfl
    | case3 acc s v rest h hlt => rw [iterate_of_not_lt h hlt]; rfl
  have := key latest []
  simp only [List.nil_append] at this
  simp [collect, this]

/-- The readings of `recur rule`. -/
def recurOn (rule : Parser α → Parser α) (s : Text) : List (α × Text) :=
  (rule ⟨fun t => if t.size < s.size then recurOn rule t else []⟩).run s
termination_by s.size

/-- The parser of a rule that may refer to itself once it has taken a character. -/
def recur (rule : Parser α → Parser α) : Parser α := ⟨recurOn rule⟩

theorem run_recur (rule : Parser α → Parser α) (s : Text) :
    (recur rule).run s = (rule ⟨fun t => if t.size < s.size then (recur rule).run t else []⟩).run s := by
  change recurOn rule s = _
  rw [recurOn]
  rfl

/-- A rule whose readings of a text depend on its own occurrences through shorter texts only holds of
`recur rule` as it stands. -/
theorem recur_eq {rule : Parser α → Parser α}
    (h : ∀ p q s, (∀ t : Text, t.size < s.size → p.run t = q.run t) → (rule p).run s = (rule q).run s) :
    recur rule = rule (recur rule) := by
  ext1
  funext s
  rw [run_recur]
  exact h _ _ s fun t ht => if_pos ht

end ParserKit.Parser
