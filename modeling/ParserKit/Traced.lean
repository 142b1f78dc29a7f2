import ParserKit.Parser.Repetition
import ParserKit.Lexical

/-! Parsers with marked parts, and the record of where these were run. Parsers are functions and leave
no record of their own. A traced parser is a parser together with a way to run it that also writes a log:
each run of a marked part adds a visit to it. That both have the same readings is part of the type, so a
record can never disturb a parse. -/

namespace ParserKit

universe u v

/-- The run of a marked parser: its mark and the text it was run on. -/
structure Visit where
  mark : String
  text : Text
deriving DecidableEq

/-- The visits so far, the latest first. -/
abbrev Log := List Visit

/-- A parser, and a run of it that adds its visits to a log. -/
structure Traced (α : Type u) where
  parser : Parser α
  record : Text → Log → List (α × Text) × Log
  readings_record : ∀ s log, (record s log).1 = parser.run s

namespace Traced

variable {α : Type u} {β : Type v}

theorem first_eq (p : Traced α) (s : Text) (log : Log) : p.parser.first s = (p.record s log).1.head? := by
  rw [Parser.first, p.readings_record]

/-- A parser without marked parts. -/
def plain (p : Parser α) : Traced α := ⟨p, fun s log => (p.run s, log), fun _ _ => rfl⟩

/-- Marks a parser: every run of it is a visit, followed by the visits of its parts. -/
def mark (name : String) (p : Traced α) : Traced α where
  parser := p.parser
  record s log := p.record s (⟨name, s⟩ :: log)
  readings_record s log := p.readings_record s (⟨name, s⟩ :: log)

def bind (p : Traced α) (f : α → Traced β) : Traced β where
  parser := p.parser.bind fun v => (f v).parser
  record s log := match p.record s log with
    | ([], log) => ([], log)
    | ((v, rest) :: _, log) => (f v).record rest log
  readings_record s log := by
    simp only [Parser.bind, p.first_eq s log]
    split
    · next h => simp [h]
    · next v rest more log' h => simp [h, (f v).readings_record rest log']

def map (p : Traced α) (f : α → β) : Traced β where
  parser := p.parser.map f
  record s log := match p.record s log with
    | ([], log) => ([], log)
    | ((v, rest) :: _, log) => ([(f v, rest)], log)
  readings_record s log := by
    simp only [Parser.map, p.first_eq s log]
    split <;> next h => simp [h]

def orElse (p q : Traced α) : Traced α where
  parser := p.parser.orElse q.parser
  record s log := match p.record s log with
    | ([], log) => q.record s log
    | (reading :: more, log) => (reading :: more, log)
  readings_record s log := by
    simp only [Parser.orElse, ← p.readings_record s log]
    split
    · next log' h => simp [h, q.readings_record s log']
    · next h => simp [h]

def both (p : Traced α) (q : Traced β) : Traced (α × β) := p.bind fun a => q.map fun b => (a, b)

def keepLeft (p : Traced α) (q : Traced β) : Traced α := p.bind fun a => q.map fun _ => a

def keepRight (p : Traced α) (q : Traced β) : Traced β := p.bind fun _ => q

def token (p : Traced α) : Traced α := ((plain Parser.space).keepRight p).keepLeft (plain Parser.space)

/-- Folds `step` over the values of repeated runs of `p`, and logs their visits. -/
@[specialize]
def recordIterate (p : Traced α) (step : β → α → β) (acc : β) (s : Text) (log : Log) : (β × Text) × Log :=
  match p.record s log with
  | ([], log) => ((acc, s), log)
  | ((v, rest) :: _, log) =>
    if rest.size < s.size then recordIterate p step (step acc v) rest log else ((step acc v, rest), log)
termination_by s.size

theorem fst_recordIterate (p : Traced α) (step : β → α → β) (acc : β) (s : Text) (log : Log) :
    (p.recordIterate step acc s log).1 = p.parser.iterate step acc s := by
  fun_induction recordIterate p step acc s log with
  | case1 acc s log log' h =>
    have hp : p.parser.first s = none := by rw [p.first_eq s log, h]; rfl
    rw [Parser.iterate_of_none hp]
  | case2 acc s log v rest more log' h hlt ih =>
    have hp : p.parser.first s = some (v, rest) := by rw [p.first_eq s log, h]; rfl
    rw [ih, Parser.iterate_of_lt hp hlt]
  | case3 acc s log v rest more log' h hlt =>
    have hp : p.parser.first s = some (v, rest) := by rw [p.first_eq s log, h]; rfl
    rw [Parser.iterate_of_not_lt hp hlt]

def fold (p : Traced α) (seed : β) (step : β → α → β) : Traced β where
  parser := p.parser.fold seed step
  record s log :=
    let (result, log) := p.recordIterate step seed s log
    ([result], log)
  readings_record s log := congrArg (fun result => [result]) (p.fst_recordIterate step seed s log)

/-- Collects the values of repeated runs of `p` after those of `latest`, and logs their visits. -/
def recordCollect (p : Traced α) (latest : List α) (s : Text) (log : Log) : List (List α × Text) × Log :=
  let ((values, rest), log) := p.recordIterate (fun values v => v :: values) latest s log
  ([(values.reverse, rest)], log)

theorem fst_recordCollect (p : Traced α) (latest : List α) (s : Text) (log : Log) :
    (p.recordCollect latest s log).1 = [p.parser.collect latest s] := by
  simp only [recordCollect, Parser.collect, fst_recordIterate]

def many (p : Traced α) : Traced (List α) where
  parser := p.parser.many
  record s log := p.recordCollect [] s log
  readings_record s log := p.fst_recordCollect [] s log

def many1 (p : Traced α) : Traced (List α) where
  parser := p.parser.many1
  record s log := match p.record s log with
    | ([], log) => ([], log)
    | ((v, rest) :: _, log) =>
      if rest.size < s.size then p.recordCollect [v] rest log else ([([v], rest)], log)
  readings_record s log := by
    simp only [Parser.many1, p.first_eq s log]
    split
    · next h => simp [h]
    · next v rest more log' h =>
      simp only [h, List.head?_cons]
      split
      · exact p.fst_recordCollect [v] rest log'
      · rfl

def optional (p : Traced α) : Traced (Option α) where
  parser := p.parser.optional
  record s log := match p.record s log with
    | ([], log) => ([(none, s)], log)
    | ((v, rest) :: _, log) => ([(some v, rest)], log)
  readings_record s log := by
    simp only [Parser.optional, p.first_eq s log]
    split <;> next h => simp [h]

def times : Nat → Traced α → Traced (List α)
  | 0, _ => plain (.succeed [])
  | n + 1, p => p.bind fun v => (times n p).map fun vs => v :: vs

/-- All readings of parsers on one text, and the log of their visits. -/
def recordEach : List (Traced α) → Text → Log → List (α × Text) × Log
  | [], _, log => ([], log)
  | p :: ps, s, log =>
    let (readings, log) := p.record s log
    let (more, log) := recordEach ps s log
    (readings ++ more, log)

theorem fst_recordEach (ps : List (Traced α)) (s : Text) (log : Log) :
    (recordEach ps s log).1 = (Parser.each (ps.map parser)).run s := by
  induction ps generalizing log with
  | nil => rfl
  | cons p ps ih => simp only [recordEach, p.readings_record, ih]; rfl

def each (ps : List (Traced α)) : Traced α := ⟨.each (ps.map parser), recordEach ps, fst_recordEach ps⟩

def lookahead (p : Traced α) : Traced α where
  parser := p.parser.lookahead
  record s log :=
    let (readings, log) := p.record s log
    (readings.map fun reading => (reading.1, s), log)
  readings_record s log := by
    simp only [Parser.lookahead, ← p.readings_record s log]

/-- A parser that may depend on the text it is run on, made when it is run. -/
def atRun (p : Text → Traced α) : Traced α where
  parser := ⟨fun s => (p s).parser.run s⟩
  record s log := (p s).record s log
  readings_record s log := (p s).readings_record s log

@[simp] theorem parser_plain (p : Parser α) : (plain p).parser = p := rfl

@[simp] theorem parser_mark (name : String) (p : Traced α) : (p.mark name).parser = p.parser := rfl

@[simp] theorem parser_bind (p : Traced α) (f : α → Traced β) :
    (p.bind f).parser = p.parser.bind fun v => (f v).parser := rfl

@[simp] theorem parser_map (p : Traced α) (f : α → β) : (p.map f).parser = p.parser.map f := rfl

@[simp] theorem parser_orElse (p q : Traced α) : (p.orElse q).parser = p.parser.orElse q.parser := rfl

@[simp] theorem parser_both (p : Traced α) (q : Traced β) : (p.both q).parser = p.parser.both q.parser := rfl

@[simp] theorem parser_keepLeft (p : Traced α) (q : Traced β) :
    (p.keepLeft q).parser = p.parser.keepLeft q.parser := rfl

@[simp] theorem parser_keepRight (p : Traced α) (q : Traced β) :
    (p.keepRight q).parser = p.parser.keepRight q.parser := rfl

@[simp] theorem parser_token (p : Traced α) : p.token.parser = p.parser.token := rfl

@[simp] theorem parser_many (p : Traced α) : p.many.parser = p.parser.many := rfl

@[simp] theorem parser_many1 (p : Traced α) : p.many1.parser = p.parser.many1 := rfl

@[simp] theorem parser_fold (p : Traced α) (seed : β) (step : β → α → β) :
    (p.fold seed step).parser = p.parser.fold seed step := rfl

@[simp] theorem parser_optional (p : Traced α) : p.optional.parser = p.parser.optional := rfl

@[simp] theorem parser_times (n : Nat) (p : Traced α) : (times n p).parser = .times n p.parser := by
  induction n with
  | zero => rfl
  | succ n ih => simp only [times, Parser.times, parser_bind, parser_map, ih]

@[simp] theorem parser_each (ps : List (Traced α)) : (each ps).parser = .each (ps.map parser) := rfl

@[simp] theorem parser_lookahead (p : Traced α) : p.lookahead.parser = p.parser.lookahead := rfl

end Traced

end ParserKit
