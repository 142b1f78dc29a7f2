import ParserKit.Text

/-! Parsers that answer with every reading they found, in order of preference. A reading is a value
and the text left over; no reading means failure. The first reading is the canonical one and the only
one that sequencing goes on with, so an alternative is final as soon as it has succeeded: a choice
never returns to its second branch because of what comes later. -/

namespace ParserKit

universe u v

/-- A parser of values of type `α`: from a text to its readings. Any function will do: that what is left over is an end
of the text is a property of parsers (`Parser.LeavesSuffix`), not a part of their type. -/
@[ext]
structure Parser (α : Type u) where
  run : Text → List (α × Text)

namespace Parser

variable {α : Type u} {β : Type v}

/-- The text of a parser shown for diagnosis. A parser is a function, so nothing of it can be shown. -/
protected def toString (_ : Parser α) : String := "BoxedParser \x7b .. \x7d"

instance : ToString (Parser α) := ⟨Parser.toString⟩

instance : Repr (Parser α) := ⟨fun p _ => p.toString⟩

/-- The canonical reading: the first one. -/
def first (p : Parser α) (s : Text) : Option (α × Text) := (p.run s).head?

/-- Succeeds with `v` and consumes nothing. -/
def succeed (v : α) : Parser α := ⟨fun s => [(v, s)]⟩

/-- Never succeeds. -/
def fail : Parser α := ⟨fun _ => []⟩

instance : Inhabited (Parser α) := ⟨fail⟩

/-- Succeeds with the value there is, if there is one. -/
def ofOption : Option α → Parser α
  | some v => succeed v
  | none => fail

/-- Takes exactly one character. -/
def anyChar : Parser Char := ⟨fun s => s.uncons?.toList⟩

/-- Succeeds at the end of the text. -/
def atEnd : Parser Unit := ⟨fun s => if s.isEmpty then [((), s)] else []⟩

/-- Goes on with `f` from the canonical reading of `p`, and gives all the readings found there. -/
def bind (p : Parser α) (f : α → Parser β) : Parser β :=
  ⟨fun s => match p.first s with
    | some (v, rest) => (f v).run rest
    | none => []⟩

/-- The canonical reading of `p`, its value changed by `f`. -/
def map (p : Parser α) (f : α → β) : Parser β :=
  ⟨fun s => match p.first s with
    | some (v, rest) => [(f v, rest)]
    | none => []⟩

/-- All readings of `p` if there are any, else those of `q` on the same text. -/
def orElse (p q : Parser α) : Parser α :=
  ⟨fun s => match p.run s with
    | [] => q.run s
    | reading :: others => reading :: others⟩

/-- `p`, then `q`: both values. -/
def both (p : Parser α) (q : Parser β) : Parser (α × β) := p.bind fun a => q.map fun b => (a, b)

/-- `p`, then `q`: the value of `p`. -/
def keepLeft (p : Parser α) (q : Parser β) : Parser α := p.bind fun a => q.map fun _ => a

/-- `p`, then `q`: every reading of `q`. -/
def keepRight (p : Parser α) (q : Parser β) : Parser β := p.bind fun _ => q

/-- The first of `ps` that succeeds decides. -/
def oneOf (ps : List (Parser α)) : Parser α := ps.foldl orElse fail

/-- All readings of all of `ps` on the same text, in order. -/
def each (ps : List (Parser α)) : Parser α := ⟨fun s => ps.flatMap fun p => p.run s⟩

/-- The readings of `p`, consuming nothing. -/
def lookahead (p : Parser α) : Parser α := ⟨fun s => (p.run s).map fun reading => (reading.1, s)⟩

/-- Takes one character that `accepts` allows. -/
def satisfy (accepts : Char → Bool) : Parser Char :=
  anyChar.bind fun c => if accepts c then succeed c else fail

@[simp] theorem run_succeed (v : α) (s : Text) : (succeed v).run s = [(v, s)] := rfl

@[simp] theorem first_succeed (v : α) (s : Text) : (succeed v).first s = some (v, s) := rfl

@[simp] theorem run_fail (s : Text) : (fail : Parser α).run s = [] := rfl

@[simp] theorem first_fail (s : Text) : (fail : Parser α).first s = none := rfl

@[simp] theorem run_anyChar_empty : anyChar.run ∅ = [] := rfl

@[simp] theorem run_anyChar_cons (c : Char) (s : Text) : anyChar.run (.cons c s) = [(c, s)] := by
  simp [anyChar]

theorem first_eq_none_iff {p : Parser α} {s : Text} : p.first s = none ↔ p.run s = [] :=
  List.head?_eq_none_iff

theorem run_bind (p : Parser α) (f : α → Parser β) (s : Text) :
    (p.bind f).run s = (p.first s).elim [] fun reading => (f reading.1).run reading.2 := by
  simp only [bind]
  cases p.first s <;> rfl

theorem run_map (p : Parser α) (f : α → β) (s : Text) :
    (p.map f).run s = ((p.first s).map fun reading => (f reading.1, reading.2)).toList := by
  simp only [map]
  cases p.first s <;> rfl

theorem first_map (p : Parser α) (f : α → β) (s : Text) :
    (p.map f).first s = (p.first s).map fun reading => (f reading.1, reading.2) := by
  rw [first, run_map]
  cases p.first s <;> rfl

theorem run_orElse (p q : Parser α) (s : Text) :
    (p.orElse q).run s = if p.run s = [] then q.run s else p.run s := by
  simp only [orElse]
  cases p.run s <;> simp

theorem first_orElse (p q : Parser α) (s : Text) :
    (p.orElse q).first s = (p.first s).or (q.first s) := by
  simp only [first, orElse]
  cases p.run s <;> simp

@[simp] theorem run_satisfy_empty (accepts : Char → Bool) : (satisfy accepts).run ∅ = [] := rfl

@[simp] theorem run_satisfy_cons (accepts : Char → Bool) (c : Char) (s : Text) :
    (satisfy accepts).run (.cons c s) = if accepts c then [(c, s)] else [] := by
  simp only [satisfy, bind, first, run_anyChar_cons, List.head?_cons]
  split <;> rfl

end Parser

end ParserKit
