import ParserKit.Roman.Letter

/-! Numerals, read in two ways. A numeral in proper form is read in groups, each a pair or a run of one letter, and
the groups must be within the limits of their letters and strictly fall in value. Without regard to form a numeral is
a sequence of symbols in any order, each a pair or a letter, and pairs before letters. -/

namespace ParserKit.Roman

/-- A pair, or `count` of the same letter in a row. -/
inductive Group
  | pair (p : Pair)
  | run (letter : Letter) (count : Nat)
deriving DecidableEq, Repr

namespace Group

/-- The letters that a group is written with. -/
def letters : Group → List Letter
  | pair p => p.letters
  | run l n => List.replicate n l

/-- The value of a group, if it is within the limit of numerals. A run is refused where its count or the product with
the value of its letter exceeds the limit; the letter itself always has a value. -/
def value : Group → Option Nat
  | pair p => some p.value
  | run l n => (checked maxUnsigned n).bind fun n => checked maxUnsigned (l.value * n)

/-- Whether a run keeps the limit of its letter. -/
def withinLimit : Group → Bool
  | pair _ => true
  | run l n => match l.maxRun with
    | some limit => n ≤ limit
    | none => true

end Group

/-- One group: a pair if there is one, else all that stand together of the next letter. -/
def group : Parser Group :=
  (anyPair.map .pair).orElse
    (anyLetter.bind fun l => (letter l).many.map fun more => .run l (more.length + 1))

/-- Whether each number exceeds the one after it. -/
def strictlyFalling : List Nat → Bool
  | a :: b :: rest => b < a && strictlyFalling (b :: rest)
  | _ => true

/-- The value of groups that make a numeral in proper form, if it is within the limit of numerals: each group keeps
the limit of its letter and has a value, and the values fall. -/
def valueOf? (groups : List Group) : Option Nat :=
  if groups.all Group.withinLimit then
    (groups.mapM Group.value).bind fun values =>
      if strictlyFalling values then checkedSum maxUnsigned values else none
  else none

/-- The value of a numeral in proper form. All the letters that stand together belong to it; if they do
not make one there is no reading, not a reading of fewer letters. -/
def numeral : Parser Nat := group.many1.bind fun groups => .ofOption (valueOf? groups)

/-- The value of one symbol. A pair is read as one wherever it stands. -/
def symbolValue : Parser Nat := (anyPair.map Pair.value).orElse (anyLetter.map Letter.value)

/-- The sum of the symbols of a text; that of none is `0`. -/
def uncheckedNumeral : Parser Nat :=
  symbolValue.many.bind fun values => .ofOption (checkedSum maxUnsigned values)

end ParserKit.Roman
