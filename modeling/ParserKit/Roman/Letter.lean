import ParserKit.Lexical

/-! The letters of Roman numerals and the six pairs in which a smaller letter is taken from a greater
one. -/

namespace ParserKit.Roman

/-- A letter of a numeral. -/
inductive Letter
  | I | V | X | L | C | D | M
deriving DecidableEq, Repr

namespace Letter

/-- All letters, the smallest first. -/
def all : List Letter := [I, V, X, L, C, D, M]

def toChar : Letter → Char
  | I => 'I'
  | V => 'V'
  | X => 'X'
  | L => 'L'
  | C => 'C'
  | D => 'D'
  | M => 'M'

def ofChar? : Char → Option Letter
  | 'I' => some I
  | 'V' => some V
  | 'X' => some X
  | 'L' => some L
  | 'C' => some C
  | 'D' => some D
  | 'M' => some M
  | _ => none

def value : Letter → Nat
  | I => 1
  | V => 5
  | X => 10
  | L => 50
  | C => 100
  | D => 500
  | M => 1000

/-- How often a letter may stand in a row; `none` where there is no limit. -/
def maxRun : Letter → Option Nat
  | I | X | C => some 3
  | V | L | D => some 1
  | M => none

@[simp] theorem ofChar?_toChar (l : Letter) : ofChar? l.toChar = some l := by cases l <;> rfl

theorem ofChar?_eq_some_iff {c : Char} {l : Letter} : ofChar? c = some l ↔ c = l.toChar := by
  constructor
  · intro h
    unfold ofChar? at h
    split at h <;> cases h <;> rfl
  · rintro rfl
    exact ofChar?_toChar l

theorem toChar_injective {l m : Letter} (h : l.toChar = m.toChar) : l = m := by
  simpa using congrArg ofChar? h

end Letter

/-- Two letters that stand for the second less the first. -/
inductive Pair
  | IV | IX | XL | XC | CD | CM
deriving DecidableEq, Repr

namespace Pair

/-- All pairs, the smallest first. -/
def all : List Pair := [IV, IX, XL, XC, CD, CM]

def less : Pair → Letter
  | IV | IX => .I
  | XL | XC => .X
  | CD | CM => .C

def greater : Pair → Letter
  | IV => .V
  | IX => .X
  | XL => .L
  | XC => .C
  | CD => .D
  | CM => .M

def letters (p : Pair) : List Letter := [p.less, p.greater]

def value (p : Pair) : Nat := p.greater.value - p.less.value

theorem value_add_less (p : Pair) : p.value + p.less.value = p.greater.value := by cases p <;> rfl

example : all.map value = [4, 9, 40, 90, 400, 900] := rfl

end Pair

/-- The text that letters spell. -/
def spell (ls : List Letter) : Text := .ofList (ls.map Letter.toChar)

/-- A pair, read as one. -/
def pair (p : Pair) : Parser Pair := (Parser.literal (spell p.letters)).map fun _ => p

/-- Any of the six pairs. -/
def anyPair : Parser Pair := .oneOf (Pair.all.map pair)

/-- A given letter. -/
def letter (l : Letter) : Parser Letter := (Parser.char l.toChar).map fun _ => l

/-- Any of the seven letters. -/
def anyLetter : Parser Letter := .oneOf (Letter.all.map letter)

end ParserKit.Roman
