import ParserKit.Roman.Letter

/-! Numerals in proper form, given by their parts, and the numeral of a number. For each of the units, tens
and hundreds there may be a nine, a five, a four and up to three ones, in this order; before them stand any
number of thousands. -/

namespace ParserKit.Roman

/-- What a numeral has for one decimal place. -/
structure Place where
  nine : Bool
  five : Bool
  four : Bool
  ones : Fin 4
deriving DecidableEq, Repr

namespace Place

/-- The letters of a place, where its parts are written with the given pairs and letters. -/
def letters (p : Place) (nine : Pair) (five : Letter) (four : Pair) (one : Letter) : List Letter :=
  (if p.nine then nine.letters else []) ++ (if p.five then [five] else []) ++
    (if p.four then four.letters else []) ++ List.replicate p.ones one

/-- The value of a place in units of itself. -/
def value (p : Place) : Nat :=
  (if p.nine then 9 else 0) + (if p.five then 5 else 0) + (if p.four then 4 else 0) + p.ones

end Place

/-- The parts of a numeral in proper form. -/
structure ProperNumeral where
  thousands : Nat
  hundreds : Place
  tens : Place
  units : Place
deriving DecidableEq, Repr

namespace ProperNumeral

/-- The letters that a numeral is written with. -/
def letters (n : ProperNumeral) : List Letter :=
  List.replicate n.thousands .M ++ n.hundreds.letters .CM .D .CD .C ++ n.tens.letters .XC .L .XL .X ++
    n.units.letters .IX .V .IV .I

def value (n : ProperNumeral) : Nat :=
  1000 * n.thousands + 100 * n.hundreds.value + 10 * n.tens.value + n.units.value

end ProperNumeral

/-- What numerals are composed of, the greatest first. -/
def denominations : List (Nat × List Letter) :=
  [(1000, [.M]), (900, Pair.CM.letters), (500, [.D]), (400, Pair.CD.letters), (100, [.C]), (90, Pair.XC.letters),
    (50, [.L]), (40, Pair.XL.letters), (10, [.X]), (9, Pair.IX.letters), (5, [.V]), (4, Pair.IV.letters), (1, [.I])]

/-- Writes `n` with the given denominations, each as often as it fits into what the ones before it left. -/
def compose : List (Nat × List Letter) → Nat → List Letter
  | [], _ => []
  | (value, letters) :: smaller, n =>
    (List.replicate (n / value) letters).flatten ++ compose smaller (n % value)

/-- The numeral of `n`. -/
def encode (n : Nat) : List Letter := compose denominations n

end ParserKit.Roman
