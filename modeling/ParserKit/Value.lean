import ParserKit.Lexical

/-! Values of parsers that are put together from a description, and the operations on them that such a
description may name. Integers are signed words of 64 bits and wrap. -/

namespace ParserKit

/-- What a described parser may give. -/
inductive Value
  | unit
  | char (c : Char)
  | text (s : String)
  | int (n : Int64)
  | word (n : UInt64)
  | list (vs : Array Value)
  | pair (a b : Value)
  | absent
  | present (v : Value)
deriving Inhabited

namespace Value

/-- The number in a value: an integer, a word with the same bits, a decimal digit, else `0`. -/
def num : Value → Int64
  | int n => n
  | word n => n.toInt64
  | char c => Int64.ofNat (Parser.digitValue c)
  | _ => 0

mutual

/-- Writes the text of a value after `acc`. -/
def writeAfter : String → Value → String
  | acc, unit | acc, absent => acc
  | acc, char c => acc.push c
  | acc, text s => acc ++ s
  | acc, int n => acc ++ toString n.toInt
  | acc, word n => acc ++ toString n.toNat
  | acc, list ⟨vs⟩ => writeAllAfter acc vs
  | acc, pair a b => writeAfter (writeAfter acc a) b
  | acc, present v => writeAfter acc v

/-- Writes the texts of values one after the other, after `acc`. -/
def writeAllAfter : String → List Value → String
  | acc, [] => acc
  | acc, v :: vs => writeAllAfter (writeAfter acc v) vs

end

/-- The text of a value: that of its characters and numbers, one after the other. -/
def write : Value → String
  | text s => s
  | v => writeAfter "" v

mutual

/-- Whether two values are of one kind and have equal content. -/
def same : Value → Value → Bool
  | unit, unit | absent, absent => true
  | char c, char d => c == d
  | text s, text t => s == t
  | int n, int m => n == m
  | word n, word m => n == m
  | list ⟨vs⟩, list ⟨ws⟩ => sameAll vs ws
  | pair a b, pair c d => same a c && same b d
  | present v, present w => same v w
  | _, _ => false

/-- Whether two lists have the same values in the same order. -/
def sameAll : List Value → List Value → Bool
  | [], [] => true
  | v :: vs, w :: ws => same v w && sameAll vs ws
  | _, _ => false

end

mutual

theorem same_iff : ∀ v w : Value, same v w = true ↔ v = w
  | unit, w => by cases w <;> simp [same]
  | absent, w => by cases w <;> simp [same]
  | char _, w => by cases w <;> simp [same]
  | text _, w => by cases w <;> simp [same]
  | int _, w => by cases w <;> simp [same]
  | word _, w => by cases w <;> simp [same]
  | list ⟨vs⟩, w => by
    cases w with
    | list ws => cases ws; simp [same, sameAll_iff vs]
    | _ => simp [same]
  | pair a b, w => by cases w <;> simp [same, same_iff a, same_iff b]
  | present v, w => by cases w <;> simp [same, same_iff v]

theorem sameAll_iff : ∀ vs ws : List Value, sameAll vs ws = true ↔ vs = ws
  | [], ws => by cases ws <;> simp [sameAll]
  | v :: vs, ws => by cases ws <;> simp [sameAll, same_iff v, sameAll_iff vs]

end

instance : DecidableEq Value := fun v w => decidable_of_iff _ (same_iff v w)

end Value

/-- A function from values to values that a description may name. -/
inductive Mapping
  | identity
  | uppercase
  | number
  | increment
  | double
  | length
  | write
  | reverse
  | first
  | second
  | cons
  | singleton
  | present
  | unit
  | const (v : Value)

/-- The value that a mapping gives for `v`. -/
def Mapping.apply : Mapping → Value → Value
  | identity, v => v
  | uppercase, .char c => .char c.toUpper
  | uppercase, .text s => .text (s.map Char.toUpper)
  | uppercase, v => v
  | number, v => .int v.num
  | increment, v => .int (v.num + 1)
  | double, v => .int (v.num * 2)
  | length, .list vs => .int (.ofNat vs.size)
  | length, .text s => .int (.ofNat s.length)
  | length, _ => .int 0
  | write, v => .text v.write
  | reverse, .list vs => .list vs.reverse
  | reverse, v => v
  | first, .pair a _ => a
  | first, v => v
  | second, .pair _ b => b
  | second, v => v
  | cons, .pair a (.list vs) => .list (#[a] ++ vs)
  | cons, .pair a b => .list #[a, b]
  | cons, v => v
  | singleton, v => .list #[v]
  | present, v => .present v
  | unit, _ => .unit
  | const w, _ => w

/-- A way to combine what was gathered so far with one more value. -/
inductive Step
  | count
  | sum
  | subtract
  | decimal
  | concat
  | push
  | pair
  | last
  | first

/-- What is gathered once `v` has followed `acc`. -/
def Step.apply : Step → Value → Value → Value
  | count, acc, _ => .int (acc.num + 1)
  | sum, acc, v => .int (acc.num + v.num)
  | subtract, acc, v => .int (acc.num - v.num)
  | decimal, acc, v => .int (acc.num * 10 + v.num)
  | concat, acc, v => .text (v.writeAfter acc.write)
  | push, .list vs, v => .list (vs.push v)
  | push, acc, v => .list #[acc, v]
  | pair, acc, v => .pair acc v
  | last, _, v => v
  | first, acc, _ => acc

end ParserKit
