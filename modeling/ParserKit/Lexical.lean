import ParserKit.Limit
import ParserKit.Parser.Repetition
import ParserKit.Unicode.Alphanumeric
import ParserKit.Unicode.Case
import ParserKit.Unicode.Invisible

/-! Parsers for characters of a class, literals, numbers, names, and tokens with white space around
them. -/

namespace ParserKit.Parser

universe u

variable {α : Type u}

/-- One of the ten ASCII digits. -/
def digit : Parser Char := satisfy Char.isDigit

/-- A lowercase character. -/
def lower : Parser Char := satisfy Unicode.isLowercase

/-- An uppercase character. -/
def upper : Parser Char := satisfy Unicode.isUppercase

/-- An alphabetic character. -/
def letter : Parser Char := satisfy Unicode.isAlphabetic

/-- An alphabetic or numeric character. -/
def alphaNum : Parser Char := satisfy Unicode.isAlphanumeric

/-- The character `c` itself. -/
def char (c : Char) : Parser Char := satisfy fun d => d == c

/-- The text `l` itself. -/
def literal (l : Text) : Parser Text :=
  ⟨fun s => match l.dropPrefix? s with
    | some rest => [(l, rest)]
    | none => []⟩

/-- Any amount of white space. -/
def space : Parser Unit := (satisfy Unicode.isWhiteSpace).many.map fun _ => ()

/-- `p` with white space around it. -/
def token (p : Parser α) : Parser α := (space.keepRight p).keepLeft space

/-- The text `l` with white space around it. -/
def symbol (l : Text) : Parser Text := token (literal l)

/-- The number that an ASCII digit stands for; `0` for any other character. -/
def digitValue (c : Char) : Nat := if c.isDigit then c.toNat - '0'.toNat else 0

/-- A number read so far, if it is within the limit, with one more digit. -/
def appendDigit (n : Option Nat) (c : Char) : Option Nat :=
  n.bind fun n => checked maxSigned (n * 10 + digitValue c)

/-- A decimal number. All the digits that stand together belong to it; if it exceeds the limit there is
no reading, not a reading of fewer digits. -/
def nat : Parser Nat :=
  (digit.bind fun d => digit.fold (some (digitValue d)) appendDigit).bind ofOption

/-- A name: a lowercase character, then letters and numbers. -/
def ident : Parser Text := lower.bind fun c => alphaNum.many.map fun cs => Text.ofList (c :: cs)

/-- A decimal number with white space around it. -/
def natural : Parser Nat := token nat

/-- A name with white space around it. -/
def identifier : Parser Text := token ident

theorem run_literal (l s : Text) : (literal l).run s = ((l.dropPrefix? s).map fun rest => (l, rest)).toList := by
  simp only [literal]
  cases l.dropPrefix? s <;> rfl

theorem first_literal (l s : Text) : (literal l).first s = (l.dropPrefix? s).map fun rest => (l, rest) := by
  rw [first, run_literal]
  cases l.dropPrefix? s <;> rfl

theorem run_literal_append (l s : Text) : (literal l).run (l ++ s) = [(l, s)] := by
  rw [run_literal, Text.dropPrefix?_self_append]
  rfl

theorem run_literal_eq_nil {l s : Text} (h : ∀ t, s ≠ l ++ t) : (literal l).run s = [] := by
  have hdrop : l.dropPrefix? s = none := by
    rw [Option.eq_none_iff_forall_ne_some]
    exact fun t ht => h t (Text.dropPrefix?_eq_some_iff.mp ht)
  rw [run_literal, hdrop]
  rfl

end ParserKit.Parser
