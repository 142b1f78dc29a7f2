import ParserKit.Text
import ParserKit.Unicode.Invisible

/-! Texts between quotation marks, written so that they can be read in a message. The quotation mark and
the backslash follow a backslash, four control characters have short names, and hidden characters are
written by code point; which characters are hidden is a parameter. -/

namespace ParserKit.Quoted

/-- The digits of a code point, as few as there are, the letters small. -/
def hexDigits (n : Nat) : List Char := Nat.toDigits 16 n

/-- How one character is written between quotation marks. -/
def escape (hidden : Char → Bool) : Char → List Char
  | '"' => ['\\', '"']
  | '\\' => ['\\', '\\']
  | '\n' => ['\\', 'n']
  | '\r' => ['\\', 'r']
  | '\t' => ['\\', 't']
  | '\x00' => ['\\', '0']
  | c => if hidden c then ['\\', 'u', '{'] ++ hexDigits c.toNat ++ ['}'] else [c]

/-- A text between quotation marks. -/
def encode (hidden : Char → Bool) (cs : List Char) : List Char :=
  '"' :: (cs.flatMap (escape hidden) ++ ['"'])

/-- A text between quotation marks, as a string. -/
def quote (hidden : Char → Bool) (s : Text) : String := String.ofList (encode hidden s.chars)

/-- Whether a character would not show, or not by itself. Fillers do not show although they count as
letters; letters that follow another one but have a form of their own do. -/
def isHidden (c : Char) : Bool :=
  Unicode.isExtendingMark c || Unicode.isDefaultIgnorable c || Unicode.isUnprintable c

end ParserKit.Quoted
