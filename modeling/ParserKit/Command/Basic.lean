import ParserKit.Arithmetic.Evaluator
import ParserKit.Quoted
import ParserKit.Roman.Numeral

/-! The commands and what they answer. A command reads a number from all of its input; what is left over
is an error unless the command allows it. Answers and errors are rendered with any choice of the
characters that are hidden in quoted texts; `text` and `message` make the usual choice. -/

namespace ParserKit

/-- What is to be read, and whether a part of it may be left over. -/
inductive Command
  | eval (expression : Text) (allowPartial : Bool)
  | roman (numeral : Text) (unchecked allowPartial : Bool)
deriving DecidableEq

namespace Command

/-- The number that was read, from all of the input or from a part of it. -/
inductive Answer
  | whole (value : Nat)
  | part (value : Nat) (rest : Text)
deriving DecidableEq

/-- Why a command has no answer. -/
inductive Error
  | noParse (input : Text)
  | unconsumed (value : Nat) (rest : Text)
deriving DecidableEq

/-- The text of an answer: the number in decimal, and what was left over. -/
def Answer.render (hidden : Char → Bool) : Answer → String
  | whole value => toString value
  | part value rest => toString value ++ " (unconsumed: " ++ Quoted.quote hidden rest ++ ")"

def Answer.text : Answer → String := render Quoted.isHidden

/-- The text of an error. -/
def Error.render (hidden : Char → Bool) : Error → String
  | noParse input => "no parse for " ++ Quoted.quote hidden input
  | unconsumed value rest =>
    "parsed " ++ toString value ++ " but " ++ Quoted.quote hidden rest ++ " was left unconsumed"

def Error.message : Error → String := render Quoted.isHidden

/-- The number that `p` reads from `input`. -/
def answer (p : Parser Nat) (input : Text) (allowPartial : Bool) : Except Error Answer :=
  match p.first input with
  | none => .error (.noParse input)
  | some (value, rest) =>
    if rest.isEmpty then .ok (.whole value)
    else if allowPartial then .ok (.part value rest)
    else .error (.unconsumed value rest)

def input : Command → Text
  | eval expression _ => expression
  | roman numeral _ _ => numeral

def allowPartial : Command → Bool
  | eval _ allowPartial => allowPartial
  | roman _ _ allowPartial => allowPartial

/-- What a command reads its input with. -/
def parser : Command → Parser Nat
  | eval _ _ => Arithmetic.expr
  | roman _ true _ => Roman.uncheckedNumeral
  | roman _ false _ => Roman.numeral

def run (c : Command) : Except Error Answer := answer c.parser c.input c.allowPartial

end Command

end ParserKit
