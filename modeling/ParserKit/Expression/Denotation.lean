import ParserKit.Arithmetic.Evaluator
import ParserKit.Expression.Basic
import ParserKit.Roman.Numeral
import ParserKit.Traced

/-! The parsers that expressions describe. A rule is looked up when its parser is run, so rules may be
recursive. What a rule calls gets the same text or a part of its end, so a run that comes to an end never
has a rule within itself on the same text; the calls of rules within one another are then no more than
there are rules, times the places in the text. -/

namespace ParserKit

/-- A natural number as an integer value. -/
def Value.ofNat (n : Nat) : Value := .int (.ofNat n)

/-- A list of values as a value. -/
def Value.ofList (vs : List Value) : Value := .list vs.toArray

/-- A text as a value. -/
def Value.ofText (s : Text) : Value := .text s.toString

/-- The parser of a builtin. -/
def Builtin.parser : Builtin → Parser Value
  | item => Parser.anyChar.map .char
  | digit => Parser.digit.map .char
  | lower => Parser.lower.map .char
  | upper => Parser.upper.map .char
  | letter => Parser.letter.map .char
  | alphaNum => Parser.alphaNum.map .char
  | nat => Parser.nat.map .ofNat
  | natural => Parser.natural.map .ofNat
  | ident => Parser.ident.map .ofText
  | identifier => Parser.identifier.map .ofText
  | space => Parser.space.map fun _ => .unit
  | failure => .fail
  | expr => Arithmetic.expr.map .ofNat
  | term => Arithmetic.term.map .ofNat
  | factor => Arithmetic.factor.map .ofNat
  | roman => Roman.numeral.map fun n => .word (.ofNat n)
  | romanUnchecked => Roman.uncheckedNumeral.map fun n => .word (.ofNat n)
  | atEnd => Parser.atEnd.map fun _ => .unit

/-- Parsers by their names, the latest first. -/
abbrev Scope := List (String × Traced Value)

/-- The greatest number of repetitions that a value may ask for. -/
def maxTimes : Nat := 1000

/-- How often to repeat for a number: not below `0` and not above the greatest number. -/
def repetitions? (n : Int64) : Option Nat :=
  if 0 ≤ n.toInt ∧ n.toInt ≤ maxTimes then some n.toInt.toNat else none

namespace Expression

/-- The parser of a literal text and its value. -/
def literalParser (s : Text) : Traced Value := .plain ((Parser.literal s).map .ofText)

/-- The parser of a symbol and its value. -/
def symbolParser (s : Text) : Traced Value := .plain ((Parser.symbol s).map .ofText)

mutual

/-- The parser that an expression describes, where `call` finds the parser of a rule. -/
def denote (call : String → Traced Value) (scope : Scope) : Expression → Traced Value
  | .builtin b => .plain b.parser
  | .succeed v => .plain (.succeed v)
  | .satisfy accepts => .plain ((Parser.satisfy accepts.contains).map .char)
  | .char c => .plain ((Parser.char c).map .char)
  | .literal s => literalParser s
  | .symbol s => symbolParser s
  | .token p => (denote call scope p).token
  | .many p => (denote call scope p).many.map .ofList
  | .many1 p => (denote call scope p).many1.map .ofList
  | .optional p => (denote call scope p).optional.map fun v => v.elim .absent .present
  | .map p f => (denote call scope p).map f.apply
  | .bind p f => (denote call scope p).bind (denoteContinuation call scope f)
  | .orElse p q => (denote call scope p).orElse (denote call scope q)
  | .both p q => ((denote call scope p).both (denote call scope q)).map fun v => .pair v.1 v.2
  | .keepLeft p q => (denote call scope p).keepLeft (denote call scope q)
  | .keepRight p q => (denote call scope p).keepRight (denote call scope q)
  | .fold p seed step => (denote call scope p).fold seed step.apply
  | .each ps => .each (denoteAll call scope ps)
  | .lookahead p => (denote call scope p).lookahead
  | .mark name p => (denote call scope p).mark name
  | .rule name => .atRun fun _ => call name
  | .variable name => (scope.lookup name).getD (.plain .fail)

/-- The parsers that expressions describe. -/
def denoteAll (call : String → Traced Value) (scope : Scope) : List Expression → List (Traced Value)
  | [] => []
  | p :: ps => denote call scope p :: denoteAll call scope ps

/-- How a continuation goes on from a value. -/
def denoteContinuation (call : String → Traced Value) (scope : Scope) : Continuation → Value → Traced Value
  | .succeed, v => .plain (.succeed v)
  | .fail, _ => .plain .fail
  | .thenRun p, _ => denote call scope p
  | .pairWith p, v => (denote call scope p).map fun w => .pair v w
  | .same, .char c => .plain ((Parser.char c).map .char)
  | .same, v => literalParser v.write
  | .symbol, v => symbolParser v.write
  | .equal w, v => .plain (if v = w then .succeed v else .fail)
  | .even, v => .plain (if v.num % 2 = 0 then .succeed v else .fail)
  | .times p, v => match repetitions? v.num with
    | some n => (Traced.times n (denote call scope p)).map .ofList
    | none => .plain .fail
  | .ifEqual w p otherwise, v =>
    if v = w then denote call scope p else denoteContinuation call scope otherwise v

end

/-- The parser of a rule of `g`, with at most `depth` calls of rules within one another. -/
def callWithin (g : Grammar) (scope : Scope) : Nat → String → Traced Value
  | 0, _ => .plain .fail
  | depth + 1, name => match g.lookup name with
    | some p => denote (callWithin g scope depth) scope p
    | none => .plain .fail

/-- The greatest number of calls of rules of `g` within one another that a run on `s` can need. -/
def callDepth (g : Grammar) (s : Text) : Nat := g.length * (s.size + 1)

/-- The parser that an expression describes, with the rules of `g` and the parsers of `scope`. -/
def toTraced (g : Grammar) (scope : Scope) (p : Expression) : Traced Value :=
  denote (fun name => .atRun fun s => callWithin g scope (callDepth g s) name) scope p

/-- The parser that an expression describes, without a record of its visits. -/
def toParser (g : Grammar) (scope : Scope) (p : Expression) : Parser Value := (p.toTraced g scope).parser

end Expression

end ParserKit
