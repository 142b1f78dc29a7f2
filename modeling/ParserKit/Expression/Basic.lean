import ParserKit.Value

/-! Descriptions of parsers. An expression says how a parser is put together from the ones at hand; it may
name rules of a grammar, which are expressions themselves, and parsers bound earlier. -/

namespace ParserKit

/-- The parsers that stand for themselves. -/
inductive Builtin
  | item
  | digit
  | lower
  | upper
  | letter
  | alphaNum
  | nat
  | natural
  | ident
  | identifier
  | space
  | failure
  | expr
  | term
  | factor
  | roman
  | romanUnchecked
  | atEnd
deriving DecidableEq, Repr

/-- A set of characters that a description may name. -/
inductive CharClass
  | oneOf (cs : List Char)
  | noneOf (cs : List Char)
  | range (lo hi : Char)
  | all
  | none
deriving DecidableEq, Repr

/-- Whether a set has the character `c`. -/
def CharClass.contains : CharClass → Char → Bool
  | oneOf cs, c => cs.contains c
  | noneOf cs, c => !cs.contains c
  | range lo hi, c => lo ≤ c && c ≤ hi
  | all, _ => true
  | none, _ => false

mutual

/-- The description of a parser. -/
inductive Expression
  | builtin (b : Builtin)
  | succeed (v : Value)
  | satisfy (accepts : CharClass)
  | char (c : Char)
  | literal (s : Text)
  | symbol (s : Text)
  | token (p : Expression)
  | many (p : Expression)
  | many1 (p : Expression)
  | optional (p : Expression)
  | map (p : Expression) (f : Mapping)
  | bind (p : Expression) (f : Continuation)
  | orElse (p q : Expression)
  | both (p q : Expression)
  | keepLeft (p q : Expression)
  | keepRight (p q : Expression)
  | fold (p : Expression) (seed : Value) (step : Step)
  | each (ps : List Expression)
  | lookahead (p : Expression)
  | mark (name : String) (p : Expression)
  | rule (name : String)
  | variable (name : String)

/-- How a parser goes on from the value that another one gave. -/
inductive Continuation
  /-- That value. -/
  | succeed
  | fail
  /-- `p`, whatever the value. -/
  | thenRun (p : Expression)
  /-- The value paired with that of `p`. -/
  | pairWith (p : Expression)
  /-- The text of the value, once more. -/
  | same
  /-- The text of the value as a symbol. -/
  | symbol
  /-- That value, if it is `v`. -/
  | equal (v : Value)
  /-- That value, if its number is even. -/
  | even
  /-- `p` as many times as the value says. -/
  | times (p : Expression)
  /-- `p` if the value is `v`, else what `otherwise` says. -/
  | ifEqual (v : Value) (p : Expression) (otherwise : Continuation)

end

/-- Rules by their names. -/
abbrev Grammar := List (String × Expression)

end ParserKit
