import ParserKit.Lexical
import ParserKit.Parser.Repetition

/-! Arithmetic on natural numbers with sums, products and parentheses, computed while it is read:

    expr   ::= term "+" expr | term
    term   ::= factor "*" term | factor
    factor ::= "(" expr ")" | natural

An operator whose right side cannot be read, or whose result would exceed the limit, is left unread. -/

namespace ParserKit.Arithmetic

open ParserKit.Parser

/-- A chain of operands with the operator `sign` between them, combined from the right. -/
def chain (operand : Parser Nat) (sign : Text) (combine : Nat → Nat → Nat) : Parser Nat :=
  recur fun self => operand.bind fun a =>
    ((symbol sign).bind fun _ => self.bind fun b => ofOption (checked maxSigned (combine a b))).orElse (succeed a)

/-- A parenthesised expression, or a number. -/
def factorOf (expr : Parser Nat) : Parser Nat :=
  ((symbol "(").bind fun _ => expr.keepLeft (symbol ")")).orElse natural

/-- A product of factors. -/
def termOf (expr : Parser Nat) : Parser Nat := chain (factorOf expr) "*" (· * ·)

/-- A sum of terms. -/
def expr : Parser Nat := recur fun expr => chain (termOf expr) "+" (· + ·)

/-- A product of factors, whose parentheses hold sums. -/
def term : Parser Nat := termOf expr

/-- A parenthesised sum, or a number. -/
def factor : Parser Nat := factorOf expr

end ParserKit.Arithmetic
