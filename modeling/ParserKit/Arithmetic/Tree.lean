import ParserKit.Arithmetic.Evaluator

/-! Syntax trees of arithmetic, what they are worth and how they are written. A tree has a value without
any limit; whether every value in it is within a limit is asked apart. A tree is written as a list of
tokens, and a list of tokens as any text that has them in order with white space anywhere around them. -/

namespace ParserKit.Arithmetic

/-- A run of ASCII digits; there may be zeros in front. -/
structure Digits where
  chars : List Char
  nonempty : chars ≠ []
  isDigit : ∀ c ∈ chars, c.isDigit = true

/-- The number that a list of digits stands for. -/
def decimalValue (cs : List Char) : Nat := cs.foldl (fun n c => n * 10 + Parser.digitValue c) 0

mutual

/-- A sum of one product or more. -/
inductive Sum
  | single (t : Product)
  | add (t : Product) (rest : Sum)

/-- A product of one factor or more. -/
inductive Product
  | single (f : Factor)
  | mul (f : Factor) (rest : Product)

/-- A number or a parenthesised sum. -/
inductive Factor
  | number (n : Digits)
  | paren (e : Sum)

end

mutual

def Sum.value : Sum → Nat
  | .single t => t.value
  | .add t rest => t.value + rest.value

def Product.value : Product → Nat
  | .single f => f.value
  | .mul f rest => f.value * rest.value

def Factor.value : Factor → Nat
  | .number n => decimalValue n.chars
  | .paren e => e.value

end

mutual

/-- Whether the value of a sum and every value in it is at most `limit`. -/
def Sum.Within (limit : Nat) : Sum → Prop
  | .single t => t.Within limit
  | .add t rest => t.value + rest.value ≤ limit ∧ t.Within limit ∧ rest.Within limit

/-- Whether the value of a product and every value in it is at most `limit`. -/
def Product.Within (limit : Nat) : Product → Prop
  | .single f => f.Within limit
  | .mul f rest => f.value * rest.value ≤ limit ∧ f.Within limit ∧ rest.Within limit

/-- Whether the value of a factor and every value in it is at most `limit`. -/
def Factor.Within (limit : Nat) : Factor → Prop
  | .number n => decimalValue n.chars ≤ limit
  | .paren e => e.Within limit

end

/-- A sign or a number, as it is written. -/
inductive Token
  | plus
  | times
  | opening
  | closing
  | number (n : Digits)

def Token.chars : Token → List Char
  | plus => ['+']
  | times => ['*']
  | opening => ['(']
  | closing => [')']
  | number n => n.chars

mutual

def Sum.tokens : Sum → List Token
  | .single t => t.tokens
  | .add t rest => t.tokens ++ .plus :: rest.tokens

def Product.tokens : Product → List Token
  | .single f => f.tokens
  | .mul f rest => f.tokens ++ .times :: rest.tokens

def Factor.tokens : Factor → List Token
  | .number n => [.number n]
  | .paren e => .opening :: (e.tokens ++ [.closing])

end

/-- White space only. -/
def Blank (cs : List Char) : Prop := ∀ c ∈ cs, Unicode.isWhiteSpace c = true

/-- `Written ts cs` when the characters `cs` are the tokens `ts` with white space before, between and after
them. -/
inductive Written : List Token → List Char → Prop
  | nil {w : List Char} : Blank w → Written [] w
  | cons {w cs : List Char} {t : Token} {ts : List Token} :
      Blank w → Written ts cs → Written (t :: ts) (w ++ t.chars ++ cs)

end ParserKit.Arithmetic
