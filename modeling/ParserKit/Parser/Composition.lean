import ParserKit.Lexical

/-! Compositions. A composition says how a parser is put together: with which combinators, from which parts, and how
it goes on from the values of its parts. It can be taken in two ways: as the parser that it describes, and as a
deterministic reader, which has one reading of a text or none and never sees more than the first reading of the
parsers at its leaves. -/

namespace ParserKit

/-- How a parser of values of type `α` is put together. -/
inductive Composition : Type → Type 1
  | leaf {α : Type} (p : Parser α) : Composition α
  | bind {α β : Type} (p : Composition α) (f : α → Composition β) : Composition β
  | map {α β : Type} (p : Composition α) (f : α → β) : Composition β
  | orElse {α : Type} (p q : Composition α) : Composition α
  | both {α β : Type} (p : Composition α) (q : Composition β) : Composition (α × β)
  | keepLeft {α β : Type} (p : Composition α) (q : Composition β) : Composition α
  | keepRight {α β : Type} (p : Composition α) (q : Composition β) : Composition β
  | many {α : Type} (p : Composition α) : Composition (List α)
  | many1 {α : Type} (p : Composition α) : Composition (List α)
  | fold {α β : Type} (p : Composition α) (seed : β) (step : β → α → β) : Composition β
  | optional {α : Type} (p : Composition α) : Composition (Option α)
  | token {α : Type} (p : Composition α) : Composition α

/-- A deterministic reader: what it reads and what it leaves of a text, unless it fails. Sequences are those of the
monad, and the choice of two readers is final once the first one has succeeded. -/
abbrev Reader := StateT Text Option

namespace Reader

/-- The values of repeated runs of `p` and the text that is left. A run that takes nothing is the last one. -/
def repeated {α : Type} (p : Reader α) (s : Text) : List α × Text :=
  match p.run s with
  | none => ([], s)
  | some (v, rest) =>
    if rest.size < s.size then (v :: (repeated p rest).1, (repeated p rest).2) else ([v], rest)
termination_by s.size

/-- The values of any number of runs of `p`. -/
def all {α : Type} (p : Reader α) : Reader (List α) := fun s => some (p.repeated s)

/-- Passes over white space. -/
def blank : Reader Unit := fun s => some ((), .ofList (s.chars.dropWhile Unicode.isWhiteSpace))

end Reader

namespace Composition

/-- The parser that a composition describes. -/
def parser : {α : Type} → Composition α → Parser α
  | _, leaf p => p
  | _, bind p f => p.parser.bind fun v => (f v).parser
  | _, map p f => p.parser.map f
  | _, orElse p q => p.parser.orElse q.parser
  | _, both p q => p.parser.both q.parser
  | _, keepLeft p q => p.parser.keepLeft q.parser
  | _, keepRight p q => p.parser.keepRight q.parser
  | _, many p => p.parser.many
  | _, many1 p => p.parser.many1
  | _, fold p seed step => p.parser.fold seed step
  | _, optional p => p.parser.optional
  | _, token p => p.parser.token

/-- The deterministic reader that a composition describes. -/
def reader : {α : Type} → Composition α → Reader α
  | _, leaf p => p.first
  | _, bind p f => p.reader >>= fun v => (f v).reader
  | _, map p f => f <$> p.reader
  | _, orElse p q => p.reader <|> q.reader
  | _, both p q => Prod.mk <$> p.reader <*> q.reader
  | _, keepLeft p q => p.reader <* q.reader
  | _, keepRight p q => p.reader *> q.reader
  | _, many p => p.reader.all
  | _, many1 p => do
    let values ← p.reader.all
    if values.isEmpty then failure else pure values
  | _, fold p seed step => List.foldl step seed <$> p.reader.all
  | _, optional p => (some <$> p.reader) <|> pure none
  | _, token p => Reader.blank *> p.reader <* Reader.blank

/-- Whether all leaves of a composition have a property, those of every continuation too. -/
def Leaves (P : {α : Type} → Parser α → Prop) : {α : Type} → Composition α → Prop
  | _, leaf p => P p
  | _, bind p f => p.Leaves P ∧ ∀ v, (f v).Leaves P
  | _, map p _ => p.Leaves P
  | _, orElse p q => p.Leaves P ∧ q.Leaves P
  | _, both p q => p.Leaves P ∧ q.Leaves P
  | _, keepLeft p q => p.Leaves P ∧ q.Leaves P
  | _, keepRight p q => p.Leaves P ∧ q.Leaves P
  | _, many p => p.Leaves P
  | _, many1 p => p.Leaves P
  | _, fold p _ _ => p.Leaves P
  | _, optional p => p.Leaves P
  | _, token p => p.Leaves P

end Composition

end ParserKit
