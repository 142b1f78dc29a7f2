import ParserKit.Expression.Denotation

/-! A session: a current text that parsers read from one after the other, and names for parsers. -/

namespace ParserKit

/-- What a run of a parser gave: its readings, and the visits of its marked parts. -/
structure Report where
  readings : List (Value × Text)
  visits : List Visit

/-- The report of a run of `p` on `s`. -/
def Traced.report (p : Traced Value) (s : Text) : Report :=
  let (readings, log) := p.record s []
  ⟨readings, log.reverse⟩

@[simp] theorem Traced.readings_report (p : Traced Value) (s : Text) :
    (p.report s).readings = p.parser.run s := p.readings_record s []

/-- One thing to do in a session. -/
inductive Action
  /-- Names a parser. Later actions may use it; parsers made before keep what they have. -/
  | define (name : String) (p : Expression)
  /-- Replaces the current text. -/
  | replace (s : Text)
  /-- Reads from the current text and goes on to what its first reading left. -/
  | advance (p : Expression)
  /-- Reads from the current text, which stays. -/
  | inspect (p : Expression)
  /-- Reads from another text. -/
  | parse (p : Expression) (s : Text)
  /-- Reads from several texts with one parser. -/
  | parseAll (p : Expression) (ss : List Text)

/-- What an action gave. -/
inductive Reply
  | done
  | one (report : Report)
  | several (readings : List (List (Value × Text)))

/-- The grammar of a session, its current text and its named parsers. -/
structure Session where
  grammar : Grammar
  text : Text
  scope : Scope := []

namespace Session

/-- The parser that an expression describes at this point. -/
def parserOf (σ : Session) (p : Expression) : Traced Value := p.toTraced σ.grammar σ.scope

/-- The session after an action, and what the action gave. -/
def perform (σ : Session) : Action → Session × Reply
  | .define name p => ({ σ with scope := (name, σ.parserOf p) :: σ.scope }, .done)
  | .replace s => ({ σ with text := s }, .done)
  | .advance p =>
    let report := (σ.parserOf p).report σ.text
    match report.readings with
    | [] => (σ, .one report)
    | (_, rest) :: _ => ({ σ with text := rest }, .one report)
  | .inspect p => (σ, .one ((σ.parserOf p).report σ.text))
  | .parse p s => (σ, .one ((σ.parserOf p).report s))
  | .parseAll p ss => (σ, .several (ss.map (σ.parserOf p).parser.run))

/-- What each action gave, with the text that was current after it. -/
def transcript (σ : Session) : List Action → List (Reply × Text)
  | [] => []
  | a :: actions =>
    let (σ', reply) := σ.perform a
    (reply, σ'.text) :: σ'.transcript actions

end Session

end ParserKit
