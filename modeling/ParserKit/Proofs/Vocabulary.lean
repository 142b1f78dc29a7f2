import ParserKit.Expression.Denotation
import ParserKit.Parser.Composition
import ParserKit.Proofs.Arithmetic.Equations
import ParserKit.Proofs.Parser.Remainders

/-! The whole vocabulary. Every parser that the simple ones and the combinators make leaves an end of its text:
compositions of any depth, the parsers of numbers, names, arithmetic and numerals, and whatever an expression
describes, through rules that call each other too. -/

namespace ParserKit

open ParserKit.Parser

namespace Roman

theorem leavesSuffix_anyPair : anyPair.LeavesSuffix := by
  apply LeavesSuffix.oneOf
  intro p hp
  obtain ⟨_, -, rfl⟩ := List.mem_map.mp hp
  exact (leavesSuffix_literal _).map _

theorem leavesSuffix_letter (l : Letter) : (letter l).LeavesSuffix := (leavesSuffix_char _).map _

theorem leavesSuffix_anyLetter : anyLetter.LeavesSuffix := by
  apply LeavesSuffix.oneOf
  intro p hp
  obtain ⟨l, -, rfl⟩ := List.mem_map.mp hp
  exact leavesSuffix_letter l

theorem leavesSuffix_group : group.LeavesSuffix :=
  (leavesSuffix_anyPair.map _).orElse (leavesSuffix_anyLetter.bind fun l => (leavesSuffix_letter l).many.map _)

theorem leavesSuffix_numeral : numeral.LeavesSuffix :=
  leavesSuffix_group.many1.bind fun _ => leavesSuffix_ofOption _

theorem leavesSuffix_uncheckedNumeral : uncheckedNumeral.LeavesSuffix :=
  ((leavesSuffix_anyPair.map _).orElse (leavesSuffix_anyLetter.map _)).many.bind fun _ => leavesSuffix_ofOption _

end Roman

theorem Composition.leavesSuffix_parser {α : Type} {e : Composition α} (h : e.Leaves LeavesSuffix) :
    e.parser.LeavesSuffix := by
  induction e with
  | leaf p => exact h
  | bind p f ihp ihf => exact (ihp h.1).bind fun v => ihf v (h.2 v)
  | map p f ih => exact (ih h).map f
  | orElse p q ihp ihq => exact (ihp h.1).orElse (ihq h.2)
  | both p q ihp ihq => exact (ihp h.1).both (ihq h.2)
  | keepLeft p q ihp ihq => exact (ihp h.1).keepLeft (ihq h.2)
  | keepRight p q ihp ihq => exact (ihp h.1).keepRight (ihq h.2)
  | many p ih => exact (ih h).many
  | many1 p ih => exact (ih h).many1
  | fold p seed step ih => exact (ih h).fold seed step
  | optional p ih => exact (ih h).optional
  | token p ih => exact (ih h).token

/-! ### Expressions -/

theorem Builtin.leavesSuffix_parser (b : Builtin) : b.parser.LeavesSuffix := by
  cases b with
  | item => exact leavesSuffix_anyChar.map _
  | digit => exact (leavesSuffix_satisfy _).map _
  | lower => exact (leavesSuffix_satisfy _).map _
  | upper => exact (leavesSuffix_satisfy _).map _
  | letter => exact (leavesSuffix_satisfy _).map _
  | alphaNum => exact (leavesSuffix_satisfy _).map _
  | nat => exact leavesSuffix_nat.map _
  | natural => exact leavesSuffix_nat.token.map _
  | ident => exact leavesSuffix_ident.map _
  | identifier => exact leavesSuffix_ident.token.map _
  | space => exact leavesSuffix_space.map fun _ => Value.unit
  | failure => exact leavesSuffix_fail
  | expr => exact Arithmetic.leavesSuffix_expr.map _
  | term => exact Arithmetic.leavesSuffix_term.map _
  | factor => exact Arithmetic.leavesSuffix_factor.map _
  | roman => exact Roman.leavesSuffix_numeral.map _
  | romanUnchecked => exact Roman.leavesSuffix_uncheckedNumeral.map _
  | atEnd => exact leavesSuffix_atEnd.map _

namespace Expression

theorem leavesSuffix_literalParser (s : Text) : (literalParser s).parser.LeavesSuffix :=
  (leavesSuffix_literal s).map _

theorem leavesSuffix_symbolParser (s : Text) : (symbolParser s).parser.LeavesSuffix :=
  (leavesSuffix_symbol s).map _

section Denote

variable {call : String → Traced Value} {scope : Scope}

theorem leavesSuffix_lookup (hscope : ∀ named ∈ scope, named.2.parser.LeavesSuffix) (name : String) :
    ((scope.lookup name).getD (.plain .fail)).parser.LeavesSuffix := by
  cases h : scope.lookup name with
  | none => exact leavesSuffix_fail
  | some p =>
      obtain ⟨front, back, hsplit, -⟩ := List.lookup_eq_some_iff.mp h
      exact hscope (name, p) (by simp [hsplit])

mutual

/-- One case for each way to describe a parser, given what rules call and what names stand for. -/
theorem leavesSuffix_denote (hcall : ∀ name, (call name).parser.LeavesSuffix)
    (hscope : ∀ named ∈ scope, named.2.parser.LeavesSuffix) :
    ∀ e : Expression, (denote call scope e).parser.LeavesSuffix
  | .builtin b => b.leavesSuffix_parser
  | .succeed v => leavesSuffix_succeed v
  | .satisfy _ => (leavesSuffix_satisfy _).map _
  | .char _ => (leavesSuffix_char _).map _
  | .literal s => leavesSuffix_literalParser s
  | .symbol s => leavesSuffix_symbolParser s
  | .token p => (leavesSuffix_denote hcall hscope p).token
  | .many p => (leavesSuffix_denote hcall hscope p).many.map _
  | .many1 p => (leavesSuffix_denote hcall hscope p).many1.map _
  | .optional p => (leavesSuffix_denote hcall hscope p).optional.map _
  | .map p _ => (leavesSuffix_denote hcall hscope p).map _
  | .bind p f => (leavesSuffix_denote hcall hscope p).bind (leavesSuffix_denoteContinuation hcall hscope f)
  | .orElse p q => (leavesSuffix_denote hcall hscope p).orElse (leavesSuffix_denote hcall hscope q)
  | .both p q => ((leavesSuffix_denote hcall hscope p).both (leavesSuffix_denote hcall hscope q)).map _
  | .keepLeft p q => (leavesSuffix_denote hcall hscope p).keepLeft (leavesSuffix_denote hcall hscope q)
  | .keepRight p q => (leavesSuffix_denote hcall hscope p).keepRight (leavesSuffix_denote hcall hscope q)
  | .fold p _ _ => (leavesSuffix_denote hcall hscope p).fold _ _
  | .each ps => by
      refine LeavesSuffix.each fun p hp => ?_
      obtain ⟨traced, htraced, rfl⟩ := List.mem_map.mp hp
      exact leavesSuffix_denoteAll hcall hscope ps traced htraced
  | .lookahead _ => leavesSuffix_lookahead _
  | .mark _ p => leavesSuffix_denote hcall hscope p
  | .rule name => hcall name
  | .variable name => leavesSuffix_lookup hscope name

theorem leavesSuffix_denoteAll (hcall : ∀ name, (call name).parser.LeavesSuffix)
    (hscope : ∀ named ∈ scope, named.2.parser.LeavesSuffix) :
    ∀ es : List Expression, ∀ p ∈ denoteAll call scope es, p.parser.LeavesSuffix
  | [], p, hp => by cases hp
  | e :: es, p, hp => by
      rcases List.mem_cons.mp hp with rfl | hp
      · exact leavesSuffix_denote hcall hscope e
      · exact leavesSuffix_denoteAll hcall hscope es p hp

theorem leavesSuffix_denoteContinuation (hcall : ∀ name, (call name).parser.LeavesSuffix)
    (hscope : ∀ named ∈ scope, named.2.parser.LeavesSuffix) :
    ∀ (f : Continuation) (v : Value), (denoteContinuation call scope f v).parser.LeavesSuffix
  | .succeed, v => leavesSuffix_succeed v
  | .fail, _ => leavesSuffix_fail
  | .thenRun p, _ => leavesSuffix_denote hcall hscope p
  | .pairWith p, _ => (leavesSuffix_denote hcall hscope p).map _
  | .same, v => by
      cases v with
      | char c => exact (leavesSuffix_char c).map _
      | _ => exact leavesSuffix_literalParser _
  | .symbol, v => leavesSuffix_symbolParser v.write
  | .equal w, v => by
      unfold denoteContinuation
      split
      · exact leavesSuffix_succeed v
      · exact leavesSuffix_fail
  | .even, v => by
      unfold denoteContinuation
      split
      · exact leavesSuffix_succeed v
      · exact leavesSuffix_fail
  | .times p, v => by
      unfold denoteContinuation
      split
      · rw [Traced.parser_map, Traced.parser_times]
        exact ((leavesSuffix_denote hcall hscope p).times _).map _
      · exact leavesSuffix_fail
  | .ifEqual w p otherwise, v => by
      unfold denoteContinuation
      split
      · exact leavesSuffix_denote hcall hscope p
      · exact leavesSuffix_denoteContinuation hcall hscope otherwise v

end

end Denote

theorem leavesSuffix_callWithin (g : Grammar) {scope : Scope}
    (hscope : ∀ named ∈ scope, named.2.parser.LeavesSuffix) (depth : Nat) (name : String) :
    (callWithin g scope depth name).parser.LeavesSuffix := by
  induction depth generalizing name with
  | zero => exact leavesSuffix_fail
  | succ depth ih =>
      unfold callWithin
      split
      · exact leavesSuffix_denote ih hscope _
      · exact leavesSuffix_fail

/-- Rules may call each other; a run of a rule reads what the depth of calls allows for its text. -/
theorem leavesSuffix_toParser (g : Grammar) {scope : Scope}
    (hscope : ∀ named ∈ scope, named.2.parser.LeavesSuffix) (e : Expression) : (e.toParser g scope).LeavesSuffix := by
  refine leavesSuffix_denote (fun name s => ?_) hscope e
  exact leavesSuffix_callWithin g hscope (callDepth g s) name s

end Expression

/-- Every parser of the vocabulary leaves an end of the text it reads: the simple ones, whatever the combinators and
the continuations make of parsers that do so, to any depth and through rules, and the parsers of tokens, arithmetic
and numerals. As to the number of readings, most combinators have one at most, or exactly one, whatever their parts
have; `bind`, `keepRight` and `orElse` have no more than the parts whose readings they hand on. -/
theorem vocabulary_leavesSuffix_and_atMostOne :
    -- the simple parsers
    ((∀ {α : Type} (v : α), (succeed v).LeavesSuffix) ∧ (∀ {α : Type}, (fail : Parser α).LeavesSuffix) ∧
      anyChar.LeavesSuffix ∧ (∀ accepts, (satisfy accepts).LeavesSuffix) ∧ (∀ c, (char c).LeavesSuffix) ∧
      ∀ l, (literal l).LeavesSuffix) ∧
    -- the combinators
    (∀ {α β γ : Type} (p p' : Parser α) (q : Parser β) (f : α → Parser β) (g : α → β) (seed : γ)
        (step : γ → α → γ),
      p.LeavesSuffix → p'.LeavesSuffix → q.LeavesSuffix → (∀ v, (f v).LeavesSuffix) →
        (p.bind f).LeavesSuffix ∧ (p.map g).LeavesSuffix ∧ (p.orElse p').LeavesSuffix ∧ (p.both q).LeavesSuffix ∧
        (p.keepLeft q).LeavesSuffix ∧ (p.keepRight q).LeavesSuffix ∧ p.many.LeavesSuffix ∧ p.many1.LeavesSuffix ∧
        (p.fold seed step).LeavesSuffix ∧ p.optional.LeavesSuffix ∧ p.token.LeavesSuffix) ∧
    -- compositions of any depth, and expressions with rules that may be recursive
    (∀ {α : Type} (e : Composition α), e.Leaves LeavesSuffix → e.parser.LeavesSuffix) ∧
    (∀ (g : Grammar) (scope : Scope) (e : Expression), (∀ named ∈ scope, named.2.parser.LeavesSuffix) →
      (e.toParser g scope).LeavesSuffix) ∧
    -- the parsers of tokens, arithmetic and numerals
    (digit.LeavesSuffix ∧ lower.LeavesSuffix ∧ upper.LeavesSuffix ∧ letter.LeavesSuffix ∧ alphaNum.LeavesSuffix ∧
      nat.LeavesSuffix ∧ ident.LeavesSuffix ∧ space.LeavesSuffix ∧ natural.LeavesSuffix ∧ identifier.LeavesSuffix ∧
      (∀ l, (symbol l).LeavesSuffix) ∧ Arithmetic.expr.LeavesSuffix ∧ Arithmetic.term.LeavesSuffix ∧
      Arithmetic.factor.LeavesSuffix ∧ Roman.numeral.LeavesSuffix ∧ Roman.uncheckedNumeral.LeavesSuffix) ∧
    -- the number of readings
    (∀ {α β γ : Type} (p p' : Parser α) (q : Parser β) (f : α → Parser β) (g : α → β) (seed : γ)
        (step : γ → α → γ),
      (p.map g).AtMostOne ∧ (p.both q).AtMostOne ∧ (p.keepLeft q).AtMostOne ∧ p.token.AtMostOne ∧
        p.many1.AtMostOne ∧ p.many.ExactlyOne ∧ (p.fold seed step).ExactlyOne ∧ p.optional.ExactlyOne ∧
        ((∀ v, (f v).AtMostOne) → (p.bind f).AtMostOne) ∧ (q.AtMostOne → (p.keepRight q).AtMostOne) ∧
        (p.AtMostOne → p'.AtMostOne → (p.orElse p').AtMostOne)) := by
  refine ⟨?_, ?_, ?_, ?_, ?_, ?_⟩
  · exact ⟨leavesSuffix_succeed, leavesSuffix_fail, leavesSuffix_anyChar, leavesSuffix_satisfy, leavesSuffix_char,
      leavesSuffix_literal⟩
  · intro α β γ p p' q f g seed step hp hp' hq hf
    exact ⟨hp.bind hf, hp.map g, hp.orElse hp', hp.both hq, hp.keepLeft hq, hp.keepRight hq, hp.many, hp.many1,
      hp.fold seed step, hp.optional, hp.token⟩
  · intro α e he
    exact e.leavesSuffix_parser he
  · intro g scope e hscope
    exact e.leavesSuffix_toParser g hscope
  · exact ⟨leavesSuffix_satisfy _, leavesSuffix_satisfy _, leavesSuffix_satisfy _, leavesSuffix_satisfy _,
      leavesSuffix_satisfy _, leavesSuffix_nat, leavesSuffix_ident, leavesSuffix_space, leavesSuffix_nat.token,
      leavesSuffix_ident.token, leavesSuffix_symbol, Arithmetic.leavesSuffix_expr, Arithmetic.leavesSuffix_term,
      Arithmetic.leavesSuffix_factor, Roman.leavesSuffix_numeral, Roman.leavesSuffix_uncheckedNumeral⟩
  · intro α β γ p p' q f g seed step
    exact ⟨atMostOne_map p g, atMostOne_both p q, atMostOne_keepLeft p q, atMostOne_keepLeft _ space,
      atMostOne_many1 p, fun _ => rfl, fun _ => rfl, exactlyOne_optional p, fun hf => AtMostOne.bind hf p,
      fun hq => AtMostOne.keepRight hq p, AtMostOne.orElse⟩

/-- One character of a text or two. -/
def oneOrTwo : Parser Text := .each [literal "a", literal "ab"]

/-- A parser with two readings, and what combinators make of it. -/
theorem vocabulary_leavesSuffix_and_atMostOne_two :
    oneOrTwo.LeavesSuffix ∧ oneOrTwo.run "ab" = [(↑"a", ↑"b"), (↑"ab", ∅)] ∧ oneOrTwo.many1.LeavesSuffix ∧
      (Composition.both (.leaf oneOrTwo) (.many (.leaf oneOrTwo))).parser.LeavesSuffix ∧
      (oneOrTwo.both oneOrTwo).AtMostOne := by
  have htwo : oneOrTwo.LeavesSuffix := by
    apply LeavesSuffix.each
    simp [leavesSuffix_literal]
  obtain ⟨-, hcombinators, hcompositions, -, -, hcount⟩ := vocabulary_leavesSuffix_and_atMostOne
  obtain ⟨-, -, -, -, -, -, -, hmany1, -⟩ :=
    hcombinators oneOrTwo oneOrTwo oneOrTwo (fun _ => oneOrTwo) id () (fun _ _ => ()) htwo htwo htwo fun _ => htwo
  obtain ⟨-, hboth, -⟩ := hcount oneOrTwo oneOrTwo oneOrTwo (fun _ => oneOrTwo) id () fun _ _ => ()
  exact ⟨htwo, by decide, hmany1, hcompositions (.both (.leaf oneOrTwo) (.many (.leaf oneOrTwo))) ⟨htwo, htwo⟩, hboth⟩

end ParserKit
