import ParserKit.Parser.Composition
import ParserKit.Proofs.Lexical.Tokens

/-! Canonical readings. The canonical reading of a parser is a deterministic reader, and every combinator makes it
from the canonical readings of its parts; whatever other readings the parts have never enters into it. So parsers
that agree on their canonical readings may replace one another, and the canonical reading of a composition is that
of the deterministic reader which the same composition describes. -/

namespace ParserKit

namespace Reader

variable {α : Type} {p : Reader α} {s rest : Text} {v : α}

theorem repeated_of_none (h : p.run s = none) : p.repeated s = ([], s) := by
  rw [repeated, h]

theorem repeated_of_lt (h : p.run s = some (v, rest)) (hlt : rest.size < s.size) :
    p.repeated s = (v :: (p.repeated rest).1, (p.repeated rest).2) := by
  rw [repeated, h]
  exact if_pos hlt

theorem repeated_of_not_lt (h : p.run s = some (v, rest)) (hlt : ¬rest.size < s.size) :
    p.repeated s = ([v], rest) := by
  rw [repeated, h]
  exact if_neg hlt

end Reader

namespace Parser

variable {α β : Type} {p q : Parser α}

/-- The canonical reading as a deterministic reader. -/
def canonical (p : Parser α) : Reader α := p.first

/-- Two parsers have the same canonical reading of every text, or both fail. -/
def Agrees (p q : Parser α) : Prop := ∀ s, p.first s = q.first s

theorem agrees_iff : p.Agrees q ↔ p.canonical = q.canonical := funext_iff.symm

theorem canonical_bind (p : Parser α) (f : α → Parser β) :
    (p.bind f).canonical = p.canonical >>= fun v => (f v).canonical := by
  funext s
  exact first_bind p f s

theorem canonical_map (p : Parser α) (f : α → β) : (p.map f).canonical = f <$> p.canonical := by
  funext s
  show (p.map f).first s = (p.first s).bind fun reading => some (f reading.1, reading.2)
  rw [first_map]
  cases p.first s <;> rfl

theorem canonical_orElse (p q : Parser α) : (p.orElse q).canonical = (p.canonical <|> q.canonical) := by
  funext s
  show (p.orElse q).first s = (p.first s <|> q.first s)
  rw [first_orElse]
  cases p.first s <;> rfl

theorem canonical_both (p : Parser α) (q : Parser β) :
    (p.both q).canonical = Prod.mk <$> p.canonical <*> q.canonical := by
  simp only [both, canonical_bind, canonical_map]
  simp [seq_eq_bind_map]

theorem canonical_keepLeft (p : Parser α) (q : Parser β) : (p.keepLeft q).canonical = p.canonical <* q.canonical := by
  simp only [keepLeft, canonical_bind, canonical_map]
  simp [seqLeft_eq_bind]

theorem canonical_keepRight (p : Parser α) (q : Parser β) :
    (p.keepRight q).canonical = p.canonical *> q.canonical := by
  simp only [keepRight, canonical_bind]
  simp [seqRight_eq_bind]

/-- The loop gathers the values of the repeated runs and ends where these end. -/
theorem iterate_eq (p : Parser α) (step : β → α → β) (acc : β) (s : Text) :
    p.iterate step acc s = ((p.canonical.repeated s).1.foldl step acc, (p.canonical.repeated s).2) := by
  fun_induction iterate p step acc s with
  | case1 acc s h =>
      have hnone : p.canonical.run s = none := h
      rw [Reader.repeated_of_none hnone]
      rfl
  | case2 acc s v rest h hlt ih =>
      have hsome : p.canonical.run s = some (v, rest) := h
      rw [ih, Reader.repeated_of_lt hsome hlt]
      rfl
  | case3 acc s v rest h hlt =>
      have hsome : p.canonical.run s = some (v, rest) := h
      rw [Reader.repeated_of_not_lt hsome hlt]
      rfl

theorem collect_eq (p : Parser α) (s : Text) : p.collect [] s = p.canonical.repeated s := by
  simp only [collect, iterate_eq]
  simp

theorem run_many_eq_repeated (p : Parser α) (s : Text) : p.many.run s = [p.canonical.repeated s] := by
  show [p.collect [] s] = _
  rw [collect_eq]

theorem canonical_many (p : Parser α) : p.many.canonical = p.canonical.all := by
  funext s
  show (p.many.run s).head? = some (p.canonical.repeated s)
  rw [run_many_eq_repeated]
  rfl

theorem canonical_fold (p : Parser α) (seed : β) (step : β → α → β) :
    (p.fold seed step).canonical = List.foldl step seed <$> p.canonical.all := by
  funext s
  show some (p.iterate step seed s) = some _
  rw [iterate_eq]

theorem canonical_many1 (p : Parser α) :
    p.many1.canonical = (do
      let values ← p.canonical.all
      if values.isEmpty then failure else pure values) := by
  funext s
  show p.many1.first s = (if (p.canonical.repeated s).1.isEmpty then failure else
    pure (p.canonical.repeated s).1 : Reader (List α)) (p.canonical.repeated s).2
  cases h : p.first s with
  | none =>
      have hnone : p.canonical.run s = none := h
      rw [first, run_many1_of_none h, Reader.repeated_of_none hnone]
      rfl
  | some reading =>
      obtain ⟨v, rest⟩ := reading
      have hsome : p.canonical.run s = some (v, rest) := h
      by_cases hlt : rest.size < s.size
      · rw [first, run_many1_of_lt h hlt (run_many_eq_repeated p rest), Reader.repeated_of_lt hsome hlt]
        rfl
      · rw [first, run_many1_of_not_lt h hlt, Reader.repeated_of_not_lt hsome hlt]
        rfl

theorem canonical_optional (p : Parser α) : p.optional.canonical = ((some <$> p.canonical) <|> pure none) := by
  funext s
  show p.optional.first s =
    (((p.first s).bind fun reading => some (some reading.1, reading.2)) <|> some (none, s))
  cases h : p.first s with
  | none =>
      rw [first, run_optional_of_none h]
      rfl
  | some reading =>
      rw [first, run_optional_of_first h]
      rfl

theorem canonical_token (p : Parser α) : p.token.canonical = Reader.blank *> p.canonical <* Reader.blank := by
  have hspace : space.canonical = Reader.blank := funext first_space
  rw [token, canonical_keepLeft, canonical_keepRight, hspace]

end Parser

/-- The canonical reading of a composition is the reading of its deterministic reader. -/
theorem Composition.canonical_parser {α : Type} (e : Composition α) : e.parser.canonical = e.reader := by
  induction e with
  | leaf p => rfl
  | bind p f ihp ihf =>
      rw [parser, Parser.canonical_bind, ihp, reader]
      simp only [ihf]
  | map p f ih => rw [parser, Parser.canonical_map, ih, reader]
  | orElse p q ihp ihq => rw [parser, Parser.canonical_orElse, ihp, ihq, reader]
  | both p q ihp ihq => rw [parser, Parser.canonical_both, ihp, ihq, reader]
  | keepLeft p q ihp ihq => rw [parser, Parser.canonical_keepLeft, ihp, ihq, reader]
  | keepRight p q ihp ihq => rw [parser, Parser.canonical_keepRight, ihp, ihq, reader]
  | many p ih => rw [parser, Parser.canonical_many, ih, reader]
  | many1 p ih => rw [parser, Parser.canonical_many1, ih, reader]
  | fold p seed step ih => rw [parser, Parser.canonical_fold, ih, reader]
  | optional p ih => rw [parser, Parser.canonical_optional, ih, reader]
  | token p ih => rw [parser, Parser.canonical_token, ih, reader]

/-- Every combinator keeps parsers in agreement whose parts agree. So the canonical reading of a composition of any
depth, over any leaves, is the one reading of the deterministic reader that knows only the first readings of the
leaves. -/
theorem canonical_determined :
    (∀ {α β γ : Type} {p p' r r' : Parser α} {q q' : Parser β} {f f' : α → Parser β} (g : α → β) (seed : γ)
        (step : γ → α → γ),
      p.Agrees p' → r.Agrees r' → q.Agrees q' → (∀ v, (f v).Agrees (f' v)) →
        (p.bind f).Agrees (p'.bind f') ∧ (p.map g).Agrees (p'.map g) ∧ (p.orElse r).Agrees (p'.orElse r') ∧
        (p.both q).Agrees (p'.both q') ∧ (p.keepLeft q).Agrees (p'.keepLeft q') ∧
        (p.keepRight q).Agrees (p'.keepRight q') ∧ p.many.Agrees p'.many ∧ p.many1.Agrees p'.many1 ∧
        (p.fold seed step).Agrees (p'.fold seed step) ∧ p.optional.Agrees p'.optional ∧ p.token.Agrees p'.token) ∧
      ∀ {α : Type} (e : Composition α) (s : Text), e.parser.first s = e.reader.run s := by
  constructor
  · intro α β γ p p' r r' q q' f f' g seed step hp hr hq hf
    simp only [Parser.agrees_iff] at hp hr hq hf ⊢
    refine ⟨?_, ?_, ?_, ?_, ?_, ?_, ?_, ?_, ?_, ?_, ?_⟩
    · simp only [Parser.canonical_bind, hp, hf]
    · rw [Parser.canonical_map, Parser.canonical_map, hp]
    · rw [Parser.canonical_orElse, Parser.canonical_orElse, hp, hr]
    · rw [Parser.canonical_both, Parser.canonical_both, hp, hq]
    · rw [Parser.canonical_keepLeft, Parser.canonical_keepLeft, hp, hq]
    · rw [Parser.canonical_keepRight, Parser.canonical_keepRight, hp, hq]
    · rw [Parser.canonical_many, Parser.canonical_many, hp]
    · rw [Parser.canonical_many1, Parser.canonical_many1, hp]
    · rw [Parser.canonical_fold, Parser.canonical_fold, hp]
    · rw [Parser.canonical_optional, Parser.canonical_optional, hp]
    · rw [Parser.canonical_token, Parser.canonical_token, hp]
  · intro α e s
    exact congrFun e.canonical_parser s

/-- Takes one character, and has a second reading of it. -/
def anyCharTwice : Parser Char := Parser.anyChar.bind fun c => .each [.succeed c, .succeed 'x']

/-- A second reading of each character changes nothing in a repetition. -/
theorem canonical_determined_twice :
    anyCharTwice.Agrees Parser.anyChar ∧ anyCharTwice.run "ab" = [('a', ↑"b"), ('x', ↑"b")] ∧
      anyCharTwice.many.Agrees Parser.anyChar.many ∧
      (Composition.many (.leaf anyCharTwice)).parser.first "ab" =
        (Composition.many (.leaf anyCharTwice)).reader.run "ab" := by
  have hagrees : anyCharTwice.Agrees Parser.anyChar := by
    intro s
    cases s with
    | empty => rfl
    | cons c s =>
        have hchar := Parser.first_eq_of_run (Parser.run_anyChar_cons c s)
        rw [anyCharTwice, Parser.first, Parser.run_bind_of_first hchar, hchar]
        rfl
  obtain ⟨hcongr, hreader⟩ := canonical_determined
  have hmany := hcongr id () (fun _ _ => ()) hagrees hagrees hagrees fun _ => hagrees
  exact ⟨hagrees, by decide, hmany.2.2.2.2.2.2.1, hreader (.many (.leaf anyCharTwice)) "ab"⟩

end ParserKit
