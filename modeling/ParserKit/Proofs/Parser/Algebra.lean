import ParserKit.Proofs.Parser.Remainders

/-! The algebra of sequences and choices. The laws hold of whole lists of readings, not only of the canonical ones.
Going on from a parser is associative, and `succeed` is a unit on the left; on the right it is none, for it cuts the
readings down to the first one. Choices are associative with `fail` as their unit, however they are bracketed, and a
choice is made before anything follows it: what goes on from it never leads back to an alternative that was passed
over. Sequences of three are the same from either side, up to the shape of their values. -/

namespace ParserKit.Parser

universe u v w

variable {α : Type u} {β : Type v} {γ : Type w} {p q : Parser α} {s : Text}

theorem bind_assoc (p : Parser α) (f : α → Parser β) (g : β → Parser γ) :
    (p.bind f).bind g = p.bind fun a => (f a).bind g := by
  ext1
  funext s
  rw [run_bind, first_bind, run_bind]
  cases p.first s with
  | none => rfl
  | some reading => exact (run_bind (f reading.1) g reading.2).symm

theorem succeed_bind (a : α) (f : α → Parser β) : (succeed a).bind f = f a := rfl

theorem fail_bind (f : α → Parser β) : (fail : Parser α).bind f = fail := rfl

/-- Going on with `succeed` keeps the first reading only. -/
theorem run_bind_succeed (p : Parser α) (s : Text) : (p.bind succeed).run s = (p.run s).take 1 := by
  rw [run_bind, first]
  cases p.run s with
  | nil => rfl
  | cons reading others => rfl

theorem map_eq_bind (p : Parser α) (f : α → β) : p.map f = p.bind fun a => succeed (f a) := rfl

theorem map_bind (p : Parser α) (f : α → β) (g : β → Parser γ) : (p.map f).bind g = p.bind fun a => g (f a) := by
  rw [map_eq_bind, bind_assoc]
  rfl

theorem bind_map (p : Parser α) (f : α → Parser β) (g : β → γ) : (p.bind f).map g = p.bind fun a => (f a).map g :=
  bind_assoc p f fun b => succeed (g b)

theorem map_map (p : Parser α) (f : α → β) (g : β → γ) : (p.map f).map g = p.map fun a => g (f a) :=
  map_bind p f fun b => succeed (g b)

theorem fail_orElse (p : Parser α) : fail.orElse p = p := rfl

theorem oneOf_append (ps qs : List (Parser α)) : oneOf (ps ++ qs) = (oneOf ps).orElse (oneOf qs) := by
  rw [oneOf, List.foldl_append, foldl_orElse]
  rfl

/-- Either all parsers of a list fail, or one of them is the first that succeeds, and it decides. -/
theorem run_oneOf_cases (ps : List (Parser α)) (s : Text) :
    (∀ p ∈ ps, p.run s = []) ∧ (oneOf ps).run s = [] ∨
    ∃ front p back, ps = front ++ p :: back ∧ (∀ q ∈ front, q.run s = []) ∧ p.run s ≠ [] ∧
      (oneOf ps).run s = p.run s := by
  induction ps with
  | nil => exact .inl ⟨fun p hp => absurd hp List.not_mem_nil, rfl⟩
  | cons p ps ih =>
      rw [oneOf_cons]
      by_cases hp : p.run s = []
      · rw [run_orElse_of_eq_nil hp]
        rcases ih with ⟨hall, hrun⟩ | ⟨front, q, back, rfl, hfront, hq, hrun⟩
        · exact .inl ⟨List.forall_mem_cons.mpr ⟨hp, hall⟩, hrun⟩
        · exact .inr ⟨p :: front, q, back, rfl, List.forall_mem_cons.mpr ⟨hp, hfront⟩, hq, hrun⟩
      · exact .inr ⟨[], p, ps, rfl, fun q hq => absurd hq List.not_mem_nil, hp, run_orElse_of_ne_nil hp _⟩

/-- A choice of any number of parsers with the brackets that say how it was put together. -/
inductive Choice (α : Type u)
  | none
  | one (p : Parser α)
  | either (c d : Choice α)

namespace Choice

/-- The choice as a parser, bracket by bracket. -/
def parser : Choice α → Parser α
  | none => fail
  | one p => p
  | either c d => c.parser.orElse d.parser

/-- The parsers to choose from, in order. -/
def parsers : Choice α → List (Parser α)
  | none => []
  | one p => [p]
  | either c d => c.parsers ++ d.parsers

/-- Brackets make no difference to a choice. -/
theorem parser_eq_oneOf (c : Choice α) : c.parser = oneOf c.parsers := by
  induction c with
  | none => rfl
  | one p => rfl
  | either c d ihc ihd => rw [parser, parsers, ihc, ihd, oneOf_append]

end Choice

/-- What goes on from a choice goes on from the alternative that was taken, even if it fails there. -/
theorem run_orElse_bind_of_ne_nil (h : p.run s ≠ []) (q : Parser α) (f : α → Parser β) :
    ((p.orElse q).bind f).run s = (p.bind f).run s :=
  run_bind_congr (run_orElse_of_ne_nil h q) fun _ _ _ => rfl

theorem run_orElse_bind_of_eq_nil (h : p.run s = []) (q : Parser α) (f : α → Parser β) :
    ((p.orElse q).bind f).run s = (q.bind f).run s :=
  run_bind_congr (run_orElse_of_eq_nil h q) fun _ _ _ => rfl

theorem AtMostOne.run_map (hp : p.AtMostOne) (f : α → β) (s : Text) :
    (p.map f).run s = (p.run s).map fun reading => (f reading.1, reading.2) := by
  rcases hp.eq_nil_or s with hnil | ⟨a, rest, hrun⟩
  · rw [run_map_of_eq_nil hnil, hnil]
    rfl
  · rw [run_map_of_run hrun, hrun]
    rfl

theorem both_assoc (p : Parser α) (q : Parser β) (r : Parser γ) :
    ((p.both q).both r).map (fun abc => (abc.1.1, abc.1.2, abc.2)) = p.both (q.both r) := by
  calc ((p.both q).both r).map (fun abc => (abc.1.1, abc.1.2, abc.2))
      = (p.both q).bind fun ab => r.map fun c => (ab.1, ab.2, c) := by
        simp only [both, bind_map, map_map]
    _ = p.bind fun a => q.bind fun b => r.map fun c => (a, b, c) := by
        simp only [both, bind_assoc, map_bind]
    _ = p.both (q.both r) := by
        simp only [both, bind_map, map_map]

theorem run_both_both (p : Parser α) (q : Parser β) (r : Parser γ) (s : Text) :
    (p.both (q.both r)).run s =
      (((p.both q).both r).run s).map fun (((a, b), c), rest) => ((a, b, c), rest) := by
  rw [← both_assoc, (atMostOne_both (p.both q) r).run_map]

theorem keepRight_assoc (p : Parser α) (q : Parser β) (r : Parser γ) :
    (p.keepRight q).keepRight r = p.keepRight (q.keepRight r) := bind_assoc p (fun _ => q) fun _ => r

theorem keepLeft_eq_map_both (p : Parser α) (q : Parser β) : p.keepLeft q = (p.both q).map Prod.fst := by
  simp only [keepLeft, both, bind_map, map_map]

/-- The laws of sequences and choices, as equations of parsers or of all readings of a text: sequencing is associative
and has `succeed` and `fail` on its left; a choice does not depend on its brackets and gives the readings of the first
parser that succeeds; it is final before anything follows it; sequences of three agree whichever two come first, and
of two values the first alone is that of `keepLeft`. -/
theorem laws_of_composition {α : Type u} {β : Type v} {γ : Type w} :
    -- sequencing
    (∀ (p : Parser α) (f : α → Parser β) (g : β → Parser γ), (p.bind f).bind g = p.bind fun a => (f a).bind g) ∧
    (∀ (a : α) (f : α → Parser β), (succeed a).bind f = f a) ∧
    (∀ (p : Parser α) (s : Text), (p.bind succeed).run s = (p.run s).take 1) ∧
    (∀ f : α → Parser β, fail.bind f = fail) ∧
    -- choices
    (∀ p q r : Parser α, (p.orElse q).orElse r = p.orElse (q.orElse r)) ∧
    (∀ p : Parser α, fail.orElse p = p ∧ p.orElse fail = p) ∧
    (∀ c : Choice α, c.parser = oneOf c.parsers) ∧
    (∀ (ps : List (Parser α)) (s : Text),
      (∀ p ∈ ps, p.run s = []) ∧ (oneOf ps).run s = [] ∨
      ∃ front p back, ps = front ++ p :: back ∧ (∀ q ∈ front, q.run s = []) ∧ p.run s ≠ [] ∧
        (oneOf ps).run s = p.run s) ∧
    -- what follows a choice
    (∀ (p q : Parser α) (f : α → Parser β) (s : Text),
      (p.run s ≠ [] → ((p.orElse q).bind f).run s = (p.bind f).run s) ∧
      (p.run s = [] → ((p.orElse q).bind f).run s = (q.bind f).run s)) ∧
    -- sequences of two and of three
    (∀ (p : Parser α) (q : Parser β) (r : Parser γ) (s : Text),
      (p.both (q.both r)).run s =
        (((p.both q).both r).run s).map fun (((a, b), c), rest) => ((a, b, c), rest)) ∧
    (∀ (p : Parser α) (q : Parser β) (r : Parser γ), (p.keepRight q).keepRight r = p.keepRight (q.keepRight r)) ∧
    ∀ (p : Parser α) (q : Parser β), p.keepLeft q = (p.both q).map Prod.fst := by
  refine ⟨bind_assoc, succeed_bind, run_bind_succeed, fail_bind, orElse_assoc, ?_, Choice.parser_eq_oneOf,
    run_oneOf_cases, ?_, run_both_both, keepRight_assoc, keepLeft_eq_map_both⟩
  · intro p
    exact ⟨fail_orElse p, orElse_fail p⟩
  · intro p q f s
    exact ⟨fun h => run_orElse_bind_of_ne_nil h q f, fun h => run_orElse_bind_of_eq_nil h q f⟩

/-- A choice that was made too early: the second alternative would have led on, but the first one succeeds. In the
other order both are tried. -/
theorem laws_of_composition_early :
    (literal "a").run "abc" ≠ [] ∧ ((literal "ab").bind fun _ => literal "c").run "abc" = [(↑"c", ∅)] ∧
      (((literal "a").orElse (literal "ab")).bind fun _ => literal "c").run "abc" = [] ∧
      (literal "b").run "abc" = [] ∧
      (((literal "b").orElse (literal "ab")).bind fun _ => literal "c").run "abc" = [(↑"c", ∅)] := by
  obtain ⟨-, -, -, -, -, -, -, -, hchoice, -⟩ := @laws_of_composition Text Text Text
  have hsucceeds : (literal "a").run "abc" ≠ [] := by decide
  have hfails : (literal "b").run "abc" = [] := by decide
  have hsecond : ((literal "ab").bind fun _ => literal "c").run "abc" = [(↑"c", ∅)] := by decide
  refine ⟨hsucceeds, hsecond, ?_, hfails, ?_⟩
  · rw [(hchoice _ _ _ _).1 hsucceeds]
    decide
  · rw [(hchoice _ _ _ _).2 hfails, hsecond]

end ParserKit.Parser
