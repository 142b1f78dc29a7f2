import ParserKit.Proofs.Parser.Remainders

/-! White space around tokens. A token passes over all white space in front of what it reads and over all that follows
it, so none is left for the next token, and a second layer of the same finds nothing to do. A sign that begins with
white space is never read: what it begins with has been passed over before it is looked for. -/

namespace ParserKit.Parser

universe u v

variable {α : Type u} {β : Type v} {p q : Parser α}

/-- No reading leaves white space in front of its remainder. -/
def LeavesTrimmed (p : Parser α) : Prop :=
  ∀ s, ∀ reading ∈ p.run s, reading.2.startsWith Unicode.isWhiteSpace = false

theorem leavesTrimmed_token (p : Parser α) : p.token.LeavesTrimmed := by
  intro s reading hmem
  rw [run_token, Option.mem_toList, Option.map_eq_some_iff] at hmem
  obtain ⟨reading', -, rfl⟩ := hmem
  exact reading'.2.startsWith_trimStart

theorem LeavesTrimmed.bind {f : α → Parser β} (hf : ∀ a, (f a).LeavesTrimmed) (p : Parser α) :
    (p.bind f).LeavesTrimmed := by
  intro s reading hmem
  cases h : p.first s with
  | none =>
      rw [run_bind_of_none h] at hmem
      cases hmem
  | some reading' =>
      rw [run_bind_of_first h] at hmem
      exact hf reading'.1 reading'.2 reading hmem

theorem LeavesTrimmed.map (hp : p.LeavesTrimmed) (f : α → β) : (p.map f).LeavesTrimmed := by
  intro s reading hmem
  rw [run_map, Option.mem_toList, Option.map_eq_some_iff] at hmem
  obtain ⟨reading', h, rfl⟩ := hmem
  exact hp s reading' (List.mem_of_mem_head? h)

theorem LeavesTrimmed.orElse (hp : p.LeavesTrimmed) (hq : q.LeavesTrimmed) : (p.orElse q).LeavesTrimmed := by
  intro s reading hmem
  rw [run_orElse] at hmem
  split at hmem
  · exact hq s reading hmem
  · exact hp s reading hmem

theorem LeavesTrimmed.of_run (hp : p.LeavesTrimmed) {s rest : Text} {a : α} (h : p.run s = [(a, rest)]) :
    rest.startsWith Unicode.isWhiteSpace = false :=
  hp s (a, rest) (by rw [h]; exact List.mem_singleton_self _)

theorem run_token_blank_append {w : List Char} (hw : Arithmetic.Blank w) (p : Parser α) (s : Text) :
    p.token.run (w ++ s) = p.token.run s := by
  rw [← run_token_trimStart p (w ++ s), Text.trimStart_blank_append hw, run_token_trimStart]

/-- A parser that takes the white space on both sides already is its own token. -/
theorem token_eq_self (hone : p.AtMostOne) (htrimmed : p.LeavesTrimmed)
    (hfront : ∀ s, p.run s.trimStart = p.run s) : p.token = p := by
  ext1
  funext s
  rcases hone.eq_nil_or s with hnil | ⟨a, rest, hrun⟩
  · have hfails : p.run s.trimStart = [] := (hfront s).trans hnil
    rw [run_token_of_eq_nil hfails, hnil]
  · have hreads : p.run s.trimStart = [(a, rest)] := (hfront s).trans hrun
    rw [run_token_of_first (first_eq_of_run hreads), Text.trimStart_eq_self (htrimmed.of_run hrun), hrun]

theorem token_token (p : Parser α) : p.token.token = p.token :=
  token_eq_self (atMostOne_keepLeft _ space) (leavesTrimmed_token p) (run_token_trimStart p)

theorem run_symbol_of_startsWith_isWhiteSpace {l : Text} (hl : l.startsWith Unicode.isWhiteSpace = true) (s : Text) :
    (symbol l).run s = [] := run_symbol_eq_nil_of_startsWith hl s.startsWith_trimStart

/-- A token is what its parser reads first behind the white space of the text, without the white space that follows;
it fails where its parser fails there. So white space in front of it makes no difference, none is left behind it, and
a token of a token is that token. A sign is read exactly where the text goes on with it behind the white space, and
never if it begins with white space itself. -/
theorem token_between_white_space :
    (∀ {α : Type u} (p : Parser α),
      (∀ s, p.run s.trimStart = [] → p.token.run s = []) ∧
      (∀ s a rest, p.first s.trimStart = some (a, rest) → p.token.run s = [(a, rest.trimStart)]) ∧
      (∀ w s, Arithmetic.Blank w → p.token.run (w ++ s) = p.token.run s) ∧
      (∀ s, ∀ reading ∈ p.token.run s, reading.2.startsWith Unicode.isWhiteSpace = false) ∧
      p.token.token = p.token) ∧
    ∀ l : Text,
      (∀ s, (symbol l).run s ≠ [] ↔ l.chars <+: s.trimStart.chars) ∧
      (l.startsWith Unicode.isWhiteSpace = true → ∀ s, (symbol l).run s = []) := by
  constructor
  · intro α p
    refine ⟨?_, ?_, ?_, leavesTrimmed_token p, token_token p⟩
    · intro s h
      exact run_token_of_eq_nil h
    · intro s a rest h
      exact run_token_of_first h
    · intro w s hw
      exact run_token_blank_append hw p s
  · intro l
    exact ⟨run_symbol_ne_nil_iff l, run_symbol_of_startsWith_isWhiteSpace⟩

/-- A token of a parser with two readings, of which the second takes the white space as well. -/
theorem token_between_white_space_two :
    (each [literal "a", literal "a "]).first (Text.ofString "\t a  b").trimStart = some (↑"a", ↑"  b") ∧
      (token (each [literal "a", literal "a "])).run "\t a  b" = [(↑"a", ↑"b")] ∧
      (literal "b").run (Text.ofString " ab").trimStart = [] ∧ (token (literal "b")).run " ab" = [] ∧
      Arithmetic.Blank ['\t', '\u00A0'] ∧
      nat.token.run (['\t', '\u00A0'] ++ Text.ofString "7 ") = nat.token.run "7 " ∧
      (Text.ofString " +").startsWith Unicode.isWhiteSpace = true ∧ (symbol " +").run " +" = [] := by
  obtain ⟨htoken, hsymbol⟩ := token_between_white_space
  have hfirst : (each [literal "a", literal "a "]).first (Text.ofString "\t a  b").trimStart = some (↑"a", ↑"  b") := by
    decide
  have hfails : (literal "b").run (Text.ofString " ab").trimStart = [] := by decide
  have hblank : Arithmetic.Blank ['\t', '\u00A0'] := by
    simp only [Arithmetic.Blank, List.mem_cons, List.not_mem_nil, or_false, forall_eq_or_imp, forall_eq]
    decide
  have hspace : (Text.ofString " +").startsWith Unicode.isWhiteSpace = true := by decide
  obtain ⟨-, hreads, -⟩ := htoken (each [literal "a", literal "a "])
  obtain ⟨hnil, -⟩ := htoken (literal "b")
  obtain ⟨-, -, hfront, -⟩ := htoken nat
  refine ⟨hfirst, ?_, hfails, hnil _ hfails, hblank, hfront _ _ hblank, hspace, (hsymbol _).2 hspace _⟩
  rw [hreads _ _ _ hfirst]
  decide

end ParserKit.Parser
