import ParserKit.Proofs.Lexical.Tokens

/-! Names, and other characters of one kind that stand together. A repetition over characters of one kind reads the
longest beginning of the text that is made of them, and nothing else. So a name goes on as far as it can: the character
that begins it is put in front of all those that may continue it, and together with what is left they are the text.
Nothing here depends on which characters may begin a name and which may continue it. -/

namespace ParserKit.Parser

variable {accepts begins continues : Char → Bool} {s : Text}

/-- A text is cut into its longest beginning of characters that `accepts` allows, and the rest. -/
structure CutAfter (accepts : Char → Bool) (s : Text) (taken : List Char) (rest : Text) : Prop where
  whole : taken ++ rest = s
  accepted : ∀ c ∈ taken, accepts c = true
  longest : ∀ cs, cs <+: s.chars → (∀ c ∈ cs, accepts c = true) → cs <+: taken

theorem cutAfter_takeWhile (accepts : Char → Bool) (s : Text) :
    CutAfter accepts s (s.takeWhile accepts) (s.dropWhile accepts) where
  whole := s.takeWhile_append_dropWhile accepts
  accepted := fun _ => Text.of_mem_takeWhile
  longest := by
    rintro cs ⟨ds, hs⟩ hcs
    have hsplit : s.takeWhile accepts = cs ++ (Text.ofList ds).takeWhile accepts := by
      rw [← Text.takeWhile_prepend hcs]
      exact congrArg (List.takeWhile accepts) hs.symm
    exact ⟨_, hsplit.symm⟩

theorem run_many1_satisfy (accepts : Char → Bool) (s : Text) :
    (satisfy accepts).many1.run s =
      if s.takeWhile accepts = [] then [] else [(s.takeWhile accepts, s.dropWhile accepts)] := by
  cases s with
  | empty => rfl
  | cons c s =>
      rw [Text.takeWhile_cons, Text.dropWhile_cons]
      by_cases hc : accepts c = true
      · rw [if_pos hc, if_pos hc, if_neg (List.cons_ne_nil _ _)]
        exact run_many1_of_run (run_satisfy_of_accepts hc s) (by simp) (run_many_satisfy accepts s)
      · rw [if_neg hc, if_pos rfl]
        exact run_many1_of_eq_nil (run_satisfy_eq_nil (eq_false_of_ne_true hc))

/-- A name that begins with a character of one kind and goes on with characters of another. -/
def nameOf (begins continues : Char → Bool) : Parser Text :=
  (satisfy begins).bind fun c => (satisfy continues).many.map fun cs => .ofList (c :: cs)

theorem ident_eq_nameOf : ident = nameOf Unicode.isLowercase Unicode.isAlphanumeric := rfl

theorem identifier_eq_token_nameOf : identifier = (nameOf Unicode.isLowercase Unicode.isAlphanumeric).token := rfl

/-- A text is cut into a name and the rest: the name begins as names do, all its other characters may continue it, and
the rest does not go on with one that may. -/
structure BeginsWithName (begins continues : Char → Bool) (s name rest : Text) : Prop where
  whole : name ++ rest = s
  first : name.startsWith begins = true
  others : ∀ c ∈ name.chars.tail, continues c = true
  ends : rest.startsWith continues = false

theorem run_nameOf_eq_nil (h : s.startsWith begins = false) (continues : Char → Bool) :
    (nameOf begins continues).run s = [] := run_bind_of_eq_nil (run_satisfy_eq_nil h) _

theorem exists_run_nameOf (h : s.startsWith begins = true) (continues : Char → Bool) :
    ∃ name rest, BeginsWithName begins continues s name rest ∧ (nameOf begins continues).run s = [(name, rest)] := by
  cases s with
  | empty => cases h
  | cons c s =>
      have hfirst : (satisfy begins).run (.cons c s) = [(c, s)] := run_satisfy_of_accepts h s
      refine ⟨.ofList (c :: s.takeWhile continues), s.dropWhile continues, ⟨?_, h, ?_, ?_⟩, ?_⟩
      · rw [Text.append_eq_prepend, Text.chars_ofList, Text.cons_prepend, Text.takeWhile_append_dropWhile]
      · exact fun _ => Text.of_mem_takeWhile
      · exact s.startsWith_dropWhile continues
      · rw [nameOf, run_bind_of_run hfirst, run_map_of_run (run_many_satisfy continues s)]

/-- Either no name begins here and none is read, or a name does and it is the only reading. -/
theorem run_nameOf_cases (begins continues : Char → Bool) (s : Text) :
    s.startsWith begins = false ∧ (nameOf begins continues).run s = [] ∨
      s.startsWith begins = true ∧ ∃ name rest,
        BeginsWithName begins continues s name rest ∧ (nameOf begins continues).run s = [(name, rest)] := by
  cases h : s.startsWith begins with
  | false => exact .inl ⟨rfl, run_nameOf_eq_nil h continues⟩
  | true => exact .inr ⟨rfl, exists_run_nameOf h continues⟩

example : ident.run "ñandú7 x" = [(↑"ñandú7", ↑" x")] := by decide +kernel

/-- A repetition over characters of one kind reads the longest beginning of the text that is made of them, and only
`many1` fails where it is empty. Names are read accordingly, whichever characters begin and continue them: there is a
name exactly where the text begins with a character that may begin one, and it takes all that may continue it. A name
between white space is the name behind the white space, and the white space that follows it is not left over. -/
theorem characters_of_one_kind_and_names :
    (∀ (accepts : Char → Bool) (s : Text), ∃ taken rest, CutAfter accepts s taken rest ∧
      (satisfy accepts).many.run s = [(taken, rest)] ∧
      (satisfy accepts).many1.run s = if taken = [] then [] else [(taken, rest)]) ∧
    (∀ (begins continues : Char → Bool) (s : Text),
      s.startsWith begins = false ∧ (nameOf begins continues).run s = [] ∨
      s.startsWith begins = true ∧ ∃ name rest,
        BeginsWithName begins continues s name rest ∧ (nameOf begins continues).run s = [(name, rest)]) ∧
    (∀ (begins continues : Char → Bool) (s : Text),
      s.trimStart.startsWith begins = false ∧ (nameOf begins continues).token.run s = [] ∨
      s.trimStart.startsWith begins = true ∧ ∃ name rest, BeginsWithName begins continues s.trimStart name rest ∧
        (nameOf begins continues).token.run s = [(name, rest.trimStart)]) ∧
    ident = nameOf Unicode.isLowercase Unicode.isAlphanumeric ∧
    identifier = (nameOf Unicode.isLowercase Unicode.isAlphanumeric).token := by
  refine ⟨?_, run_nameOf_cases, ?_, ident_eq_nameOf, identifier_eq_token_nameOf⟩
  · intro accepts s
    exact ⟨_, _, cutAfter_takeWhile accepts s, run_many_satisfy accepts s, run_many1_satisfy accepts s⟩
  · intro begins continues s
    rcases run_nameOf_cases begins continues s.trimStart with ⟨hs, hrun⟩ | ⟨hs, name, rest, hname, hrun⟩
    · exact .inl ⟨hs, run_token_of_eq_nil hrun⟩
    · exact .inr ⟨hs, name, rest, hname, run_token_of_first (first_eq_of_run hrun)⟩

end ParserKit.Parser
