import ParserKit.Proofs.Arithmetic.Written

/-! What the parsers of arithmetic read is written there. Each rule is followed from the language of its
parts to that of its own trees; since the rules for sums and for their factors call each other, the
languages are carried through the recursion by `recur_induction`. Where an operator is given up, because its
right side could not be read or the result would exceed the limit, the reading that remains is the operand
and the text it was read from. -/

namespace ParserKit.Arithmetic

open ParserKit.Parser

/-- Lists of tokens and the numbers they stand for. -/
abbrev Language := List Token → Nat → Prop

/-- Sums all of whose values are within the limit. -/
def sums : Language := fun ts v => ∃ e : Sum, e.tokens = ts ∧ e.value = v ∧ e.Within maxSigned

/-- Products all of whose values are within the limit. -/
def products : Language := fun ts v => ∃ t : Product, t.tokens = ts ∧ t.value = v ∧ t.Within maxSigned

/-- Factors all of whose values are within the limit. -/
def factors : Language := fun ts v => ∃ f : Factor, f.tokens = ts ∧ f.value = v ∧ f.Within maxSigned

/-- `ReadsFrom L s readings`: there is at most one reading, and its value is what `L` gives to the tokens
written in front of the text it left. -/
def ReadsFrom (L : Language) (s : Text) (readings : List (Nat × Text)) : Prop :=
  readings = [] ∨ ∃ (ts : List Token) (v : Nat) (consumed : List Char) (rest : Text),
    readings = [(v, rest)] ∧ s = consumed ++ rest ∧ Written ts consumed ∧ L ts v

theorem ReadsFrom.nil (L : Language) (s : Text) : ReadsFrom L s [] := .inl rfl

theorem ReadsFrom.exists_of_first {L : Language} {p : Parser Nat} {s rest : Text} {v : Nat}
    (hread : ReadsFrom L s (p.run s)) (h : p.first s = some (v, rest)) :
    ∃ (ts : List Token) (consumed : List Char), s = consumed ++ rest ∧ Written ts consumed ∧ L ts v := by
  rcases hread with hnil | ⟨ts, v', consumed, rest', hrun, hs, hw, hL⟩
  · rw [first, hnil] at h
    cases h
  · rw [first_eq_of_run hrun, Option.some.injEq, Prod.mk.injEq] at h
    obtain ⟨rfl, rfl⟩ := h
    exact ⟨ts, consumed, hs, hw, hL⟩

theorem exists_written_of_symbol {c : Char} {t : Token} (ht : t.chars = [c]) {s rest l : Text}
    (h : (symbol (.ofList [c])).first s = some (l, rest)) :
    ∃ consumed, Written [t] consumed ∧ s = consumed ++ rest := by
  obtain ⟨u, hu, rfl⟩ := of_first_symbol h
  obtain ⟨v, hv, hs⟩ := s.exists_blank_append_trimStart
  obtain ⟨w, hw, hrest⟩ := u.exists_blank_append_trimStart
  refine ⟨v ++ t.chars ++ w, .singleton t hv hw, ?_⟩
  rw [ht, Text.append_prepend, Text.append_prepend, ← hrest, hs, hu]
  simp

theorem readsFrom_natural (s : Text) : ReadsFrom factors s (natural.run s) := by
  cases hdigit : s.trimStart.startsWith Char.isDigit with
  | false =>
      rw [run_natural_eq_nil hdigit]
      exact .nil factors s
  | true =>
      rw [run_natural hdigit]
      by_cases hle : decimalValue (s.trimStart.takeWhile Char.isDigit) ≤ maxSigned
      · let n : Digits := ⟨s.trimStart.takeWhile Char.isDigit, Text.takeWhile_ne_nil_iff.mpr hdigit,
          fun _ => Text.of_mem_takeWhile⟩
        obtain ⟨v, hv, hs⟩ := s.exists_blank_append_trimStart
        obtain ⟨w, hw, hrest⟩ := (s.trimStart.dropWhile Char.isDigit).exists_blank_append_trimStart
        refine .inr ⟨[.number n], decimalValue n.chars, v ++ n.chars ++ w,
          (s.trimStart.dropWhile Char.isDigit).trimStart, ?_, ?_, .singleton _ hv hw,
          .number n, rfl, rfl, hle⟩
        · rw [checked_eq_some_iff.mpr ⟨hle, rfl⟩]
          rfl
        · rw [Text.append_prepend, Text.append_prepend, ← hrest, Text.takeWhile_append_dropWhile, ← hs]
      · rw [checked_eq_none_iff.mpr (by omega)]
        exact .nil factors s

/-- What may follow an operand of value `a` in a chain: the sign, and whatever `self` reads after it. -/
def continuation (self : Parser Nat) (sign : Text) (combine : Nat → Nat → Nat) (a : Nat) : Parser Nat :=
  (symbol sign).bind fun _ => self.bind fun b => ofOption (checked maxSigned (combine a b))

theorem chain_eq_recur (operand : Parser Nat) (sign : Text) (combine : Nat → Nat → Nat) :
    chain operand sign combine = recur fun self =>
      operand.bind fun a => (continuation self sign combine a).orElse (succeed a) := rfl

/-- A continuation is given up, or the sign and a right side were read and the result is within the limit. -/
theorem run_continuation_cases (self : Parser Nat) (sign : Text) (combine : Nat → Nat → Nat) (a : Nat)
    (s : Text) :
    (continuation self sign combine a).run s = [] ∨ ∃ l after b rest,
      (symbol sign).first s = some (l, after) ∧ self.first after = some (b, rest) ∧
      combine a b ≤ maxSigned ∧ (continuation self sign combine a).run s = [(combine a b, rest)] := by
  unfold continuation
  cases hsign : (symbol sign).first s with
  | none => exact .inl (run_bind_of_none hsign _)
  | some reading =>
      obtain ⟨l, after⟩ := reading
      rw [run_bind_of_first hsign]
      cases hself : self.first after with
      | none => exact .inl (run_bind_of_none hself _)
      | some reading =>
          obtain ⟨b, rest⟩ := reading
          rw [run_bind_of_first hself, run_ofOption]
          by_cases hle : combine a b ≤ maxSigned
          · rw [checked_eq_some_iff.mpr ⟨hle, rfl⟩]
            exact .inr ⟨l, after, b, rest, rfl, hself, hle, rfl⟩
          · rw [checked_eq_none_iff.mpr (by omega)]
            exact .inl rfl

/-- Chains of operands from `L` are read from `M`, if `M` has the operands and is closed under the sign. -/
theorem readsFrom_chain {L M : Language} {c : Char} {sign : Token} (hsign : sign.chars = [c])
    {combine : Nat → Nat → Nat} (hsingle : ∀ ts v, L ts v → M ts v)
    (hjoin : ∀ ts us a b, L ts a → M us b → combine a b ≤ maxSigned → M (ts ++ sign :: us) (combine a b))
    {operand : Parser Nat} (hoperand : ∀ s, ReadsFrom L s (operand.run s)) (s : Text) :
    ReadsFrom M s ((chain operand (.ofList [c]) combine).run s) := by
  rw [chain_eq_recur]
  refine recur_induction (P := ReadsFrom M) (.nil M) ?_ s
  intro self hself s
  rcases hoperand s with hnil | ⟨ts, a, consumed, rest, hrun, hs, hw, hL⟩
  · rw [run_bind_of_eq_nil hnil]
    exact .nil M s
  · rw [run_bind_of_run hrun]
    rcases run_continuation_cases self (.ofList [c]) combine a rest with
      hgiven | ⟨l, after, b, rest', hsym, hb, hle, hcont⟩
    · -- back to the operand alone, whatever was read behind the sign
      rw [run_orElse_of_eq_nil hgiven]
      exact .inr ⟨ts, a, consumed, rest, rfl, hs, hw, hsingle ts a hL⟩
    · rw [run_orElse_of_run hcont]
      obtain ⟨ds, hds, hrest⟩ := exists_written_of_symbol hsign hsym
      obtain ⟨us, es, hafter, hes, hM⟩ := (hself after).exists_of_first hb
      refine .inr ⟨ts ++ sign :: us, combine a b, consumed ++ (ds ++ es), rest', rfl, ?_, ?_,
        hjoin ts us a b hL hM hle⟩
      · calc s = consumed ++ rest := hs
          _ = consumed ++ (ds ++ after) := by rw [hrest]
          _ = consumed ++ (ds ++ (es ++ rest')) := by rw [hafter]
          _ = (consumed ++ (ds ++ es)) ++ rest' := by rw [Text.append_prepend, Text.append_prepend]
      · exact hw.append (hds.append hes)

theorem readsFrom_factorOf {p : Parser Nat} (hp : ∀ s, ReadsFrom sums s (p.run s)) (s : Text) :
    ReadsFrom factors s ((factorOf p).run s) := by
  rw [factorOf, run_orElse]
  split
  · exact readsFrom_natural s
  · cases hopen : (symbol "(").first s with
    | none =>
        rw [run_bind_of_none hopen]
        exact .nil factors s
    | some reading =>
        obtain ⟨l, after⟩ := reading
        obtain ⟨ds, hds, hs⟩ := exists_written_of_symbol (t := .opening) rfl hopen
        rw [run_bind_of_first hopen, keepLeft]
        rcases hp after with hnil | ⟨ts, v, es, middle, hrun, hafter, hes, e, rfl, rfl, he⟩
        · rw [run_bind_of_eq_nil hnil]
          exact .nil factors s
        · rw [run_bind_of_run hrun, run_map]
          cases hclose : (symbol ")").first middle with
          | none => exact .nil factors s
          | some reading =>
              obtain ⟨l', rest⟩ := reading
              obtain ⟨fs, hfs, hmiddle⟩ := exists_written_of_symbol (t := .closing) rfl hclose
              refine .inr ⟨.opening :: (e.tokens ++ [.closing]), e.value, ds ++ (es ++ fs), rest, rfl, ?_, ?_,
                .paren e, rfl, rfl, he⟩
              · calc s = ds ++ after := hs
                  _ = ds ++ (es ++ middle) := by rw [hafter]
                  _ = ds ++ (es ++ (fs ++ rest)) := by rw [hmiddle]
                  _ = (ds ++ (es ++ fs)) ++ rest := by rw [Text.append_prepend, Text.append_prepend]
              · exact hds.append (hes.append hfs)

theorem readsFrom_termOf {p : Parser Nat} (hp : ∀ s, ReadsFrom sums s (p.run s)) (s : Text) :
    ReadsFrom products s ((termOf p).run s) := by
  have hsign : Token.times.chars = ['*'] := rfl
  refine readsFrom_chain hsign ?_ ?_ (readsFrom_factorOf hp) s
  · rintro ts v ⟨f, rfl, rfl, hf⟩
    exact ⟨.single f, rfl, rfl, hf⟩
  · rintro ts us a b ⟨f, rfl, rfl, hf⟩ ⟨t, rfl, rfl, ht⟩ hle
    exact ⟨.mul f t, rfl, rfl, hle, hf, ht⟩

theorem readsFrom_expr (s : Text) : ReadsFrom sums s (expr.run s) := by
  refine recur_induction (P := ReadsFrom sums) (.nil sums) ?_ s
  intro self hself s
  have hsign : Token.plus.chars = ['+'] := rfl
  refine readsFrom_chain hsign ?_ ?_ (readsFrom_termOf hself) s
  · rintro ts v ⟨t, rfl, rfl, ht⟩
    exact ⟨.single t, rfl, rfl, ht⟩
  · rintro ts us a b ⟨t, rfl, rfl, ht⟩ ⟨e, rfl, rfl, he⟩ hle
    exact ⟨.add t e, rfl, rfl, hle, ht, he⟩

theorem readsFrom_term (s : Text) : ReadsFrom products s (term.run s) := readsFrom_termOf readsFrom_expr s

theorem readsFrom_factor (s : Text) : ReadsFrom factors s (factor.run s) := readsFrom_factorOf readsFrom_expr s

/-- On every text a parser of arithmetic fails or has one reading. What it consumed is then a sentence of its
rule, the value is that of the sentence, and every value within the sentence is within the limit. -/
theorem run_eq_nil_or_sentence (s : Text) :
    (expr.run s = [] ∨ ∃ (e : Sum) (consumed : List Char) (rest : Text),
      expr.run s = [(e.value, rest)] ∧ s = consumed ++ rest ∧ consumed ≠ [] ∧
      Written e.tokens consumed ∧ e.Within maxSigned ∧ e.value ≤ maxSigned) ∧
    (term.run s = [] ∨ ∃ (t : Product) (consumed : List Char) (rest : Text),
      term.run s = [(t.value, rest)] ∧ s = consumed ++ rest ∧ consumed ≠ [] ∧
      Written t.tokens consumed ∧ t.Within maxSigned ∧ t.value ≤ maxSigned) ∧
    (factor.run s = [] ∨ ∃ (f : Factor) (consumed : List Char) (rest : Text),
      factor.run s = [(f.value, rest)] ∧ s = consumed ++ rest ∧ consumed ≠ [] ∧
      Written f.tokens consumed ∧ f.Within maxSigned ∧ f.value ≤ maxSigned) := by
  refine ⟨?_, ?_, ?_⟩
  · rcases readsFrom_expr s with hnil | ⟨_, _, consumed, rest, hrun, hs, hw, e, rfl, rfl, he⟩
    · exact .inl hnil
    · exact .inr ⟨e, consumed, rest, hrun, hs, hw.ne_nil e.tokens_ne_nil, hw, he, e.value_le he⟩
  · rcases readsFrom_term s with hnil | ⟨_, _, consumed, rest, hrun, hs, hw, t, rfl, rfl, ht⟩
    · exact .inl hnil
    · exact .inr ⟨t, consumed, rest, hrun, hs, hw.ne_nil t.tokens_ne_nil, hw, ht, t.value_le ht⟩
  · rcases readsFrom_factor s with hnil | ⟨_, _, consumed, rest, hrun, hs, hw, f, rfl, rfl, hf⟩
    · exact .inl hnil
    · exact .inr ⟨f, consumed, rest, hrun, hs, hw.ne_nil f.tokens_ne_nil, hw, hf, f.value_le hf⟩

end ParserKit.Arithmetic
