import ParserKit.Proofs.Lexical.Tokens

/-! How tokens are written. Two written lists of tokens make a written list when one is put after the other,
and a written list can be cut wherever its list of tokens is cut. -/

namespace ParserKit.Arithmetic

theorem Blank.nil : Blank [] := by simp [Blank]

theorem Blank.append {v w : List Char} (hv : Blank v) (hw : Blank w) : Blank (v ++ w) := by
  intro c hc
  rcases List.mem_append.mp hc with h | h
  · exact hv c h
  · exact hw c h

theorem Token.chars_ne_nil (t : Token) : t.chars ≠ [] := by
  cases t with
  | number n => exact n.nonempty
  | _ => exact List.cons_ne_nil _ _

namespace Written

theorem blank_append {w cs : List Char} {ts : List Token} (hw : Blank w) (h : Written ts cs) :
    Written ts (w ++ cs) := by
  cases h with
  | nil hv => exact .nil (hw.append hv)
  | cons hv h =>
      rw [← List.append_assoc, ← List.append_assoc]
      exact .cons (hw.append hv) h

theorem append {cs ds : List Char} {ts us : List Token} (h : Written ts cs) (h' : Written us ds) :
    Written (ts ++ us) (cs ++ ds) := by
  induction h with
  | nil hw => exact h'.blank_append hw
  | cons hw _ ih =>
      rw [List.append_assoc]
      exact .cons hw ih

theorem singleton {v w : List Char} (t : Token) (hv : Blank v) (hw : Blank w) :
    Written [t] (v ++ t.chars ++ w) := .cons hv (.nil hw)

theorem exists_of_cons {t : Token} {ts : List Token} {cs : List Char} (h : Written (t :: ts) cs) :
    ∃ w ds, Blank w ∧ Written ts ds ∧ cs = w ++ t.chars ++ ds := by
  cases h with
  | cons hw h => exact ⟨_, _, hw, h, rfl⟩

theorem exists_of_singleton {t : Token} {cs : List Char} (h : Written [t] cs) :
    ∃ v w, Blank v ∧ Blank w ∧ cs = v ++ t.chars ++ w := by
  obtain ⟨v, w, hv, hw, rfl⟩ := h.exists_of_cons
  cases hw with
  | nil hw => exact ⟨v, w, hv, hw, rfl⟩

theorem exists_of_append {ts us : List Token} {cs : List Char} (h : Written (ts ++ us) cs) :
    ∃ ds es, Written ts ds ∧ Written us es ∧ cs = ds ++ es := by
  induction ts generalizing cs with
  | nil => exact ⟨[], cs, .nil .nil, h, rfl⟩
  | cons t ts ih =>
      obtain ⟨w, tail, hw, htail, rfl⟩ := h.exists_of_cons
      obtain ⟨ds, es, hds, hes, rfl⟩ := ih htail
      exact ⟨w ++ t.chars ++ ds, es, .cons hw hds, hes, (List.append_assoc _ _ _).symm⟩

/-- A parenthesised sum; the white space in front of the closing parenthesis belongs to the sum. -/
theorem exists_of_paren {e : Sum} {cs : List Char} (h : Written (Factor.paren e).tokens cs) :
    ∃ v inside w, Blank v ∧ Written e.tokens inside ∧ Blank w ∧ cs = v ++ '(' :: (inside ++ ')' :: w) := by
  obtain ⟨v, ds, hv, hds, rfl⟩ := h.exists_of_cons
  obtain ⟨es, fs, hes, hfs, rfl⟩ := hds.exists_of_append
  obtain ⟨u, w, hu, hw, rfl⟩ := hfs.exists_of_singleton
  have hinside : Written (e.tokens ++ []) (es ++ u) := hes.append (.nil hu)
  rw [List.append_nil] at hinside
  exact ⟨v, es ++ u, w, hv, hinside, hw, by simp [Token.chars]⟩

theorem ne_nil {ts : List Token} {cs : List Char} (h : Written ts cs) (hts : ts ≠ []) : cs ≠ [] := by
  cases ts with
  | nil => exact absurd rfl hts
  | cons t ts =>
      obtain ⟨w, ds, -, -, rfl⟩ := h.exists_of_cons
      simp [t.chars_ne_nil]

end Written

theorem foldl_digitValue {cs : List Char} (hcs : ∀ c ∈ cs, c.isDigit = true) (m : Nat) :
    cs.foldl (fun n c => n * 10 + Parser.digitValue c) m = Nat.ofDigitChars 10 cs m := by
  induction cs generalizing m with
  | nil => rfl
  | cons c cs ih =>
      have hvalue : Parser.digitValue c = c.toNat - '0'.toNat := if_pos (hcs c List.mem_cons_self)
      rw [List.foldl_cons, hvalue, Nat.mul_comm m 10]
      exact ih (fun d hd => hcs d (List.mem_cons_of_mem c hd)) _

/-- Digits stand for the number that positional notation gives them. -/
theorem decimalValue_eq_ofDigitChars {cs : List Char} (hcs : ∀ c ∈ cs, c.isDigit = true) :
    decimalValue cs = Nat.ofDigitChars 10 cs 0 := foldl_digitValue hcs 0

/-- The decimal digits of `n`. -/
def Digits.ofNat (n : Nat) : Digits where
  chars := Nat.toDigits 10 n
  nonempty := Nat.toDigits_ne_nil
  isDigit := fun _ hc => Nat.isDigit_of_mem_toDigits (by decide) (by decide) hc

theorem decimalValue_toDigits (n : Nat) : decimalValue (Nat.toDigits 10 n) = n := by
  have hvalue := decimalValue_eq_ofDigitChars (Digits.ofNat n).isDigit
  exact hvalue.trans Nat.ofDigitChars_ten_toDigits

/-- A number in a text ends at the first character that is no digit. -/
theorem toDigits_prepend_inj {v w : Nat} {s t : Text} (hs : s.startsWith Char.isDigit = false)
    (ht : t.startsWith Char.isDigit = false) (h : Nat.toDigits 10 v ++ s = Nat.toDigits 10 w ++ t) :
    v = w ∧ s = t := by
  have hv : ∀ c ∈ Nat.toDigits 10 v, c.isDigit = true := (Digits.ofNat v).isDigit
  have hw : ∀ c ∈ Nat.toDigits 10 w, c.isDigit = true := (Digits.ofNat w).isDigit
  have hdigits := congrArg (Text.takeWhile Char.isDigit) h
  rw [Text.takeWhile_prepend_eq hv hs, Text.takeWhile_prepend_eq hw ht] at hdigits
  have hrest := congrArg (Text.dropWhile Char.isDigit) h
  rw [Text.dropWhile_prepend_eq hv hs, Text.dropWhile_prepend_eq hw ht] at hrest
  have hvalue := congrArg decimalValue hdigits
  rw [decimalValue_toDigits, decimalValue_toDigits] at hvalue
  exact ⟨hvalue, hrest⟩

mutual

theorem Sum.tokens_ne_nil : ∀ e : Sum, e.tokens ≠ []
  | .single t => t.tokens_ne_nil
  | .add _ _ => List.append_ne_nil_of_right_ne_nil _ (List.cons_ne_nil _ _)

theorem Product.tokens_ne_nil : ∀ t : Product, t.tokens ≠ []
  | .single f => f.tokens_ne_nil
  | .mul _ _ => List.append_ne_nil_of_right_ne_nil _ (List.cons_ne_nil _ _)

theorem Factor.tokens_ne_nil : ∀ f : Factor, f.tokens ≠ []
  | .number _ => List.cons_ne_nil _ _
  | .paren _ => List.cons_ne_nil _ _

end

mutual

theorem Sum.value_le {limit : Nat} : ∀ {e : Sum}, e.Within limit → e.value ≤ limit
  | .single _, h => Product.value_le h
  | .add _ _, h => h.1

theorem Product.value_le {limit : Nat} : ∀ {t : Product}, t.Within limit → t.value ≤ limit
  | .single _, h => Factor.value_le h
  | .mul _ _, h => h.1

theorem Factor.value_le {limit : Nat} : ∀ {f : Factor}, f.Within limit → f.value ≤ limit
  | .number _, h => h
  | .paren _, h => Sum.value_le h

end

end ParserKit.Arithmetic
