import ParserKit.Proofs.Roman.Unchecked

/-! The numeral of a number is read back, by both readers and whatever stands behind it. Composing a number goes
through its decimal digits: the four denominations of a place write the digit there and leave the digits below it.
So the letters are those of a numeral in proper form, which has the value of the number. -/

namespace ParserKit.Roman

open ParserKit.Parser

section Compose

variable {letters : List Letter} {smaller : List (Nat × List Letter)}

/-- Composing is the loop that takes a denomination off as long as it fits, writing its letters each time, and then
goes on with the smaller ones. -/
theorem compose_cons {value : Nat} (hpos : 0 < value) (n : Nat) :
    compose ((value, letters) :: smaller) n =
      if value ≤ n then letters ++ compose ((value, letters) :: smaller) (n - value) else compose smaller n := by
  split
  · next hle =>
    rw [compose, compose, Nat.div_eq_sub_div hpos hle, Nat.mod_eq_sub_mod hle, List.replicate_succ,
      List.flatten_cons, List.append_assoc]
  · next hle =>
    have hlt : n < value := Nat.lt_of_not_le hle
    rw [compose, Nat.div_eq_of_lt hlt, Nat.mod_eq_of_lt hlt]
    rfl

/-- A denomination of `k` units takes the units it can from a number and leaves what is less than one unit. -/
theorem compose_units {u r : Nat} (hr : r < u) (k d : Nat) :
    compose ((u * k, letters) :: smaller) (u * d + r) =
      (List.replicate (d / k) letters).flatten ++ compose smaller (u * (d % k) + r) := by
  have hunits : (u * d + r) / u = d := by
    rw [Nat.mul_add_div (by omega), Nat.div_eq_of_lt hr, Nat.add_zero]
  have hdiv : (u * d + r) / (u * k) = d / k := by
    rw [← Nat.div_div_eq_div_mul, hunits]
  have hmod : (u * d + r) % (u * k) = u * (d % k) + r := by
    rw [Nat.mod_mul, hunits, Nat.mul_add_mod, Nat.mod_eq_of_lt hr, Nat.add_comm]
  rw [compose, hdiv, hmod]

end Compose

/-- The place for a decimal digit. -/
def Place.ofDigit (d : Nat) : Place where
  nine := 9 ≤ d
  five := 5 ≤ d % 9
  four := 4 ≤ d % 9 % 5
  ones := ⟨d % 9 % 5 % 4, Nat.mod_lt _ (by decide)⟩

theorem Place.value_ofDigit {d : Nat} (hd : d < 10) : (ofDigit d).value = d := by
  revert d
  decide

theorem flatten_replicate_of_lt {w : List Letter} {d k : Nat} (hk : 0 < k) (hd : d < 2 * k) :
    (List.replicate (d / k) w).flatten = if k ≤ d then w else [] := by
  split
  · next hle =>
    have hone : d / k = 1 := (Nat.div_eq_iff hk).mpr (by omega)
    rw [hone, List.replicate_one, List.flatten_singleton]
  · next hle =>
    rw [Nat.div_eq_of_lt (Nat.lt_of_not_le hle)]
    rfl

/-- The four denominations of a place write the digit there. -/
theorem compose_place (nine : Pair) (five : Letter) (four : Pair) (one : Letter)
    (hnine : nine.value = one.value * 9) (hfive : five.value = one.value * 5) (hfour : four.value = one.value * 4)
    {d r : Nat} (hd : d < 10) (hr : r < one.value) (smaller : List (Nat × List Letter)) :
    compose ((nine.value, nine.letters) :: (five.value, [five]) :: (four.value, four.letters) ::
        (one.value, [one]) :: smaller) (one.value * d + r) =
      (Place.ofDigit d).letters nine five four one ++ compose smaller r := by
  have hones : compose ((one.value, [one]) :: smaller) (one.value * (d % 9 % 5 % 4) + r) =
      List.replicate (d % 9 % 5 % 4) one ++ compose smaller r := by
    have h : compose ((one.value * 1, [one]) :: smaller) (one.value * (d % 9 % 5 % 4) + r) = _ :=
      compose_units hr 1 (d % 9 % 5 % 4)
    rwa [Nat.mul_one, Nat.div_one, Nat.mod_one, Nat.mul_zero, Nat.zero_add, List.flatten_replicate_singleton] at h
  rw [hnine, hfive, hfour, compose_units hr, compose_units hr, compose_units hr, hones,
    flatten_replicate_of_lt (by decide) (by omega), flatten_replicate_of_lt (by decide) (by omega),
    flatten_replicate_of_lt (by decide) (by omega)]
  simp [Place.letters, Place.ofDigit]

/-- The numeral in proper form of a number. -/
def ProperNumeral.ofNat (n : Nat) : ProperNumeral where
  thousands := n / 1000
  hundreds := .ofDigit (n / 100 % 10)
  tens := .ofDigit (n / 10 % 10)
  units := .ofDigit (n % 10)

theorem ProperNumeral.value_ofNat (n : Nat) : (ofNat n).value = n := by
  have hhundreds := Place.value_ofDigit (Nat.mod_lt (n / 100) (by decide : 0 < 10))
  have htens := Place.value_ofDigit (Nat.mod_lt (n / 10) (by decide : 0 < 10))
  have hunits := Place.value_ofDigit (Nat.mod_lt n (by decide : 0 < 10))
  simp only [value, ofNat, hhundreds, htens, hunits]
  omega

theorem ProperNumeral.letters_ofNat (n : Nat) : (ofNat n).letters = encode n := by
  have hdigit : ∀ m, m % 10 < 10 := fun m => Nat.mod_lt m (by decide)
  have hthousands : encode n = List.replicate (n / 1000) .M ++ compose (denominations.drop 1) (n % 1000) := by
    rw [← List.flatten_replicate_singleton]
    rfl
  have hhundreds : compose (denominations.drop 1) (n % 1000) =
      (Place.ofDigit (n / 100 % 10)).letters .CM .D .CD .C ++ compose (denominations.drop 5) (n % 100) := by
    have hsplit : n % 1000 = Letter.C.value * (n / 100 % 10) + n % 100 := by
      simp only [Letter.value]
      omega
    rw [hsplit]
    exact compose_place .CM .D .CD .C rfl rfl rfl (hdigit (n / 100)) (Nat.mod_lt n (by decide)) _
  have htens : compose (denominations.drop 5) (n % 100) =
      (Place.ofDigit (n / 10 % 10)).letters .XC .L .XL .X ++ compose (denominations.drop 9) (n % 10) := by
    have hsplit : n % 100 = Letter.X.value * (n / 10 % 10) + n % 10 := by
      simp only [Letter.value]
      omega
    rw [hsplit]
    exact compose_place .XC .L .XL .X rfl rfl rfl (hdigit (n / 10)) (Nat.mod_lt n (by decide)) _
  have hunits : compose (denominations.drop 9) (n % 10) = (Place.ofDigit (n % 10)).letters .IX .V .IV .I := by
    have hsplit : n % 10 = Letter.I.value * (n % 10) + 0 := by
      simp only [Letter.value]
      omega
    conv_lhs => rw [hsplit]
    rw [← List.append_nil ((Place.ofDigit (n % 10)).letters .IX .V .IV .I)]
    exact compose_place .IX .V .IV .I rfl rfl rfl (hdigit n) (by decide) []
  rw [hthousands, hhundreds, htens, hunits, letters, List.append_assoc, List.append_assoc]
  rfl

section Reading

variable {gs : List Group} (h : Proper gs) (hle : (gs.map Group.worth).sum ≤ maxUnsigned) {rest : Text}
  (hrest : rest.startsWith isLetter = false)

include h hle hrest

theorem run_numeral_of_proper (hne : gs ≠ []) :
    numeral.run (spell (lettersOf gs) ++ rest) = [((gs.map Group.worth).sum, rest)] := by
  have hvalue : valueOf? gs = some (gs.map Group.worth).sum :=
    (valueOf?_eq_some_iff h.canonical).mpr ⟨h, rfl, hle⟩
  rw [numeral, run_bind_of_run (run_many1_group hrest h.canonical hne), run_ofOption, hvalue]
  rfl

theorem run_uncheckedNumeral_of_proper :
    uncheckedNumeral.run (spell (lettersOf gs) ++ rest) = [((gs.map Group.worth).sum, rest)] := by
  have hsum : checkedSum maxUnsigned (gs.flatMap Group.symbols) = some (gs.map Group.worth).sum :=
    checkedSum_eq_some_iff.mpr ⟨sum_symbols gs, hle⟩
  rw [uncheckedNumeral, run_bind_of_run (run_many_symbolValue h hrest), run_ofOption, hsum]
  rfl

end Reading

/-- Every number within the limit of numerals is read back from its numeral, with and without regard to form, in
front of any text that does not go on with a letter. -/
theorem run_encode_append (n : Nat) (hpos : 1 ≤ n) (hle : n ≤ maxUnsigned) (tail : Text)
    (htail : tail.startsWith isLetter = false) :
    numeral.run (spell (encode n) ++ tail) = [(n, tail)] ∧
      uncheckedNumeral.run (spell (encode n) ++ tail) = [(n, tail)] := by
  have hletters : lettersOf (ProperNumeral.ofNat n).groups = encode n := by
    rw [lettersOf_groups, ProperNumeral.letters_ofNat]
  have hsum : ((ProperNumeral.ofNat n).groups.map Group.worth).sum = n := by
    rw [sum_worth_groups, ProperNumeral.value_ofNat]
  have hne : (ProperNumeral.ofNat n).groups ≠ [] := by
    intro hnil
    rw [hnil] at hsum
    change 0 = n at hsum
    omega
  have hproper := proper_groups (ProperNumeral.ofNat n)
  have hlimit : ((ProperNumeral.ofNat n).groups.map Group.worth).sum ≤ maxUnsigned := by
    rw [hsum]
    exact hle
  have hnumeral := run_numeral_of_proper hproper hlimit htail hne
  have hunchecked := run_uncheckedNumeral_of_proper hproper hlimit htail
  rw [hletters, hsum] at hnumeral hunchecked
  exact ⟨hnumeral, hunchecked⟩

/-- A numeral with more thousands than usual, a nine and a four, in front of a text of small letters. -/
theorem run_encode_append_5994 :
    1 ≤ 5994 ∧ 5994 ≤ maxUnsigned ∧ (Text.ofString "vi").startsWith isLetter = false ∧
      (encode 5994).map Letter.toChar = "MMMMMCMXCIV".toList ∧
      numeral.run (spell (encode 5994) ++ Text.ofString "vi") = [(5994, Text.ofString "vi")] ∧
      uncheckedNumeral.run (spell (encode 5994) ++ Text.ofString "vi") = [(5994, Text.ofString "vi")] := by
  have hle : 5994 ≤ maxUnsigned := by decide
  have htail : (Text.ofString "vi").startsWith isLetter = false := by decide
  exact ⟨by decide, hle, htail, by decide, run_encode_append 5994 (by decide) hle (Text.ofString "vi") htail⟩

end ParserKit.Roman
