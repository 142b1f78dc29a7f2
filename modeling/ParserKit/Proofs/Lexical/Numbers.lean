import ParserKit.Proofs.Arithmetic.Written

/-! Numbers at the limit. The digits that stand together are one number, however many there are: it is read as a whole
if its value is within the limit, and otherwise there is no reading of it, not even one of fewer digits. The value is
added up digit by digit with a check at each of them, which refuses just the numbers that are too great in the end. -/

namespace ParserKit.Parser

/-- The digits at the beginning of a text and the number that they stand for. -/
theorem decimalValue_takeWhile (s : Text) :
    Arithmetic.decimalValue (s.takeWhile Char.isDigit) = Nat.ofDigitChars 10 (s.takeWhile Char.isDigit) 0 :=
  Arithmetic.decimalValue_eq_ofDigitChars fun _ => Text.of_mem_takeWhile

theorem run_nat_of_le {s : Text} (hdigits : s.takeWhile Char.isDigit ≠ [])
    (hle : Nat.ofDigitChars 10 (s.takeWhile Char.isDigit) 0 ≤ maxSigned) :
    nat.run s = [(Nat.ofDigitChars 10 (s.takeWhile Char.isDigit) 0, s.dropWhile Char.isDigit)] := by
  rw [run_nat (Text.takeWhile_ne_nil_iff.mp hdigits), decimalValue_takeWhile, checked_eq_some_iff.mpr ⟨hle, rfl⟩]
  rfl

theorem run_nat_of_lt {s : Text} (hlt : maxSigned < Nat.ofDigitChars 10 (s.takeWhile Char.isDigit) 0) :
    nat.run s = [] := by
  cases hdigit : s.startsWith Char.isDigit with
  | false => exact run_nat_eq_nil hdigit
  | true =>
      rw [run_nat hdigit, decimalValue_takeWhile, checked_eq_none_iff.mpr hlt]
      rfl

/-- What there is to say about the number at the beginning of a text: there are no digits, or they stand for too great
a number, or they are read. -/
theorem run_nat_cases (s : Text) :
    s.takeWhile Char.isDigit = [] ∧ nat.run s = [] ∨
    maxSigned < Nat.ofDigitChars 10 (s.takeWhile Char.isDigit) 0 ∧ nat.run s = [] ∨
    s.takeWhile Char.isDigit ≠ [] ∧ Nat.ofDigitChars 10 (s.takeWhile Char.isDigit) 0 ≤ maxSigned ∧
      nat.run s = [(Nat.ofDigitChars 10 (s.takeWhile Char.isDigit) 0, s.dropWhile Char.isDigit)] := by
  by_cases hdigits : s.takeWhile Char.isDigit = []
  · have hstart : s.startsWith Char.isDigit = false := by
      rw [← Bool.not_eq_true, ← Text.takeWhile_ne_nil_iff, not_not]
      exact hdigits
    exact .inl ⟨hdigits, run_nat_eq_nil hstart⟩
  · by_cases hle : Nat.ofDigitChars 10 (s.takeWhile Char.isDigit) 0 ≤ maxSigned
    · exact .inr (.inr ⟨hdigits, hle, run_nat_of_le hdigits hle⟩)
    · exact .inr (.inl ⟨by omega, run_nat_of_lt (by omega)⟩)

theorem run_nat_toDigits {n : Nat} (hn : n ≤ maxSigned) {tail : Text} (htail : tail.startsWith Char.isDigit = false) :
    nat.run (Nat.toDigits 10 n ++ tail) = [(n, tail)] := by
  have hdigit : ∀ c ∈ Nat.toDigits 10 n, c.isDigit = true := (Arithmetic.Digits.ofNat n).isDigit
  have htake := Text.takeWhile_prepend_eq hdigit htail
  have hvalue : Nat.ofDigitChars 10 ((Nat.toDigits 10 n ++ tail).takeWhile Char.isDigit) 0 = n := by
    rw [htake, Nat.ofDigitChars_ten_toDigits]
  have hne : (Nat.toDigits 10 n ++ tail).takeWhile Char.isDigit ≠ [] := by
    rw [htake]
    exact Nat.toDigits_ne_nil
  have hrun := run_nat_of_le hne (Nat.le_trans (Nat.le_of_eq hvalue) hn)
  rwa [hvalue, Text.dropWhile_prepend_eq hdigit htail] at hrun

/-- The reader of numbers fails where the digits at the beginning of the text are none or stand for a number beyond the
limit, and only there; otherwise it has one reading, which takes all of them and leaves what follows. So a number within
the limit is read back from its digits, in front of any text that does not go on with them. -/
theorem run_nat_within_limit :
    (∀ s : Text,
      (nat.run s = [] ↔
        s.takeWhile Char.isDigit = [] ∨ maxSigned < Nat.ofDigitChars 10 (s.takeWhile Char.isDigit) 0) ∧
      (nat.run s ≠ [] →
        nat.run s = [(Nat.ofDigitChars 10 (s.takeWhile Char.isDigit) 0, s.dropWhile Char.isDigit)])) ∧
    ∀ n ≤ maxSigned, ∀ tail : Text, tail.startsWith Char.isDigit = false →
      nat.run (Nat.toDigits 10 n ++ tail) = [(n, tail)] := by
  constructor
  · intro s
    rcases run_nat_cases s with ⟨hnone, hrun⟩ | ⟨hlt, hrun⟩ | ⟨hdigits, hle, hrun⟩
    · simp [hnone, hrun]
    · simp [hlt, hrun]
    · have hnot : ¬maxSigned < Nat.ofDigitChars 10 (s.takeWhile Char.isDigit) 0 := by omega
      simp [hdigits, hnot, hrun]
  · intro n hn tail htail
    exact run_nat_toDigits hn htail

/-- The greatest number there is, with zeros in front of it and by itself; one more is no number. -/
theorem run_nat_within_limit_greatest :
    nat.run "0009223372036854775807!" = [(9223372036854775807, ↑"!")] ∧ nat.run "9223372036854775808" = [] ∧
      9223372036854775807 ≤ maxSigned ∧ (Text.ofString "x").startsWith Char.isDigit = false ∧
      nat.run (Nat.toDigits 10 9223372036854775807 ++ Text.ofString "x") = [(9223372036854775807, ↑"x")] := by
  obtain ⟨hread, hback⟩ := run_nat_within_limit
  have hle : 9223372036854775807 ≤ maxSigned := by decide
  have hx : (Text.ofString "x").startsWith Char.isDigit = false := by decide
  refine ⟨?_, ?_, hle, hx, hback _ hle _ hx⟩
  · have hne : nat.run "0009223372036854775807!" ≠ [] := by
      rw [Ne, (hread _).1]
      decide +kernel
    rw [(hread _).2 hne]
    decide +kernel
  · rw [(hread _).1]
    decide +kernel

end ParserKit.Parser
