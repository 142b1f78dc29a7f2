import Mathlib.Data.List.Basic
import ParserKit.Quoted

/-! Quoted texts are read back. Each character can be told from the way it is written, whatever follows it: the
backslash stands only where a character is written otherwise than by itself, and the mark that closes a text is never
written inside it. So a quoted text and what follows it are found again, and this does not depend on which characters
are hidden. -/

namespace ParserKit.Quoted

/-- The number that a hexadecimal digit with a small letter stands for. -/
def hexDigitValue (c : Char) : Nat := if c.isDigit then c.toNat - '0'.toNat else c.toNat - 'a'.toNat + 10

/-- The number that hexadecimal digits stand for. -/
def hexValue (cs : List Char) : Nat := cs.foldl (fun n c => 16 * n + hexDigitValue c) 0

theorem hexDigitValue_digitChar {n : Nat} (h : n < 16) : hexDigitValue n.digitChar = n := by
  have hall : ∀ m < 16, hexDigitValue m.digitChar = m := by decide
  exact hall n h

theorem hexDigits_of_lt {n : Nat} (h : n < 16) : hexDigits n = [n.digitChar] := Nat.toDigits_of_lt_base h

theorem hexDigits_append {n d : Nat} (hn : 0 < n) (hd : d < 16) :
    hexDigits (16 * n + d) = hexDigits n ++ [d.digitChar] := by
  rw [← hexDigits_of_lt hd]
  exact (Nat.toDigits_append_toDigits (by decide) hn hd).symm

theorem hexValue_hexDigits (n : Nat) : hexValue (hexDigits n) = n := by
  induction n using Nat.base_induction 16 (by decide) with
  | single d hd =>
      rw [hexDigits_of_lt hd, hexValue, List.foldl_cons, List.foldl_nil, hexDigitValue_digitChar hd]
      omega
  | digit n d hd hn ih =>
      rw [hexDigits_append hn hd, hexValue, List.foldl_append, ← hexValue, ih, List.foldl_cons, List.foldl_nil,
        hexDigitValue_digitChar hd]

theorem ne_brace_of_mem_hexDigits {n : Nat} {c : Char} (h : c ∈ hexDigits n) : c ≠ '}' := by
  induction n using Nat.base_induction 16 (by decide) with
  | single d hd =>
      rw [hexDigits_of_lt hd, List.mem_singleton] at h
      rw [h]
      exact Nat.digitChar_ne _ (by decide)
  | digit n d hd hn ih =>
      rw [hexDigits_append hn hd, List.mem_append, List.mem_singleton] at h
      rcases h with h | h
      · exact ih h
      · rw [h]
        exact Nat.digitChar_ne _ (by decide)

/-- The character that is written at the front of a quoted text, and what follows it. The mark that closes the text is
no character of it. -/
def next? : List Char → Option (Char × List Char)
  | [] | '"' :: _ => none
  | '\\' :: 'u' :: '{' :: cs =>
    some (Char.ofNat (hexValue (cs.takeWhile (· != '}'))), (cs.dropWhile (· != '}')).tail)
  | '\\' :: 'n' :: cs => some ('\n', cs)
  | '\\' :: 'r' :: cs => some ('\r', cs)
  | '\\' :: 't' :: cs => some ('\t', cs)
  | '\\' :: '0' :: cs => some ('\x00', cs)
  | '\\' :: c :: cs => some (c, cs)
  | c :: cs => some (c, cs)

theorem next?_codePoint (c : Char) (t : List Char) :
    next? (['\\', 'u', '{'] ++ hexDigits c.toNat ++ ['}'] ++ t) = some (c, t) := by
  have hdigits : ∀ d ∈ hexDigits c.toNat, (d != '}') = true := fun _ hd => bne_iff_ne.mpr (ne_brace_of_mem_hexDigits hd)
  have htake : (hexDigits c.toNat ++ '}' :: t).takeWhile (· != '}') = hexDigits c.toNat := by
    rw [List.takeWhile_append_of_pos hdigits, List.takeWhile_cons_of_neg (by simp), List.append_nil]
  have hdrop : (hexDigits c.toNat ++ '}' :: t).dropWhile (· != '}') = '}' :: t := by
    rw [List.dropWhile_append_of_pos hdigits, List.dropWhile_cons_of_neg (by simp)]
  have hcons : ['\\', 'u', '{'] ++ hexDigits c.toNat ++ ['}'] ++ t =
      '\\' :: 'u' :: '{' :: (hexDigits c.toNat ++ '}' :: t) := by simp
  rw [hcons, next?, htake, hdrop, hexValue_hexDigits, List.tail_cons, Char.ofNat_toNat]

theorem next?_cons_of_ne {c : Char} (hquote : c ≠ '"') (hbackslash : c ≠ '\\') (t : List Char) :
    next? (c :: t) = some (c, t) := by
  rw [next?.eq_def]
  split <;> simp_all

/-- A character is found again from the way it is written. -/
theorem next?_escape (hidden : Char → Bool) (c : Char) (t : List Char) :
    next? (escape hidden c ++ t) = some (c, t) := by
  unfold escape
  split
  · rfl
  · rfl
  · rfl
  · rfl
  · rfl
  · rfl
  · next hquote hbackslash _ _ _ _ =>
    split
    · exact next?_codePoint c t
    · exact next?_cons_of_ne hquote hbackslash t

section Texts

variable {hidden hidden' : Char → Bool} {cs ds t u : List Char}

/-- The characters up to the closing mark are found again, one after the other. -/
theorem flatMap_escape_append_inj
    (h : cs.flatMap (escape hidden) ++ '"' :: t = ds.flatMap (escape hidden') ++ '"' :: u) : cs = ds ∧ t = u := by
  induction cs generalizing ds with
  | nil =>
      cases ds with
      | nil => exact ⟨rfl, (List.cons.inj h).2⟩
      | cons d ds =>
          have hnext := congrArg next? h
          rw [List.flatMap_cons, List.append_assoc, next?_escape] at hnext
          cases hnext
  | cons c cs ih =>
      have hnext := congrArg next? h
      rw [List.flatMap_cons, List.append_assoc, next?_escape] at hnext
      cases ds with
      | nil => cases hnext
      | cons d ds =>
          rw [List.flatMap_cons, List.append_assoc, next?_escape, Option.some.injEq, Prod.mk.injEq] at hnext
          obtain ⟨rfl, hrest⟩ := hnext
          obtain ⟨rfl, rfl⟩ := ih hrest
          exact ⟨rfl, rfl⟩

/-- A quoted text ends where its own closing mark stands, whatever follows it. -/
theorem encode_append_inj (h : encode hidden cs ++ t = encode hidden' ds ++ u) : cs = ds ∧ t = u := by
  rw [encode, encode, List.cons_append, List.cons_append, List.append_assoc, List.append_assoc] at h
  exact flatMap_escape_append_inj (List.cons.inj h).2

theorem encode_injective (hidden : Char → Bool) : Function.Injective (encode hidden) := by
  intro cs ds h
  have hend : encode hidden cs ++ [] = encode hidden ds ++ [] := by rw [h]
  exact (encode_append_inj hend).1

end Texts

end ParserKit.Quoted
