import Mathlib.Data.List.Basic
import ParserKit.Arithmetic.Tree
import ParserKit.Proofs.Parser.Combinators
import ParserKit.Proofs.Text.Spans

/-! What tokens read. A repetition over characters of one kind takes all of them that stand together; so a
token takes all white space around it, and a number all digits, whose value counts only if it is within the
limit. -/

namespace ParserKit

namespace Text

/-- The text without the white space at its beginning. -/
def trimStart (s : Text) : Text := s.dropWhile Unicode.isWhiteSpace

theorem startsWith_trimStart (s : Text) : s.trimStart.startsWith Unicode.isWhiteSpace = false :=
  startsWith_dropWhile _ s

theorem trimStart_eq_self {s : Text} (h : s.startsWith Unicode.isWhiteSpace = false) : s.trimStart = s :=
  dropWhile_eq_self h

theorem trimStart_cons {c : Char} (h : Unicode.isWhiteSpace c = false) (s : Text) :
    (cons c s).trimStart = cons c s := trimStart_eq_self h

@[simp] theorem trimStart_trimStart (s : Text) : s.trimStart.trimStart = s.trimStart :=
  trimStart_eq_self s.startsWith_trimStart

theorem trimStart_blank_append {w : List Char} (hw : Arithmetic.Blank w) (s : Text) :
    (w ++ s).trimStart = s.trimStart := dropWhile_prepend hw s

theorem size_trimStart_le (s : Text) : s.trimStart.size ≤ s.size := by
  have h := congrArg size (s.takeWhile_append_dropWhile Unicode.isWhiteSpace)
  rw [size_prepend] at h
  rw [trimStart]
  omega

theorem exists_blank_append_trimStart (s : Text) : ∃ w, Arithmetic.Blank w ∧ s = w ++ s.trimStart :=
  ⟨s.takeWhile Unicode.isWhiteSpace, fun _ => of_mem_takeWhile,
    (takeWhile_append_dropWhile _ s).symm⟩

end Text

namespace Parser

universe u v

variable {α : Type u} {β : Type v}

/-- A repetition over characters of one kind stops at the first character of another kind. -/
theorem iterate_satisfy (accepts : Char → Bool) (step : β → Char → β) (acc : β) (s : Text) :
    (satisfy accepts).iterate step acc s = ((s.takeWhile accepts).foldl step acc, s.dropWhile accepts) := by
  induction s generalizing acc with
  | empty => exact iterate_of_none rfl step acc
  | cons c s ih =>
      rw [Text.takeWhile_cons, Text.dropWhile_cons]
      cases hc : accepts c with
      | true =>
          have hfirst := first_eq_of_run (run_satisfy_of_accepts hc s)
          rw [iterate_of_lt hfirst (by simp), ih]
          rfl
      | false =>
          have hfirst := first_eq_none_iff.mpr (run_satisfy_eq_nil (s := .cons c s) hc)
          exact iterate_of_none hfirst step acc

theorem run_many_satisfy (accepts : Char → Bool) (s : Text) :
    (satisfy accepts).many.run s = [(s.takeWhile accepts, s.dropWhile accepts)] := by
  have hreverse : (s.takeWhile accepts).foldl (fun cs c => c :: cs) [] = (s.takeWhile accepts).reverse := by
    simp
  simp only [many, collect, iterate_satisfy, hreverse, List.reverse_reverse]

theorem first_space (s : Text) : space.first s = some ((), s.trimStart) := by
  rw [space, first_map, first, run_many_satisfy]
  rfl

theorem run_token (p : Parser α) (s : Text) :
    (token p).run s =
      ((p.first s.trimStart).map fun reading => (reading.1, reading.2.trimStart)).toList := by
  have hright : (space.keepRight p).first s = p.first s.trimStart := by
    rw [first, keepRight, run_bind_of_first (first_space s)]
    rfl
  rw [token, keepLeft, run_bind, hright]
  cases p.first s.trimStart with
  | none => rfl
  | some reading =>
      rw [Option.elim_some, run_map, first_space]
      rfl

theorem run_token_of_first {p : Parser α} {s rest : Text} {a : α} (h : p.first s.trimStart = some (a, rest)) :
    (token p).run s = [(a, rest.trimStart)] := by
  rw [run_token, h]
  rfl

theorem run_token_of_eq_nil {p : Parser α} {s : Text} (h : p.run s.trimStart = []) : (token p).run s = [] := by
  rw [run_token, first_eq_none_iff.mpr h]
  rfl

theorem run_token_trimStart (p : Parser α) (s : Text) : (token p).run s.trimStart = (token p).run s := by
  rw [run_token, run_token, Text.trimStart_trimStart]

theorem run_symbol (l s : Text) :
    (symbol l).run s = ((l.dropPrefix? s.trimStart).map fun rest => (l, rest.trimStart)).toList := by
  rw [symbol, run_token, first_literal, Option.map_map]
  rfl

theorem run_symbol_of_cons {c : Char} {s t : Text} (h : s.trimStart = .cons c t) :
    (symbol (.ofList [c])).run s = [(.ofList [c], t.trimStart)] := by
  have hdrop : (Text.ofList [c]).dropPrefix? s.trimStart = some t := by
    rw [Text.dropPrefix?_eq_some_iff, h]
    exact Text.ext rfl
  rw [run_symbol, hdrop]
  rfl

theorem run_symbol_ne_nil_iff (l s : Text) : (symbol l).run s ≠ [] ↔ l.chars <+: s.trimStart.chars := by
  rw [← Text.dropPrefix?_ne_none_iff, run_symbol]
  cases l.dropPrefix? s.trimStart with
  | none => simp
  | some rest => simp

/-- A symbol is not read where the text begins with a character of another kind. -/
theorem run_symbol_eq_nil_of_startsWith {accepts : Char → Bool} {l s : Text} (hl : l.startsWith accepts = true)
    (hs : s.trimStart.startsWith accepts = false) : (symbol l).run s = [] := by
  by_contra hne
  have hstart := Text.startsWith_of_prefix ((run_symbol_ne_nil_iff l s).mp hne) hl
  rw [hs] at hstart
  cases hstart

theorem run_symbol_eq_nil {c : Char} {s : Text} (h : s.trimStart.startsWith (· == c) = false) :
    (symbol (.ofList [c])).run s = [] := by
  have hc : (Text.ofList [c]).startsWith (· == c) = true := beq_self_eq_true c
  exact run_symbol_eq_nil_of_startsWith hc h

/-- A symbol of one sign leaves a shorter text, which begins with no white space. -/
theorem of_first_symbol {c : Char} {s rest l : Text}
    (h : (symbol (.ofList [c])).first s = some (l, rest)) :
    ∃ t, s.trimStart = .cons c t ∧ rest = t.trimStart := by
  rw [first, run_symbol] at h
  cases hdrop : (Text.ofList [c]).dropPrefix? s.trimStart with
  | none => simp [hdrop] at h
  | some t =>
      refine ⟨t, ?_, ?_⟩
      · rw [Text.dropPrefix?_eq_some_iff] at hdrop
        rw [hdrop]
        exact Text.ext rfl
      · simp only [hdrop, Option.map_some, Option.toList_some, List.head?_cons, Option.some.injEq,
          Prod.mk.injEq] at h
        exact h.2.symm

theorem size_of_first_symbol {c : Char} {s rest l : Text}
    (h : (symbol (.ofList [c])).first s = some (l, rest)) : rest.size < s.size := by
  obtain ⟨t, ht, rfl⟩ := of_first_symbol h
  have hs := s.size_trimStart_le
  have hrest := t.size_trimStart_le
  rw [ht, Text.size_cons] at hs
  omega

theorem digitValue_le (c : Char) : digitValue c ≤ 9 := by
  unfold digitValue
  split
  · next h =>
    simp only [Char.isDigit, Bool.and_eq_true, decide_eq_true_eq] at h
    have hc : c.toNat ≤ 57 := h.2
    have h0 : '0'.toNat = 48 := rfl
    omega
  · omega

/-- Once a number has exceeded the limit, more digits do not bring it back. -/
theorem foldl_appendDigit (cs : List Char) (n : Nat) :
    cs.foldl appendDigit (checked maxSigned n) =
      checked maxSigned (cs.foldl (fun n c => n * 10 + digitValue c) n) := by
  induction cs generalizing n with
  | nil => rfl
  | cons c cs ih =>
      rw [List.foldl_cons, List.foldl_cons, ← ih]
      congr 1
      by_cases hn : n ≤ maxSigned
      · rw [checked_eq_some_iff.mpr ⟨hn, rfl⟩]
        rfl
      · rw [checked_eq_none_iff.mpr (by omega), checked_eq_none_iff.mpr (by omega)]
        rfl

theorem run_nat_eq_nil {s : Text} (h : s.startsWith Char.isDigit = false) : nat.run s = [] := by
  have hnone : (digit.bind fun d => digit.fold (some (digitValue d)) appendDigit).run s = [] :=
    run_bind_of_eq_nil (run_satisfy_eq_nil h) _
  rw [nat, run_bind_of_eq_nil hnone]

/-- A number is read from all the digits that stand together, or not at all. -/
theorem run_nat {s : Text} (h : s.startsWith Char.isDigit = true) :
    nat.run s = ((checked maxSigned (Arithmetic.decimalValue (s.takeWhile Char.isDigit))).map
      fun n => (n, s.dropWhile Char.isDigit)).toList := by
  cases s with
  | empty => cases h
  | cons c s =>
      have hc : c.isDigit = true := h
      have hrun : digit.run (.cons c s) = [(c, s)] := run_satisfy_of_accepts hc s
      have hstart : some (digitValue c) = checked maxSigned (digitValue c) := by
        refine (checked_eq_some_iff.mpr ⟨?_, rfl⟩).symm
        exact Nat.le_trans (digitValue_le c) (by decide)
      have hfold : (digit.bind fun d => digit.fold (some (digitValue d)) appendDigit).first (.cons c s) =
          some (checked maxSigned (Arithmetic.decimalValue ((Text.cons c s).takeWhile Char.isDigit)),
            (Text.cons c s).dropWhile Char.isDigit) := by
        rw [first, run_bind_of_run hrun, run_fold, digit, iterate_satisfy, hstart, foldl_appendDigit,
          Text.takeWhile_cons, Text.dropWhile_cons, if_pos hc, if_pos hc]
        simp [Arithmetic.decimalValue]
      rw [nat, run_bind_of_first hfold]
      cases checked maxSigned (Arithmetic.decimalValue ((Text.cons c s).takeWhile Char.isDigit)) <;> rfl

theorem run_natural_eq_nil {s : Text} (h : s.trimStart.startsWith Char.isDigit = false) : natural.run s = [] :=
  run_token_of_eq_nil (run_nat_eq_nil h)

theorem run_natural {s : Text} (h : s.trimStart.startsWith Char.isDigit = true) :
    natural.run s = ((checked maxSigned (Arithmetic.decimalValue (s.trimStart.takeWhile Char.isDigit))).map
      fun n => (n, (s.trimStart.dropWhile Char.isDigit).trimStart)).toList := by
  rw [natural, run_token, first, run_nat h]
  cases checked maxSigned (Arithmetic.decimalValue (s.trimStart.takeWhile Char.isDigit)) <;> rfl

end Parser

end ParserKit
