import ParserKit.Proofs.Parser.Combinators
import ParserKit.Proofs.Text.Spans
import ParserKit.Roman.Letter

/-! Words of Roman letters at the beginning of a text, and what the parsers of one letter and of one pair
read there. -/

namespace ParserKit.Roman

open ParserKit.Parser

/-- Whether `c` is one of the seven letters. -/
def isLetter (c : Char) : Bool := (Letter.ofChar? c).isSome

@[simp] theorem isLetter_toChar (l : Letter) : isLetter l.toChar = true := by
  rw [isLetter, Letter.ofChar?_toChar]
  rfl

theorem exists_toChar_of_isLetter {c : Char} (h : isLetter c = true) : ∃ l : Letter, c = l.toChar := by
  obtain ⟨l, hl⟩ := Option.isSome_iff_exists.mp h
  exact ⟨l, Letter.ofChar?_eq_some_iff.mp hl⟩

@[simp] theorem chars_spell (w : List Letter) : (spell w).chars = w.map Letter.toChar := rfl

@[simp] theorem spell_nil_append (s : Text) : spell [] ++ s = s := Text.ext rfl

@[simp] theorem spell_cons_append (l : Letter) (w : List Letter) (s : Text) :
    spell (l :: w) ++ s = .cons l.toChar (spell w ++ s) := Text.ext rfl

theorem spell_append_append (v w : List Letter) (s : Text) :
    spell (v ++ w) ++ s = spell v ++ (spell w ++ s) := by
  apply Text.ext
  simp

theorem map_toChar_injective {v w : List Letter} (h : v.map Letter.toChar = w.map Letter.toChar) : v = w :=
  List.map_injective_iff.mpr (fun _ _ => Letter.toChar_injective) h

theorem exists_map_toChar_eq {cs : List Char} (h : ∀ c ∈ cs, isLetter c = true) :
    ∃ w : List Letter, w.map Letter.toChar = cs := by
  induction cs with
  | nil => exact ⟨[], rfl⟩
  | cons c cs ih =>
      obtain ⟨l, rfl⟩ := exists_toChar_of_isLetter (h c List.mem_cons_self)
      obtain ⟨w, rfl⟩ := ih fun d hd => h d (List.mem_cons_of_mem _ hd)
      exact ⟨l :: w, rfl⟩

/-- Every text is a word, the longest one at its beginning, and a text that begins with no letter. -/
theorem exists_spell_append (s : Text) : ∃ w : List Letter,
    w.map Letter.toChar = s.takeWhile isLetter ∧ s = spell w ++ s.dropWhile isLetter := by
  have hall : ∀ c ∈ s.takeWhile isLetter, isLetter c = true := fun _ => Text.of_mem_takeWhile
  obtain ⟨w, hw⟩ := exists_map_toChar_eq hall
  refine ⟨w, hw, ?_⟩
  rw [Text.append_eq_prepend, chars_spell, hw, Text.takeWhile_append_dropWhile]

theorem startsWith_toChar_eq_false {s : Text} (hs : s.startsWith isLetter = false) (l : Letter) :
    s.startsWith (· == l.toChar) = false := by
  apply Text.startsWith_eq_false_of_imp hs
  intro c hc
  rw [eq_of_beq hc, isLetter_toChar]

theorem startsWith_cons_toChar {l m : Letter} (h : l ≠ m) (s : Text) :
    (Text.cons l.toChar s).startsWith (· == m.toChar) = false := by
  rw [Text.startsWith_cons, beq_eq_false_iff_ne]
  exact fun heq => h (Letter.toChar_injective heq)

theorem Letter.mem_all (l : Letter) : l ∈ Letter.all := by cases l <;> decide

theorem run_letter_cons (l : Letter) (s : Text) : (letter l).run (.cons l.toChar s) = [(l, s)] := by
  have hchar : (Parser.char l.toChar).run (.cons l.toChar s) = [(l.toChar, s)] :=
    run_satisfy_of_accepts (beq_self_eq_true l.toChar) s
  exact run_map_of_run hchar _

theorem run_letter_eq_nil {l : Letter} {s : Text} (h : s.startsWith (· == l.toChar) = false) :
    (letter l).run s = [] := run_map_of_eq_nil (run_satisfy_eq_nil h) _

theorem run_anyLetter_cons (l : Letter) (s : Text) : anyLetter.run (.cons l.toChar s) = [(l, s)] := by
  rw [anyLetter, run_oneOf_map l.mem_all, run_letter_cons]
  intro m _ hm
  exact run_letter_eq_nil (startsWith_cons_toChar (Ne.symm hm) s)

theorem run_anyLetter_eq_nil {s : Text} (h : s.startsWith isLetter = false) : anyLetter.run s = [] := by
  apply run_oneOf_eq_nil
  intro p hp
  obtain ⟨l, -, rfl⟩ := List.mem_map.mp hp
  exact run_letter_eq_nil (startsWith_toChar_eq_false h l)

theorem run_many_letter (l : Letter) (n : Nat) {s : Text} (h : s.startsWith (· == l.toChar) = false) :
    (letter l).many.run (spell (List.replicate n l) ++ s) = [(List.replicate n l, s)] := by
  induction n with
  | zero =>
      rw [List.replicate_zero, spell_nil_append]
      exact run_many_of_eq_nil (run_letter_eq_nil h)
  | succ n ih =>
      rw [List.replicate_succ, spell_cons_append]
      exact run_many_of_run (run_letter_cons l _) (by simp) ih

theorem Pair.mem_all (p : Pair) : p ∈ Pair.all := by cases p <;> decide

theorem Pair.letters_injective {p q : Pair} (h : p.letters = q.letters) : p = q := by
  cases p <;> cases q <;> first | rfl | cases h

theorem Pair.less_ne_greater (p : Pair) : p.less ≠ p.greater := by cases p <;> decide

theorem run_pair_append (p : Pair) (s : Text) : (pair p).run (spell p.letters ++ s) = [(p, s)] :=
  run_map_of_run (run_literal_append _ s) _

theorem run_pair_eq_nil {p : Pair} {s : Text} (h : ∀ t, s ≠ spell p.letters ++ t) : (pair p).run s = [] :=
  run_map_of_eq_nil (run_literal_eq_nil h) _

theorem spell_pair_inj {p q : Pair} {s t : Text} (h : spell p.letters ++ s = spell q.letters ++ t) : p = q := by
  have hchars := congrArg Text.chars h
  rw [Text.chars_append, Text.chars_append, chars_spell, chars_spell] at hchars
  exact Pair.letters_injective (map_toChar_injective (List.append_inj_left hchars rfl))

theorem run_anyPair_append (p : Pair) (s : Text) : anyPair.run (spell p.letters ++ s) = [(p, s)] := by
  rw [anyPair, run_oneOf_map p.mem_all, run_pair_append]
  intro q _ hq
  exact run_pair_eq_nil fun t ht => hq (spell_pair_inj ht).symm

theorem run_anyPair_eq_nil {s : Text} (h : ∀ (p : Pair) t, s ≠ spell p.letters ++ t) : anyPair.run s = [] := by
  apply run_oneOf_eq_nil
  intro q hq
  obtain ⟨p, -, rfl⟩ := List.mem_map.mp hq
  exact run_pair_eq_nil (h p)

theorem run_anyPair_cons_eq_nil {l : Letter} {s : Text}
    (h : ∀ p : Pair, p.less = l → s.startsWith (· == p.greater.toChar) = false) :
    anyPair.run (.cons l.toChar s) = [] := by
  apply run_anyPair_eq_nil
  intro p t heq
  rw [Pair.letters, spell_cons_append, Text.cons_inj_iff] at heq
  obtain ⟨hless, hs⟩ := heq
  have hp := h p (Letter.toChar_injective hless).symm
  rw [hs, spell_cons_append, Text.startsWith_cons] at hp
  simp at hp

theorem run_anyPair_eq_nil_of_not_letter {s : Text} (h : s.startsWith isLetter = false) : anyPair.run s = [] := by
  apply run_anyPair_eq_nil
  rintro p t rfl
  rw [Pair.letters, spell_cons_append, Text.startsWith_cons, isLetter_toChar] at h
  cases h

/-- Behind the first letter of a run stands the same letter again, or what follows a run of one. -/
theorem startsWith_greater_eq_false {p : Pair} (n : Nat) {s : Text}
    (h : n = 0 → s.startsWith (· == p.greater.toChar) = false) :
    (spell (List.replicate n p.less) ++ s).startsWith (· == p.greater.toChar) = false := by
  cases n with
  | zero =>
      rw [List.replicate_zero, spell_nil_append]
      exact h rfl
  | succ n =>
      rw [List.replicate_succ, spell_cons_append]
      exact startsWith_cons_toChar p.less_ne_greater _

end ParserKit.Roman
