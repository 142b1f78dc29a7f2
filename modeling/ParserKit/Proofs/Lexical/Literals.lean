import Mathlib.Data.List.Induction
import ParserKit.Proofs.Parser.Algebra

/-! Literals. A literal is taken off the front of a text in one step, and this is the same as to read its characters one
by one: a text that has only some of them at its front is refused either way, with nothing taken. A literal in two parts
is read part by part. In the encoding of the text as bytes a literal is read exactly where its own bytes stand at the
front, since no character's bytes begin those of another. -/

namespace ParserKit

namespace Text

theorem dropPrefix?_append (l m s : Text) : (l ++ m).dropPrefix? s = (l.dropPrefix? s).bind m.dropPrefix? := by
  apply Option.ext
  intro rest
  rw [dropPrefix?_eq_some_iff, Option.bind_eq_some_iff]
  constructor
  · rintro rfl
    exact ⟨m ++ rest, dropPrefix?_eq_some_iff.mpr (append_prepend l.chars m.chars rest),
      dropPrefix?_self_append m rest⟩
  · rintro ⟨middle, hl, hm⟩
    rw [dropPrefix?_eq_some_iff] at hl hm
    rw [hl, hm]
    exact (append_prepend l.chars m.chars rest).symm

theorem dropPrefix?_singleton (c d : Char) (s : Text) :
    (ofList [c]).dropPrefix? (cons d s) = if d = c then some s else none := by
  split
  · next h =>
    rw [dropPrefix?_eq_some_iff, h]
    exact ext rfl
  · next h =>
    rw [Option.eq_none_iff_forall_ne_some]
    intro rest hrest
    rw [dropPrefix?_eq_some_iff, append_eq_prepend, chars_ofList, cons_prepend, cons_inj_iff] at hrest
    exact h hrest.1

/-- The bytes of a text. -/
def bytes (s : Text) : ByteArray := s.toString.toByteArray

theorem bytes_append (s t : Text) : (s ++ t).bytes = s.bytes ++ t.bytes := by
  simp only [bytes, Text.toString, chars_append, String.toByteArray_ofList, List.utf8Encode_append]

/-- The bytes of one text stand at the front of those of another exactly if its characters do. -/
theorem exists_bytes_eq_append_iff {l s : Text} : (∃ b, s.bytes = l.bytes ++ b) ↔ l.chars <+: s.chars := by
  constructor
  · rintro ⟨b, hb⟩
    simp only [bytes, Text.toString, String.toByteArray_ofList] at hb
    exact List.isPrefix_of_utf8Encode_append_eq_utf8Encode b hb.symm
  · rintro ⟨cs, hcs⟩
    have hs : s = l ++ ofList cs := ext hcs.symm
    exact ⟨(ofList cs).bytes, by rw [hs, bytes_append]⟩

end Text

namespace Parser

universe u

variable {α : Type u}

/-- A literal in two parts is one part and then the other. -/
theorem literal_append (l m : Text) :
    literal (l ++ m) = ((literal l).both (literal m)).map fun (a, b) => a ++ b := by
  ext1
  funext s
  rw [both, bind_map, run_literal, Text.dropPrefix?_append, run_bind, first_literal]
  cases l.dropPrefix? s with
  | none => rfl
  | some rest =>
      rw [Option.bind_some, Option.map_some, Option.elim_some, map_map, run_map, first_literal]
      cases m.dropPrefix? rest <;> rfl

theorem map_literal_self (l : Text) : (literal l).map (fun _ => l) = literal l := by
  ext1
  funext s
  rw [run_map, first_literal, run_literal]
  cases l.dropPrefix? s <;> rfl

/-- The characters `cs`, each read by itself and one after the other, with the value `v` for all of them. -/
def oneByOne (v : α) (cs : List Char) : Parser α := cs.foldl (fun p c => p.keepLeft (char c)) (succeed v)

theorem literal_singleton (c : Char) : literal (.ofList [c]) = (char c).map fun _ => .ofList [c] := by
  ext1
  funext s
  cases s with
  | empty => rfl
  | cons d s =>
      rw [run_literal, Text.dropPrefix?_singleton, run_map, first, char, run_satisfy_cons]
      by_cases h : d = c
      · simp [h]
      · simp [h]

theorem oneByOne_eq_map_literal (v : α) (cs : List Char) : oneByOne v cs = (literal (.ofList cs)).map fun _ => v := by
  induction cs using List.reverseRecOn with
  | nil => rfl
  | append_singleton cs c ih =>
      have hsplit : Text.ofList (cs ++ [c]) = .ofList cs ++ .ofList [c] := Text.ext rfl
      calc oneByOne v (cs ++ [c])
          = (oneByOne v cs).keepLeft (char c) := by
            rw [oneByOne, List.foldl_append]
            rfl
        _ = (literal (.ofList cs)).bind fun _ => (char c).map fun _ => v := by
            rw [ih, keepLeft, map_bind]
        _ = ((literal (.ofList cs)).both (literal (.ofList [c]))).map fun _ => v := by
            simp only [literal_singleton, both, bind_map, map_map]
        _ = (literal (.ofList (cs ++ [c]))).map fun _ => v := by
            rw [hsplit, literal_append, map_map]

theorem literal_eq_oneByOne (l : Text) : literal l = oneByOne l l.chars := by
  rw [oneByOne_eq_map_literal, Text.ofList_chars, map_literal_self]

/-- A literal is either at the front, of the characters and of the bytes alike, and then removed from there, or the
bytes at the front are others. -/
theorem run_literal_cases (l s : Text) :
    (∃ rest, (literal l).run s = [(l, rest)] ∧ s = l ++ rest ∧ s.bytes = l.bytes ++ rest.bytes) ∨
      (literal l).run s = [] ∧ ∀ b, s.bytes ≠ l.bytes ++ b := by
  by_cases h : ∃ rest, s = l ++ rest
  · obtain ⟨rest, rfl⟩ := h
    exact .inl ⟨rest, run_literal_append l rest, rfl, Text.bytes_append l rest⟩
  · have hnone : ∀ rest, s ≠ l ++ rest := fun rest hrest => h ⟨rest, hrest⟩
    refine .inr ⟨run_literal_eq_nil hnone, ?_⟩
    intro b hb
    obtain ⟨cs, hcs⟩ := Text.exists_bytes_eq_append_iff.mp ⟨b, hb⟩
    exact hnone (.ofList cs) (Text.ext hcs.symm)

example : (literal "grün").run "grü" = [] ∧ (literal "grün").run "grüne" = [(↑"grün", ↑"e")] := by decide +kernel

/-- A literal reads the same as its characters one after the other, and the same as its parts one after the other, with
the parts of the text put together again. It is read exactly where the bytes of the text begin with those of the
literal, and what is left is the text with just the literal removed from its front. -/
theorem literal_by_characters_and_parts :
    (∀ l : Text, literal l = oneByOne l l.chars) ∧
    (∀ l m : Text, literal (l ++ m) = ((literal l).both (literal m)).map fun (a, b) => a ++ b) ∧
    ∀ l s : Text,
      (∃ rest, (literal l).run s = [(l, rest)] ∧ s = l ++ rest ∧ s.bytes = l.bytes ++ rest.bytes) ∨
        (literal l).run s = [] ∧ ∀ b, s.bytes ≠ l.bytes ++ b :=
  ⟨literal_eq_oneByOne, literal_append, run_literal_cases⟩

end Parser

end ParserKit
