/-! Texts: a list of characters that carries its length, so that two texts can be compared by size
in one step. A text is determined by its characters (`Text.ext`), and each operation is pinned down
by what it does to them. -/

namespace ParserKit

/-- A text and the number of its characters. -/
structure Text where
  chars : List Char
  size : Nat := chars.length
  size_eq : size = chars.length := by rfl

namespace Text

@[ext]
theorem ext {s t : Text} (h : s.chars = t.chars) : s = t := by
  cases s with
  | mk cs n hn =>
    cases t with
    | mk ds m hm =>
      cases h
      cases hn.trans hm.symm
      rfl

instance : DecidableEq Text := fun s t => decidable_of_iff (s.chars = t.chars) ⟨ext, congrArg chars⟩

/-- The text of the given characters. -/
def ofList (cs : List Char) : Text := { chars := cs }

/-- The text of a string. -/
def ofString (s : String) : Text := ofList s.toList

instance : Coe String Text := ⟨ofString⟩

/-- The characters of a text as a string. -/
protected def toString (s : Text) : String := String.ofList s.chars

instance : ToString Text := ⟨Text.toString⟩

instance : Repr Text := ⟨fun s _ => repr s.toString⟩

/-- The text without characters. -/
def empty : Text := ofList []

instance : EmptyCollection Text := ⟨empty⟩

instance : Inhabited Text := ⟨empty⟩

/-- The text with `c` put in front. -/
def cons (c : Char) (s : Text) : Text where
  chars := c :: s.chars
  size := s.size + 1
  size_eq := by simp [s.size_eq]

/-- The text with the characters `cs` put in front. -/
def prepend (cs : List Char) (s : Text) : Text where
  chars := cs ++ s.chars
  size := cs.length + s.size
  size_eq := by simp [s.size_eq]

instance : HAppend (List Char) Text Text := ⟨prepend⟩

instance : Append Text := ⟨fun s t => s.chars ++ t⟩

/-- The number of characters is at hand, so emptiness is one comparison. -/
def isEmpty (s : Text) : Bool := s.size == 0

/-- The first character and what follows it. -/
def uncons? (s : Text) : Option (Char × Text) :=
  match s with
  | ⟨[], _, _⟩ => none
  | ⟨c :: cs, n, h⟩ => some (c, ⟨cs, n - 1, by simp [h]⟩)

/-- The text without its first `n` characters. -/
def drop (n : Nat) (s : Text) : Text where
  chars := s.chars.drop n
  size := s.size - n
  size_eq := by simp [s.size_eq]

/-- What follows `literal` in a text that begins with it. -/
def dropPrefix? (literal s : Text) : Option Text :=
  if literal.chars.isPrefixOf s.chars then some (s.drop literal.size) else none

@[simp] theorem chars_ofList (cs : List Char) : (ofList cs).chars = cs := rfl

@[simp] theorem ofList_chars (s : Text) : ofList s.chars = s := ext rfl

@[simp] theorem chars_empty : (∅ : Text).chars = [] := rfl

@[simp] theorem chars_cons (c : Char) (s : Text) : (cons c s).chars = c :: s.chars := rfl

@[simp] theorem chars_prepend (cs : List Char) (s : Text) : (cs ++ s).chars = cs ++ s.chars := rfl

@[simp] theorem chars_append (s t : Text) : (s ++ t).chars = s.chars ++ t.chars := rfl

@[simp] theorem chars_drop (n : Nat) (s : Text) : (s.drop n).chars = s.chars.drop n := rfl

@[simp] theorem size_empty : (∅ : Text).size = 0 := rfl

@[simp] theorem size_cons (c : Char) (s : Text) : (cons c s).size = s.size + 1 := rfl

@[simp] theorem size_prepend (cs : List Char) (s : Text) : (cs ++ s).size = cs.length + s.size := rfl

@[simp] theorem nil_prepend (s : Text) : ([] : List Char) ++ s = s := ext rfl

@[simp] theorem cons_prepend (c : Char) (cs : List Char) (s : Text) : (c :: cs) ++ s = cons c (cs ++ s) :=
  ext rfl

@[simp] theorem isEmpty_iff {s : Text} : s.isEmpty = true ↔ s = ∅ := by
  constructor
  · intro h
    have hs : s.chars.length = 0 := by simpa [isEmpty, s.size_eq] using h
    exact ext (List.eq_nil_of_length_eq_zero hs)
  · rintro rfl
    rfl

@[simp] theorem uncons?_empty : (∅ : Text).uncons? = none := rfl

@[simp] theorem uncons?_cons (c : Char) (s : Text) : (cons c s).uncons? = some (c, s) := by
  simp only [uncons?, cons]
  exact congrArg some (Prod.ext rfl (ext rfl))

/-- A text is empty, or a character in front of a text. -/
@[elab_as_elim, cases_eliminator]
theorem cases_cons {motive : Text → Prop} (s : Text) (empty : motive ∅)
    (cons : ∀ c s, motive (cons c s)) : motive s := by
  rw [← ofList_chars s]
  generalize s.chars = cs
  match cs with
  | [] => exact empty
  | c :: cs => exact cons c (ofList cs)

/-- Induction on a text, one character at a time. -/
@[elab_as_elim, induction_eliminator]
theorem induction {motive : Text → Prop} (s : Text) (empty : motive ∅)
    (cons : ∀ c s, motive s → motive (cons c s)) : motive s := by
  rw [← ofList_chars s]
  generalize s.chars = cs
  induction cs with
  | nil => exact empty
  | cons c cs ih => exact cons c (ofList cs) ih

theorem dropPrefix?_ne_none_iff {literal s : Text} : literal.dropPrefix? s ≠ none ↔ literal.chars <+: s.chars := by
  rw [← List.isPrefixOf_iff_prefix]
  simp [dropPrefix?]

theorem drop_append (literal rest : Text) : (literal ++ rest).drop literal.size = rest := by
  apply ext
  rw [chars_drop, chars_append, literal.size_eq, List.drop_left]

theorem dropPrefix?_self_append (literal rest : Text) : literal.dropPrefix? (literal ++ rest) = some rest := by
  have hprefix : literal.chars.isPrefixOf (literal ++ rest).chars = true :=
    List.isPrefixOf_iff_prefix.2 (List.prefix_append _ _)
  rw [dropPrefix?, if_pos hprefix, drop_append]

theorem dropPrefix?_eq_some_iff {literal s rest : Text} :
    literal.dropPrefix? s = some rest ↔ s = literal ++ rest := by
  constructor
  · intro h
    have hsome : literal.dropPrefix? s ≠ none := by simp [h]
    obtain ⟨cs, hcs⟩ := dropPrefix?_ne_none_iff.1 hsome
    obtain rfl : s = literal ++ ofList cs := ext hcs.symm
    rw [dropPrefix?_self_append] at h
    rw [Option.some.inj h]
  · rintro rfl
    exact dropPrefix?_self_append literal rest

end Text

end ParserKit
