import ParserKit.Text

/-! How far characters of one kind reach at the beginning of a text. A text is cut in front of its first
character of another kind; nothing is lost by the cut, and the second part does not begin with a character
of the kind. -/

namespace ParserKit.Text

variable {accepts : Char → Bool}

/-- The characters in front of the first one that `accepts` refuses. -/
def takeWhile (accepts : Char → Bool) (s : Text) : List Char := s.chars.takeWhile accepts

/-- The text from the first character on that `accepts` refuses. -/
def dropWhile (accepts : Char → Bool) (s : Text) : Text := ofList (s.chars.dropWhile accepts)

/-- Whether the text begins with a character that `accepts` allows. -/
def startsWith (accepts : Char → Bool) (s : Text) : Bool := s.chars.head?.any accepts

@[simp] theorem startsWith_cons (c : Char) (s : Text) : (cons c s).startsWith accepts = accepts c := rfl

theorem takeWhile_cons (c : Char) (s : Text) :
    (cons c s).takeWhile accepts = if accepts c then c :: s.takeWhile accepts else [] := by
  rw [takeWhile, chars_cons, List.takeWhile_cons]
  rfl

theorem dropWhile_cons (c : Char) (s : Text) :
    (cons c s).dropWhile accepts = if accepts c then s.dropWhile accepts else cons c s := by
  rw [dropWhile, chars_cons, List.dropWhile_cons]
  split
  · rfl
  · exact ext rfl

theorem cons_inj_iff {c d : Char} {s t : Text} : cons c s = cons d t ↔ c = d ∧ s = t := by
  rw [Text.ext_iff, chars_cons, chars_cons, List.cons.injEq, ← Text.ext_iff]

@[simp] theorem append_prepend (cs ds : List Char) (s : Text) : (cs ++ ds) ++ s = cs ++ (ds ++ s) :=
  ext (List.append_assoc cs ds s.chars)

theorem append_eq_prepend (s t : Text) : s ++ t = s.chars ++ t := rfl

theorem size_le_append (s t : Text) : t.size ≤ (s ++ t).size := by
  rw [append_eq_prepend, size_prepend]
  omega

theorem takeWhile_append_dropWhile (accepts : Char → Bool) (s : Text) :
    s.takeWhile accepts ++ s.dropWhile accepts = s := ext List.takeWhile_append_dropWhile

/-- The cut is as late as it can be. -/
theorem startsWith_dropWhile (accepts : Char → Bool) (s : Text) :
    (s.dropWhile accepts).startsWith accepts = false := by
  induction s with
  | empty => rfl
  | cons c s ih =>
      rw [dropWhile_cons]
      split
      · exact ih
      · simpa using ‹¬accepts c = true›

theorem of_mem_takeWhile {s : Text} {c : Char} (hc : c ∈ s.takeWhile accepts) : accepts c = true := by
  have h := List.all_takeWhile (l := s.chars) (p := accepts)
  exact List.all_eq_true.mp h c hc

theorem takeWhile_eq_nil {s : Text} (h : s.startsWith accepts = false) : s.takeWhile accepts = [] := by
  cases s with
  | empty => rfl
  | cons c s => rw [takeWhile_cons, if_neg (by simpa using h)]

theorem takeWhile_ne_nil_iff {s : Text} : s.takeWhile accepts ≠ [] ↔ s.startsWith accepts = true := by
  cases s with
  | empty => simp [takeWhile, startsWith]
  | cons c s =>
      rw [takeWhile_cons, startsWith_cons]
      split
      · simp [*]
      · simp [*]

theorem dropWhile_eq_self {s : Text} (h : s.startsWith accepts = false) : s.dropWhile accepts = s := by
  cases s with
  | empty => rfl
  | cons c s => rw [dropWhile_cons, if_neg (by simpa using h)]

theorem takeWhile_prepend {cs : List Char} (h : ∀ c ∈ cs, accepts c = true) (s : Text) :
    (cs ++ s).takeWhile accepts = cs ++ s.takeWhile accepts := List.takeWhile_append_of_pos h

theorem dropWhile_prepend {cs : List Char} (h : ∀ c ∈ cs, accepts c = true) (s : Text) :
    (cs ++ s).dropWhile accepts = s.dropWhile accepts :=
  congrArg ofList (List.dropWhile_append_of_pos h)

/-- Characters of one kind end where the text behind them begins with another kind. -/
theorem takeWhile_prepend_eq {cs : List Char} (hcs : ∀ c ∈ cs, accepts c = true) {s : Text}
    (hs : s.startsWith accepts = false) : (cs ++ s).takeWhile accepts = cs := by
  rw [takeWhile_prepend hcs, takeWhile_eq_nil hs, List.append_nil]

theorem dropWhile_prepend_eq {cs : List Char} (hcs : ∀ c ∈ cs, accepts c = true) {s : Text}
    (hs : s.startsWith accepts = false) : (cs ++ s).dropWhile accepts = s := by
  rw [dropWhile_prepend hcs, dropWhile_eq_self hs]

@[simp] theorem prepend_empty (s : Text) : s.chars ++ (∅ : Text) = s := ext (List.append_nil s.chars)

theorem dropWhile_eq_empty {s : Text} (h : ∀ c ∈ s.chars, accepts c = true) : s.dropWhile accepts = ∅ := by
  have hdrop : (s.chars ++ (∅ : Text)).dropWhile accepts = ∅ := dropWhile_prepend h ∅
  rwa [prepend_empty] at hdrop

/-- A text that is dropped as a whole is all taken. -/
theorem takeWhile_eq_chars {s : Text} (h : s.dropWhile accepts = ∅) : s.takeWhile accepts = s.chars := by
  have hcut := congrArg chars (s.takeWhile_append_dropWhile accepts)
  rwa [h, chars_prepend, chars_empty, List.append_nil] at hcut

theorem startsWith_of_prefix {l s : Text} (h : l.chars <+: s.chars) (hl : l.startsWith accepts = true) :
    s.startsWith accepts = true := by
  cases l with
  | empty => cases hl
  | cons c l =>
      obtain ⟨cs, hs⟩ := h
      rw [startsWith, ← hs]
      exact hl

theorem startsWith_eq_false_of_imp {allows : Char → Bool} {s : Text} (h : s.startsWith accepts = false)
    (himp : ∀ c, allows c = true → accepts c = true) : s.startsWith allows = false := by
  cases s with
  | empty => rfl
  | cons c s =>
      rw [startsWith_cons] at h ⊢
      cases hc : allows c with
      | false => rfl
      | true => rw [himp c hc] at h; exact h

theorem startsWith_eq_false_of_disjoint {allows : Char → Bool} {s : Text} (h : s.startsWith accepts = true)
    (hdisjoint : ∀ c, accepts c = true → allows c = false) : s.startsWith allows = false := by
  cases s with
  | empty => rfl
  | cons c s => exact hdisjoint c h

end ParserKit.Text
