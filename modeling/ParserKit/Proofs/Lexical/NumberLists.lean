import ParserKit.Proofs.Arithmetic.Overflow

/-! Lists of numbers in brackets. The numbers behind the first one are read by a repetition of a comma and a number. A
comma that no number follows is taken by the last turn and given back when the turn fails, so the repetition ends in
front of it, and there the bracket is missing: a list may not end in a comma. -/

namespace ParserKit.NumberList

open ParserKit.Parser ParserKit.Arithmetic

/-- A comma and a number behind it. -/
def next : Parser Nat := (symbol ",").keepRight natural

/-- Numbers with commas between them, at least one. -/
def numbers : Parser (List Nat) := natural.bind fun n => next.many.map fun ns => n :: ns

/-- Numbers with commas between them, at least one, in brackets. -/
def list : Parser (List Nat) := ((symbol "[").keepRight numbers).keepLeft (symbol "]")

/-- What is written in brackets, with white space around them. -/
def bracketed (before inside after : List Char) : List Char := before ++ '[' :: (inside ++ ']' :: after)

variable {s t u rest : Text}

theorem run_natural_spaced (x : SpacedNumber) (ht : t.startsWith Char.isDigit = false) :
    natural.run (x.chars ++ t) = [(x.value, t.trimStart)] := by
  have hsplit : x.chars ++ t = x.before ++ (x.digits.chars ++ (x.after ++ t)) := by
    simp [SpacedNumber.chars]
  have hstop := Text.startsWith_isDigit_of_blank x.blank_after ht
  rw [hsplit, run_natural_digits x.blank_before x.digits x.value_le hstop, Text.trimStart_blank_append x.blank_after]
  rfl

/-- Behind a comma, a number is read with the white space in front of it. -/
theorem run_next_cons (u : Text) : next.run (.cons ',' u) = natural.run u := by
  have hcomma : (symbol ",").run (.cons ',' u) = [(.ofList [','], u.trimStart)] :=
    run_symbol_of_cons (Text.trimStart_cons (by decide) u)
  rw [next, keepRight, run_bind_of_run hcomma]
  exact run_token_trimStart nat u

theorem run_next_eq_nil (h : s.trimStart.startsWith (· == ',') = false) : next.run s = [] :=
  run_bind_of_eq_nil (run_symbol_eq_nil h) _

theorem startsWith_isDigit_chainTail (xs : List SpacedNumber) (ht : t.startsWith Char.isDigit = false) :
    (chainTail ',' xs ++ t).startsWith Char.isDigit = false := by
  cases xs with
  | nil => exact ht
  | cons x xs => rfl

/-- The repetition reads all the numbers and ends where no other follows: at something else than a comma, or in front
of a comma with no number behind it. -/
theorem run_many_next (xs : List SpacedNumber) (hdigit : t.startsWith Char.isDigit = false)
    (hend : next.run t.trimStart = []) :
    next.many.run (chainTail ',' xs ++ t).trimStart = [(xs.map SpacedNumber.value, t.trimStart)] := by
  induction xs with
  | nil =>
      -- whatever the failing turn has taken, the repetition ends where that turn began
      exact run_many_of_eq_nil hend
  | cons x xs ih =>
      have htext : (chainTail ',' (x :: xs) ++ t).trimStart = .cons ',' (x.chars ++ (chainTail ',' xs ++ t)) := by
        have hsplit : chainTail ',' (x :: xs) ++ t = .cons ',' (x.chars ++ (chainTail ',' xs ++ t)) :=
          Text.ext (by simp [chainTail])
        rw [hsplit, Text.trimStart_cons (by decide)]
      have hturn : next.run (.cons ',' (x.chars ++ (chainTail ',' xs ++ t))) =
          [(x.value, (chainTail ',' xs ++ t).trimStart)] := by
        rw [run_next_cons, run_natural_spaced x (startsWith_isDigit_chainTail xs hdigit)]
      have hlt : (chainTail ',' xs ++ t).trimStart.size <
          (Text.cons ',' (x.chars ++ (chainTail ',' xs ++ t))).size := by
        calc (chainTail ',' xs ++ t).trimStart.size
            ≤ (chainTail ',' xs ++ t).size := Text.size_trimStart_le _
          _ ≤ (x.chars ++ (chainTail ',' xs ++ t)).size := Nat.le_add_left _ _
          _ < (Text.cons ',' (x.chars ++ (chainTail ',' xs ++ t))).size := Nat.lt_succ_self _
      rw [htext]
      exact run_many_of_run hturn hlt ih

theorem run_numbers (x : SpacedNumber) (xs : List SpacedNumber) (hdigit : t.startsWith Char.isDigit = false)
    (hend : next.run t.trimStart = []) :
    numbers.run (chainText ',' x xs ++ t) = [((x :: xs).map SpacedNumber.value, t.trimStart)] := by
  have hsplit : chainText ',' x xs ++ t = x.chars ++ (chainTail ',' xs ++ t) := Text.ext (by simp [chainText])
  have hfirst := run_natural_spaced x (startsWith_isDigit_chainTail xs hdigit)
  rw [numbers, hsplit, run_bind_of_run hfirst, run_map_of_run (run_many_next xs hdigit hend)]
  rfl

theorem run_numbers_trimStart (s : Text) : numbers.run s.trimStart = numbers.run s :=
  run_bind_congr (run_token_trimStart nat s) fun _ _ _ => rfl

section Brackets

variable {ns : List Nat} (hopen : s.trimStart = .cons '[' u) (hnumbers : numbers.run u = [(ns, rest)])

include hopen hnumbers

/-- Behind the numbers it is left to the bracket whether there is a list. -/
theorem run_list : list.run s = ((symbol "]").map fun _ => ns).run rest := by
  have hopening : (symbol "[").run s = [(.ofList ['['], u.trimStart)] := run_symbol_of_cons hopen
  have hinside : ((symbol "[").keepRight numbers).run s = [(ns, rest)] := by
    rw [keepRight, run_bind_of_run hopening, run_numbers_trimStart, hnumbers]
  rw [list, keepLeft, run_bind_of_run hinside]

theorem run_list_of_cons {after : Text} (hclose : rest.trimStart = .cons ']' after) :
    list.run s = [(ns, after.trimStart)] := by
  have hclosing : (symbol "]").run rest = [(.ofList [']'], after.trimStart)] := run_symbol_of_cons hclose
  rw [run_list hopen hnumbers, run_map_of_run hclosing]

theorem run_list_eq_nil (hclose : rest.trimStart.startsWith (· == ']') = false) : list.run s = [] := by
  rw [run_list hopen hnumbers]
  exact run_map_of_eq_nil (run_symbol_eq_nil (c := ']') hclose) _

end Brackets

theorem trimStart_bracketed {before : List Char} (hbefore : Blank before) (inside after : List Char) (tail : Text) :
    (bracketed before inside after ++ tail).trimStart = .cons '[' (inside ++ Text.cons ']' (after ++ tail)) := by
  have hsplit : bracketed before inside after ++ tail =
      before ++ Text.cons '[' (inside ++ Text.cons ']' (after ++ tail)) := by
    simp [bracketed]
  rw [hsplit, trimStart_sign hbefore (by decide)]

section Written

variable (x : SpacedNumber) (xs : List SpacedNumber) {before : List Char} (hbefore : Blank before)

include hbefore

theorem run_list_written {after : List Char} (hafter : Blank after) {tail : Text}
    (htail : tail.startsWith Unicode.isWhiteSpace = false) :
    list.run (bracketed before (chainText ',' x xs).chars after ++ tail) =
      [((x :: xs).map SpacedNumber.value, tail)] := by
  have hopen := trimStart_bracketed hbefore (chainText ',' x xs).chars after tail
  have hclose : (Text.cons ']' (after ++ tail)).trimStart = .cons ']' (after ++ tail) :=
    Text.trimStart_cons (by decide) _
  have hend : next.run (Text.cons ']' (after ++ tail)).trimStart = [] := by
    apply run_next_eq_nil
    rw [hclose, hclose]
    rfl
  have hnumbers := run_numbers x xs (t := .cons ']' (after ++ tail)) rfl hend
  rw [hclose] at hnumbers
  rw [run_list_of_cons hopen hnumbers hclose, Text.trimStart_blank_append hafter, Text.trimStart_eq_self htail]

/-- The last comma is left in front of the bracket. -/
theorem run_list_comma {v w : List Char} (hv : Blank v) (hw : Blank w) (after : List Char) (tail : Text) :
    list.run (bracketed before ((chainText ',' x xs).chars ++ (v ++ ',' :: w)) after ++ tail) = [] := by
  let behind : Text := w ++ Text.cons ']' (after ++ tail)
  have hopen := trimStart_bracketed hbefore ((chainText ',' x xs).chars ++ (v ++ ',' :: w)) after tail
  have hsplit : (chainText ',' x xs).chars ++ (v ++ ',' :: w) ++ Text.cons ']' (after ++ tail) =
      chainText ',' x xs ++ (v ++ Text.cons ',' behind) := Text.ext (by simp [behind])
  have hcomma : (v ++ Text.cons ',' behind).trimStart = .cons ',' behind := trimStart_sign hv (by decide) _
  have hend : next.run (v ++ Text.cons ',' behind).trimStart = [] := by
    rw [hcomma, run_next_cons]
    apply run_natural_eq_nil
    rw [trimStart_sign hw (by decide)]
    rfl
  have hdigit : (v ++ Text.cons ',' behind).startsWith Char.isDigit = false :=
    Text.startsWith_isDigit_of_blank hv rfl
  have hnumbers := run_numbers x xs hdigit hend
  rw [← hsplit, hcomma] at hnumbers
  apply run_list_eq_nil hopen hnumbers
  rw [Text.trimStart_cons (by decide)]
  rfl

end Written

/-- A list of numbers is read back from every way to write it, in front of any text that does not go on with white
space; with one more comma in front of the closing bracket it is no list. -/
theorem run_list_bracketed (x : SpacedNumber) (xs : List SpacedNumber) {before after : List Char}
    (hbefore : Blank before) (hafter : Blank after) {tail : Text}
    (htail : tail.startsWith Unicode.isWhiteSpace = false) :
    list.run (bracketed before (chainText ',' x xs).chars after ++ tail) =
      [((x :: xs).map SpacedNumber.value, tail)] ∧
    ∀ v w, Blank v → Blank w →
      list.run (bracketed before ((chainText ',' x xs).chars ++ (v ++ ',' :: w)) after ++ tail) = [] := by
  refine ⟨run_list_written x xs hbefore hafter htail, ?_⟩
  intro v w hv hw
  exact run_list_comma x xs hbefore hv hw after tail

/-- Two numbers, one with a zero and white space in front of it, and what follows the bracket. -/
theorem run_list_bracketed_two :
    Blank [' '] ∧ Blank [] ∧ (Text.ofString "x").startsWith Unicode.isWhiteSpace = false ∧
      list.run " [12, 07] x" = [([12, 7], ↑"x")] ∧ list.run " [12, 07, ] x" = [] := by
  have hblank : Blank [' '] := by
    simp only [Blank, List.mem_singleton, forall_eq]
    decide
  have htail : (Text.ofString "x").startsWith Unicode.isWhiteSpace = false := by decide
  let x : SpacedNumber := .ofNat 12 (by decide)
  let y : SpacedNumber := ⟨[' '], ⟨['0', '7'], by simp, by simp⟩, [], hblank, .nil, by decide⟩
  obtain ⟨hread, hfails⟩ := run_list_bracketed x [y] hblank hblank htail
  exact ⟨hblank, .nil, htail, hread, hfails [] [' '] .nil hblank⟩

end ParserKit.NumberList
