import Mathlib.Data.List.Chain
import ParserKit.Proofs.Roman.Words
import ParserKit.Roman.Numeral

/-! The groups of a word. A list of groups is canonical when its runs are not empty, no group begins with the
letter of the run in front of it, and a run of one letter makes no pair with the letter behind it. Every word is
spelled by one canonical list, and that list is what the word is read as. -/

namespace ParserKit.Roman

open ParserKit.Parser

namespace Group

/-- The letter that a group begins with. -/
def head : Group → Letter
  | pair p => p.less
  | run l _ => l

/-- Whether a group has letters. -/
def Nonempty : Group → Prop
  | pair _ => True
  | run _ n => 0 < n

/-- Whether `g` ends where `h` begins, when their letters are read from the left. -/
def EndsBefore (g h : Group) : Prop :=
  match g with
  | pair _ => True
  | run l n => h.head ≠ l ∧ (n = 1 → ∀ p : Pair, p.letters ≠ [l, h.head])

theorem exists_letters_eq_cons {g : Group} (hg : g.Nonempty) : ∃ w, g.letters = g.head :: w := by
  cases g with
  | pair p => exact ⟨[p.greater], rfl⟩
  | run l n =>
      obtain ⟨n, rfl⟩ : ∃ m, n = m + 1 := ⟨n - 1, by simp only [Nonempty] at hg; omega⟩
      exact ⟨List.replicate n l, List.replicate_succ⟩

end Group

/-- The letters that groups are written with, one group after the other. -/
def lettersOf (gs : List Group) : List Letter := gs.flatMap Group.letters

/-- Groups that are read from their letters as they stand. -/
def Canonical (gs : List Group) : Prop := (∀ g ∈ gs, g.Nonempty) ∧ gs.IsChain Group.EndsBefore

@[simp] theorem lettersOf_nil : lettersOf [] = [] := rfl

@[simp] theorem lettersOf_cons (g : Group) (gs : List Group) : lettersOf (g :: gs) = g.letters ++ lettersOf gs :=
  List.flatMap_cons

theorem Canonical.tail {g : Group} {gs : List Group} (h : Canonical (g :: gs)) : Canonical gs :=
  ⟨fun k hk => h.1 k (List.mem_cons_of_mem g hk), h.2.tail⟩

theorem Canonical.cons {g : Group} {gs : List Group} (hg : g.Nonempty)
    (hhead : ∀ h ∈ gs.head?, g.EndsBefore h) (hgs : Canonical gs) : Canonical (g :: gs) := by
  refine ⟨?_, ?_⟩
  · intro k hk
    rcases List.mem_cons.mp hk with rfl | hk
    · exact hg
    · exact hgs.1 k hk
  · exact List.isChain_cons.mpr ⟨hhead, hgs.2⟩

theorem lettersOf_head? {gs : List Group} (h : Canonical gs) : (lettersOf gs).head? = gs.head?.map Group.head := by
  cases gs with
  | nil => rfl
  | cons g gs =>
      obtain ⟨w, hw⟩ := Group.exists_letters_eq_cons (h.1 g List.mem_cons_self)
      rw [lettersOf_cons, hw]
      rfl

theorem size_lettersOf_lt {g : Group} {gs : List Group} (h : Canonical (g :: gs)) (rest : Text) :
    (spell (lettersOf gs) ++ rest).size < (spell (lettersOf (g :: gs)) ++ rest).size := by
  obtain ⟨w, hw⟩ := Group.exists_letters_eq_cons (h.1 g List.mem_cons_self)
  rw [lettersOf_cons, hw, List.cons_append, spell_cons_append, spell_append_append, Text.size_cons]
  exact Nat.lt_succ_of_le (Text.size_le_append _ _)

theorem exists_replicate_append (l : Letter) (w : List Letter) : ∃ n v,
    w = List.replicate n l ++ v ∧ v.head? ≠ some l := by
  induction w with
  | nil => exact ⟨0, [], rfl, by simp⟩
  | cons m w ih =>
      by_cases h : m = l
      · subst h
        obtain ⟨n, v, rfl, hv⟩ := ih
        exact ⟨n + 1, v, by rw [List.replicate_succ, List.cons_append], hv⟩
      · exact ⟨0, m :: w, rfl, by simpa using h⟩

/-- Every word is spelled by canonical groups. The first group is the pair at its beginning or the whole run of
its first letter; the rest of the word is shorter. -/
theorem exists_canonical (w : List Letter) : ∃ gs, Canonical gs ∧ lettersOf gs = w := by
  induction hn : w.length using Nat.strongRecOn generalizing w with
  | ind n ih =>
      cases w with
      | nil => exact ⟨[], ⟨by simp, .nil⟩, rfl⟩
      | cons l w =>
          by_cases hpair : ∃ (p : Pair) (v : List Letter), l :: w = p.letters ++ v
          · obtain ⟨p, v, hv⟩ := hpair
            have hlen : v.length < n := by
              rw [← hn, hv]
              simp only [Pair.letters, List.length_append, List.length_cons, List.length_nil]
              omega
            obtain ⟨gs, hgs, rfl⟩ := ih v.length hlen v rfl
            exact ⟨.pair p :: gs, hgs.cons trivial fun _ _ => trivial, by rw [lettersOf_cons, hv]; rfl⟩
          · obtain ⟨m, v, rfl, hv⟩ := exists_replicate_append l w
            have hlen : v.length < n := by
              rw [← hn]
              simp only [List.length_cons, List.length_append]
              omega
            obtain ⟨gs, hgs, rfl⟩ := ih v.length hlen v rfl
            have hword : l :: (List.replicate m l ++ lettersOf gs) = lettersOf (.run l (m + 1) :: gs) := by
              rw [lettersOf_cons, Group.letters, List.replicate_succ, List.cons_append]
            refine ⟨.run l (m + 1) :: gs, hgs.cons (Nat.succ_pos m) ?_, hword.symm⟩
            intro h hh
            have hhead : (lettersOf gs).head? = some h.head := by
              rw [lettersOf_head? hgs, Option.mem_def.mp hh]
              rfl
            refine ⟨fun heq => hv (by rw [hhead, heq]), ?_⟩
            intro hone p hp
            obtain rfl : m = 0 := by omega
            obtain ⟨v, hcons⟩ := List.head?_eq_some_iff.mp hhead
            exact hpair ⟨p, v, by rw [hp, hcons]; rfl⟩

section Reading

variable {rest : Text} (hrest : rest.startsWith isLetter = false)

include hrest

theorem startsWith_lettersOf {gs : List Group} (hgs : Canonical gs) {l : Letter}
    (h : ∀ g ∈ gs.head?, g.head ≠ l) :
    (spell (lettersOf gs) ++ rest).startsWith (· == l.toChar) = false := by
  cases gs with
  | nil =>
      rw [lettersOf_nil, spell_nil_append]
      exact startsWith_toChar_eq_false hrest l
  | cons g gs =>
      obtain ⟨w, hw⟩ := Group.exists_letters_eq_cons (hgs.1 g List.mem_cons_self)
      rw [lettersOf_cons, hw, List.cons_append, spell_cons_append]
      exact startsWith_cons_toChar (h g rfl) _

theorem run_group_cons {g : Group} {gs : List Group} (h : Canonical (g :: gs)) :
    group.run (spell (lettersOf (g :: gs)) ++ rest) = [(g, spell (lettersOf gs) ++ rest)] := by
  rw [lettersOf_cons, spell_append_append]
  have hnext : ∀ k ∈ gs.head?, g.EndsBefore k := (List.isChain_cons.mp h.2).1
  cases g with
  | pair p =>
      rw [group]
      exact run_orElse_of_run (run_map_of_run (run_anyPair_append p _) Group.pair) _
  | run l n =>
      have hpos : 0 < n := h.1 _ List.mem_cons_self
      obtain ⟨m, rfl⟩ : ∃ m, n = m + 1 := ⟨n - 1, by omega⟩
      have hrun : (spell (lettersOf gs) ++ rest).startsWith (· == l.toChar) = false :=
        startsWith_lettersOf hrest h.tail fun k hk => (hnext k hk).1
      have hpair : ∀ p : Pair, p.less = l →
          (spell (List.replicate m l) ++ (spell (lettersOf gs) ++ rest)).startsWith (· == p.greater.toChar) =
            false := by
        rintro p rfl
        refine startsWith_greater_eq_false m fun hm => startsWith_lettersOf hrest h.tail ?_
        intro k hk heq
        exact (hnext k hk).2 (by omega) p (by rw [Pair.letters, heq])
      have hnone : (anyPair.map Group.pair).run
          (.cons l.toChar (spell (List.replicate m l) ++ (spell (lettersOf gs) ++ rest))) = [] :=
        run_map_of_eq_nil (run_anyPair_cons_eq_nil hpair) Group.pair
      rw [group, Group.letters, List.replicate_succ, spell_cons_append, run_orElse_of_eq_nil hnone,
        run_bind_of_run (run_anyLetter_cons l _), run_map_of_run (run_many_letter l m hrun),
        List.length_replicate]

theorem run_group_eq_nil : group.run rest = [] := by
  have hpair : (anyPair.map Group.pair).run rest = [] :=
    run_map_of_eq_nil (run_anyPair_eq_nil_of_not_letter hrest) Group.pair
  rw [group, run_orElse_of_eq_nil hpair, run_bind_of_eq_nil (run_anyLetter_eq_nil hrest)]

theorem run_many_group {gs : List Group} (h : Canonical gs) :
    group.many.run (spell (lettersOf gs) ++ rest) = [(gs, rest)] := by
  induction gs with
  | nil =>
      rw [lettersOf_nil, spell_nil_append]
      exact run_many_of_eq_nil (run_group_eq_nil hrest)
  | cons g gs ih =>
      exact run_many_of_run (run_group_cons hrest h) (size_lettersOf_lt h rest) (ih h.tail)

theorem run_many1_group {gs : List Group} (h : Canonical gs) (hne : gs ≠ []) :
    group.many1.run (spell (lettersOf gs) ++ rest) = [(gs, rest)] := by
  cases gs with
  | nil => exact absurd rfl hne
  | cons g gs =>
      exact run_many1_of_run (run_group_cons hrest h) (size_lettersOf_lt h rest)
        (run_many_group hrest h.tail)

theorem run_many1_group_eq_nil : group.many1.run rest = [] :=
  run_many1_of_eq_nil (run_group_eq_nil hrest)

end Reading

/-- A word has one canonical list of groups: the one that is read from it. -/
theorem Canonical.eq_of_lettersOf_eq {gs hs : List Group} (hgs : Canonical gs) (hhs : Canonical hs)
    (h : lettersOf gs = lettersOf hs) : gs = hs := by
  have hleft : group.many.run (spell (lettersOf gs) ++ ∅) = [(gs, ∅)] := run_many_group rfl hgs
  have hright : group.many.run (spell (lettersOf gs) ++ ∅) = [(hs, ∅)] := h ▸ run_many_group rfl hhs
  exact (run_singleton_inj hleft hright).1

theorem Canonical.eq_nil_iff {gs : List Group} (h : Canonical gs) : gs = [] ↔ lettersOf gs = [] :=
  ⟨fun hnil => hnil ▸ lettersOf_nil, fun hnil => h.eq_of_lettersOf_eq ⟨by simp, .nil⟩ hnil⟩

/-- A text that begins with no letter has no groups; the groups of any other text are canonical and spell the longest
word at its beginning. -/
theorem run_many1_group_cases (s : Text) :
    s.startsWith isLetter = false ∧ group.many1.run s = [] ∨
      s.startsWith isLetter = true ∧ ∃ gs, gs ≠ [] ∧ Canonical gs ∧
        (lettersOf gs).map Letter.toChar = s.takeWhile isLetter ∧ group.many1.run s = [(gs, s.dropWhile isLetter)] := by
  cases hs : s.startsWith isLetter with
  | false => exact .inl ⟨rfl, run_many1_group_eq_nil hs⟩
  | true =>
      obtain ⟨w, hw, hsplit⟩ := exists_spell_append s
      obtain ⟨gs, hgs, rfl⟩ := exists_canonical w
      have hne : gs ≠ [] := by
        rintro rfl
        exact Text.takeWhile_ne_nil_iff.mpr hs hw.symm
      refine .inr ⟨rfl, gs, hne, hgs, hw, ?_⟩
      conv_lhs => rw [hsplit]
      exact run_many1_group (Text.startsWith_dropWhile _ _) hgs hne

/-- Nothing is lost in groups, and no groups come about but canonical ones. There are groups exactly where the text
begins with a letter; then they spell the longest word at its beginning, and what follows the word is left. Each
character of that word is looked up with success, and the letters that are found are those of the groups, in order. And
canonical groups are what their own letters are read as, in front of any text that does not go on with a letter. -/
theorem run_many1_group_canonical :
    (∀ s : Text,
      s.startsWith isLetter = false ∧ group.many1.run s = [] ∨
      s.startsWith isLetter = true ∧ ∃ gs, gs ≠ [] ∧ Canonical gs ∧
        (lettersOf gs).map Letter.toChar = s.takeWhile isLetter ∧
        (s.takeWhile isLetter).map Letter.ofChar? = (lettersOf gs).map some ∧
        group.many1.run s = [(gs, s.dropWhile isLetter)]) ∧
    ∀ gs, gs ≠ [] → Canonical gs → ∀ tail : Text, tail.startsWith isLetter = false →
      group.many1.run (spell (lettersOf gs) ++ tail) = [(gs, tail)] := by
  constructor
  · intro s
    rcases run_many1_group_cases s with ⟨hs, hrun⟩ | ⟨hs, gs, hne, hgs, hletters, hrun⟩
    · exact .inl ⟨hs, hrun⟩
    · refine .inr ⟨hs, gs, hne, hgs, hletters, ?_, hrun⟩
      rw [← hletters, List.map_map]
      exact List.map_congr_left fun l _ => l.ofChar?_toChar
  · intro gs hne hgs tail htail
    exact run_many1_group htail hgs hne

/-- A run takes the letter that would have made a pair with the next one, and a pair is read behind another. -/
theorem run_many1_group_canonical_xxlcmiv :
    ([.run .X 2, .run .L 1, .pair .CM, .pair .IV] : List Group) ≠ [] ∧
      Canonical [.run .X 2, .run .L 1, .pair .CM, .pair .IV] ∧ (Text.ofString "x").startsWith isLetter = false ∧
      group.many1.run "XXLCMIVx" = [([.run .X 2, .run .L 1, .pair .CM, .pair .IV], ↑"x")] := by
  have hne : ([.run .X 2, .run .L 1, .pair .CM, .pair .IV] : List Group) ≠ [] := List.cons_ne_nil _ _
  have htail : (Text.ofString "x").startsWith isLetter = false := by decide
  have hpairs : Canonical [.pair .CM, .pair .IV] :=
    .cons trivial (fun _ _ => trivial) (.cons trivial (fun _ _ => trivial) ⟨by simp, .nil⟩)
  have hgs : Canonical [.run .X 2, .run .L 1, .pair .CM, .pair .IV] := by
    refine .cons Nat.two_pos ?_ (.cons Nat.one_pos ?_ hpairs)
    · rintro _ ⟨⟩
      exact ⟨by decide, fun htwo => absurd htwo (by decide)⟩
    · rintro _ ⟨⟩
      exact ⟨by decide, fun _ p => by cases p <;> decide⟩
  exact ⟨hne, hgs, htail, run_many1_group_canonical.2 _ hne hgs _ htail⟩

end ParserKit.Roman
