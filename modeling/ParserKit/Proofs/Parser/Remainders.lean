import ParserKit.Proofs.Lexical.Tokens

/-! What is left over, and how many readings there are. A parser that leaves an end of every text keeps to this
under every combinator, since each part only ever reads what the part before it left. The number of readings is
another matter: what goes through `map` or ends in a repetition has one reading at most, whatever its parts have,
while `bind`, `keepRight` and `orElse` hand on all readings of the part that comes last. -/

namespace ParserKit.Parser

universe u v

variable {α : Type u} {β : Type v} {p q : Parser α} {s rest : Text} {a : α}

theorem leavesSuffix_succeed (a : α) : (succeed a).LeavesSuffix := by
  intro s reading hmem
  rw [run_succeed, List.mem_singleton] at hmem
  exact ⟨[], by rw [hmem, Text.nil_prepend]⟩

theorem leavesSuffix_fail : (fail : Parser α).LeavesSuffix := by
  intro s reading hmem
  rw [run_fail] at hmem
  cases hmem

theorem leavesSuffix_ofOption (o : Option α) : (ofOption o).LeavesSuffix := by
  cases o with
  | none => exact leavesSuffix_fail
  | some a => exact leavesSuffix_succeed a

theorem leavesSuffix_anyChar : anyChar.LeavesSuffix := by
  intro s reading hmem
  cases s with
  | empty => cases hmem
  | cons c s =>
      rw [run_anyChar_cons, List.mem_singleton] at hmem
      exact ⟨[c], by rw [hmem, Text.cons_prepend, Text.nil_prepend]⟩

theorem leavesSuffix_atEnd : atEnd.LeavesSuffix := by
  intro s reading hmem
  simp only [atEnd] at hmem
  split at hmem
  · obtain rfl := List.mem_singleton.mp hmem
    exact ⟨[], by rw [Text.nil_prepend]⟩
  · cases hmem

theorem leavesSuffix_literal (l : Text) : (literal l).LeavesSuffix := by
  intro s reading hmem
  rw [run_literal, Option.mem_toList, Option.map_eq_some_iff] at hmem
  obtain ⟨rest, hdrop, rfl⟩ := hmem
  rw [Text.dropPrefix?_eq_some_iff] at hdrop
  exact ⟨l.chars, by rw [hdrop, Text.append_eq_prepend]⟩

theorem LeavesSuffix.exists_of_first (hp : p.LeavesSuffix) (h : p.first s = some (a, rest)) :
    ∃ consumed : List Char, s = consumed ++ rest := hp s (a, rest) (List.mem_of_mem_head? h)

theorem LeavesSuffix.bind {f : α → Parser β} (hp : p.LeavesSuffix) (hf : ∀ a, (f a).LeavesSuffix) :
    (p.bind f).LeavesSuffix := by
  intro s reading hmem
  cases h : p.first s with
  | none =>
      rw [run_bind_of_none h] at hmem
      cases hmem
  | some reading' =>
      obtain ⟨a, middle⟩ := reading'
      rw [run_bind_of_first h] at hmem
      obtain ⟨front, rfl⟩ := hp.exists_of_first h
      obtain ⟨back, rfl⟩ := hf a middle reading hmem
      exact ⟨front ++ back, by rw [Text.append_prepend]⟩

theorem LeavesSuffix.map (hp : p.LeavesSuffix) (f : α → β) : (p.map f).LeavesSuffix := by
  intro s reading hmem
  rw [run_map, Option.mem_toList, Option.map_eq_some_iff] at hmem
  obtain ⟨⟨a, rest⟩, h, rfl⟩ := hmem
  exact hp.exists_of_first h

theorem LeavesSuffix.orElse (hp : p.LeavesSuffix) (hq : q.LeavesSuffix) : (p.orElse q).LeavesSuffix := by
  intro s reading hmem
  rw [run_orElse] at hmem
  split at hmem
  · exact hq s reading hmem
  · exact hp s reading hmem

theorem LeavesSuffix.both {q : Parser β} (hp : p.LeavesSuffix) (hq : q.LeavesSuffix) : (p.both q).LeavesSuffix :=
  hp.bind fun _ => hq.map _

theorem LeavesSuffix.keepLeft {q : Parser β} (hp : p.LeavesSuffix) (hq : q.LeavesSuffix) :
    (p.keepLeft q).LeavesSuffix := hp.bind fun _ => hq.map _

theorem LeavesSuffix.keepRight {q : Parser β} (hp : p.LeavesSuffix) (hq : q.LeavesSuffix) :
    (p.keepRight q).LeavesSuffix := hp.bind fun _ => hq

theorem LeavesSuffix.oneOf {ps : List (Parser α)} (h : ∀ p ∈ ps, p.LeavesSuffix) : (oneOf ps).LeavesSuffix := by
  induction ps with
  | nil => exact leavesSuffix_fail
  | cons p ps ih =>
      rw [oneOf_cons]
      exact (h p List.mem_cons_self).orElse (ih fun q hq => h q (List.mem_cons_of_mem p hq))

theorem LeavesSuffix.each {ps : List (Parser α)} (h : ∀ p ∈ ps, p.LeavesSuffix) : (each ps).LeavesSuffix := by
  intro s reading hmem
  obtain ⟨p, hp, hreading⟩ := List.mem_flatMap.mp hmem
  exact h p hp s reading hreading

theorem leavesSuffix_lookahead (p : Parser α) : p.lookahead.LeavesSuffix := by
  intro s reading hmem
  obtain ⟨_, -, rfl⟩ := List.mem_map.mp hmem
  exact ⟨[], by rw [Text.nil_prepend]⟩

theorem LeavesSuffix.times (hp : p.LeavesSuffix) (n : Nat) : (times n p).LeavesSuffix := by
  induction n with
  | zero => exact leavesSuffix_succeed []
  | succ n ih => exact hp.bind fun _ => ih.map _

theorem LeavesSuffix.optional (hp : p.LeavesSuffix) : p.optional.LeavesSuffix := by
  intro s reading hmem
  simp only [Parser.optional] at hmem
  split at hmem
  · next h =>
    obtain rfl := List.mem_singleton.mp hmem
    exact hp.exists_of_first h
  · next h =>
    obtain rfl := List.mem_singleton.mp hmem
    exact ⟨[], by rw [Text.nil_prepend]⟩

/-- Each turn of the loop starts from what the turn before left. -/
theorem LeavesSuffix.exists_of_iterate (hp : p.LeavesSuffix) (step : β → α → β) (acc : β) (s : Text) :
    ∃ consumed : List Char, s = consumed ++ (p.iterate step acc s).2 := by
  fun_induction iterate p step acc s with
  | case1 acc s h => exact ⟨[], by rw [Text.nil_prepend]⟩
  | case2 acc s v rest h hlt ih =>
      obtain ⟨front, hfront⟩ := hp.exists_of_first h
      obtain ⟨back, hback⟩ := ih
      refine ⟨front ++ back, ?_⟩
      rw [Text.append_prepend, ← hback, hfront]
  | case3 acc s v rest h hlt => exact hp.exists_of_first h

theorem LeavesSuffix.fold (hp : p.LeavesSuffix) (seed : β) (step : β → α → β) : (p.fold seed step).LeavesSuffix := by
  intro s reading hmem
  rw [run_fold, List.mem_singleton] at hmem
  rw [hmem]
  exact hp.exists_of_iterate step seed s

theorem LeavesSuffix.exists_of_collect (hp : p.LeavesSuffix) (latest : List α) (s : Text) :
    ∃ consumed : List Char, s = consumed ++ (p.collect latest s).2 := hp.exists_of_iterate _ latest s

theorem LeavesSuffix.many (hp : p.LeavesSuffix) : p.many.LeavesSuffix := by
  intro s reading hmem
  obtain rfl := List.mem_singleton.mp hmem
  exact hp.exists_of_collect [] s

theorem LeavesSuffix.many1 (hp : p.LeavesSuffix) : p.many1.LeavesSuffix := by
  intro s reading hmem
  simp only [Parser.many1] at hmem
  split at hmem
  · cases hmem
  · next a rest h =>
    obtain ⟨front, hfront⟩ := hp.exists_of_first h
    split at hmem
    · obtain rfl := List.mem_singleton.mp hmem
      obtain ⟨back, hback⟩ := hp.exists_of_collect [a] rest
      refine ⟨front ++ back, ?_⟩
      rw [Text.append_prepend, ← hback, hfront]
    · obtain rfl := List.mem_singleton.mp hmem
      exact ⟨front, hfront⟩

theorem leavesSuffix_satisfy (accepts : Char → Bool) : (satisfy accepts).LeavesSuffix := by
  apply leavesSuffix_anyChar.bind
  intro c
  split
  · exact leavesSuffix_succeed c
  · exact leavesSuffix_fail

theorem leavesSuffix_char (c : Char) : (char c).LeavesSuffix := leavesSuffix_satisfy _

theorem leavesSuffix_space : space.LeavesSuffix := (leavesSuffix_satisfy _).many.map _

theorem LeavesSuffix.token (hp : p.LeavesSuffix) : p.token.LeavesSuffix :=
  (leavesSuffix_space.keepRight hp).keepLeft leavesSuffix_space

theorem leavesSuffix_symbol (l : Text) : (symbol l).LeavesSuffix := (leavesSuffix_literal l).token

theorem leavesSuffix_nat : nat.LeavesSuffix :=
  ((leavesSuffix_satisfy _).bind fun d =>
    (leavesSuffix_satisfy Char.isDigit).fold (some (digitValue d)) appendDigit).bind leavesSuffix_ofOption

theorem leavesSuffix_ident : ident.LeavesSuffix :=
  (leavesSuffix_satisfy _).bind fun _ => (leavesSuffix_satisfy _).many.map _

/-! ### The number of readings -/

/-- No text has more than one reading. -/
def AtMostOne (p : Parser α) : Prop := ∀ s, (p.run s).length ≤ 1

/-- Every text has one reading. -/
def ExactlyOne (p : Parser α) : Prop := ∀ s, (p.run s).length = 1

theorem AtMostOne.eq_nil_or (hp : p.AtMostOne) (s : Text) : p.run s = [] ∨ ∃ a rest, p.run s = [(a, rest)] := by
  cases h : p.run s with
  | nil => exact .inl rfl
  | cons reading readings =>
      have hlength := hp s
      rw [h, List.length_cons] at hlength
      obtain rfl : readings = [] := List.eq_nil_of_length_eq_zero (by omega)
      exact .inr ⟨reading.1, reading.2, rfl⟩

theorem atMostOne_succeed (a : α) : (succeed a).AtMostOne := fun _ => Nat.le_refl 1

theorem atMostOne_ofOption (o : Option α) : (ofOption o).AtMostOne := by
  intro s
  rw [run_ofOption]
  exact Option.length_toList_le

theorem atMostOne_map (p : Parser α) (f : α → β) : (p.map f).AtMostOne := by
  intro s
  rw [run_map]
  exact Option.length_toList_le

theorem AtMostOne.bind {f : α → Parser β} (hf : ∀ a, (f a).AtMostOne) (p : Parser α) : (p.bind f).AtMostOne := by
  intro s
  cases h : p.first s with
  | none =>
      rw [run_bind_of_none h]
      exact Nat.zero_le 1
  | some reading =>
      rw [run_bind_of_first h]
      exact hf reading.1 reading.2

theorem AtMostOne.orElse (hp : p.AtMostOne) (hq : q.AtMostOne) : (p.orElse q).AtMostOne := by
  intro s
  rw [run_orElse]
  split
  · exact hq s
  · exact hp s

theorem atMostOne_both (p : Parser α) (q : Parser β) : (p.both q).AtMostOne := AtMostOne.bind (fun _ => atMostOne_map q _) p

theorem atMostOne_keepLeft (p : Parser α) (q : Parser β) : (p.keepLeft q).AtMostOne :=
  AtMostOne.bind (fun _ => atMostOne_map q _) p

theorem AtMostOne.keepRight {q : Parser β} (hq : q.AtMostOne) (p : Parser α) : (p.keepRight q).AtMostOne :=
  AtMostOne.bind (fun _ => hq) p

theorem atMostOne_many1 (p : Parser α) : p.many1.AtMostOne := by
  intro s
  simp only [Parser.many1]
  split
  · exact Nat.zero_le 1
  · split
    · exact Nat.le_refl 1
    · exact Nat.le_refl 1

theorem exactlyOne_optional (p : Parser α) : p.optional.ExactlyOne := by
  intro s
  simp only [Parser.optional]
  split <;> rfl

end ParserKit.Parser
