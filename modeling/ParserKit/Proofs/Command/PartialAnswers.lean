import ParserKit.Proofs.Command.Acceptance
import ParserKit.Proofs.Text.Quoting
import ParserKit.Proofs.Vocabulary

/-! Answers from a part of the input. Whether a part may be left over makes a difference to no command but one that
would fail for what it leaves, and there the same number and the same rest are the answer. Nothing that a command
writes can be taken for something else: a number ends at the first character that is no digit, and what was left over
is quoted, so answers with equal texts are equal, and errors too, whichever characters are hidden in quoted texts. -/

namespace ParserKit

open ParserKit.Parser

namespace Command

/-- The same command, where a part of the input may be left over or not. -/
def allowing (allowPartial : Bool) : Command → Command
  | eval expression _ => eval expression allowPartial
  | roman numeral unchecked _ => roman numeral unchecked allowPartial

theorem leavesSuffix (c : Command) : c.parser.LeavesSuffix := by
  cases c with
  | eval expression allowPartial => exact Arithmetic.leavesSuffix_expr
  | roman numeral unchecked allowPartial =>
      cases unchecked with
      | false => exact Roman.leavesSuffix_numeral
      | true => exact Roman.leavesSuffix_uncheckedNumeral

theorem run_allowing (c : Command) (allowPartial : Bool) :
    (c.allowing allowPartial).run = answer c.parser c.input allowPartial := by
  cases c with
  | eval expression _ => rfl
  | roman numeral unchecked _ => cases unchecked <;> rfl

/-- Two runs on one input: they differ only where the strict one fails for what is left over. -/
theorem run_allowing_cases (c : Command) :
    (c.allowing true).run = (c.allowing false).run ∧
        (∀ value rest, (c.allowing false).run ≠ .error (.unconsumed value rest)) ∨
      ∃ value rest, (c.allowing false).run = .error (.unconsumed value rest) ∧
        (c.allowing true).run = .ok (.part value rest) ∧
        rest ≠ ∅ ∧ ∃ consumed : List Char, c.input = consumed ++ rest := by
  rw [run_allowing, run_allowing]
  rcases answer_cases c.parser c.input with ⟨-, hrun⟩ | ⟨v, -, hrun⟩ | ⟨v, rest, hfirst, hrest, hpart, hstrict⟩
  · exact .inl ⟨by rw [hrun, hrun], by simp [hrun]⟩
  · exact .inl ⟨by rw [hrun, hrun], by simp [hrun]⟩
  · exact .inr ⟨v, rest, hstrict, hpart, hrest, c.leavesSuffix.exists_of_first hfirst⟩

section Rendering

variable (hidden : Char → Bool)

theorem Answer.ofString_render_whole (value : Nat) :
    Text.ofString ((whole value).render hidden) = Nat.toDigits 10 value ++ (∅ : Text) := by
  apply Text.ext
  simp [Answer.render, Text.ofString]

theorem Answer.ofString_render_part (value : Nat) (rest : Text) :
    Text.ofString ((part value rest).render hidden) =
      Nat.toDigits 10 value ++ Text.ofList (" (unconsumed: ".toList ++ (Quoted.encode hidden rest.chars ++ [')'])) := by
  apply Text.ext
  simp [Answer.render, Text.ofString, Quoted.quote]

theorem Answer.render_whole_ne_part (v w : Nat) (rest : Text) :
    (whole v).render hidden ≠ (part w rest).render hidden := by
  intro h
  have htext := congrArg Text.ofString h
  rw [ofString_render_whole, ofString_render_part] at htext
  have hempty := (Arithmetic.toDigits_prepend_inj rfl rfl htext).2
  cases congrArg Text.chars hempty

/-- An answer is known by its text: by the digits at the beginning and, behind them, nothing or a quoted text. -/
theorem Answer.render_injective : Function.Injective (Answer.render hidden) := by
  intro a b h
  have htext := congrArg Text.ofString h
  cases a with
  | whole v =>
      cases b with
      | whole w =>
          rw [ofString_render_whole, ofString_render_whole] at htext
          rw [(Arithmetic.toDigits_prepend_inj rfl rfl htext).1]
      | part w t => exact absurd h (render_whole_ne_part hidden v w t)
  | part v s =>
      cases b with
      | whole w => exact absurd h.symm (render_whole_ne_part hidden w v s)
      | part w t =>
          rw [ofString_render_part, ofString_render_part] at htext
          obtain ⟨rfl, hrest⟩ := Arithmetic.toDigits_prepend_inj rfl rfl htext
          have hquoted := List.append_cancel_left (congrArg Text.chars hrest)
          rw [Text.ext (Quoted.encode_append_inj hquoted).1]

theorem Error.ofString_render_noParse (input : Text) :
    Text.ofString ((noParse input).render hidden) =
      "no parse for ".toList ++ Text.ofList (Quoted.encode hidden input.chars) := by
  apply Text.ext
  simp [Error.render, Text.ofString, Quoted.quote]

theorem Error.ofString_render_unconsumed (value : Nat) (rest : Text) :
    Text.ofString ((unconsumed value rest).render hidden) =
      "parsed ".toList ++ (Nat.toDigits 10 value ++
        Text.ofList (" but ".toList ++ (Quoted.encode hidden rest.chars ++ " was left unconsumed".toList))) := by
  apply Text.ext
  simp [Error.render, Text.ofString, Quoted.quote]

theorem Error.render_noParse_ne_unconsumed (input : Text) (v : Nat) (rest : Text) :
    (noParse input).render hidden ≠ (unconsumed v rest).render hidden := by
  intro h
  have htext := congrArg Text.ofString h
  rw [ofString_render_noParse, ofString_render_unconsumed] at htext
  cases congrArg Text.uncons? htext

/-- An error is known by its text: by the first letters, and by the number and the quoted text behind them. -/
theorem Error.render_injective : Function.Injective (Error.render hidden) := by
  intro a b h
  have htext := congrArg Text.ofString h
  cases a with
  | noParse s =>
      cases b with
      | noParse t =>
          rw [ofString_render_noParse, ofString_render_noParse] at htext
          have hquoted := List.append_cancel_left (congrArg Text.chars htext)
          rw [Text.ext (Quoted.encode_injective hidden hquoted)]
      | unconsumed w t => exact absurd h (render_noParse_ne_unconsumed hidden s w t)
  | unconsumed v s =>
      cases b with
      | noParse t => exact absurd h.symm (render_noParse_ne_unconsumed hidden t v s)
      | unconsumed w t =>
          rw [ofString_render_unconsumed, ofString_render_unconsumed] at htext
          have hnumber := Text.ext (List.append_cancel_left (congrArg Text.chars htext))
          obtain ⟨rfl, hrest⟩ := Arithmetic.toDigits_prepend_inj rfl rfl hnumber
          have hquoted := List.append_cancel_left (congrArg Text.chars hrest)
          rw [Text.ext (Quoted.encode_append_inj hquoted).1]

end Rendering

/-- To allow a rest changes the run of a command only where it would fail for a rest: there the answer is the number
of the failure with the rest quoted behind it, a rest that is not empty and an end of the input. With any choice of
hidden characters, answers with the same text are the same, and so are errors; in particular no answer from a part of
the input reads like one from all of it. -/
theorem partial_answers_unambiguous (hidden : Char → Bool) :
    (∀ c : Command,
      (c.allowing true).run = (c.allowing false).run ∧
          (∀ value rest, (c.allowing false).run ≠ .error (.unconsumed value rest)) ∨
        ∃ value rest, (c.allowing false).run = .error (.unconsumed value rest) ∧
          (c.allowing true).run.map (Answer.render hidden) =
            .ok (toString value ++ " (unconsumed: " ++ Quoted.quote hidden rest ++ ")") ∧
          rest ≠ ∅ ∧ ∃ consumed : List Char, c.input = consumed ++ rest) ∧
    Function.Injective (Answer.render hidden) ∧ Function.Injective (Error.render hidden) := by
  refine ⟨?_, Answer.render_injective hidden, Error.render_injective hidden⟩
  intro c
  rcases c.run_allowing_cases with hsame | ⟨value, rest, hstrict, hpartial, hrest⟩
  · exact .inl hsame
  · refine .inr ⟨value, rest, hstrict, ?_, hrest⟩
    rw [hpartial]
    rfl

/-- A rest that spells the end of an answer is not taken for one: its quotation marks are written otherwise. -/
theorem partial_answers_unambiguous_quoted :
    (Answer.part 6 "\")").text ≠ (Answer.part 6 "\\\")").text ∧
      (Command.allowing true (.eval "6\")" false)).run.map Answer.text = .ok "6 (unconsumed: \"\\\")\")" := by
  obtain ⟨-, hanswer, -⟩ := partial_answers_unambiguous Quoted.isHidden
  refine ⟨fun h => ?_, ?_⟩
  · cases hanswer h
  · decide +kernel

end Command

end ParserKit
