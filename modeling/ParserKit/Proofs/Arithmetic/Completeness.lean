import ParserKit.Proofs.Arithmetic.Chains

/-! Every sentence of arithmetic whose values are within the limit is read as a whole. The tail that follows
it may not go on with the sentence: what stands directly behind it is no digit, and what stands behind white
space is no sign of an operator that could continue the tree. -/

namespace ParserKit

namespace Text

theorem isDigit_of_isWhiteSpace {c : Char} (h : Unicode.isWhiteSpace c = true) : c.isDigit = false := by
  rw [Unicode.isWhiteSpace, Unicode.Ranges.contains, Unicode.Ranges.covers_iff Unicode.ascending_whiteSpace] at h
  obtain ⟨r, hr, hlo, hhi⟩ := h
  by_contra hdigit
  rw [Bool.not_eq_false, Char.isDigit, Bool.and_eq_true, decide_eq_true_eq, decide_eq_true_eq] at hdigit
  have h48 : 48 ≤ c.toNat := hdigit.1
  have h57 : c.toNat ≤ 57 := hdigit.2
  simp only [Unicode.whiteSpace, List.mem_cons, List.not_mem_nil, or_false] at hr
  rcases hr with rfl | rfl | rfl | rfl | rfl | rfl | rfl | rfl | rfl | rfl <;> dsimp only at hlo hhi <;> omega

theorem startsWith_isDigit_of_blank {w : List Char} (hw : Arithmetic.Blank w) {s : Text}
    (h : s.startsWith Char.isDigit = false) : (w ++ s).startsWith Char.isDigit = false := by
  cases w with
  | nil => rwa [nil_prepend]
  | cons c w =>
      rw [cons_prepend, startsWith_cons]
      exact isDigit_of_isWhiteSpace (hw c List.mem_cons_self)

end Text

namespace Arithmetic

open ParserKit.Parser

/-- A text that cannot go on with a number in front of it, nor, after white space, with one of `signs`. -/
def Ends (signs : List Char) (s : Text) : Prop :=
  s.startsWith Char.isDigit = false ∧ ∀ c ∈ signs, s.trimStart.startsWith (· == c) = false

theorem Ends.mono {signs more : List Char} (h : ∀ c ∈ signs, c ∈ more) {s : Text} (hs : Ends more s) :
    Ends signs s := ⟨hs.1, fun c hc => hs.2 c (h c hc)⟩

section Sign

variable {w : List Char} {c : Char} (hw : Blank w) (hspace : Unicode.isWhiteSpace c = false) (t : Text)

include hw hspace

theorem trimStart_sign : (w ++ Text.cons c t).trimStart = .cons c t := by
  rw [Text.trimStart_blank_append hw]
  exact Text.trimStart_eq_self hspace

/-- A sign ends what stands in front of it, unless it is one of `signs`. -/
theorem ends_sign {signs : List Char} (hdigit : c.isDigit = false) (hc : c ∉ signs) :
    Ends signs (w ++ Text.cons c t) := by
  refine ⟨Text.startsWith_isDigit_of_blank hw hdigit, ?_⟩
  intro d hd
  rw [trimStart_sign hw hspace t, Text.startsWith_cons, beq_eq_false_iff_ne]
  rintro rfl
  exact hc hd

end Sign

theorem ends_cons {signs : List Char} {c : Char} (hspace : Unicode.isWhiteSpace c = false)
    (hdigit : c.isDigit = false) (hc : c ∉ signs) (t : Text) : Ends signs (.cons c t) := by
  have h := ends_sign Blank.nil hspace t hdigit hc
  rwa [Text.nil_prepend] at h

theorem ends_closing (t : Text) : Ends ['+', '*'] (.cons ')' t) := ends_cons (by decide) (by decide) (by decide) t

theorem Digits.startsWith_isDigit (n : Digits) (s : Text) : (n.chars ++ s).startsWith Char.isDigit = true := by
  obtain ⟨c, cs, hcs⟩ := List.exists_cons_of_ne_nil n.nonempty
  rw [hcs, Text.cons_prepend, Text.startsWith_cons]
  exact n.isDigit c (hcs ▸ List.mem_cons_self)

theorem Digits.trimStart_append {w : List Char} (hw : Blank w) (n : Digits) (s : Text) :
    (w ++ (n.chars ++ s)).trimStart = n.chars ++ s := by
  rw [Text.trimStart_blank_append hw]
  apply Text.trimStart_eq_self
  apply Text.startsWith_eq_false_of_disjoint (n.startsWith_isDigit s)
  intro c hdigit
  cases hc : Unicode.isWhiteSpace c with
  | false => rfl
  | true => rw [Text.isDigit_of_isWhiteSpace hc] at hdigit; cases hdigit

theorem run_natural_digits {w : List Char} (hw : Blank w) (n : Digits) (hn : decimalValue n.chars ≤ maxSigned)
    {s : Text} (hs : s.startsWith Char.isDigit = false) :
    natural.run (w ++ (n.chars ++ s)) = [(decimalValue n.chars, s.trimStart)] := by
  have htrim := n.trimStart_append hw s
  have hdigit : (w ++ (n.chars ++ s)).trimStart.startsWith Char.isDigit = true := by
    rw [htrim]
    exact n.startsWith_isDigit s
  rw [run_natural hdigit, htrim, Text.takeWhile_prepend_eq n.isDigit hs, Text.dropWhile_prepend_eq n.isDigit hs,
    checked_eq_some_iff.mpr ⟨hn, rfl⟩]
  rfl

/-- Parentheses around a sum, with what stands behind them. -/
theorem run_factor_of_paren {s inside rest after : Text} {v : Nat} (hopen : s.trimStart = .cons '(' inside)
    (hexpr : expr.run inside = [(v, rest)]) (hclose : rest.trimStart = .cons ')' after) :
    factor.run s = [(v, after.trimStart)] := by
  have hopening : (symbol "(").run s = [(Text.ofList ['('], inside.trimStart)] := run_symbol_of_cons hopen
  have hclosing : (symbol ")").run rest = [(Text.ofList [')'], after.trimStart)] := run_symbol_of_cons hclose
  have hparen : ((symbol "(").bind fun _ => expr.keepLeft (symbol ")")).run s = [(v, after.trimStart)] := by
    rw [← run_expr_trimStart] at hexpr
    rw [run_bind_of_run hopening, keepLeft, run_bind_of_run hexpr,
      run_map_of_run hclosing]
  rw [factor_eq]
  exact run_orElse_of_run hparen _

mutual

/-- A tree is read as a whole in front of a text that cannot go on with it: a sum, and below, a product and a
factor, each with the signs that could continue it. -/
theorem Sum.run_expr : ∀ {e : Sum}, e.Within maxSigned → ∀ {cs : List Char}, Written e.tokens cs →
    ∀ {s : Text}, Ends ['+', '*'] s → expr.run (cs ++ s) = [(e.value, s.trimStart)]
  | .single t, he, cs, hcs, s, hs => by
      have hterm : term.run (cs ++ s) = [(t.value, s.trimStart)] :=
        Product.run_term he hcs (hs.mono (by simp))
      rw [expr_eq]
      apply isOperand_term.run_chain_of_not_sign hterm
      rw [Text.trimStart_trimStart]
      exact hs.2 '+' (by simp)
  | .add t e, he, cs, hcs, s, hs => by
      obtain ⟨ds, es, hds, hes, rfl⟩ := hcs.exists_of_append
      obtain ⟨w, fs, hw, hfs, rfl⟩ := hes.exists_of_cons
      have hsplit : ds ++ (w ++ Token.plus.chars ++ fs) ++ s = ds ++ (w ++ Text.cons '+' (fs ++ s)) := by
        simp [Token.chars]
      have hterm : term.run (ds ++ (w ++ Text.cons '+' (fs ++ s))) = [(t.value, .cons '+' (fs ++ s))] := by
        rw [Product.run_term he.2.1 hds (ends_sign hw (by decide) _ (by decide) (by decide)),
          trimStart_sign hw (by decide)]
      have hexpr : expr.run (fs ++ s) = [(e.value, s.trimStart)] := Sum.run_expr he.2.2 hfs hs
      rw [hsplit]
      rw [expr_eq] at hexpr ⊢
      exact isOperand_term.run_chain_of_cons hterm (by decide) hexpr he.1

theorem Product.run_term : ∀ {t : Product}, t.Within maxSigned → ∀ {cs : List Char}, Written t.tokens cs →
    ∀ {s : Text}, Ends ['*'] s → term.run (cs ++ s) = [(t.value, s.trimStart)]
  | .single f, ht, cs, hcs, s, hs => by
      have hfactor : factor.run (cs ++ s) = [(f.value, s.trimStart)] :=
        Factor.run_factor ht hcs (hs.mono (by simp))
      rw [term_eq]
      apply isOperand_factor.run_chain_of_not_sign hfactor
      rw [Text.trimStart_trimStart]
      exact hs.2 '*' (by simp)
  | .mul f t, ht, cs, hcs, s, hs => by
      obtain ⟨ds, es, hds, hes, rfl⟩ := hcs.exists_of_append
      obtain ⟨w, fs, hw, hfs, rfl⟩ := hes.exists_of_cons
      have hsplit : ds ++ (w ++ Token.times.chars ++ fs) ++ s = ds ++ (w ++ Text.cons '*' (fs ++ s)) := by
        simp [Token.chars]
      have hfactor : factor.run (ds ++ (w ++ Text.cons '*' (fs ++ s))) =
          [(f.value, .cons '*' (fs ++ s))] := by
        rw [Factor.run_factor ht.2.1 hds (ends_sign hw (by decide) _ (by decide) (by decide)),
          trimStart_sign hw (by decide)]
      have hterm : term.run (fs ++ s) = [(t.value, s.trimStart)] := Product.run_term ht.2.2 hfs hs
      rw [hsplit]
      rw [term_eq] at hterm ⊢
      exact isOperand_factor.run_chain_of_cons hfactor (by decide) hterm ht.1

theorem Factor.run_factor : ∀ {f : Factor}, f.Within maxSigned → ∀ {cs : List Char}, Written f.tokens cs →
    ∀ {s : Text}, Ends [] s → factor.run (cs ++ s) = [(f.value, s.trimStart)]
  | .number n, hn, cs, hcs, s, hs => by
      obtain ⟨w, ds, hw, hblank, rfl⟩ := hcs.exists_of_singleton
      have hsplit : w ++ (Token.number n).chars ++ ds ++ s = w ++ (n.chars ++ (ds ++ s)) := by
        simp [Token.chars]
      have hdigit : (w ++ (n.chars ++ (ds ++ s))).trimStart.startsWith Char.isDigit = true := by
        rw [n.trimStart_append hw]
        exact n.startsWith_isDigit _
      rw [hsplit, run_factor_of_digit hdigit,
        run_natural_digits hw n hn (Text.startsWith_isDigit_of_blank hblank hs.1),
        Text.trimStart_blank_append hblank]
      rfl
  | .paren e, he, cs, hcs, s, hs => by
      obtain ⟨v, inside, w, hv, hinside, hw, rfl⟩ := hcs.exists_of_paren
      have hsplit : v ++ '(' :: (inside ++ ')' :: w) ++ s =
          v ++ Text.cons '(' (inside ++ Text.cons ')' (w ++ s)) := by
        simp
      have hexpr : expr.run (inside ++ Text.cons ')' (w ++ s)) = [(e.value, .cons ')' (w ++ s))] := by
        rw [Sum.run_expr he hinside (ends_closing _), Text.trimStart_cons (by decide)]
      rw [hsplit, run_factor_of_paren (trimStart_sign hv (by decide) _) hexpr (Text.trimStart_cons (by decide) _),
        Text.trimStart_blank_append hw]
      rfl

end

/-- A sentence in parentheses, with anything behind them. -/
theorem run_factor_of_written {e : Sum} (he : e.Within maxSigned) {inside : List Char}
    (hinside : Written e.tokens inside) {s after : Text}
    (hopen : s.trimStart = .cons '(' (inside ++ Text.cons ')' after)) :
    factor.run s = [(e.value, after.trimStart)] := by
  have hclose : (Text.cons ')' after).trimStart = .cons ')' after := Text.trimStart_cons (by decide) after
  have hexpr := Sum.run_expr he hinside (ends_closing after)
  rw [hclose] at hexpr
  exact run_factor_of_paren hopen hexpr hclose

/-- Soundness gives the sentence of a whole reading, completeness the reading of a whole sentence. -/
theorem first_expr_eq_whole_iff {s : Text} {v : Nat} :
    expr.first s = some (v, ∅) ↔ ∃ e : Sum, Written e.tokens s.chars ∧ e.Within maxSigned ∧ e.value = v := by
  constructor
  · intro h
    obtain ⟨_, consumed, hs, hw, e, rfl, rfl, he⟩ := (readsFrom_expr s).exists_of_first h
    have hchars : s.chars = consumed := by
      rw [hs, Text.chars_prepend, Text.chars_empty, List.append_nil]
    rw [← hchars] at hw
    exact ⟨e, hw, he, rfl⟩
  · rintro ⟨e, hw, he, rfl⟩
    have hends : Ends ['+', '*'] ∅ := ⟨rfl, fun _ _ => rfl⟩
    have hrun : expr.run (s.chars ++ ∅) = [(e.value, Text.trimStart ∅)] := Sum.run_expr he hw hends
    rw [Text.prepend_empty] at hrun
    exact first_eq_of_run hrun

/-- A tail that begins neither with white space nor with a character that could go on with a sentence: a
digit or one of `signs`. -/
def Stops (signs : List Char) (tail : Text) : Prop :=
  tail.startsWith (fun c => Unicode.isWhiteSpace c || c.isDigit || signs.contains c) = false

theorem Stops.trimStart {signs : List Char} {tail : Text} (h : Stops signs tail) : tail.trimStart = tail :=
  Text.trimStart_eq_self (Text.startsWith_eq_false_of_imp h (by simp +contextual))

theorem Stops.ends {signs : List Char} {tail : Text} (h : Stops signs tail) : Ends signs tail := by
  refine ⟨Text.startsWith_eq_false_of_imp h (by simp +contextual), ?_⟩
  intro c hc
  rw [h.trimStart]
  apply Text.startsWith_eq_false_of_imp h
  intro d hd
  rw [eq_of_beq hd, Bool.or_eq_true, List.contains_iff_mem]
  exact .inr hc

/-- Reading what was written gives the value back and leaves the tail: for every tree whose values are within
the limit, every way to write it and every tail that does not go on with it. -/
theorem run_written_append (cs : List Char) (tail : Text) :
    (∀ e : Sum, e.Within maxSigned → Written e.tokens cs → Stops ['+', '*'] tail →
      expr.run (cs ++ tail) = [(e.value, tail)]) ∧
    (∀ t : Product, t.Within maxSigned → Written t.tokens cs → Stops ['*'] tail →
      term.run (cs ++ tail) = [(t.value, tail)]) ∧
    (∀ f : Factor, f.Within maxSigned → Written f.tokens cs → Stops [] tail →
      factor.run (cs ++ tail) = [(f.value, tail)]) := by
  refine ⟨?_, ?_, ?_⟩
  · intro e he hcs htail
    rw [Sum.run_expr he hcs htail.ends, htail.trimStart]
  · intro t ht hcs htail
    rw [Product.run_term ht hcs htail.ends, htail.trimStart]
  · intro f hf hcs htail
    rw [Factor.run_factor hf hcs htail.ends, htail.trimStart]

/-- The tree of `2*(3+04)`. -/
def twoTimesSum : Product :=
  .mul (.number ⟨['2'], by simp, by simp⟩) (.single (.paren (.add
    (.single (.number ⟨['3'], by simp, by simp⟩)) (.single (.single (.number ⟨['0', '4'], by simp, by simp⟩))))))

/-- A product with parentheses, white space and a leading zero, in front of a sign that cannot go on with it. -/
theorem run_written_append_product :
    twoTimesSum.Within maxSigned ∧ Written twoTimesSum.tokens " 2*(3+ 04)".toList ∧ Stops ['*'] "+x" ∧
      term.run (" 2*(3+ 04)".toList ++ Text.ofString "+x") = [(14, Text.ofString "+x")] := by
  have hwithin : twoTimesSum.Within maxSigned := by
    simp only [twoTimesSum, Product.Within, Factor.Within, Sum.Within]
    decide
  have hblank : Blank [' '] := by
    simp only [Blank, List.mem_singleton, forall_eq]
    decide
  have hnil : Blank [] := by simp [Blank]
  have hwritten : Written twoTimesSum.tokens " 2*(3+ 04)".toList :=
    .cons hblank (.cons hnil (.cons hnil (.cons hnil (.cons hnil (.cons hblank (.cons hnil (.nil hnil)))))))
  have hstops : Stops ['*'] "+x" := by
    unfold Stops
    decide
  exact ⟨hwithin, hwritten, hstops, (run_written_append _ _).2.1 twoTimesSum hwithin hwritten hstops⟩

end Arithmetic

end ParserKit
