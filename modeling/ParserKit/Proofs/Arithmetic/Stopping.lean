import ParserKit.Proofs.Arithmetic.Completeness
import ParserKit.Proofs.Lexical.Spacing

/-! No reading stops early. What is left does not begin with white space; and where it begins with the sign of
the chain, what stands behind the sign is refused: nothing is read there, or a value with which the result would
exceed the limit. The check that ended the chain compared only its last operand with what stands behind. A sum is
no smaller than its last product, so the total is refused as well; a product is smaller than its last factor only
if it is `0`. -/

namespace ParserKit

namespace Arithmetic

open ParserKit.Parser

theorem leavesTrimmed_factor : factor.LeavesTrimmed := by
  rw [factor_eq]
  refine LeavesTrimmed.orElse (LeavesTrimmed.bind (fun _ => ?_) _) (leavesTrimmed_token nat)
  exact LeavesTrimmed.bind (fun _ => (leavesTrimmed_token _).map _) expr

theorem IsOperand.leavesTrimmed_chain {operand : Parser Nat} (hoperand : IsOperand operand)
    (htrimmed : operand.LeavesTrimmed) {c : Char} {combine : Nat → Nat → Nat} :
    (chain operand (.ofList [c]) combine).LeavesTrimmed := by
  intro s reading hmem
  rcases hoperand.atMostOne_chain.eq_nil_or s with hnil | ⟨v, rest, hrun⟩
  · rw [hnil] at hmem
    cases hmem
  · obtain rfl : reading = (v, rest) := by simpa [hrun] using hmem
    refine hoperand.chain_induction (motive := fun _ _ rest => rest.startsWith Unicode.isWhiteSpace = false)
      ?_ ?_ hrun
    · intro s a rest hoperandRun _
      exact htrimmed.of_run hoperandRun
    · intro s a middle after b rest _ _ _ _ ih
      exact ih

theorem leavesTrimmed_term : term.LeavesTrimmed := isOperand_factor.leavesTrimmed_chain leavesTrimmed_factor

theorem leavesTrimmed_expr : expr.LeavesTrimmed := by
  rw [expr_eq]
  exact isOperand_term.leavesTrimmed_chain leavesTrimmed_term

theorem refuses_of_run_expr {s rest r : Text} {v : Nat} (h : expr.run s = [(v, rest)]) (hrest : rest = .cons '+' r) :
    Refuses expr (· + ·) v r := by
  rw [expr_eq] at h ⊢
  refine isOperand_term.chain_induction
    (motive := fun _ v rest => rest = .cons '+' r → Refuses (chain term "+" (· + ·)) (· + ·) v r) ?_ ?_ h hrest
  · rintro s a rest _ hrefuses rfl
    exact hrefuses r (Text.trimStart_cons (by decide) r)
  · intro s a middle after b rest _ _ _ _ ih hrest
    apply (ih hrest).mono
    intro e
    omega

/-- The last factor of a product. -/
def Product.last : Product → Factor
  | .single f => f
  | .mul _ rest => rest.last

theorem Product.last_value_le : ∀ {t : Product}, 0 < t.value → t.last.value ≤ t.value
  | .single _, _ => Nat.le_refl _
  | .mul f t, h => by
      have hf : 0 < f.value := Nat.pos_of_mul_pos_right h
      have ht : 0 < t.value := Nat.pos_of_mul_pos_left h
      calc t.last.value ≤ t.value := Product.last_value_le ht
        _ ≤ f.value * t.value := Nat.le_mul_of_pos_left _ hf

/-- The text `s` is the product `t`, written out in front of `rest`, and the values in `t` are within the limit. -/
def Product.ReadOff (t : Product) (s rest : Text) : Prop :=
  t.Within maxSigned ∧ ∃ consumed, Written t.tokens consumed ∧ s = consumed ++ rest

namespace Product.ReadOff

theorem size_le {t : Product} {s rest : Text} (h : t.ReadOff s rest) : rest.size ≤ s.size := by
  obtain ⟨-, consumed, -, rfl⟩ := h
  rw [Text.size_prepend]
  omega

theorem run_factor_single {f : Factor} {s rest : Text} (h : (Product.single f).ReadOff s rest)
    (hrest : Ends [] rest) : factor.run s = [(f.value, rest.trimStart)] := by
  obtain ⟨hf, consumed, hconsumed, rfl⟩ := h
  exact Factor.run_factor hf hconsumed hrest

theorem run_factor_mul {f : Factor} {t : Product} {s rest : Text} (h : (Product.mul f t).ReadOff s rest) :
    ∃ after, factor.run s = [(f.value, .cons '*' after)] ∧ t.ReadOff after rest := by
  obtain ⟨⟨-, hf, ht⟩, consumed, hconsumed, rfl⟩ := h
  obtain ⟨ds, es, hds, hes, rfl⟩ := hconsumed.exists_of_append
  obtain ⟨w, fs, hw, hfs, rfl⟩ := hes.exists_of_cons
  have hsplit : ds ++ (w ++ Token.times.chars ++ fs) ++ rest = ds ++ (w ++ Text.cons '*' (fs ++ rest)) := by
    simp [Token.chars]
  refine ⟨fs ++ rest, ?_, ht, fs, hfs, rfl⟩
  rw [hsplit, Factor.run_factor hf hds (ends_sign hw (by decide) _ (by decide) (by decide)),
    trimStart_sign hw (by decide)]

end Product.ReadOff

theorem exists_readOff_of_run_term {s rest : Text} {v : Nat} (h : term.run s = [(v, rest)]) :
    ∃ t : Product, t.ReadOff s rest ∧ t.value = v := by
  obtain ⟨_, consumed, hs, hw, t, rfl, rfl, ht⟩ := (readsFrom_term s).exists_of_first (first_eq_of_run h)
  exact ⟨t, ⟨ht, consumed, hw, hs⟩, rfl⟩

/-- The tree follows the chain: a reading that ends in front of a sign has refused it at the last factor. -/
theorem refuses_last_of_run_term {s rest r : Text} {v : Nat} (h : term.run s = [(v, rest)])
    (hrest : rest = .cons '*' r) {t : Product} (ht : t.ReadOff s rest) :
    t.value = v ∧ Refuses term (· * ·) t.last.value r := by
  have hends : Ends [] (.cons '*' r) := ends_cons (by decide) (by decide) (by decide) r
  rw [term_eq] at h ⊢
  refine isOperand_factor.chain_induction
    (motive := fun s v rest => rest = .cons '*' r → ∀ t : Product, t.ReadOff s rest →
      t.value = v ∧ Refuses (chain factor "*" (· * ·)) (· * ·) t.last.value r) ?_ ?_ h hrest t ht
  · rintro s a rest hrun hrefuses rfl t ht
    cases t with
    | single f =>
        obtain ⟨rfl, -⟩ := run_singleton_inj (ht.run_factor_single hends) hrun
        exact ⟨rfl, hrefuses r (Text.trimStart_cons (by decide) r)⟩
    | mul f t =>
        -- the tree goes on behind the sign at which the chain has stopped
        obtain ⟨after, hfactor, htail⟩ := ht.run_factor_mul
        obtain ⟨-, hafter⟩ := run_singleton_inj hfactor hrun
        obtain rfl : after = r := (Text.cons_inj_iff.mp hafter).2
        have hle := htail.size_le
        rw [Text.size_cons] at hle
        omega
  · rintro s a middle after b rest hrun hsign hchain _ ih rfl t ht
    cases t with
    | single f =>
        -- the chain goes on behind the only factor of the tree
        obtain ⟨-, rfl⟩ := run_singleton_inj (ht.run_factor_single hends) hrun
        rw [Text.trimStart_trimStart] at hsign
        have hafter := leavesSuffix_term.size_le (first_eq_of_run hchain)
        have htrim := (Text.cons '*' r).size_trimStart_le
        rw [hsign, Text.size_cons] at htrim
        omega
    | mul f t =>
        obtain ⟨after', hfactor, htail⟩ := ht.run_factor_mul
        obtain ⟨rfl, rfl⟩ := run_singleton_inj hfactor hrun
        rw [Text.trimStart_cons (by decide)] at hsign
        obtain rfl : after' = after := (Text.cons_inj_iff.mp hsign).2
        obtain ⟨hvalue, hrefuses⟩ := ih rfl t htail
        exact ⟨congrArg (f.value * ·) hvalue, hrefuses⟩

/-- A reading stops in front of a sign of its chain only if what stands behind is refused: by the sum as a whole,
and by the last factor of a product, hence by the product unless it is `0`. -/
theorem run_stops_only_where_refused (s : Text) :
    (expr.run s = [] ∨ ∃ v rest, expr.run s = [(v, rest)] ∧ rest.startsWith Unicode.isWhiteSpace = false ∧
      ∀ r, rest = .cons '+' r → Refuses expr (· + ·) v r) ∧
    (term.run s = [] ∨ ∃ v rest, term.run s = [(v, rest)] ∧ rest.startsWith Unicode.isWhiteSpace = false ∧
      (∃ t : Product, t.ReadOff s rest ∧ t.value = v) ∧
      ∀ t : Product, t.ReadOff s rest → ∀ r, rest = .cons '*' r →
        Refuses term (· * ·) t.last.value r ∧ (0 < v → Refuses term (· * ·) v r)) := by
  constructor
  · rcases atMostOne_expr.eq_nil_or s with hnil | ⟨v, rest, hrun⟩
    · exact .inl hnil
    · exact .inr ⟨v, rest, hrun, leavesTrimmed_expr.of_run hrun, fun r => refuses_of_run_expr hrun⟩
  · rcases isOperand_term.atMostOne.eq_nil_or s with hnil | ⟨v, rest, hrun⟩
    · exact .inl hnil
    · refine .inr ⟨v, rest, hrun, leavesTrimmed_term.of_run hrun, exists_readOff_of_run_term hrun, ?_⟩
      intro t ht r hrest
      obtain ⟨rfl, hrefuses⟩ := refuses_last_of_run_term hrun hrest ht
      refine ⟨hrefuses, ?_⟩
      intro hpos
      apply hrefuses.mono
      intro e
      exact Nat.mul_le_mul_right e (Product.last_value_le hpos)

end Arithmetic

end ParserKit
