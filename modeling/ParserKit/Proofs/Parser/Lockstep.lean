import ParserKit.Proofs.Parser.Remainders

/-! Two runs side by side. They keep step as long as both fail or both read the same value, with remainders that a
given relation holds of. Sequences and choices of parsers that keep step keep step. -/

namespace ParserKit.Parser

universe u v

variable {α : Type u} {β : Type v} {R : Text → Text → Prop} {p p' q q' : Parser α} {s t : Text}

/-- Both runs fail, or both have one reading of the same value, and `R` holds of what they leave. -/
def Lockstep (R : Text → Text → Prop) (readings readings' : List (α × Text)) : Prop :=
  readings = [] ∧ readings' = [] ∨
    ∃ a rest rest', readings = [(a, rest)] ∧ readings' = [(a, rest')] ∧ R rest rest'

theorem lockstep_nil : Lockstep R ([] : List (α × Text)) [] := .inl ⟨rfl, rfl⟩

theorem lockstep_singleton (a : α) (h : R s t) : Lockstep R [(a, s)] [(a, t)] := .inr ⟨a, s, t, rfl, rfl, h⟩

/-- Two runs of which the first decides the second. -/
theorem AtMostOne.lockstep (hp : p.AtMostOne) (h : p.run s = p'.run t)
    (hR : ∀ a rest, p.run s = [(a, rest)] → R rest rest) : Lockstep R (p.run s) (p'.run t) := by
  rw [← h]
  rcases hp.eq_nil_or s with hnil | ⟨a, rest, hrun⟩
  · rw [hnil]
    exact lockstep_nil
  · rw [hrun]
    exact lockstep_singleton a (hR a rest hrun)

namespace Lockstep

theorem mono {R' : Text → Text → Prop} {readings readings' : List (α × Text)} (h : Lockstep R readings readings')
    (hR : ∀ a rest rest', readings = [(a, rest)] → readings' = [(a, rest')] → R rest rest' → R' rest rest') :
    Lockstep R' readings readings' := by
  rcases h with ⟨hs, ht⟩ | ⟨a, rest, rest', hs, ht, hrest⟩
  · exact .inl ⟨hs, ht⟩
  · exact .inr ⟨a, rest, rest', hs, ht, hR a rest rest' hs ht hrest⟩

theorem bind {f f' : α → Parser β} (h : Lockstep R (p.run s) (p'.run t))
    (hf : ∀ a rest rest', p.run s = [(a, rest)] → R rest rest' →
      Lockstep R ((f a).run rest) ((f' a).run rest')) :
    Lockstep R ((p.bind f).run s) ((p'.bind f').run t) := by
  rcases h with ⟨hs, ht⟩ | ⟨a, rest, rest', hs, ht, hrest⟩
  · rw [run_bind_of_eq_nil hs, run_bind_of_eq_nil ht]
    exact lockstep_nil
  · rw [run_bind_of_run hs, run_bind_of_run ht]
    exact hf a rest rest' hs hrest

theorem map (h : Lockstep R (p.run s) (p'.run t)) (f : α → β) :
    Lockstep R ((p.map f).run s) ((p'.map f).run t) := by
  rcases h with ⟨hs, ht⟩ | ⟨a, rest, rest', hs, ht, hrest⟩
  · rw [run_map_of_eq_nil hs, run_map_of_eq_nil ht]
    exact lockstep_nil
  · rw [run_map_of_run hs, run_map_of_run ht]
    exact lockstep_singleton (f a) hrest

theorem orElse (hp : Lockstep R (p.run s) (p'.run t)) (hq : Lockstep R (q.run s) (q'.run t)) :
    Lockstep R ((p.orElse q).run s) ((p'.orElse q').run t) := by
  rcases hp with ⟨hs, ht⟩ | ⟨a, rest, rest', hs, ht, hrest⟩
  · rw [run_orElse_of_eq_nil hs, run_orElse_of_eq_nil ht]
    exact hq
  · rw [run_orElse_of_run hs, run_orElse_of_run ht]
    exact lockstep_singleton a hrest

end Lockstep

theorem lockstep_ofOption (o : Option α) (h : R s t) : Lockstep R ((ofOption o).run s) ((ofOption o).run t) := by
  cases o with
  | none => exact lockstep_nil
  | some a => exact lockstep_singleton a h

end ParserKit.Parser
