import VirtioMedia.Lib.Trace

/-!
# Refinement of one machine by another

A step of the concrete machine performs a list of actions of the abstract one:
none if the abstract machine does not move, several if it moves more than once.
If this keeps the two states related, then a run of the concrete machine
performs a run of the abstract one, and the states at the end are related.
-/

namespace Trace

variable {σ τ α β : Type*} {step : σ → α → Option σ} {ok : σ → α → Prop}
  {astep : τ → β → Option τ} {label : σ → α → List β} {R : σ → τ → Prop}

theorem run_nil (s : σ) : run step s [] = some s := rfl

/-- The abstract actions that a list of actions performs. -/
def labels (step : σ → α → Option σ) (label : σ → α → List β) : σ → List α → List β
  | _, [] => []
  | s, a :: rest => label s a ++ (step s a).elim [] fun s' => labels step label s' rest

theorem labels_cons {s s' : σ} {a : α} (h : step s a = some s') (rest : List α) :
    labels step label s (a :: rest) = label s a ++ labels step label s' rest := by
  rw [labels, h]
  rfl

/-- Every conforming step of the concrete machine is matched by what it
performs. -/
structure Simulates (step : σ → α → Option σ) (ok : σ → α → Prop) (astep : τ → β → Option τ)
    (label : σ → α → List β) (R : σ → τ → Prop) : Prop where
  matched : ∀ s a s' t, R s t → ok s a → step s a = some s' →
    ∃ t', run astep t (label s a) = some t' ∧ R s' t'

theorem Simulates.run (h : Simulates step ok astep label R) {s s' : σ} {t : τ} {as : List α}
    (hrel : R s t) (hc : Conforms step ok s as) (hrun : run step s as = some s') :
    ∃ t', Trace.run astep t (labels step label s as) = some t' ∧ R s' t' := by
  induction as generalizing s t with
  | nil =>
      cases hrun
      exact ⟨t, rfl, hrel⟩
  | cons a rest ih =>
      obtain ⟨s₁, ha, hrest⟩ := run_cons_eq_some.mp hrun
      obtain ⟨t₁, ht₁, hrel₁⟩ := h.matched s a s₁ t hrel hc.1 ha
      obtain ⟨t', ht', hrel'⟩ := ih hrel₁ (hc.2 s₁ ha) hrest
      refine ⟨t', ?_, hrel'⟩
      rw [labels_cons ha, run_append, ht₁]
      exact ht'

theorem conforms_append {s t : σ} {as bs : List α} (h : Conforms step ok s as)
    (hrun : Trace.run step s as = some t) (h' : Conforms step ok t bs) :
    Conforms step ok s (as ++ bs) := by
  induction as generalizing s with
  | nil =>
      cases hrun
      exact h'
  | cons a rest ih =>
      obtain ⟨s₁, ha, hrest⟩ := run_cons_eq_some.mp hrun
      refine ⟨h.1, fun s' hs' => ?_⟩
      obtain rfl : s₁ = s' := Option.some.inj (ha.symm.trans hs')
      exact ih (h.2 s₁ ha) hrest

/-- If what every step performs conforms to a condition of the abstract machine,
then so does what a run performs. -/
theorem Simulates.conforms (h : Simulates step ok astep label R) {aok : τ → β → Prop}
    (haok : ∀ s a s' t, R s t → ok s a → step s a = some s' → Conforms astep aok t (label s a))
    {s s' : σ} {t : τ} {as : List α} (hrel : R s t) (hc : Conforms step ok s as)
    (hrun : Trace.run step s as = some s') : Conforms astep aok t (labels step label s as) := by
  induction as generalizing s t with
  | nil => trivial
  | cons a rest ih =>
      obtain ⟨s₁, ha, hrest⟩ := run_cons_eq_some.mp hrun
      obtain ⟨t₁, ht₁, hrel₁⟩ := h.matched s a s₁ t hrel hc.1 ha
      rw [labels_cons ha]
      exact conforms_append (haok s a s₁ t hrel hc.1 ha) ht₁ (ih hrel₁ (hc.2 s₁ ha) hrest)

/-- The abstract state is computed from the concrete one, which keeps an
invariant of its own. -/
theorem Simulates.of_abs {abs : σ → τ} {P : σ → Prop}
    (h : ∀ s a s', P s → ok s a → step s a = some s' →
      Trace.run astep (abs s) (label s a) = some (abs s') ∧ P s') :
    Simulates step ok astep label fun s t => P s ∧ abs s = t where
  matched := by
    rintro s a s' t ⟨hs, rfl⟩ ha hstep
    obtain ⟨hrun, hs'⟩ := h s a s' hs ha hstep
    exact ⟨_, hrun, hs', rfl⟩

/-- If every conforming action has a step, and the abstract machine takes it too,
then every conforming run exists in both. -/
theorem run_abs {abs : σ → τ} {astep : τ → α → Option τ}
    (h : ∀ s a, ok s a → ∃ s', step s a = some s' ∧ astep (abs s) a = some (abs s'))
    {s : σ} {as : List α} (hc : Conforms step ok s as) :
    ∃ s', Trace.run step s as = some s' ∧ Trace.run astep (abs s) as = some (abs s') := by
  induction as generalizing s with
  | nil => exact ⟨s, rfl, rfl⟩
  | cons a rest ih =>
      obtain ⟨s₁, ha, ha'⟩ := h s a hc.1
      obtain ⟨s', hrun, hrun'⟩ := ih (hc.2 s₁ ha)
      exact ⟨s', run_cons_eq_some.mpr ⟨s₁, ha, hrun⟩, run_cons_eq_some.mpr ⟨_, ha', hrun'⟩⟩

end Trace
