import VirtioMedia.Lib.Trace

/-!
# What a machine can be brought to do

A machine with many actors can be brought to a state by the actions of some of
them alone. Such a state is reached in stages, or by actions each of which makes
a measure smaller.
-/

namespace Trace

variable {σ α : Type*} {step : σ → α → Option σ} {ok : α → Prop}

/-- Some actions that are allowed lead from one state to the other. -/
def CanReach (step : σ → α → Option σ) (ok : α → Prop) (s t : σ) : Prop :=
  ∃ as, (∀ a ∈ as, ok a) ∧ run step s as = some t

theorem CanReach.refl (s : σ) : CanReach step ok s s :=
  ⟨[], fun _ h => absurd h List.not_mem_nil, rfl⟩

theorem CanReach.single {s t : σ} {a : α} (ha : ok a) (h : step s a = some t) :
    CanReach step ok s t := by
  refine ⟨[a], fun b hb => List.mem_singleton.mp hb ▸ ha, ?_⟩
  rw [run_cons, h]
  rfl

theorem CanReach.trans {s t u : σ} (h : CanReach step ok s t) (h' : CanReach step ok t u) :
    CanReach step ok s u := by
  obtain ⟨as, has, hrun⟩ := h
  obtain ⟨bs, hbs, hrun'⟩ := h'
  refine ⟨as ++ bs, fun a ha => (List.mem_append.mp ha).elim (has a) (hbs a), ?_⟩
  rw [run_append, hrun]
  exact hrun'

/-- As long as the goal is not reached, an allowed action makes the measure
smaller. -/
theorem CanReach.of_measure {P goal : σ → Prop} (m : σ → Nat)
    (h : ∀ s, P s → ¬goal s → ∃ a s', ok a ∧ step s a = some s' ∧ P s' ∧ m s' < m s) {s : σ}
    (hs : P s) : ∃ t, CanReach step ok s t ∧ P t ∧ goal t := by
  induction hm : m s using Nat.strongRecOn generalizing s with
  | ind n ih =>
      by_cases hgoal : goal s
      · exact ⟨s, .refl s, hs, hgoal⟩
      · obtain ⟨a, s', ha, hstep, hs', hlt⟩ := h s hs hgoal
        obtain ⟨t, hreach, ht⟩ := ih (m s') (hm ▸ hlt) hs' rfl
        exact ⟨t, (CanReach.single ha hstep).trans hreach, ht⟩

end Trace
