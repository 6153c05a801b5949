import Mathlib.Data.List.Basic

/-!
# Runs of a partial transition function

A transition function answers `none` where the transition does not exist:
the action is not enabled, or the machine stops there. A run folds the
function over a list of actions. Two rules are used throughout: an invariant
of one step is an invariant of every run, and a condition that decides
whether a single step exists decides whether a whole run exists.
-/

namespace Trace

variable {σ α : Type*}

/-- The state after a list of actions, if every one of them exists in turn. -/
def run (step : σ → α → Option σ) : σ → List α → Option σ
  | s, [] => some s
  | s, a :: rest => (step s a).bind fun s' => run step s' rest

/-- Every action of the list meets `ok` in the state in which it is taken. -/
def Conforms (step : σ → α → Option σ) (ok : σ → α → Prop) : σ → List α → Prop
  | _, [] => True
  | s, a :: rest => ok s a ∧ ∀ s', step s a = some s' → Conforms step ok s' rest

variable {step : σ → α → Option σ} {ok : σ → α → Prop} {P : σ → Prop}

@[simp] theorem run_cons (s : σ) (a : α) (rest : List α) :
    run step s (a :: rest) = (step s a).bind fun s' => run step s' rest := rfl

@[simp] theorem conforms_nil (s : σ) : Conforms step ok s [] := trivial

theorem conforms_true (s : σ) (as : List α) : Conforms step (fun _ _ => True) s as := by
  induction as generalizing s with
  | nil => trivial
  | cons a rest ih => exact ⟨trivial, fun s' _ => ih s'⟩

instance instDecidableConforms [∀ s a, Decidable (ok s a)] :
    (s : σ) → (as : List α) → Decidable (Conforms step ok s as)
  | _, [] => .isTrue trivial
  | s, a :: rest =>
    match hstep : step s a with
    | none => decidable_of_iff (ok s a) (by simp [Conforms, hstep])
    | some s' =>
      have := instDecidableConforms s' rest
      decidable_of_iff (ok s a ∧ Conforms step ok s' rest) (by simp [Conforms, hstep])

/-- The first step of a run that reaches a state, and the run after it. -/
theorem run_cons_eq_some {s t : σ} {a : α} {rest : List α} :
    run step s (a :: rest) = some t ↔
      ∃ s', step s a = some s' ∧ run step s' rest = some t := by
  simp only [run_cons, Option.bind_eq_some_iff]

theorem run_append (s : σ) (as bs : List α) :
    run step s (as ++ bs) = (run step s as).bind fun t => run step t bs := by
  induction as generalizing s with
  | nil => rfl
  | cons a rest ih =>
      rw [List.cons_append, run_cons, run_cons, Option.bind_assoc]
      exact congrArg _ (funext fun s' => ih s')

/-- A map that commutes with every step commutes with every run. -/
theorem run_map {τ : Type*} {f : σ → τ} {step' : τ → α → Option τ}
    (h : ∀ s a, step' (f s) a = (step s a).map f) (s : σ) (as : List α) :
    run step' (f s) as = (run step s as).map f := by
  induction as generalizing s with
  | nil => rfl
  | cons a rest ih =>
      rw [run_cons, run_cons, h]
      cases step s a with
      | none => rfl
      | some t => exact ih t

theorem conforms_of_forall {as : List α} (h : ∀ a ∈ as, ∀ s, ok s a) (s : σ) :
    Conforms step ok s as := by
  induction as generalizing s with
  | nil => trivial
  | cons a rest ih =>
      refine ⟨h a List.mem_cons_self s, fun s' _ => ih (fun b hb => ?_) s'⟩
      exact h b (List.mem_cons_of_mem a hb)

/-- A property kept by every conforming step is kept by every conforming run. -/
theorem run_invariant_of_conforms
    (hstep : ∀ s a s', P s → ok s a → step s a = some s' → P s')
    {s t : σ} {as : List α} (hs : P s) (hc : Conforms step ok s as)
    (hrun : run step s as = some t) : P t := by
  induction as generalizing s with
  | nil =>
      cases hrun
      exact hs
  | cons a rest ih =>
      obtain ⟨s', ha, hr⟩ := run_cons_eq_some.mp hrun
      exact ih (hstep s a s' hs hc.1 ha) (hc.2 s' ha) hr

/-- A property kept by every step is kept by every run. -/
theorem run_invariant (hstep : ∀ s a s', P s → step s a = some s' → P s')
    {s t : σ} {as : List α} (hs : P s) (hrun : run step s as = some t) : P t := by
  exact run_invariant_of_conforms (fun s a s' h _ => hstep s a s' h) hs (conforms_true s as) hrun

/-- Two conditions that agree on states with the invariant, under a third one,
agree along whole runs. -/
theorem conforms_congr {pre ok' : σ → α → Prop}
    (hinv : ∀ s a s', P s → ok' s a → step s a = some s' → P s')
    (hok : ∀ s a, P s → pre s a → (ok s a ↔ ok' s a))
    {s : σ} {as : List α} (hs : P s) (hpre : Conforms step pre s as) :
    Conforms step ok s as ↔ Conforms step ok' s as := by
  induction as generalizing s with
  | nil => simp
  | cons a rest ih =>
      simp only [Conforms, hok s a hs hpre.1]
      apply and_congr_right
      intro ha
      refine forall_congr' fun s' => forall_congr' fun h => ?_
      exact ih (hinv s a s' hs ha h) (hpre.2 s' h)

theorem conforms_and {ok' : σ → α → Prop} {s : σ} {as : List α} (h : Conforms step ok s as)
    (h' : Conforms step ok' s as) : Conforms step (fun s a => ok s a ∧ ok' s a) s as := by
  induction as generalizing s with
  | nil => trivial
  | cons a rest ih => exact ⟨⟨h.1, h'.1⟩, fun s' hs' => ih (h.2 s' hs') (h'.2 s' hs')⟩

/-- A condition implied by the invariant holds at every action of a conforming
run. -/
theorem conforms_of_invariant {prop : σ → α → Prop}
    (hinv : ∀ s a s', P s → ok s a → step s a = some s' → P s')
    (hprop : ∀ s a, P s → ok s a → prop s a)
    {s : σ} {as : List α} (hs : P s) (hc : Conforms step ok s as) : Conforms step prop s as := by
  induction as generalizing s with
  | nil => trivial
  | cons a rest ih =>
      exact ⟨hprop s a hs hc.1, fun s' h => ih (hinv s a s' hs hc.1 h) (hc.2 s' h)⟩

/-- What a conforming run says about the action after a prefix of it. -/
theorem conforms_at {s t : σ} {as bs : List α} {a : α} (hc : Conforms step ok s (as ++ a :: bs))
    (hrun : run step s as = some t) : ok t a := by
  induction as generalizing s with
  | nil =>
      cases hrun
      exact hc.1
  | cons b rest ih =>
      obtain ⟨s', hb, hr⟩ := run_cons_eq_some.mp hrun
      exact ih (hc.2 s' hb) hr

/-- Some action of the list meets `ok` in the state in which it is taken. -/
def Occurs (step : σ → α → Option σ) (ok : σ → α → Prop) (s : σ) (as : List α) : Prop :=
  ∃ pre a post t, as = pre ++ a :: post ∧ run step s pre = some t ∧ ok t a

theorem not_occurs_nil (s : σ) : ¬ Occurs step ok s [] := by
  rintro ⟨pre, a, post, t, h, -⟩
  exact List.append_ne_nil_of_right_ne_nil pre (List.cons_ne_nil a post) h.symm

theorem occurs_cons_iff {s s' : σ} {a : α} {rest : List α} (h : step s a = some s') :
    Occurs step ok s (a :: rest) ↔ ok s a ∨ Occurs step ok s' rest := by
  constructor
  · rintro ⟨pre, b, post, t, heq, hrun, hok⟩
    cases pre with
    | nil =>
        obtain ⟨rfl, rfl⟩ := List.cons.inj heq
        obtain rfl := Option.some.inj hrun
        exact .inl hok
    | cons c pre =>
        obtain ⟨rfl, rfl⟩ := List.cons.inj heq
        obtain ⟨s₁, h₁, hrun⟩ := run_cons_eq_some.mp hrun
        obtain rfl := Option.some.inj (h.symm.trans h₁)
        exact .inr ⟨pre, b, post, t, rfl, hrun, hok⟩
  · rintro (hok | ⟨pre, b, post, t, rfl, hrun, hok⟩)
    · exact ⟨[], a, rest, s, rfl, rfl, hok⟩
    · exact ⟨a :: pre, b, post, t, rfl, run_cons_eq_some.mpr ⟨s', h, hrun⟩, hok⟩

/-- A flag that some actions set and none clears is set at the end of a run if
it was set before, or such an action occurred. -/
theorem sticky_iff_occurs {flag : σ → Prop}
    (hstep : ∀ s a s', step s a = some s' → (flag s' ↔ flag s ∨ ok s a))
    {s t : σ} {as : List α} (hrun : run step s as = some t) :
    flag t ↔ flag s ∨ Occurs step ok s as := by
  induction as generalizing s with
  | nil =>
      obtain rfl := Option.some.inj hrun
      exact (or_iff_left (not_occurs_nil s)).symm
  | cons a rest ih =>
      obtain ⟨s', ha, hrun⟩ := run_cons_eq_some.mp hrun
      rw [ih hrun, hstep s a s' ha, occurs_cons_iff ha, or_assoc]

/-- A run exists if every action meets a condition under which its step does. -/
theorem run_isSome_of_conforms (hok : ∀ s a, ok s a → (step s a).isSome = true)
    {s : σ} {as : List α} (hc : Conforms step ok s as) : (run step s as).isSome = true := by
  induction as generalizing s with
  | nil => rfl
  | cons a rest ih =>
      obtain ⟨s', hs'⟩ := Option.isSome_iff_exists.mp (hok s a hc.1)
      rw [run_cons, hs']
      exact ih (hc.2 s' hs')

end Trace
