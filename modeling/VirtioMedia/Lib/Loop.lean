/-!
# Loops over fallible steps

A step may crash, and otherwise answers a value or an error together with the
state it leaves. The loop `while f()? || g()? || h()? {}` is `whileTrue` of
steps joined by `orElse`. It is bounded by fuel: a loop that has not ended
when the fuel is used up is a crash of its own. Three rules are used: what every
step preserves the loop preserves, a loop that ends left its last step
answering `false`, and a loop whose rounds go down a well-founded order ends.
-/

namespace Loop

variable {c e σ : Type}

/-- A step on a state. -/
abbrev Step (c e σ α : Type) : Type := σ → Except c (Except e α × σ)

/-- `f()? || g()?`. -/
def orElse (f g : Step c e σ Bool) : Step c e σ Bool := fun s =>
  (f s).bind fun r =>
    match r with
    | (.ok false, s') => g s'
    | r => .ok r

/-- `while body()? {}`. -/
def whileTrue (stuck : c) (body : Step c e σ Bool) : Nat → Step c e σ Unit
  | 0, _ => .error stuck
  | n + 1, s =>
    (body s).bind fun r =>
      match r with
      | (.error err, s') => .ok (.error err, s')
      | (.ok false, s') => .ok (.ok (), s')
      | (.ok true, s') => whileTrue stuck body n s'

/-- Every round of the loop starts in a state that meets the condition. -/
def Throughout (ok : σ → Prop) (body : Step c e σ Bool) : Nat → σ → Prop
  | 0, _ => True
  | n + 1, s => ok s ∧ ∀ s', body s = .ok (.ok true, s') → Throughout ok body n s'

variable {P ok : σ → Prop} {f g body : Step c e σ Bool}

/-- One step answers for both, or the first one answers `false`. -/
theorem orElse_cases {s s' : σ} {r : Except e Bool} (h : orElse f g s = .ok (r, s')) :
    (f s = .ok (r, s') ∧ r ≠ .ok false) ∨
      ∃ s₁, f s = .ok (.ok false, s₁) ∧ g s₁ = .ok (r, s') := by
  unfold orElse at h
  cases hf : f s with
  | error x =>
      rw [hf] at h
      cases h
  | ok p =>
      rw [hf] at h
      rcases p with ⟨_ | _ | _, s₁⟩
      · cases h
        exact .inl ⟨rfl, by simp⟩
      · exact .inr ⟨s₁, rfl, h⟩
      · cases h
        exact .inl ⟨rfl, by simp⟩

theorem throughout_true (body : Step c e σ Bool) (n : Nat) (s : σ) :
    Throughout (fun _ => True) body n s := by
  induction n generalizing s with
  | zero => trivial
  | succ n ih => exact ⟨trivial, fun s' _ => ih s'⟩

/-- What every round that makes progress keeps holds in every round. -/
theorem throughout_of_invariant (hbody : ∀ s s', P s → body s = .ok (.ok true, s') → P s')
    (hok : ∀ s, P s → ok s) (n : Nat) {s : σ} (hs : P s) : Throughout ok body n s := by
  induction n generalizing s with
  | zero => trivial
  | succ n ih => exact ⟨hok s hs, fun s' h => ih (hbody s s' hs h)⟩

instance instDecidableThroughout [∀ s, Decidable (ok s)] :
    (n : Nat) → (s : σ) → Decidable (Throughout ok body n s)
  | 0, _ => .isTrue trivial
  | n + 1, s =>
    match hbody : body s with
    | .ok (.ok true, s') =>
      have := instDecidableThroughout n s'
      decidable_of_iff (ok s ∧ Throughout ok body n s') (by simp [Throughout, hbody])
    | .ok (.ok false, _) => decidable_of_iff (ok s) (by simp [Throughout, hbody])
    | .ok (.error _, _) => decidable_of_iff (ok s) (by simp [Throughout, hbody])
    | .error _ => decidable_of_iff (ok s) (by simp [Throughout, hbody])

/-- The last round of a loop that ends, for a property that the rounds before
it keep. -/
theorem whileTrue_last (hbody : ∀ s s', P s → ok s → body s = .ok (.ok true, s') → P s')
    {stuck : c} {n : Nat} {s s' : σ} {r : Except e Unit} (hs : P s)
    (hok : Throughout ok body n s) (h : whileTrue stuck body n s = .ok (r, s')) :
    ∃ s₀, P s₀ ∧ ok s₀ ∧ ((r = .ok () ∧ body s₀ = .ok (.ok false, s')) ∨
      ∃ err, r = .error err ∧ body s₀ = .ok (.error err, s')) := by
  induction n generalizing s with
  | zero => cases h
  | succ n ih =>
      unfold whileTrue at h
      cases hb : body s with
      | error x =>
          rw [hb] at h
          cases h
      | ok p =>
          rw [hb] at h
          rcases p with ⟨err | _ | _, s₁⟩
          · cases h
            exact ⟨s, hs, hok.1, .inr ⟨err, rfl, hb⟩⟩
          · cases h
            exact ⟨s, hs, hok.1, .inl ⟨rfl, hb⟩⟩
          · exact ih (hbody s s₁ hs hok.1 hb) (hok.2 s₁ hb) h

theorem orElse_ne_crash {x : c} (hf : ∀ s, f s ≠ .error x) (hg : ∀ s, g s ≠ .error x) (s : σ) :
    orElse f g s ≠ .error x := by
  intro h
  unfold orElse at h
  cases hfs : f s with
  | error y =>
      rw [hfs] at h
      cases h
      exact hf s hfs
  | ok p =>
      rw [hfs] at h
      rcases p with ⟨_ | _ | _, s₁⟩
      · cases h
      · exact hg s₁ h
      · cases h

/-- A loop whose rounds do not get stuck and go down a well-founded order ends:
some fuel is enough, and so is every larger one. -/
theorem whileTrue_terminates {stuck : c} {R : σ → σ → Prop} (hwf : WellFounded R)
    (hstuck : ∀ s, body s ≠ .error stuck)
    (hlower : ∀ s s', body s = .ok (.ok true, s') → R s' s) (s : σ) :
    ∃ fuel, ∀ n, fuel ≤ n → whileTrue stuck body n s ≠ .error stuck := by
  induction s using hwf.induction with
  | _ s ih =>
      -- One round more than what the rest of the loop needs.
      have hrest : ∃ fuel, ∀ s', body s = .ok (.ok true, s') →
          ∀ n, fuel ≤ n → whileTrue stuck body n s' ≠ .error stuck := by
        by_cases hnext : ∃ s', body s = .ok (.ok true, s')
        · obtain ⟨s', hs'⟩ := hnext
          obtain ⟨fuel, hfuel⟩ := ih s' (hlower s s' hs')
          refine ⟨fuel, fun t ht => ?_⟩
          obtain rfl : s' = t := by simpa using hs'.symm.trans ht
          exact hfuel
        · exact ⟨0, fun s' hs' => absurd ⟨s', hs'⟩ hnext⟩
      obtain ⟨fuel, hfuel⟩ := hrest
      refine ⟨fuel + 1, fun n hn h => ?_⟩
      cases n with
      | zero => omega
      | succ n =>
          unfold whileTrue at h
          cases hb : body s with
          | error x =>
              rw [hb] at h
              cases h
              exact hstuck s hb
          | ok p =>
              rw [hb] at h
              rcases p with ⟨_ | _ | _, s'⟩
              · cases h
              · cases h
              · exact hfuel s' hb n (Nat.le_of_succ_le_succ hn) h

end Loop
