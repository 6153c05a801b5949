import Mathlib.Data.List.Basic

/-!
# Computations with a log

A value together with the list of what was used to compute it, oldest first.
Sequencing concatenates the logs. A property of all entries of a log is
checked piece by piece along the computation.
-/

structure Logged (ω : Type u) (α : Type) where
  val : α
  log : List ω

namespace Logged

variable {ω : Type*} {α β : Type}

instance instMonadLogged : Monad (Logged ω) where
  pure a := ⟨a, []⟩
  bind x f := ⟨(f x.val).val, x.log ++ (f x.val).log⟩

/-- Log one entry. -/
def tell (w : ω) : Logged ω Unit := ⟨(), [w]⟩

/-- Log a list of entries. -/
def tellAll (ws : List ω) : Logged ω Unit := ⟨(), ws⟩

/-- Every entry of the log has the property. -/
def All (p : ω → Prop) (x : Logged ω α) : Prop := ∀ w ∈ x.log, p w

@[simp] theorem val_pure (a : α) : (pure a : Logged ω α).val = a := rfl

@[simp] theorem val_bind (x : Logged ω α) (f : α → Logged ω β) :
    (x >>= f).val = (f x.val).val := rfl

@[simp] theorem val_ite (c : Prop) [Decidable c] (x y : Logged ω α) :
    (if c then x else y).val = if c then x.val else y.val := apply_ite val c x y

variable {p : ω → Prop}

@[simp] theorem all_pure (a : α) : All p (pure a : Logged ω α) := by
  intro w hw
  cases hw

@[simp] theorem all_bind (x : Logged ω α) (f : α → Logged ω β) :
    All p (x >>= f) ↔ All p x ∧ All p (f x.val) := by
  change (∀ w ∈ x.log ++ (f x.val).log, p w) ↔ _
  simp only [All, List.mem_append, or_imp, forall_and]

/-- A branch is checked under its condition. -/
@[simp] theorem all_ite (c : Prop) [Decidable c] (x y : Logged ω α) :
    All p (if c then x else y) ↔ (c → All p x) ∧ (¬ c → All p y) := by
  split <;> simp_all

@[simp] theorem all_tell (w : ω) : All p (tell w) ↔ p w := by
  simp [All, tell]

@[simp] theorem all_tellAll (ws : List ω) : All p (tellAll ws) ↔ ∀ w ∈ ws, p w := Iff.rfl

end Logged
