import Mathlib.Data.List.Perm.Subperm

/-!
# Owners recorded in flags

A table of entries, and a list of the entries that somebody owns, given by
their positions. `Tracks` says that the flags of the entries record this: no
entry is owned twice, and every owned entry has its flag set. An entry whose
flag is clear is then free to be given away.
-/

namespace Custody

variable {α ι : Type*} {pos : ι → Nat} {flag : α → Prop} {entries : List α} {owned : List ι}
  {i : ι}

/-- Without the new element, nothing but old elements is left. -/
theorem subperm_of_not_mem {l l' : List ι} (h : l'.Subperm (l ++ [i])) (hi : i ∉ l') :
    l'.Subperm l := by
  obtain ⟨k, hk, hsub⟩ := h
  obtain ⟨l₁, l₂, rfl, hl₁, hl₂⟩ := List.sublist_append_iff.mp hsub
  rcases List.sublist_singleton.mp hl₂ with rfl | rfl
  · rw [List.append_nil] at hk
    exact ⟨l₁, hk, hl₁⟩
  · exact absurd (hk.mem_iff.mp (by simp)) hi

/-- Every owned entry is owned once and flagged. -/
structure Tracks (pos : ι → Nat) (flag : α → Prop) (entries : List α) (owned : List ι) :
    Prop where
  nodup : owned.Nodup
  flagged : ∀ i ∈ owned, ∃ a, entries[pos i]? = some a ∧ flag a

namespace Tracks

theorem of_eq_nil (h : owned = []) : Tracks pos flag entries owned := by
  subst h
  exact ⟨List.nodup_nil, fun _ h => absurd h List.not_mem_nil⟩

theorem subset {owned' : List ι} (h : Tracks pos flag entries owned) (hnodup : owned'.Nodup)
    (hsub : owned' ⊆ owned) : Tracks pos flag entries owned' :=
  ⟨hnodup, fun i hi => h.flagged i (hsub hi)⟩

/-- Giving up ownership is always possible. -/
theorem subperm {owned' : List ι} (h : Tracks pos flag entries owned)
    (hsub : owned'.Subperm owned) : Tracks pos flag entries owned' := by
  refine h.subset ?_ hsub.subset
  obtain ⟨l, hperm, hsublist⟩ := hsub
  exact hperm.nodup_iff.mp (h.nodup.sublist hsublist)

theorem not_mem {a : α} (h : Tracks pos flag entries owned) (hi : entries[pos i]? = some a)
    (ha : ¬flag a) : i ∉ owned := by
  intro hmem
  obtain ⟨a', hi', ha'⟩ := h.flagged i hmem
  obtain rfl := Option.some.inj (hi.symm.trans hi')
  exact ha ha'

/-- An entry that nobody owns may change. -/
theorem set (hpos : Function.Injective pos) (h : Tracks pos flag entries owned) (hi : i ∉ owned)
    (a : α) : Tracks pos flag (entries.set (pos i) a) owned := by
  refine ⟨h.nodup, fun j hj => ?_⟩
  have hne : pos i ≠ pos j := fun heq => hi (hpos heq ▸ hj)
  rw [List.getElem?_set_ne hne]
  exact h.flagged j hj

/-- An entry that nobody owns gets an owner together with its flag. -/
theorem add {a : α} (hpos : Function.Injective pos) (h : Tracks pos flag entries owned)
    (hi : i ∉ owned) (hlt : pos i < entries.length) (ha : flag a) :
    Tracks pos flag (entries.set (pos i) a) (owned ++ [i]) := by
  constructor
  · exact List.nodup_append.mpr ⟨h.nodup, List.nodup_cons.mpr ⟨List.not_mem_nil, List.nodup_nil⟩,
      fun j hj k hk heq => hi (by rwa [← List.mem_singleton.mp hk, ← heq])⟩
  · intro j hj
    rcases List.mem_append.mp hj with hj | hj
    · exact (h.set hpos hi a).flagged j hj
    · obtain rfl := List.mem_singleton.mp hj
      exact ⟨a, by rw [List.getElem?_set_self hlt], ha⟩

/-- The table may be cut where nobody owns an entry. -/
theorem take {n : Nat} (h : Tracks pos flag entries owned) (hlt : ∀ i ∈ owned, pos i < n) :
    Tracks pos flag (entries.take n) owned := by
  refine ⟨h.nodup, fun i hi => ?_⟩
  rw [List.getElem?_take_of_lt (hlt i hi)]
  exact h.flagged i hi

theorem append (h : Tracks pos flag entries owned) (more : List α) :
    Tracks pos flag (entries ++ more) owned := by
  refine ⟨h.nodup, fun i hi => ?_⟩
  obtain ⟨a, hi', ha⟩ := h.flagged i hi
  refine ⟨a, ?_, ha⟩
  rw [List.getElem?_append_left (List.getElem?_eq_some_iff.mp hi').1]
  exact hi'

end Tracks

end Custody
