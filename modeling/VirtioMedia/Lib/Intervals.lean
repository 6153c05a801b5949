import Mathlib.Data.List.Sort
import Mathlib.Data.List.Chain

/-!
# Half-open intervals in a sorted list

An interval lies in a space and has a start and an end. To find out whether
intervals are apart it is enough to sort them and to look at neighbours: no
interval starts before its left neighbour ends if and only if any two of them
are apart. Being apart is more than to be disjoint only where an interval is
empty.
-/

namespace Intervals

variable {κ α : Type*} [LinearOrder α] {a b : κ × α × α} {l : List (κ × α × α)}

/-- The second interval does not start before the first one ends. -/
def Before (a b : κ × α × α) : Prop := a.1 = b.1 → a.2.2 ≤ b.2.1

/-- Two intervals of one space come one after the other. -/
def Apart (a b : κ × α × α) : Prop := a.1 = b.1 → a.2.2 ≤ b.2.1 ∨ b.2.2 ≤ a.2.1

/-- No point lies in both intervals. -/
def Disjoint (a b : κ × α × α) : Prop :=
  a.1 = b.1 → ∀ x, ¬(a.2.1 ≤ x ∧ x < a.2.2 ∧ b.2.1 ≤ x ∧ x < b.2.2)

/-- The first interval is empty and starts inside of the second. -/
def Inside (a b : κ × α × α) : Prop :=
  a.1 = b.1 ∧ a.2.1 = a.2.2 ∧ b.2.1 < a.2.1 ∧ a.2.1 < b.2.2

/-- The start does not come after the end. -/
def Proper (a : κ × α × α) : Prop := a.2.1 ≤ a.2.2

theorem Apart.symm (h : Apart a b) : Apart b a := fun hab => (h hab.symm).symm

theorem Apart.disjoint (h : Apart a b) : Disjoint a b := by
  rintro hab x ⟨ha, ha', hb, hb'⟩
  rcases h hab with h | h
  · exact absurd (ha'.trans_le (h.trans hb)) (lt_irrefl x)
  · exact absurd (hb'.trans_le (h.trans ha)) (lt_irrefl x)

theorem Apart.not_inside (h : Apart a b) : ¬Inside a b := by
  rintro ⟨hab, hempty, hstart, hend⟩
  rcases h hab with h | h
  · exact absurd (hstart.trans_le (hempty.le.trans h)) (lt_irrefl _)
  · exact absurd (hend.trans_le h) (lt_irrefl _)

/-- Disjoint intervals are apart unless one of them is empty, inside of the other. -/
theorem apart_iff (ha : Proper a) (hb : Proper b) :
    Apart a b ↔ Disjoint a b ∧ ¬Inside a b ∧ ¬Inside b a := by
  constructor
  · exact fun h => ⟨h.disjoint, h.not_inside, h.symm.not_inside⟩
  · rintro ⟨hdisjoint, hab, hba⟩ heq
    by_contra hapart
    obtain ⟨hba', hab'⟩ := not_or.mp hapart
    rw [not_le] at hab' hba'
    -- The later one of the two starts is a common point, or its interval is empty.
    rcases le_total a.2.1 b.2.1 with hstart | hstart
    · rcases hb.lt_or_eq with hlt | hempty
      · exact hdisjoint heq b.2.1 ⟨hstart, hba', le_rfl, hlt⟩
      · exact hba ⟨heq.symm, hempty, hempty ▸ hab', hba'⟩
    · rcases ha.lt_or_eq with hlt | hempty
      · exact hdisjoint heq a.2.1 ⟨le_rfl, hlt, hstart, hab'⟩
      · exact hab ⟨heq, hempty, hempty ▸ hba', hab'⟩

section Sorted

variable [LinearOrder κ]

/-- The lexicographic order of space, start and end. -/
def Le (a b : κ × α × α) : Prop :=
  a.1 < b.1 ∨ (a.1 = b.1 ∧ (a.2.1 < b.2.1 ∨ (a.2.1 = b.2.1 ∧ a.2.2 ≤ b.2.2)))

/-- Of two sorted intervals, the first one comes first. -/
theorem before_iff_apart (hle : Le a b) (hb : Proper b) : Before a b ↔ Apart a b := by
  constructor
  · exact fun h hab => .inl (h hab)
  · intro h hab
    rcases h hab with h | h
    · exact h
    · -- The second interval ends where the first one starts, so both are empty.
      rcases hle with hlt | ⟨-, hlt | ⟨hstart, hend⟩⟩
      · exact absurd hab hlt.ne
      · exact absurd (hlt.trans_le (hb.trans h)) (lt_irrefl _)
      · exact (hend.trans h).trans hstart.le

/-- To be before carries over to what comes later. -/
theorem Before.trans_le {c : κ × α × α} (h : Before a b) (hab : Le a b) (hbc : Le b c) :
    Before a c := by
  intro hac
  have hspace : a.1 = b.1 ∧ b.1 = c.1 := by
    have h₁ : a.1 ≤ b.1 := hab.elim le_of_lt fun h => h.1.le
    have h₂ : b.1 ≤ c.1 := hbc.elim le_of_lt fun h => h.1.le
    exact ⟨h₁.antisymm (hac ▸ h₂), h₂.antisymm (hac ▸ h₁)⟩
  have hstart : b.2.1 ≤ c.2.1 := by
    rcases hbc with hlt | ⟨-, hlt | ⟨heq, -⟩⟩
    · exact absurd hspace.2 hlt.ne
    · exact hlt.le
    · exact heq.le
  exact (h hspace.1).trans hstart

/-- In a sorted list it is enough to compare neighbours. -/
theorem isChain_before_iff_pairwise (hsorted : l.Pairwise Le) :
    l.IsChain Before ↔ l.Pairwise Before := by
  constructor
  · intro h
    induction l with
    | nil => exact .nil
    | cons a l ih =>
        rw [List.pairwise_cons] at hsorted
        refine .cons (fun c hc => ?_) (ih hsorted.2 h.tail)
        cases l with
        | nil => cases hc
        | cons b l =>
            have hab : Before a b := (List.isChain_cons_cons.mp h).1
            rcases List.mem_cons.mp hc with rfl | hc
            · exact hab
            · exact hab.trans_le (hsorted.1 b List.mem_cons_self)
                (List.rel_of_pairwise_cons hsorted.2 hc)
  · exact List.Pairwise.isChain

/-- Neighbours of the sorted list do not overlap if and only if any two intervals
are apart. -/
theorem isChain_before_iff_apart {l' : List (κ × α × α)} (hperm : l'.Perm l)
    (hsorted : l'.Pairwise Le) (hproper : ∀ a ∈ l, Proper a) :
    l'.IsChain Before ↔ l.Pairwise Apart := by
  rw [isChain_before_iff_pairwise hsorted, ← hperm.pairwise_iff Apart.symm]
  constructor
  · exact List.Pairwise.imp fun h hab => .inl (h hab)
  · intro h
    refine (hsorted.and h).imp_of_mem fun {a b} _ hb hab => ?_
    exact (before_iff_apart hab.1 (hproper b (hperm.mem_iff.mp hb))).mpr hab.2

end Sorted

end Intervals
