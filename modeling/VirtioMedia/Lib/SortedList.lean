import Mathlib.Order.Lattice
import Mathlib.Data.List.Basic

/-!
# Lists sorted by a key

A list whose keys strictly increase, and the search for a key in it. The
search answers the position of the element with the key, or the position at
which such an element has to be inserted; these are the two answers that
every binary search of a sorted sequence gives.
-/

namespace SortedList

variable {α κ : Type*} [LinearOrder κ] (key : α → κ)

/-- The keys strictly increase along the list. -/
def Sorted (l : List α) : Prop := l.Pairwise fun a b => key a < key b

/-- Position of key `k`, or position where it belongs. -/
def search (k : κ) : List α → Except Nat Nat
  | [] => .error 0
  | a :: l =>
    if key a < k then
      match search k l with
      | .ok i => .ok (i + 1)
      | .error i => .error (i + 1)
    else if key a = k then .ok 0
    else .error 0

variable {key} {l l₁ l₂ : List α} {k : κ} {a b : α} {i : Nat}

/-- A found position splits the list at an element with the key. -/
theorem search_ok_split (h : search key k l = .ok i) :
    ∃ l₁ a l₂, l = l₁ ++ a :: l₂ ∧ l₁.length = i ∧ key a = k := by
  induction l generalizing i with
  | nil => cases h
  | cons c rest ih =>
      simp only [search] at h
      split at h
      · split at h
        · rename_i j hj
          obtain rfl := Except.ok.inj h
          obtain ⟨l₁, a, l₂, rfl, rfl, ha⟩ := ih hj
          exact ⟨c :: l₁, a, l₂, rfl, rfl, ha⟩
        · cases h
      · split at h
        · rename_i hc
          obtain rfl := Except.ok.inj h
          exact ⟨[], c, rest, rfl, rfl, hc⟩
        · cases h

/-- A missed key splits a sorted list into the smaller and the larger keys. -/
theorem search_error_split (hs : Sorted key l) (h : search key k l = .error i) :
    ∃ l₁ l₂, l = l₁ ++ l₂ ∧ l₁.length = i ∧ (∀ a ∈ l₁, key a < k) ∧ ∀ a ∈ l₂, k < key a := by
  induction l generalizing i with
  | nil =>
      obtain rfl := Except.error.inj h
      exact ⟨[], [], rfl, rfl, by simp, by simp⟩
  | cons c rest ih =>
      obtain ⟨hc, hrest⟩ := List.pairwise_cons.mp hs
      simp only [search] at h
      split at h
      · rename_i hlt
        split at h
        · cases h
        · rename_i j hj
          obtain rfl := Except.error.inj h
          obtain ⟨l₁, l₂, rfl, rfl, hlo, hhi⟩ := ih hrest hj
          refine ⟨c :: l₁, l₂, rfl, rfl, ?_, hhi⟩
          simpa using ⟨hlt, hlo⟩
      · rename_i hge
        split at h
        · cases h
        · rename_i hne
          obtain rfl := Except.error.inj h
          have hkc : k < key c := lt_of_le_of_ne (not_lt.mp hge) (Ne.symm hne)
          refine ⟨[], c :: rest, rfl, rfl, by simp, ?_⟩
          simpa using ⟨hkc, fun a ha => hkc.trans (hc a ha)⟩

theorem search_eq_ok_iff (hs : Sorted key l) :
    (∃ i, search key k l = .ok i) ↔ ∃ a ∈ l, key a = k := by
  constructor
  · rintro ⟨i, h⟩
    obtain ⟨l₁, a, l₂, rfl, -, ha⟩ := search_ok_split h
    exact ⟨a, by simp, ha⟩
  · rintro ⟨a, ha, hk⟩
    cases h : search key k l with
    | ok i => exact ⟨i, rfl⟩
    | error i =>
        obtain ⟨l₁, l₂, rfl, -, hlo, hhi⟩ := search_error_split hs h
        rcases List.mem_append.mp ha with ha | ha
        · exact absurd hk (hlo a ha).ne
        · exact absurd hk (hhi a ha).ne'

theorem Sorted.insert (hs : Sorted key (l₁ ++ l₂)) (hlo : ∀ b ∈ l₁, key b < key a)
    (hhi : ∀ b ∈ l₂, key a < key b) : Sorted key (l₁ ++ a :: l₂) := by
  obtain ⟨h₁, h₂, h₁₂⟩ := List.pairwise_append.mp hs
  refine List.pairwise_append.mpr ⟨h₁, List.pairwise_cons.mpr ⟨hhi, h₂⟩, ?_⟩
  intro b hb c hc
  rcases List.mem_cons.mp hc with rfl | hc
  · exact hlo b hb
  · exact h₁₂ b hb c hc

theorem Sorted.remove (hs : Sorted key (l₁ ++ a :: l₂)) : Sorted key (l₁ ++ l₂) :=
  hs.sublist ((List.Sublist.refl _).append (List.sublist_cons_self a l₂))

theorem Sorted.replace (hs : Sorted key (l₁ ++ a :: l₂)) (hk : key b = key a) :
    Sorted key (l₁ ++ b :: l₂) := by
  obtain ⟨h₁, h₂, h₁₂⟩ := List.pairwise_append.mp hs
  refine hs.remove.insert ?_ ?_
  · exact fun c hc => hk ▸ h₁₂ c hc a List.mem_cons_self
  · exact fun c hc => hk ▸ (List.pairwise_cons.mp h₂).1 c hc

/-- The elements around `a` have other keys. -/
theorem Sorted.key_ne (hs : Sorted key (l₁ ++ a :: l₂)) : ∀ c ∈ l₁ ++ l₂, key c ≠ key a := by
  obtain ⟨-, h₂, h₁₂⟩ := List.pairwise_append.mp hs
  intro c hc
  rcases List.mem_append.mp hc with hc | hc
  · exact (h₁₂ c hc a List.mem_cons_self).ne
  · exact ((List.pairwise_cons.mp h₂).1 c hc).ne'

theorem Sorted.eq_of_key_eq (hs : Sorted key l) (ha : a ∈ l) (hb : b ∈ l)
    (h : key a = key b) : a = b := by
  induction l with
  | nil => cases ha
  | cons c rest ih =>
      obtain ⟨hc, hrest⟩ := List.pairwise_cons.mp hs
      rcases List.mem_cons.mp ha with rfl | ha'
      · rcases List.mem_cons.mp hb with rfl | hb'
        · rfl
        · exact absurd h (hc b hb').ne
      · rcases List.mem_cons.mp hb with rfl | hb'
        · exact absurd h (hc a ha').ne'
        · exact ih hrest ha' hb'

/-- Put an element at its place, instead of the one with the same key. -/
def put (key : α → κ) (a : α) : List α → List α
  | [] => [a]
  | b :: rest =>
    if key a < key b then a :: b :: rest
    else if key b < key a then b :: put key a rest
    else a :: rest

theorem mem_put (hs : Sorted key l) {c : α} :
    c ∈ put key a l ↔ c = a ∨ (c ∈ l ∧ key c ≠ key a) := by
  induction l with
  | nil => simp [put]
  | cons b rest ih =>
      obtain ⟨hb, hrest⟩ := List.pairwise_cons.mp hs
      rcases lt_trichotomy (key a) (key b) with hlt | heq | hgt
      · have hne : ∀ x ∈ b :: rest, key x ≠ key a := by
          intro x hx
          rcases List.mem_cons.mp hx with rfl | hx
          · exact hlt.ne'
          · exact (hlt.trans (hb x hx)).ne'
        simp only [put, hlt, if_true, List.mem_cons]
        constructor
        · rintro (rfl | h)
          · exact .inl rfl
          · exact .inr ⟨h, hne c (List.mem_cons.mpr h)⟩
        · exact fun h => h.imp_right And.left
      · have hne : ∀ x ∈ rest, key x ≠ key a := fun x hx => heq ▸ (hb x hx).ne'
        simp only [put, heq, lt_irrefl, if_false, List.mem_cons]
        constructor
        · rintro (rfl | h)
          · exact .inl rfl
          · exact .inr ⟨.inr h, heq ▸ hne c h⟩
        · rintro (rfl | ⟨rfl | h, hk⟩)
          · exact .inl rfl
          · exact absurd rfl hk
          · exact .inr h
      · simp only [put, hgt.not_gt, hgt, if_false, if_true, List.mem_cons, ih hrest]
        constructor
        · rintro (rfl | h | ⟨h, hk⟩)
          · exact .inr ⟨.inl rfl, hgt.ne⟩
          · exact .inl h
          · exact .inr ⟨.inr h, hk⟩
        · rintro (h | ⟨rfl | h, hk⟩)
          · exact .inr (.inl h)
          · exact .inl rfl
          · exact .inr (.inr ⟨h, hk⟩)

theorem Sorted.put (hs : Sorted key l) : Sorted key (put key a l) := by
  induction l with
  | nil => exact List.pairwise_singleton _ a
  | cons b rest ih =>
      obtain ⟨hb, hrest⟩ := List.pairwise_cons.mp hs
      simp only [SortedList.put]
      split
      · rename_i hlt
        refine List.pairwise_cons.mpr ⟨fun c hc => ?_, hs⟩
        rcases List.mem_cons.mp hc with rfl | hc
        · exact hlt
        · exact hlt.trans (hb c hc)
      · rename_i hnlt
        split
        · rename_i hgt
          refine List.pairwise_cons.mpr ⟨fun c hc => ?_, ih hrest⟩
          rcases (mem_put hrest).mp hc with rfl | ⟨hc, -⟩
          · exact hgt
          · exact hb c hc
        · rename_i hngt
          have heq : key a = key b := le_antisymm (not_lt.mp hngt) (not_lt.mp hnlt)
          exact List.pairwise_cons.mpr ⟨fun c hc => heq ▸ hb c hc, hrest⟩

end SortedList

/-- A map kept as a list of entries sorted by a key of the entry. -/
structure SortedMap {α κ : Type*} [LinearOrder κ] (key : α → κ) where
  entries : List α
  sorted : SortedList.Sorted key entries

namespace SortedMap

variable {α κ : Type*} [LinearOrder κ] {key : α → κ}

def empty : SortedMap key := ⟨[], List.Pairwise.nil⟩

def get? (m : SortedMap key) (k : κ) : Option α :=
  m.entries.find? fun a => decide (key a = k)

/-- Insert an entry, replacing the one with the same key. -/
def insert (m : SortedMap key) (a : α) : SortedMap key :=
  ⟨SortedList.put key a m.entries, m.sorted.put⟩

/-- Keep the entries with a property. -/
def retain (m : SortedMap key) (p : α → Bool) : SortedMap key :=
  ⟨m.entries.filter p, m.sorted.sublist List.filter_sublist⟩

/-- Change entries without changing their keys. -/
def mapEntries (m : SortedMap key) (f : α → α) (hf : ∀ a, key (f a) = key a) :
    SortedMap key :=
  ⟨m.entries.map f, List.pairwise_map.mpr (m.sorted.imp fun h => by rwa [hf, hf])⟩

theorem get?_eq_some_iff {m : SortedMap key} {k : κ} {a : α} :
    m.get? k = some a ↔ a ∈ m.entries ∧ key a = k := by
  have hfound : ∀ b, m.get? k = some b → b ∈ m.entries ∧ key b = k := by
    intro b h
    exact ⟨List.mem_of_find?_eq_some h, by simpa using List.find?_some h⟩
  constructor
  · exact hfound a
  · rintro ⟨ha, hk⟩
    cases h : m.get? k with
    | none =>
        have := List.find?_eq_none.mp h a ha
        exact absurd hk (by simpa using this)
    | some b =>
        obtain ⟨hb, hbk⟩ := hfound b h
        rw [m.sorted.eq_of_key_eq hb ha (hbk.trans hk.symm)]

theorem get?_eq_none_iff {m : SortedMap key} {k : κ} :
    m.get? k = none ↔ ¬∃ a ∈ m.entries, key a = k := by
  simp [get?, List.find?_eq_none]

@[simp] theorem mem_insert {m : SortedMap key} {a c : α} :
    c ∈ (m.insert a).entries ↔ c = a ∨ (c ∈ m.entries ∧ key c ≠ key a) :=
  SortedList.mem_put m.sorted

/-- The keys after a list of insertions. -/
theorem exists_key_foldl_insert {l : List α} {m : SortedMap key} {k : κ} :
    (∃ c ∈ (l.foldl insert m).entries, key c = k) ↔
      (∃ c ∈ m.entries, key c = k) ∨ ∃ c ∈ l, key c = k := by
  induction l generalizing m with
  | nil => simp
  | cons a rest ih =>
      rw [List.foldl_cons, ih]
      simp only [mem_insert, List.mem_cons, or_and_right, exists_or, exists_eq_left]
      by_cases hk : key a = k
      · simp [hk]
      · have hne : (∃ c, (c ∈ m.entries ∧ key c ≠ key a) ∧ key c = k) ↔
            ∃ c ∈ m.entries, key c = k := by
          constructor
          · rintro ⟨c, ⟨hc, -⟩, hck⟩
            exact ⟨c, hc, hck⟩
          · rintro ⟨c, hc, hck⟩
            exact ⟨c, ⟨hc, fun h => hk (h.symm.trans hck)⟩, hck⟩
        simp only [hk, false_or, hne]

/-- The entries after a list of insertions with different keys. -/
theorem mem_foldl_insert {l : List α} {m : SortedMap key} {c : α}
    (hl : l.Pairwise fun a b => key a ≠ key b) :
    c ∈ (l.foldl insert m).entries ↔
      c ∈ l ∨ (c ∈ m.entries ∧ ∀ a ∈ l, key c ≠ key a) := by
  induction l generalizing m with
  | nil => simp
  | cons a rest ih =>
      obtain ⟨ha, hrest⟩ := List.pairwise_cons.mp hl
      rw [List.foldl_cons, ih hrest]
      simp only [mem_insert, List.mem_cons, forall_eq_or_imp]
      constructor
      · rintro (hc | ⟨rfl | ⟨hc, hca⟩, hcr⟩)
        · exact .inl (.inr hc)
        · exact .inl (.inl rfl)
        · exact .inr ⟨hc, hca, hcr⟩
      · rintro ((rfl | hc) | ⟨hc, hca, hcr⟩)
        · exact .inr ⟨.inl rfl, ha⟩
        · exact .inl hc
        · exact .inr ⟨.inr ⟨hc, hca⟩, hcr⟩

/-- An entry after a list of insertions was inserted or there before. -/
theorem mem_of_mem_foldl_insert {l : List α} {m : SortedMap key} {c : α}
    (h : c ∈ (l.foldl insert m).entries) : c ∈ l ∨ c ∈ m.entries := by
  induction l generalizing m with
  | nil => exact .inr h
  | cons a rest ih =>
      rcases ih h with hrest | hinsert
      · exact .inl (List.mem_cons_of_mem a hrest)
      · rcases mem_insert.mp hinsert with rfl | ⟨hold, -⟩
        · exact .inl List.mem_cons_self
        · exact .inr hold

@[simp] theorem mem_retain {m : SortedMap key} {p : α → Bool} {c : α} :
    c ∈ (m.retain p).entries ↔ c ∈ m.entries ∧ p c = true := List.mem_filter

end SortedMap
