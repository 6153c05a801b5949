import VirtioMedia.Device.MmapRefcount

/-!
# How often an address is mapped

The references that the manager counts for an address, over all of its buffers,
and what each operation does to them and to the calls that the mapper receives.
-/

namespace VirtioMedia.Device

/-- The references of a buffer, if it is mapped at this address. -/
def MmapBuffer.refsAt (b : MmapBuffer) (a : UInt64) : Nat :=
  match b.mapping with
  | none => 0
  | some p => if p.guestAddr = a then p.numMappings else 0

def MmapMappingManager.refsAt (m : MmapMappingManager) (a : UInt64) : Nat :=
  (m.buffers.map (·.refsAt a)).sum

namespace MmapMappingManager

variable {m : MmapMappingManager} {l₁ l₂ : List MmapBuffer} {b : MmapBuffer} {a : UInt64}

theorem refsAt_split : refsAt ⟨l₁ ++ b :: l₂⟩ a = b.refsAt a + refsAt ⟨l₁ ++ l₂⟩ a := by
  simp only [refsAt, List.map_append, List.map_cons, List.sum_append, List.sum_cons]
  omega

theorem refsAt_registerBuffer (m : MmapMappingManager) (hs : m.Sorted) (offset size : UInt32) :
    (m.registerBufferByOffset offset size).2.refsAt a = m.refsAt a := by
  rcases registerBufferByOffset_cases hs offset size with ⟨e, h⟩ | ⟨l₁, l₂, hm, h, -⟩
  · rw [h]
  · have hnew : (MmapBuffer.new offset size).refsAt a = 0 := rfl
    rw [h, refsAt_split, hnew, Nat.zero_add]
    exact congrArg (refsAt · a) (congrArg mk hm.symm)

theorem refsAt_unregisterBuffer (m : MmapMappingManager) (offset : UInt32) :
    (m.unregisterBuffer offset).2.refsAt a = m.refsAt a := by
  rcases unregisterBuffer_cases m offset with
    ⟨-, h⟩ | ⟨l₁, b, l₂, hm, -, ⟨hb, h⟩ | ⟨-, h⟩⟩
  · rw [h]
  · have hzero : b.refsAt a = 0 := by rw [MmapBuffer.refsAt, hb]
    rw [h, show m = ⟨l₁ ++ b :: l₂⟩ from congrArg mk hm, refsAt_split, hzero, Nat.zero_add]
  · rw [h, show m = ⟨l₁ ++ b :: l₂⟩ from congrArg mk hm, refsAt_split, refsAt_split]
    rfl

end MmapMappingManager

section Tracked

variable {t : Tracked} {l₁ l₂ : List MmapBuffer} {b : MmapBuffer} {p : MmapBufferMapping}
  {log : List MapEvent} {a : UInt64}

open MmapMappingManager

theorem refsAt_eq_zero {m : MmapMappingManager} (h : ∀ b ∈ m.buffers, b.refsAt a = 0) :
    m.refsAt a = 0 := by
  refine List.sum_eq_zero_iff_forall_eq_nat.mpr fun n hn => ?_
  obtain ⟨b, hb, rfl⟩ := List.mem_map.mp hn
  exact h b hb

/-- An address is mapped by one buffer at most. -/
theorem TrackedInv.refsAt_eq (ht : TrackedInv ⟨⟨l₁ ++ b :: l₂⟩, log⟩) (hb : b.mapping = some p) :
    refsAt ⟨l₁ ++ b :: l₂⟩ p.guestAddr = p.numMappings := by
  have hself : b.refsAt p.guestAddr = p.numMappings := by
    rw [MmapBuffer.refsAt, hb]
    exact if_pos rfl
  have hothers : refsAt ⟨l₁ ++ l₂⟩ p.guestAddr = 0 := by
    refine refsAt_eq_zero fun c hc => ?_
    unfold MmapBuffer.refsAt
    cases hq : c.mapping with
    | none => rfl
    | some q => exact if_neg (addr_ne_of_nodup ht.nodup hb c hc q hq)
  rw [refsAt_split, hself, hothers, Nat.add_zero]

/-- The mapper maps the addresses with references. -/
theorem TrackedInv.live_iff (ht : TrackedInv t) (a : UInt64) :
    live t.log a = true ↔ 0 < t.manager.refsAt a := by
  rw [ht.liveIff a]
  constructor
  · intro ha
    obtain ⟨b, hb, hp⟩ := List.mem_filterMap.mp ha
    obtain ⟨p, hmap, rfl⟩ := Option.map_eq_some_iff.mp hp
    obtain ⟨l₁, l₂, hm⟩ := List.append_of_mem hb
    have hrefs : t.manager.refsAt p.guestAddr = p.numMappings := by
      rw [show t.manager = ⟨l₁ ++ b :: l₂⟩ from congrArg MmapMappingManager.mk hm]
      have ht' : TrackedInv ⟨⟨l₁ ++ b :: l₂⟩, t.log⟩ := hm ▸ ht
      exact ht'.refsAt_eq hmap
    rw [hrefs]
    exact ((ht.buffers b hb).counted p hmap).1
  · intro hpos
    by_contra ha
    refine hpos.ne' (refsAt_eq_zero fun b hb => ?_)
    unfold MmapBuffer.refsAt
    cases hp : b.mapping with
    | none => rfl
    | some p =>
        refine if_neg fun haddr => ha ?_
        rw [← haddr]
        exact mem_addrs hb hp

/-! ### Creation -/

/-- What `create_mapping` does: nothing, or one reference more to the address
it returns. -/
theorem Tracked.create_cases (t : Tracked) (offset : UInt32) (fd : Nat) (rw : Bool)
    (answer : Except Int UInt64) :
    (∃ e, t.create offset fd rw answer = (.error e, t)) ∨
      ∃ addr len, (t.create offset fd rw answer).1 = .ok (addr, len) ∧
        (∀ a, (t.create offset fd rw answer).2.manager.refsAt a =
          t.manager.refsAt a + if addr = a then 1 else 0) ∧
        ∃ calls : List MapperCall, (t.create offset fd rw answer).2.log =
            .created addr :: (calls.map .call ++ t.log) ∧
          calls = (t.manager.createMapping offset fd rw answer).calls := by
  unfold Tracked.create
  rcases createMapping_cases t.manager offset fd rw answer with
    ⟨e, h⟩ | ⟨l₁, b, l₂, hm, -, -, ⟨addr, hb, -, h⟩ | ⟨p, hb, -, h⟩⟩
  · rw [h]
    exact .inl ⟨_, rfl⟩
  all_goals
    right
    rw [h]
    refine ⟨_, _, rfl, fun a => ?_, _, rfl, rfl⟩
    rw [show t.manager = ⟨l₁ ++ b :: l₂⟩ from congrArg MmapMappingManager.mk hm, refsAt_split,
      refsAt_split]
    simp only [MmapBuffer.refsAt, hb]
    split <;> omega

/-- A mapper that answers with a free address is not called for one in use. -/
theorem Tracked.mapperCalls_create {offset : UInt32} {fd : Nat} {rw : Bool}
    {answer : Except Int UInt64} (hfresh : AnswersFresh t (.create offset fd rw answer))
    (ha : live t.log a = true) :
    mapperCalls (t.create offset fd rw answer).2.log a = mapperCalls t.log a := by
  simp only [AnswersFresh] at hfresh
  unfold Tracked.create
  rcases createMapping_cases t.manager offset fd rw answer with
    ⟨e, h⟩ | ⟨l₁, b, l₂, hm, -, -, ⟨addr, hb, -, h⟩ | ⟨p, hb, -, h⟩⟩ <;>
    rw [h] at hfresh ⊢
  · rfl
  · have hne : addr ≠ a := by
      rintro rfl
      have hfree := hfresh _ List.mem_cons_self
      rw [show live t.log addr = false from hfree] at ha
      cases ha
    simp only [List.map_cons, List.map_nil, List.cons_append, List.nil_append,
      mapperCalls_created, mapperCalls_add, if_neg hne]
  · simp only [List.map_nil, List.singleton_append, List.append_nil, mapperCalls_created]

/-! ### Removal -/

theorem Tracked.remove_error (ht : TrackedInv t) {addr : UInt64} (h : t.manager.refsAt addr = 0) :
    t.remove addr = (.error .invalidOffset, t) := by
  unfold Tracked.remove
  rcases removeMapping_cases t.manager addr with ⟨hr, -⟩ | ⟨l₁, b, l₂, p, hm, hb, rfl, -⟩
  · rw [hr]
    rfl
  · have hlive : live t.log p.guestAddr = true :=
      (ht.liveIff _).mpr (mem_addrs (hm ▸ mem_split.mpr (.inl rfl)) hb)
    exact absurd h ((ht.live_iff _).mp hlive).ne'

/-- What `remove_mapping` does for an address with references: there is one less,
and if it was not the last one the mapper is not called. -/
theorem Tracked.remove_cases (ht : TrackedInv t) {addr : UInt64} (h : 0 < t.manager.refsAt addr) :
    ∃ shared, (t.remove addr).1 = .ok shared ∧
      (∀ a, (t.remove addr).2.manager.refsAt a + (if addr = a then 1 else 0) =
        t.manager.refsAt a) ∧
      ∃ calls : List MapperCall,
        (t.remove addr).2.log = .removed addr :: (calls.map .call ++ t.log) ∧
          ∀ c ∈ calls, c = .remove addr ∧ t.manager.refsAt addr = 1 := by
  unfold Tracked.remove
  rcases removeMapping_cases t.manager addr with
    ⟨-, hall⟩ | ⟨l₁, b, l₂, p, hm, hb, rfl, ⟨hle, hr⟩ | ⟨hlt, hr⟩⟩
  · have hzero : t.manager.refsAt addr = 0 := by
      refine refsAt_eq_zero fun b hb => ?_
      have hnot := hall b hb
      unfold MmapBuffer.refsAt
      cases hp : b.mapping with
      | none => rfl
      | some p =>
          refine if_neg fun haddr => ?_
          simp [MmapBuffer.mappedAt, hp, haddr] at hnot
    exact absurd hzero h.ne'
  all_goals
    have hm' : t.manager = ⟨l₁ ++ b :: l₂⟩ := congrArg MmapMappingManager.mk hm
    have hrefs : t.manager.refsAt p.guestAddr = p.numMappings := by
      rw [hm']
      have ht' : TrackedInv ⟨⟨l₁ ++ b :: l₂⟩, t.log⟩ := hm ▸ ht
      exact ht'.refsAt_eq hb
    rw [hr]
  · have hone : p.numMappings = 1 := by omega
    refine ⟨_, rfl, fun a => ?_, _, rfl, ?_⟩
    · rw [hm', refsAt_split]
      have hrest : refsAt ⟨l₁ ++ (if b.registered then [{ b with mapping := none }] else []) ++
          l₂⟩ a = refsAt ⟨l₁ ++ l₂⟩ a := by
        split
        · rw [List.append_assoc, List.singleton_append, refsAt_split]
          exact Nat.zero_add _
        · rw [List.append_nil]
      simp only [hrest, MmapBuffer.refsAt, hb, hone]
      omega
    · intro c hc
      rw [List.mem_singleton.mp hc]
      exact ⟨rfl, hrefs.trans hone⟩
  · refine ⟨_, rfl, fun a => ?_, [], rfl, fun c hc => absurd hc List.not_mem_nil⟩
    rw [hm', refsAt_split, refsAt_split]
    simp only [MmapBuffer.refsAt, hb]
    split <;> omega

/-- The mapper is not called for an address that keeps a reference. -/
theorem Tracked.mapperCalls_remove (ht : TrackedInv t) {addr : UInt64}
    (h : addr = a → 1 < t.manager.refsAt a) :
    mapperCalls (t.remove addr).2.log a = mapperCalls t.log a := by
  by_cases hzero : t.manager.refsAt addr = 0
  · rw [Tracked.remove_error ht hzero]
  · obtain ⟨-, -, -, calls, hlog, hcalls⟩ := Tracked.remove_cases ht (Nat.pos_of_ne_zero hzero)
    rw [hlog, mapperCalls_removed]
    have hother : ∀ c ∈ calls, c.addr ≠ a := by
      intro c hc haddr
      obtain ⟨rfl, hone⟩ := hcalls c hc
      have haddr : addr = a := haddr
      subst haddr
      exact absurd hone (h rfl).ne'
    rw [mapperCalls, mapperCalls, List.filterMap_append, List.filterMap_map]
    refine (congrArg (· ++ _) (List.filterMap_eq_nil_iff.mpr fun c hc => ?_)).trans
      (List.nil_append _)
    exact if_neg (hother c hc)

end Tracked

end VirtioMedia.Device
