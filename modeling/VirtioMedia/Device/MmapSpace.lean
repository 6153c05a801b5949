import VirtioMedia.Device.MmapIdentity

/-!
# The offsets of the MMAP range

Where a buffer can be registered, which offset is chosen for one, and which
registered buffers can be mapped, in every state that calls on an empty
manager reach. The host memory mapper may answer anything here.

A buffer that was unregistered while mapped keeps its entry, and
`register_buffer_by_offset` finds it. The next offset is computed from the
last entry alone, without a look at the end of the 32-bit range. The end
address of a buffer is computed when it is mapped, and not when it is
registered.
-/

namespace VirtioMedia.Device

namespace MmapMappingManager

/-! ### Reachable managers -/

/-- The vector is sorted by offset, and every buffer in it is page aligned and
not empty. -/
structure Placed (m : MmapMappingManager) : Prop where
  sorted : m.Sorted
  aligned : ∀ b ∈ m.buffers, b.offset.toNat % 4096 = 0
  size : ∀ b ∈ m.buffers, b.size ≠ 0

theorem placed_empty : Placed empty where
  sorted := List.Pairwise.nil
  aligned := by simp [empty]
  size := by simp [empty]

/-- Every buffer has the offset and the size of a buffer that was there
before. -/
def SamePlaces (m m' : MmapMappingManager) : Prop :=
  ∀ c ∈ m'.buffers, ∃ b ∈ m.buffers, b.offset = c.offset ∧ b.size = c.size

theorem Placed.of_samePlaces {m m' : MmapMappingManager} (h : m.Placed) (hs : m'.Sorted)
    (hsame : SamePlaces m m') : m'.Placed where
  sorted := hs
  aligned := by
    intro c hc
    obtain ⟨b, hb, ho, -⟩ := hsame c hc
    exact ho ▸ h.aligned b hb
  size := by
    intro c hc
    obtain ⟨b, hb, -, hsize⟩ := hsame c hc
    exact hsize ▸ h.size b hb

theorem samePlaces_refl (m : MmapMappingManager) : SamePlaces m m :=
  fun c hc => ⟨c, hc, rfl, rfl⟩

/-- One buffer is replaced by one with the same offset and size. -/
theorem samePlaces_replace {m : MmapMappingManager} {l₁ l₂ : List MmapBuffer} {b b' : MmapBuffer}
    (hm : m.buffers = l₁ ++ b :: l₂) (ho : b'.offset = b.offset) (hsize : b'.size = b.size) :
    SamePlaces m ⟨l₁ ++ b' :: l₂⟩ := by
  intro c hc
  rw [hm]
  rcases mem_split.mp hc with rfl | hc
  · exact ⟨b, mem_split.mpr (.inl rfl), ho.symm, hsize.symm⟩
  · exact ⟨c, mem_split_of_mem hc, rfl, rfl⟩

/-- A buffer is taken out and the others stay where they are. -/
theorem samePlaces_erase {m : MmapMappingManager} {l₁ l₂ : List MmapBuffer} {b : MmapBuffer}
    (hm : m.buffers = l₁ ++ b :: l₂) : SamePlaces m ⟨l₁ ++ l₂⟩ := by
  intro c hc
  rw [hm]
  exact ⟨c, mem_split_of_mem hc, rfl, rfl⟩

/-- A registration is refused, or the buffer finds its place in the sorted
table. -/
theorem Placed.registerBufferByOffset {m : MmapMappingManager} (h : m.Placed)
    (offset size : UInt32) : (m.registerBufferByOffset offset size).2.Placed := by
  rcases registerBufferByOffset_cases h.sorted offset size with
    ⟨e, he⟩ | ⟨l₁, l₂, hm, hr, hsize, halign, -, -⟩
  · rw [he]
    exact h
  · have hs := registerBufferByOffset_sorted h.sorted offset size
    rw [hr] at hs ⊢
    refine ⟨hs, ?_, ?_⟩
    · intro c hc
      rcases mem_split.mp hc with rfl | hc
      · exact pageAligned_of_mask halign
      · exact h.aligned c (hm ▸ hc)
    · intro c hc
      rcases mem_split.mp hc with rfl | hc
      · exact hsize
      · exact h.size c (hm ▸ hc)

/-- Unregistering frees at most the place of one buffer. -/
theorem samePlaces_unregisterBuffer (m : MmapMappingManager) (offset : UInt32) :
    SamePlaces m (m.unregisterBuffer offset).2 := by
  rcases unregisterBuffer_cases m offset with ⟨-, h⟩ | ⟨l₁, b, l₂, hm, -, ⟨-, h⟩ | ⟨-, h⟩⟩ <;>
    rw [h]
  · exact samePlaces_refl m
  · exact samePlaces_erase hm
  · exact samePlaces_replace hm rfl rfl

/-- Mapping moves no buffer. -/
theorem samePlaces_createMapping (m : MmapMappingManager) (offset : UInt32) (fd : Nat)
    (rw : Bool) (answer : Except Int UInt64) :
    SamePlaces m (m.createMapping offset fd rw answer).manager := by
  rcases createMapping_cases m offset fd rw answer with
    ⟨e, h⟩ | ⟨l₁, b, l₂, hm, -, -, ⟨addr, -, -, h⟩ | ⟨p, -, -, h⟩⟩ <;> rw [h]
  · exact samePlaces_refl m
  · exact samePlaces_replace hm rfl rfl
  · exact samePlaces_replace hm rfl rfl

/-- Unmapping drops at most an unregistered buffer. -/
theorem samePlaces_removeMapping (m : MmapMappingManager) (addr : UInt64) :
    SamePlaces m (m.removeMapping addr).manager := by
  rcases removeMapping_cases m addr with
    ⟨h, -⟩ | ⟨l₁, b, l₂, p, hm, -, -, ⟨-, h⟩ | ⟨-, h⟩⟩ <;> rw [h]
  · exact samePlaces_refl m
  · intro c hc
    rw [hm]
    rcases mem_unmapped.mp hc with ⟨-, rfl⟩ | hc
    · exact ⟨b, mem_split.mpr (.inl rfl), rfl, rfl⟩
    · exact ⟨c, mem_split_of_mem hc, rfl, rfl⟩
  · exact samePlaces_replace hm rfl rfl

end MmapMappingManager

/-- Every call keeps the buffers in their places. -/
theorem Tracked.step_placed {checks : Bool} {s s' : Tracked} {a : MmapAction}
    (h : s.manager.Placed) (hstep : s.step checks a = some s') : s'.manager.Placed := by
  cases a with
  | register offset size =>
      simp only [Tracked.step, MmapMappingManager.registerBuffer, Option.map_map,
        Option.map_eq_some_iff] at hstep
      obtain ⟨o, -, rfl⟩ := hstep
      exact h.registerBufferByOffset o size
  | unregister offset =>
      cases hstep
      exact h.of_samePlaces (MmapMappingManager.unregisterBuffer_sorted h.sorted offset)
        (MmapMappingManager.samePlaces_unregisterBuffer s.manager offset)
  | create offset fd rw answer =>
      cases hstep
      exact h.of_samePlaces (MmapMappingManager.createMapping_sorted h.sorted offset fd rw answer)
        (MmapMappingManager.samePlaces_createMapping s.manager offset fd rw answer)
  | remove addr =>
      cases hstep
      exact h.of_samePlaces (MmapMappingManager.removeMapping_sorted h.sorted addr)
        (MmapMappingManager.samePlaces_removeMapping s.manager addr)

theorem Tracked.run_placed {checks : Bool} {acts : List MmapAction} {s : Tracked}
    (hrun : Trace.run (Tracked.step checks) .init acts = some s) : s.manager.Placed :=
  Trace.run_invariant (P := fun s => s.manager.Placed) (fun _ _ _ h hstep => step_placed h hstep)
    MmapMappingManager.placed_empty hrun

/-! ### Fixed offsets -/

/-- A buffer takes the place at `o` exactly as long as it is registered, and
calls that fail change nothing. -/
structure MmapMappingManager.PlaceFree (m : MmapMappingManager) (checks : Bool)
    (o size : UInt32) : Prop where
  register : (∃ m', m.registerBuffer checks (some o) size = some (.ok o, m')) ↔ ¬ m.Registered o
  registerFails : ∀ e m', m.registerBuffer checks (some o) size = some (.error e, m') → m' = m
  unregister : (m.unregisterBuffer o).1 = true ↔ m.Registered o
  unregisterFails : (m.unregisterBuffer o).1 = false → (m.unregisterBuffer o).2 = m

namespace MmapMappingManager

theorem registerBuffer_some (m : MmapMappingManager) (checks : Bool) (o size : UInt32) :
    m.registerBuffer checks (some o) size =
      some ((m.registerBufferByOffset o size).1.map fun _ => o,
        (m.registerBufferByOffset o size).2) := rfl

/-- The offset is free if nothing is stored there, registered or not. -/
theorem registerBuffer_some_iff {m : MmapMappingManager} (hs : m.Sorted) (checks : Bool)
    {o size : UInt32} (ho : o.toNat % 4096 = 0) (hsize : size ≠ 0) :
    (∃ m', m.registerBuffer checks (some o) size = some (.ok o, m')) ↔ ¬ m.Occupied o := by
  have hok := registerBufferByOffset_ok_iff hs o size
  simp only [mask_of_pageAligned ho, hsize, ne_eq, not_false_eq_true, true_and] at hok
  rw [← hok, registerBuffer_some]
  cases hr : (m.registerBufferByOffset o size).1 with
  | ok u => simp [Except.map]
  | error e => simp [Except.map]

/-- A registration that is refused changes nothing. -/
theorem registerBuffer_some_error {m m' : MmapMappingManager} (hs : m.Sorted) {checks : Bool}
    {o size : UInt32} {e : RegisterBufferError}
    (h : m.registerBuffer checks (some o) size = some (.error e, m')) : m' = m := by
  rw [registerBuffer_some] at h
  rcases registerBufferByOffset_cases hs o size with ⟨e', he⟩ | ⟨l₁, l₂, -, hr, -⟩
  · rw [he] at h
    cases h
    rfl
  · rw [hr] at h
    cases h

/-- The call finds what the binary search finds, registered or not. -/
theorem unregisterBuffer_true_iff {m : MmapMappingManager} (hs : m.Sorted) (o : UInt32) :
    (m.unregisterBuffer o).1 = true ↔ m.Occupied o := by
  rcases unregisterBuffer_cases m o with ⟨hfree, h⟩ | ⟨l₁, b, l₂, hm, hb, ⟨-, h⟩ | ⟨-, h⟩⟩ <;>
    rw [h]
  · simpa using hfree hs
  · exact ⟨fun _ => ⟨b, hm ▸ mem_split.mpr (.inl rfl), hb⟩, fun _ => rfl⟩
  · exact ⟨fun _ => ⟨b, hm ▸ mem_split.mpr (.inl rfl), hb⟩, fun _ => rfl⟩

theorem unregisterBuffer_false (m : MmapMappingManager) (o : UInt32)
    (h : (m.unregisterBuffer o).1 = false) : (m.unregisterBuffer o).2 = m := by
  rcases unregisterBuffer_cases m o with ⟨-, hr⟩ | ⟨l₁, b, l₂, -, -, ⟨-, hr⟩ | ⟨-, hr⟩⟩ <;>
    rw [hr] at h ⊢
  · cases h
  · cases h

/-- Every buffer stored at the offset is registered. -/
def NoOrphanAt (m : MmapMappingManager) (o : UInt32) : Prop :=
  ∀ b ∈ m.buffers, b.offset = o → b.registered = true

/-- No orphan sits at an offset if occupied and registered mean the same there.
-/
theorem noOrphanAt_iff {m : MmapMappingManager} (hs : m.Sorted) (o : UInt32) :
    m.NoOrphanAt o ↔ (m.Occupied o ↔ m.Registered o) := by
  constructor
  · intro h
    refine ⟨?_, fun hr => hr.occupied⟩
    rintro ⟨b, hb, ho⟩
    exact ⟨b, hb, ho, h b hb ho⟩
  · intro h b hb ho
    obtain ⟨c, hc, hco, hreg⟩ := h.mp ⟨b, hb, ho⟩
    obtain rfl : b = c := SortedList.Sorted.eq_of_key_eq hs hb hc
      (congrArg UInt32.toNat (ho.trans hco.symm))
    exact hreg

/-- The type documentation holds at an offset without an orphan, and fails at
one with an orphan. -/
theorem placeFree_iff {m : MmapMappingManager} (hs : m.Sorted) (checks : Bool)
    {o size : UInt32} (ho : o.toNat % 4096 = 0) (hsize : size ≠ 0) :
    m.PlaceFree checks o size ↔ m.NoOrphanAt o := by
  rw [noOrphanAt_iff hs]
  constructor
  · intro h
    exact (unregisterBuffer_true_iff hs o).symm.trans h.unregister
  · intro h
    refine ⟨?_, fun e m' => registerBuffer_some_error hs, ?_, unregisterBuffer_false m o⟩
    · rw [registerBuffer_some_iff hs checks ho hsize, h]
    · rw [unregisterBuffer_true_iff hs, h]

end MmapMappingManager

/-- No buffer is unregistered while it is mapped. -/
def UnmappedFirst (s : Tracked) : MmapAction → Prop
  | .unregister o => ∀ b ∈ s.manager.buffers, b.offset = o → b.mapping = none
  | _ => True

instance (s : Tracked) : (a : MmapAction) → Decidable (UnmappedFirst s a)
  | .unregister o => inferInstanceAs (Decidable (∀ b ∈ s.manager.buffers, b.offset = o →
      b.mapping = none))
  | .register _ _ | .create _ _ _ _ | .remove _ => inferInstanceAs (Decidable True)

/-- Where every buffer is unmapped before it is unregistered, no orphan is left.
-/
theorem Tracked.step_allRegistered {checks : Bool} {s s' : Tracked} {a : MmapAction}
    (h : s.manager.Sorted ∧ ∀ b ∈ s.manager.buffers, b.registered = true)
    (hfirst : UnmappedFirst s a) (hstep : s.step checks a = some s') :
    s'.manager.Sorted ∧ ∀ b ∈ s'.manager.buffers, b.registered = true := by
  obtain ⟨hs, hall⟩ := h
  cases a with
  | register offset size =>
      simp only [Tracked.step, MmapMappingManager.registerBuffer, Option.map_map,
        Option.map_eq_some_iff] at hstep
      obtain ⟨o, -, rfl⟩ := hstep
      refine ⟨MmapMappingManager.registerBufferByOffset_sorted hs o size, ?_⟩
      rcases MmapMappingManager.registerBufferByOffset_cases hs o size with
        ⟨e, he⟩ | ⟨l₁, l₂, hm, hr, -⟩
      · simpa [he] using hall
      · intro c hc
        simp only [Function.comp_apply, hr] at hc
        rcases mem_split.mp hc with rfl | hc
        · rfl
        · exact hall c (hm ▸ hc)
  | unregister o =>
      cases hstep
      refine ⟨MmapMappingManager.unregisterBuffer_sorted hs o, ?_⟩
      intro c hc
      rcases (MmapMappingManager.mem_unregisterBuffer hs o c).mp hc with
        ⟨hc, -⟩ | ⟨b, hb, ho, hmap, -⟩
      · exact hall c hc
      · rw [hfirst b hb ho] at hmap
        cases hmap
  | create offset fd rw answer =>
      cases hstep
      refine ⟨MmapMappingManager.createMapping_sorted hs offset fd rw answer, ?_⟩
      unfold Tracked.create
      rcases MmapMappingManager.createMapping_cases s.manager offset fd rw answer with
        ⟨e, h⟩ | ⟨l₁, b, l₂, hm, -, hreg, ⟨addr, -, -, h⟩ | ⟨p, -, -, h⟩⟩ <;> rw [h]
      · exact hall
      all_goals
        intro c hc
        rcases mem_split.mp hc with rfl | hc
        · exact hreg
        · exact hall c (hm ▸ mem_split_of_mem hc)
  | remove addr =>
      cases hstep
      refine ⟨MmapMappingManager.removeMapping_sorted hs addr, ?_⟩
      unfold Tracked.remove
      rcases MmapMappingManager.removeMapping_cases s.manager addr with
        ⟨h, -⟩ | ⟨l₁, b, l₂, p, hm, -, -, ⟨-, h⟩ | ⟨-, h⟩⟩ <;> rw [h]
      · exact hall
      · intro c hc
        rcases mem_unmapped.mp hc with ⟨hreg, rfl⟩ | hc
        · exact hreg
        · exact hall c (hm ▸ mem_split_of_mem hc)
      · intro c hc
        rcases mem_split.mp hc with rfl | hc
        · exact hall b (hm ▸ mem_split.mpr (.inl rfl))
        · exact hall c (hm ▸ mem_split_of_mem hc)

/-- In every reachable state, for every page aligned offset and non-zero size:
a buffer takes the place exactly as long as it is registered if and only if
the offset is not that of a buffer unregistered while mapped. So it is so
everywhere in a run that unregisters no mapped buffer. -/
theorem unregistered_takes_no_place (checks : Bool) (acts : List MmapAction) (s : Tracked)
    (hrun : Trace.run (Tracked.step checks) .init acts = some s) :
    (∀ o size : UInt32, o.toNat % 4096 = 0 → size ≠ 0 →
      (s.manager.PlaceFree checks o size ↔ s.manager.NoOrphanAt o)) ∧
    (Trace.Conforms (Tracked.step checks) UnmappedFirst .init acts →
      ∀ o size : UInt32, o.toNat % 4096 = 0 → size ≠ 0 → s.manager.PlaceFree checks o size) := by
  have hs := (Tracked.run_placed hrun).sorted
  refine ⟨fun o size ho hsize => MmapMappingManager.placeFree_iff hs checks ho hsize, ?_⟩
  intro hconf o size ho hsize
  have hinit : Tracked.init.manager.Sorted ∧
      ∀ b ∈ Tracked.init.manager.buffers, b.registered = true :=
    ⟨List.Pairwise.nil, by simp [Tracked.init, MmapMappingManager.empty]⟩
  have hall := Trace.run_invariant_of_conforms
    (fun _ _ _ h hfirst hstep => Tracked.step_allRegistered h hfirst hstep) hinit hconf hrun
  exact (MmapMappingManager.placeFree_iff hs checks ho hsize).mpr fun b hb _ => hall.2 b hb

/-- A buffer is mapped, unmapped and then unregistered. -/
def releasedRun : List MmapAction :=
  [.register (some 0) 0x1000, .create 0 3 true (.ok 0x8000), .remove 0x8000, .unregister 0]

theorem unregistered_takes_no_place_released :
    ∃ s, Trace.run (Tracked.step true) .init releasedRun = some s ∧
      s.manager.PlaceFree true 0 0x1000 := by
  refine ⟨_, rfl, ?_⟩
  exact (unregistered_takes_no_place true releasedRun _ rfl).2 (by decide) 0 0x1000 rfl (by decide)

/-- A buffer is mapped and then unregistered. -/
def orphanRun : List MmapAction :=
  [.register (some 0) 0x1000, .create 0 3 true (.ok 0x8000), .unregister 0]

theorem unregistered_takes_no_place_fails_orphan :
    ∃ s, Trace.run (Tracked.step true) .init orphanRun = some s ∧
      s.manager.registerBuffer true (some 0) 0x1000 = some (.error .offsetOccupied, s.manager) ∧
      ¬ s.manager.PlaceFree true 0 0x1000 := by
  refine ⟨_, rfl, by decide, fun h => ?_⟩
  obtain ⟨b, hb, -, hreg⟩ := h.unregister.mp (by decide)
  rw [List.mem_singleton.mp hb] at hreg
  cases hreg

/-! ### Chosen offsets -/

/-- The last page of the range. -/
def lastPage : UInt32 := 0xfffff000

/-- `register_buffer` without an offset: no arithmetic overflows, and a free
page is returned or nothing changes. -/
structure MmapMappingManager.AllocatesFree (m : MmapMappingManager) (checks : Bool)
    (size : UInt32) : Prop where
  inRange : (m.nextOffset true).isSome
  result : ∃ r m', m.registerBuffer checks none size = some (r, m') ∧
    ((∃ o, r = .ok o ∧ o.toNat % 4096 = 0 ∧ ¬ m.Occupied o) ∨
      (r = .error .noFreeSpace ∧ m' = m))

namespace MmapMappingManager

/-- After the first byte of a page, the next multiple is the next page. -/
theorem nextMultipleOf_page {a : Nat} (ha : a % 4096 = 0) (checks : Bool) :
    nextMultipleOf checks (a + 1) 4096 = if a + 4096 < 2 ^ 32 then some (a + 4096)
      else if checks then none else some ((a + 4096) % 2 ^ 32) := by
  have hmod : (a + 1) % 4096 = 1 := by omega
  rw [nextMultipleOf, hmod, if_neg Nat.one_ne_zero]
  rfl

theorem nextOffset_nil {m : MmapMappingManager} (hm : m.buffers = []) (checks : Bool) :
    m.nextOffset checks = some 0 := by
  simp [nextOffset, hm]

/-- The page after the last one that is taken. -/
theorem nextOffset_last {m : MmapMappingManager} {l : List MmapBuffer} {b : MmapBuffer}
    (hm : m.buffers = l ++ [b]) (hb : b.offset.toNat % 4096 = 0) (checks : Bool) :
    m.nextOffset checks = if b.offset.toNat + 4096 < 2 ^ 32
      then some (UInt32.ofNat (b.offset.toNat + 4096))
      else if checks then none else some 0 := by
  have hlt : b.offset.toNat < 2 ^ 32 := b.offset.toNat_lt
  have hone : addU32 checks b.offset.toNat 1 = some (b.offset.toNat + 1) := by
    rw [addU32, if_pos (by omega)]
  have hpage : pageSize.toNat = 4096 := rfl
  simp only [nextOffset, hm, List.getLast?_append, List.getLast?_singleton, Option.some_or,
    hone, hpage, nextMultipleOf_page hb, Option.bind_eq_bind, Option.bind_some,
    Option.pure_def]
  split
  · rfl
  · cases checks with
    | true => rfl
    | false =>
        have hwrap : (b.offset.toNat + 4096) % 2 ^ 32 = 0 := by omega
        rw [if_neg Bool.false_ne_true, if_neg Bool.false_ne_true, hwrap]
        rfl

/-- The last buffer has the highest offset. -/
theorem le_last {m : MmapMappingManager} (hs : m.Sorted) {l : List MmapBuffer} {b : MmapBuffer}
    (hm : m.buffers = l ++ [b]) {o : UInt32} (ho : m.Occupied o) :
    o.toNat ≤ b.offset.toNat := by
  obtain ⟨c, hc, rfl⟩ := ho
  rw [hm, List.mem_append, List.mem_singleton] at hc
  rcases hc with hc | rfl
  · have hpair : SortedList.Sorted MmapBuffer.key (l ++ [b]) := hm ▸ hs
    exact ((List.pairwise_append.mp hpair).2.2 c hc b (List.mem_singleton.mpr rfl)).le
  · exact le_refl _

/-- The search for a free page fails only behind a buffer on the last page. -/
theorem allocatesFree_iff {m : MmapMappingManager} (h : m.Placed) (checks : Bool)
    {size : UInt32} (hsize : size ≠ 0) :
    m.AllocatesFree checks size ↔ ¬ m.Occupied lastPage := by
  have hsome {o : UInt32} (hnext : m.nextOffset checks = some o) (ho : o.toNat % 4096 = 0)
      (hfree : ¬ m.Occupied o) : ∃ r m', m.registerBuffer checks none size = some (r, m') ∧
        ((∃ o, r = .ok o ∧ o.toNat % 4096 = 0 ∧ ¬ m.Occupied o) ∨
          (r = .error .noFreeSpace ∧ m' = m)) := by
    obtain ⟨m', hm'⟩ := (registerBuffer_some_iff h.sorted checks ho hsize).mpr hfree
    refine ⟨.ok o, m', ?_, .inl ⟨o, rfl, ho, hfree⟩⟩
    simpa [registerBuffer, hnext] using hm'
  rcases List.eq_nil_or_concat' m.buffers with hm | ⟨l, b, hm⟩
  · have hfree (o : UInt32) : ¬ m.Occupied o := by simp [Occupied, hm]
    refine iff_of_true ⟨?_, hsome (nextOffset_nil hm checks) rfl (hfree 0)⟩ (hfree lastPage)
    simp [nextOffset_nil hm]
  · have hb : b.offset.toNat % 4096 = 0 := h.aligned b (by simp [hm])
    by_cases hroom : b.offset.toNat + 4096 < 2 ^ 32
    · have hnext (checks : Bool) : m.nextOffset checks = _ :=
        (nextOffset_last hm hb checks).trans (if_pos hroom)
      have hval : (UInt32.ofNat (b.offset.toNat + 4096)).toNat = b.offset.toNat + 4096 :=
        UInt32.toNat_ofNat_of_lt' hroom
      have habove {o : UInt32} (ho : b.offset.toNat < o.toNat) : ¬ m.Occupied o :=
        fun hocc => absurd (le_last h.sorted hm hocc) (Nat.not_le.mpr ho)
      refine iff_of_true ⟨by rw [hnext]; rfl, hsome (hnext checks) ?_ (habove ?_)⟩ (habove ?_)
      · rw [hval]
        omega
      · rw [hval]
        omega
      · change _ < 0xfffff000
        omega
    · have hlt : b.offset.toNat < 2 ^ 32 := b.offset.toNat_lt
      have hlast : b.offset = lastPage := by
        apply UInt32.toNat_inj.mp
        change _ = 0xfffff000
        omega
      refine iff_of_false ?_ (not_not.mpr ⟨b, by simp [hm], hlast⟩)
      intro hsafe
      have hsome := hsafe.inRange
      rw [nextOffset_last hm hb, if_neg hroom] at hsome
      cases hsome

end MmapMappingManager

/-- In every reachable state, the choice of an offset is safe if and only if
nothing is stored at the last page. -/
theorem allocation_safe (checks : Bool) (acts : List MmapAction) (s : Tracked)
    (hrun : Trace.run (Tracked.step checks) .init acts = some s) (size : UInt32)
    (hsize : size ≠ 0) :
    s.manager.AllocatesFree checks size ↔ ¬ s.manager.Occupied lastPage :=
  MmapMappingManager.allocatesFree_iff (Tracked.run_placed hrun) checks hsize

theorem allocation_safe_orphan :
    ∃ s, Trace.run (Tracked.step true) .init orphanRun = some s ∧
      s.manager.AllocatesFree true 0x1000 := by
  refine ⟨_, rfl, (allocation_safe true orphanRun _ rfl 0x1000 (by decide)).mpr ?_⟩
  rintro ⟨b, hb, ho⟩
  rw [List.mem_singleton.mp hb] at ho
  cases ho

/-- The last page is taken: the addition overflows, and a wrapped offset is
answered with an error other than the one for a full range. -/
theorem allocation_safe_fails_lastPage :
    ∃ s, Trace.run (Tracked.step false) .init
        [.register (some 0) 0x1000, .register (some lastPage) 0x1000] = some s ∧
      s.manager.registerBuffer true none 0x1000 = none ∧
      s.manager.registerBuffer false none 0x1000 = some (.error .offsetOccupied, s.manager) ∧
      ¬ s.manager.AllocatesFree false 0x1000 ∧ ¬ s.manager.AllocatesFree true 0x1000 := by
  refine ⟨_, rfl, by decide, by decide, fun h => ?_, fun h => ?_⟩
  · exact absurd h.inRange (by decide)
  · exact absurd h.inRange (by decide)

/-! ### Mapping what is registered -/

/-- A buffer can be mapped with the permissions of the mapping that it has, if
it has one, by a mapper that accepts. -/
def MmapMappingManager.CanMap (m : MmapMappingManager) (b : MmapBuffer) : Prop :=
  ∀ fd rw addr, (∀ p, b.mapping = some p → p.rw = rw) →
    (m.createMapping b.offset fd rw (.ok addr)).result =
      .ok ((b.mapping.map MmapBufferMapping.guestAddr).getD addr, b.size.toUInt64)

namespace MmapMappingManager

theorem search_mem {m : MmapMappingManager} (hs : m.Sorted) {b : MmapBuffer}
    (hb : b ∈ m.buffers) : ∃ i, m.search b.offset = .ok i ∧ m.buffers[i]? = some b := by
  obtain ⟨i, hi⟩ := (search_ok_iff hs).mpr ⟨b, hb, rfl⟩
  obtain ⟨l₁, c, l₂, hm, rfl, hc⟩ := search_ok hi
  obtain rfl : c = b := SortedList.Sorted.eq_of_key_eq hs (by simp [hm]) hb
    (congrArg UInt32.toNat hc)
  exact ⟨_, hi, by simp [hm]⟩

/-- What `create_mapping` answers for a registered buffer, when the permissions
match and the mapper accepts. -/
theorem createMapping_result {m : MmapMappingManager} (hs : m.Sorted) {b : MmapBuffer}
    (hb : b ∈ m.buffers) (hreg : b.registered = true) {fd : Nat} {rw : Bool} {addr : UInt64}
    (hrw : ∀ p, b.mapping = some p → p.rw = rw) :
    (m.createMapping b.offset fd rw (.ok addr)).result =
      if 2 ^ 32 ≤ b.offset.toNat + (b.size.toNat - 1) then .error .invalidOffset
      else .ok ((b.mapping.map MmapBufferMapping.guestAddr).getD addr, b.size.toUInt64) := by
  obtain ⟨i, hi, hget⟩ := search_mem hs hb
  simp only [createMapping, hi, hget, hreg, Bool.not_true, Bool.false_eq_true, if_false,
    Nat.lt_irrefl]
  split
  · rfl
  · cases hmap : b.mapping with
    | none => rfl
    | some p => simp [hrw p hmap]

/-- A registered buffer can be mapped unless its end lies past the address
space. -/
theorem canMap_iff {m : MmapMappingManager} (h : m.Placed) {b : MmapBuffer}
    (hb : b ∈ m.buffers) (hreg : b.registered = true) :
    m.CanMap b ↔ b.offset.toNat + b.size.toNat ≤ 2 ^ 32 := by
  have hpos : b.size.toNat ≠ 0 := fun hz => h.size b hb (UInt32.toNat_inj.mp hz)
  constructor
  · intro hmap
    obtain ⟨rw, hrw⟩ : ∃ rw, ∀ p, b.mapping = some p → p.rw = rw := by
      cases b.mapping with
      | none => exact ⟨true, by simp⟩
      | some p => exact ⟨p.rw, by simp⟩
    have hres := hmap 0 rw 0 hrw
    rw [createMapping_result h.sorted hb hreg hrw] at hres
    split at hres
    · cases hres
    · omega
  · intro hle fd rw addr hrw
    rw [createMapping_result h.sorted hb hreg hrw, if_neg (by omega)]

/-- A call that fails changes nothing. -/
theorem createMapping_error {m : MmapMappingManager} {offset : UInt32} {fd : Nat} {rw : Bool}
    {answer : Except Int UInt64} {e : CreateMappingError}
    (h : (m.createMapping offset fd rw answer).result = .error e) :
    (m.createMapping offset fd rw answer).manager = m := by
  rcases createMapping_cases m offset fd rw answer with
    ⟨e', he⟩ | ⟨l₁, b, l₂, -, -, -, ⟨addr, -, -, hok⟩ | ⟨p, -, -, hok⟩⟩
  · rw [he]
  · rw [hok] at h
    cases h
  · rw [hok] at h
    cases h

end MmapMappingManager

/-- In every reachable state, a registered buffer can be mapped if and only if
it ends in the 32-bit range, and a mapping that fails changes nothing. -/
theorem registered_can_be_mapped (checks : Bool) (acts : List MmapAction) (s : Tracked)
    (hrun : Trace.run (Tracked.step checks) .init acts = some s) :
    (∀ b ∈ s.manager.buffers, b.registered = true →
      (s.manager.CanMap b ↔ b.offset.toNat + b.size.toNat ≤ 2 ^ 32)) ∧
    ∀ offset fd rw answer e, (s.manager.createMapping offset fd rw answer).result = .error e →
      (s.manager.createMapping offset fd rw answer).manager = s.manager :=
  ⟨fun _ hb hreg => MmapMappingManager.canMap_iff (Tracked.run_placed hrun) hb hreg,
    fun _ _ _ _ _ => MmapMappingManager.createMapping_error⟩

/-- Two buffers that overlap, the second of which ends with the range. -/
def overlapRun : List MmapAction :=
  [.register none 0xffffffff, .register (some lastPage) 0x1000]

theorem registered_can_be_mapped_overlap :
    ∃ s, Trace.run (Tracked.step true) .init overlapRun = some s ∧
      s.manager.CanMap (.new 0 0xffffffff) ∧ s.manager.CanMap (.new lastPage 0x1000) := by
  have h := (registered_can_be_mapped true overlapRun _ rfl).1
  refine ⟨_, rfl, ?_, ?_⟩
  · exact (h _ (by decide) rfl).mpr (by decide)
  · exact (h _ (by decide) rfl).mpr (by decide)

theorem registered_can_be_mapped_fails_pastEnd :
    ∃ s, Trace.run (Tracked.step true) .init [.register (some lastPage) 0x2000] = some s ∧
      .new lastPage 0x2000 ∈ s.manager.buffers ∧
      (s.manager.createMapping lastPage 3 true (.ok 0x8000)).result = .error .invalidOffset ∧
      ¬ s.manager.CanMap (.new lastPage 0x2000) := by
  refine ⟨_, rfl, by decide, by rfl, fun h => ?_⟩
  have hres := h 3 true 0x8000 (by simp [MmapBuffer.new])
  cases hres

end VirtioMedia.Device
