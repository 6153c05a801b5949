import VirtioMedia.Device.Mmap
import VirtioMedia.Lib.Trace

/-!
# Order and reference counts of the MMAP range

A run of the manager is recorded in a log: the calls made to the host memory
mapper, and the `create_mapping` and `remove_mapping` calls that succeeded.
The log is newest first. The reference count of a mapping is compared with
the log since the mapper established it, and the mapped addresses with the
calls the mapper received.
-/

namespace VirtioMedia.Device

inductive MapEvent where
  | call (c : MapperCall)
  | created (guestAddr : UInt64)
  | removed (guestAddr : UInt64)
  deriving DecidableEq, Repr

def MapperCall.addr : MapperCall → UInt64
  | .add _ _ _ _ a => a
  | .remove a => a

def MapperCall.isAdd : MapperCall → Bool
  | .add _ _ _ _ _ => true
  | .remove _ => false

def MapEvent.addr : MapEvent → UInt64
  | .call c => c.addr
  | .created a => a
  | .removed a => a

/-- The mapper establishes a mapping at this address. -/
def MapEvent.establishes (a : UInt64) : MapEvent → Bool
  | .call c => c.isAdd && c.addr == a
  | _ => false

/-- What happened since the mapping at `a` was established last. -/
def since (log : List MapEvent) (a : UInt64) : List MapEvent :=
  log.takeWhile fun e => !e.establishes a

/-- Successful `create_mapping` calls since then. -/
def creates (log : List MapEvent) (a : UInt64) : Nat := (since log a).count (.created a)

/-- Successful `remove_mapping` calls since then. -/
def removes (log : List MapEvent) (a : UInt64) : Nat := (since log a).count (.removed a)

/-- The calls the mapper received for an address: `true` for `add_mapping`,
`false` for `remove_mapping`. -/
def mapperCalls (log : List MapEvent) (a : UInt64) : List Bool :=
  log.filterMap fun e =>
    match e with
    | .call c => if c.addr = a then some c.isAdd else none
    | _ => none

/-- The last call for the address is an `add_mapping`. -/
def live (log : List MapEvent) (a : UInt64) : Bool := (mapperCalls log a).headD false

/-- The calls, newest first, alternate and the oldest is an `add_mapping`. -/
def Alternates : List Bool → Prop
  | [] => True
  | c :: rest => c = !rest.headD false ∧ Alternates rest

/-! ### Runs -/

structure Tracked where
  manager : MmapMappingManager
  log : List MapEvent
  deriving DecidableEq, Repr

def Tracked.init : Tracked := ⟨.empty, []⟩

inductive MmapAction where
  | register (offset : Option UInt32) (size : UInt32)
  | unregister (offset : UInt32)
  | create (offset : UInt32) (fd : Nat) (rw : Bool) (answer : Except Int UInt64)
  | remove (guestAddr : UInt64)

/-- `create_mapping`, with its record in the log. -/
def Tracked.create (s : Tracked) (offset : UInt32) (fd : Nat) (rw : Bool)
    (answer : Except Int UInt64) : Except CreateMappingError (UInt64 × UInt64) × Tracked :=
  let r := s.manager.createMapping offset fd rw answer
  let done := match r.result with
    | .ok (a, _) => [MapEvent.created a]
    | .error _ => []
  (r.result, ⟨r.manager, done ++ r.calls.map .call ++ s.log⟩)

/-- `remove_mapping`, with its record in the log. -/
def Tracked.remove (s : Tracked) (guestAddr : UInt64) :
    Except RemoveMappingError Bool × Tracked :=
  let r := s.manager.removeMapping guestAddr
  let done := match r.result with
    | .ok _ => [MapEvent.removed guestAddr]
    | .error _ => []
  (r.result, ⟨r.manager, done ++ r.calls.map .call ++ s.log⟩)

def Tracked.step (checks : Bool) (s : Tracked) : MmapAction → Option Tracked
  | .register offset size =>
    (s.manager.registerBuffer checks offset size).map fun r => { s with manager := r.2 }
  | .unregister offset => some { s with manager := (s.manager.unregisterBuffer offset).2 }
  | .create offset fd rw answer => some (s.create offset fd rw answer).2
  | .remove guestAddr => some (s.remove guestAddr).2

/-- What is assumed of the mapper: `add_mapping` does not return an address
that is still mapped. -/
def AnswersFresh (s : Tracked) : MmapAction → Prop
  | .create offset fd rw answer =>
    ∀ c ∈ (s.manager.createMapping offset fd rw answer).calls, live s.log c.addr = false
  | _ => True

instance (s : Tracked) : (a : MmapAction) → Decidable (AnswersFresh s a)
  | .create offset fd rw answer => inferInstanceAs (Decidable (∀ c ∈
      (s.manager.createMapping offset fd rw answer).calls, live s.log c.addr = false))
  | .register _ _ | .unregister _ | .remove _ => inferInstanceAs (Decidable True)

/-! ### Extending the log -/

section Log

variable {log : List MapEvent} {e : MapEvent} {a : UInt64}

/-- An event for another address is one more since the mapping was established.
-/
theorem since_cons_ne (h : e.addr ≠ a) : since (e :: log) a = e :: since log a := by
  have hne : e.establishes a = false := by
    cases e <;> simp_all [MapEvent.establishes, MapEvent.addr]
  simp [since, hne]

theorem counts_cons_ne (h : e.addr ≠ a) :
    creates (e :: log) a = creates log a ∧ removes (e :: log) a = removes log a := by
  have hc : e ≠ .created a := fun he => h (by rw [he]; rfl)
  have hr : e ≠ .removed a := fun he => h (by rw [he]; rfl)
  simp [creates, removes, since_cons_ne h, hc, hr]

/-- A `create_mapping` counts for its address. -/
theorem counts_created :
    creates (.created a :: log) a = creates log a + 1 ∧
      removes (.created a :: log) a = removes log a := by
  simp [creates, removes, since, MapEvent.establishes]

/-- A `remove_mapping` counts for its address. -/
theorem counts_removed :
    creates (.removed a :: log) a = creates log a ∧
      removes (.removed a :: log) a = removes log a + 1 := by
  simp [creates, removes, since, MapEvent.establishes]

/-- The counts start again with `add_mapping`. -/
theorem counts_add {fd : Nat} {length offset : UInt64} {rw : Bool} :
    creates (.call (.add fd length offset rw a) :: log) a = 0 ∧
      removes (.call (.add fd length offset rw a) :: log) a = 0 := by
  simp [creates, removes, since, MapEvent.establishes, MapperCall.isAdd, MapperCall.addr]

@[simp] theorem mapperCalls_created (b : UInt64) :
    mapperCalls (.created b :: log) a = mapperCalls log a := by
  simp [mapperCalls]

@[simp] theorem mapperCalls_removed (b : UInt64) :
    mapperCalls (.removed b :: log) a = mapperCalls log a := by
  simp [mapperCalls]

/-- `add_mapping` shows at its own address. -/
theorem mapperCalls_add {fd : Nat} {length offset : UInt64} {rw : Bool} (b : UInt64) :
    mapperCalls (.call (.add fd length offset rw b) :: log) a =
      if b = a then true :: mapperCalls log a else mapperCalls log a := by
  by_cases h : b = a <;> simp [mapperCalls, MapperCall.addr, MapperCall.isAdd, h]

/-- `remove_mapping` shows at its own address. -/
theorem mapperCalls_remove (b : UInt64) :
    mapperCalls (.call (.remove b) :: log) a =
      if b = a then false :: mapperCalls log a else mapperCalls log a := by
  by_cases h : b = a <;> simp [mapperCalls, MapperCall.addr, MapperCall.isAdd, h]

end Log

/-! ### The invariant -/

/-- What holds of a stored buffer, given the log. -/
structure BufferOk (log : List MapEvent) (b : MmapBuffer) : Prop where
  aligned : b.offset &&& pageMask = b.offset
  size : b.size ≠ 0
  unregistered : b.registered = false → b.mapping.isSome = true
  counted : ∀ p, b.mapping = some p →
    1 ≤ p.numMappings ∧ p.numMappings + removes log p.guestAddr = creates log p.guestAddr

/-- The addresses of the stored mappings. -/
def addrs (bs : List MmapBuffer) : List UInt64 :=
  bs.filterMap fun b => b.mapping.map MmapBufferMapping.guestAddr

structure TrackedInv (s : Tracked) : Prop where
  sorted : SortedList.Sorted MmapBuffer.key s.manager.buffers
  buffers : ∀ b ∈ s.manager.buffers, BufferOk s.log b
  nodup : (addrs s.manager.buffers).Nodup
  calls : ∀ a, Alternates (mapperCalls s.log a)
  liveIff : ∀ a, live s.log a = true ↔ a ∈ addrs s.manager.buffers

theorem trackedInv_init : TrackedInv .init where
  sorted := List.Pairwise.nil
  buffers := by simp [Tracked.init, MmapMappingManager.empty]
  nodup := by simp [Tracked.init, MmapMappingManager.empty, addrs]
  calls := fun _ => trivial
  liveIff := by simp [Tracked.init, MmapMappingManager.empty, addrs, live, mapperCalls]

/-- An event about another address does not concern the buffer. -/
theorem BufferOk.cons {log : List MapEvent} {b : MmapBuffer} (hb : BufferOk log b)
    {e : MapEvent} (he : ∀ p, b.mapping = some p → p.guestAddr ≠ e.addr) :
    BufferOk (e :: log) b where
  aligned := hb.aligned
  size := hb.size
  unregistered := hb.unregistered
  counted := by
    intro p hp
    obtain ⟨hc, hr⟩ : creates (e :: log) p.guestAddr = creates log p.guestAddr ∧
        removes (e :: log) p.guestAddr = removes log p.guestAddr :=
      counts_cons_ne (he p hp).symm
    rw [hc, hr]
    exact hb.counted p hp

@[simp] theorem addrs_append (l₁ l₂ : List MmapBuffer) :
    addrs (l₁ ++ l₂) = addrs l₁ ++ addrs l₂ := List.filterMap_append

theorem addrs_cons_none {b : MmapBuffer} (hb : b.mapping = none) (l : List MmapBuffer) :
    addrs (b :: l) = addrs l := by
  simp [addrs, hb]

theorem addrs_cons_some {b : MmapBuffer} {p : MmapBufferMapping} (hb : b.mapping = some p)
    (l : List MmapBuffer) : addrs (b :: l) = p.guestAddr :: addrs l := by
  simp [addrs, hb]

theorem mem_addrs {bs : List MmapBuffer} {b : MmapBuffer} {p : MmapBufferMapping}
    (hb : b ∈ bs) (hp : b.mapping = some p) : p.guestAddr ∈ addrs bs :=
  List.mem_filterMap.mpr ⟨b, hb, by simp [hp]⟩

section Split

variable {l₁ l₂ : List MmapBuffer} {b : MmapBuffer} {p : MmapBufferMapping}

theorem addrs_split_none (hb : b.mapping = none) : addrs (l₁ ++ b :: l₂) = addrs (l₁ ++ l₂) := by
  simp [addrs_cons_none hb]

/-- A mapped buffer adds its address to those of the other buffers. -/
theorem addrs_split_some (l₁ l₂ : List MmapBuffer) (hb : b.mapping = some p) :
    (addrs (l₁ ++ b :: l₂)).Perm (p.guestAddr :: addrs (l₁ ++ l₂)) := by
  rw [addrs_append, addrs_append, addrs_cons_some hb]
  exact List.perm_middle

/-- The other buffers are mapped elsewhere. -/
theorem addr_ne_of_nodup (hn : (addrs (l₁ ++ b :: l₂)).Nodup) (hb : b.mapping = some p) :
    ∀ c ∈ l₁ ++ l₂, ∀ q, c.mapping = some q → q.guestAddr ≠ p.guestAddr := by
  intro c hc q hq h
  have hnot := (List.nodup_cons.mp ((addrs_split_some l₁ l₂ hb).nodup_iff.mp hn)).1
  exact hnot (h ▸ mem_addrs hc hq)

theorem mem_split_of_mem {c : MmapBuffer} (hc : c ∈ l₁ ++ l₂) : c ∈ l₁ ++ b :: l₂ := by
  rcases List.mem_append.mp hc with hc | hc
  · exact List.mem_append_left _ hc
  · exact List.mem_append_right _ (List.mem_cons_of_mem _ hc)

theorem mem_split {c : MmapBuffer} : c ∈ l₁ ++ b :: l₂ ↔ c = b ∨ c ∈ l₁ ++ l₂ :=
  List.perm_middle.mem_iff.trans List.mem_cons

end Split

/-! ### Steps -/

section Steps

variable {l₁ l₂ : List MmapBuffer} {b : MmapBuffer} {p : MmapBufferMapping}
  {log : List MapEvent}

/-- A new buffer between those with lower offsets and those with higher ones. -/
theorem TrackedInv.insert {offset size : UInt32} (hs : TrackedInv ⟨⟨l₁ ++ l₂⟩, log⟩)
    (hsize : size ≠ 0) (halign : offset &&& pageMask = offset)
    (hlo : ∀ b ∈ l₁, b.key < offset.toNat) (hhi : ∀ b ∈ l₂, offset.toNat < b.key) :
    TrackedInv ⟨⟨l₁ ++ .new offset size :: l₂⟩, log⟩ where
  sorted := hs.sorted.insert hlo hhi
  buffers := by
    intro c hc
    rcases mem_split.mp hc with rfl | hc
    · exact ⟨halign, hsize, by simp [MmapBuffer.new], by simp [MmapBuffer.new]⟩
    · exact hs.buffers c hc
  nodup := by
    rw [addrs_split_none rfl]
    exact hs.nodup
  calls := hs.calls
  liveIff := by
    rw [addrs_split_none rfl]
    exact hs.liveIff

/-- A buffer that is not mapped is dropped. -/
theorem TrackedInv.erase (hs : TrackedInv ⟨⟨l₁ ++ b :: l₂⟩, log⟩) (hb : b.mapping = none) :
    TrackedInv ⟨⟨l₁ ++ l₂⟩, log⟩ where
  sorted := hs.sorted.remove
  buffers := fun c hc => hs.buffers c (mem_split_of_mem hc)
  nodup := by
    rw [← addrs_split_none hb]
    exact hs.nodup
  calls := hs.calls
  liveIff := by
    rw [← addrs_split_none hb]
    exact hs.liveIff

/-- A mapped buffer is unregistered and stays for its mapping. -/
theorem TrackedInv.markUnregistered (hs : TrackedInv ⟨⟨l₁ ++ b :: l₂⟩, log⟩)
    (hb : b.mapping.isSome = true) :
    TrackedInv ⟨⟨l₁ ++ { b with registered := false } :: l₂⟩, log⟩ where
  sorted := hs.sorted.replace rfl
  buffers := by
    intro c hc
    have hok := hs.buffers b (mem_split.mpr (.inl rfl))
    rcases mem_split.mp hc with rfl | hc
    · exact ⟨hok.aligned, hok.size, fun _ => hb, hok.counted⟩
    · exact hs.buffers c (mem_split_of_mem hc)
  nodup := by
    have h := hs.nodup
    simp only [addrs, List.filterMap_append, List.filterMap_cons] at h ⊢
    exact h
  calls := hs.calls
  liveIff := by
    have h := hs.liveIff
    simp only [addrs, List.filterMap_append, List.filterMap_cons] at h ⊢
    exact h

/-- `add_mapping` establishes a mapping of an unmapped buffer. -/
theorem TrackedInv.establish (hs : TrackedInv ⟨⟨l₁ ++ b :: l₂⟩, log⟩) (hb : b.mapping = none)
    {addr : UInt64} {rw : Bool} {fd : Nat} {length offset : UInt64}
    (hfresh : live log addr = false) :
    TrackedInv ⟨⟨l₁ ++ { b with mapping := some ⟨1, addr, rw⟩ } :: l₂⟩,
      .created addr :: .call (.add fd length offset rw addr) :: log⟩ := by
  have hnot : addr ∉ addrs (l₁ ++ l₂) := by
    rw [← addrs_split_none hb, ← hs.liveIff addr, hfresh]
    simp
  have hperm := addrs_split_some l₁ l₂
    (b := { b with mapping := some ⟨1, addr, rw⟩ }) rfl
  have hbase : (addrs (l₁ ++ l₂)).Nodup := by
    rw [← addrs_split_none hb]
    exact hs.nodup
  refine ⟨hs.sorted.replace rfl, ?_, ?_, ?_, ?_⟩
  · intro c hc
    rcases mem_split.mp hc with rfl | hc
    · have hok := hs.buffers b (mem_split.mpr (.inl rfl))
      refine ⟨hok.aligned, hok.size, by simp, ?_⟩
      rintro q ⟨⟩
      dsimp only
      rw [counts_created.1, counts_created.2, counts_add.1, counts_add.2]
      exact ⟨le_refl 1, rfl⟩
    · have hne : ∀ q, c.mapping = some q → q.guestAddr ≠ addr :=
        fun q hq h => hnot (h ▸ mem_addrs hc hq)
      have hadd := (hs.buffers c (mem_split_of_mem hc)).cons
        (e := .call (.add fd length offset rw addr)) hne
      exact hadd.cons (e := .created addr) hne
  · exact hperm.nodup_iff.mpr (List.nodup_cons.mpr ⟨hnot, hbase⟩)
  · intro a
    simp only [mapperCalls_created, mapperCalls_add]
    by_cases ha : addr = a
    · subst ha
      rw [if_pos rfl]
      exact ⟨by simpa [live] using hfresh, hs.calls _⟩
    · rw [if_neg ha]
      exact hs.calls a
  · intro a
    rw [hperm.mem_iff, List.mem_cons, ← addrs_split_none hb, ← hs.liveIff a]
    simp only [live, mapperCalls_created, mapperCalls_add]
    by_cases ha : addr = a
    · simp [ha]
    · simp [ha, Ne.symm ha]

/-- The reference count of a mapping changes together with the log. -/
theorem TrackedInv.recount (hs : TrackedInv ⟨⟨l₁ ++ b :: l₂⟩, log⟩) (hb : b.mapping = some p)
    {n : Nat} {e : MapEvent} (he : e = .created p.guestAddr ∨ e = .removed p.guestAddr)
    (hn : 1 ≤ n ∧ n + removes (e :: log) p.guestAddr = creates (e :: log) p.guestAddr) :
    TrackedInv ⟨⟨l₁ ++ { b with mapping := some { p with numMappings := n } } :: l₂⟩,
      e :: log⟩ := by
  have hcalls : ∀ a, mapperCalls (e :: log) a = mapperCalls log a := by
    rcases he with rfl | rfl <;> simp
  have haddr : e.addr = p.guestAddr := by
    rcases he with rfl | rfl <;> rfl
  have hsame : addrs (l₁ ++ { b with mapping := some { p with numMappings := n } } :: l₂) =
      addrs (l₁ ++ b :: l₂) := by
    simp [addrs, hb]
  refine ⟨hs.sorted.replace rfl, ?_, hsame ▸ hs.nodup, ?_, ?_⟩
  · intro c hc
    rcases mem_split.mp hc with rfl | hc
    · have hok := hs.buffers b (mem_split.mpr (.inl rfl))
      refine ⟨hok.aligned, hok.size, by simp, ?_⟩
      rintro q ⟨⟩
      exact hn
    · apply (hs.buffers c (mem_split_of_mem hc)).cons
      intro q hq
      rw [haddr]
      exact addr_ne_of_nodup hs.nodup hb c hc q hq
  · exact fun a => hcalls a ▸ hs.calls a
  · intro a
    rw [hsame, ← hs.liveIff a, live, live, hcalls a]

/-- The last `remove_mapping` of a mapping removes it from the mapper. -/
theorem TrackedInv.unmap (hs : TrackedInv ⟨⟨l₁ ++ b :: l₂⟩, log⟩) (hb : b.mapping = some p) :
    TrackedInv ⟨⟨l₁ ++ (if b.registered then [{ b with mapping := none }] else []) ++ l₂⟩,
      .removed p.guestAddr :: .call (.remove p.guestAddr) :: log⟩ := by
  have hperm := addrs_split_some l₁ l₂ hb
  obtain ⟨hnot, hbase⟩ := List.nodup_cons.mp (hperm.nodup_iff.mp hs.nodup)
  have hlive : live log p.guestAddr = true :=
    (hs.liveIff _).mpr (hperm.mem_iff.mpr List.mem_cons_self)
  have hsame : addrs (l₁ ++ (if b.registered then [{ b with mapping := none }] else []) ++ l₂) =
      addrs (l₁ ++ l₂) := by
    split <;> simp [addrs]
  refine ⟨?_, ?_, hsame ▸ hbase, ?_, ?_⟩
  · split
    · simpa using hs.sorted.replace (b := { b with mapping := none }) rfl
    · simpa using hs.sorted.remove
  · have hother : ∀ c ∈ l₁ ++ l₂,
        BufferOk (.removed p.guestAddr :: .call (.remove p.guestAddr) :: log) c := by
      intro c hc
      have hne := addr_ne_of_nodup hs.nodup hb c hc
      exact ((hs.buffers c (mem_split_of_mem hc)).cons (e := .call (.remove p.guestAddr)) hne).cons
        (e := .removed p.guestAddr) hne
    intro c hc
    split at hc
    · rename_i hreg
      simp only [List.append_assoc, List.singleton_append] at hc
      rcases mem_split.mp hc with rfl | hc
      · have hok := hs.buffers b (mem_split.mpr (.inl rfl))
        exact ⟨hok.aligned, hok.size, by simp [hreg], by simp⟩
      · exact hother c hc
    · exact hother c (by simpa using hc)
  · intro a
    simp only [mapperCalls_removed, mapperCalls_remove]
    by_cases ha : p.guestAddr = a
    · subst ha
      rw [if_pos rfl]
      exact ⟨by simpa [live] using hlive, hs.calls _⟩
    · rw [if_neg ha]
      exact hs.calls a
  · intro a
    rw [hsame]
    simp only [live, mapperCalls_removed, mapperCalls_remove]
    have hiff := hs.liveIff a
    rw [hperm.mem_iff, List.mem_cons] at hiff
    by_cases ha : p.guestAddr = a
    · subst ha
      simpa using hnot
    · simpa [ha, Ne.symm ha, live] using hiff

end Steps

/-- `register_buffer_by_offset`, whether it finds the place or not. -/
theorem TrackedInv.registerAt {s : Tracked} (hs : TrackedInv s) (offset size : UInt32) :
    TrackedInv { s with manager := (s.manager.registerBufferByOffset offset size).2 } := by
  rcases MmapMappingManager.registerBufferByOffset_cases hs.sorted offset size with
    ⟨e, h⟩ | ⟨l₁, l₂, hm, h, hsize, halign, hlo, hhi⟩ <;> rw [h]
  · exact hs
  · exact TrackedInv.insert (hm ▸ hs) hsize halign hlo hhi

/-- `unregister_buffer`, whether the buffer is mapped or not. -/
theorem TrackedInv.unregister {s : Tracked} (hs : TrackedInv s) (offset : UInt32) :
    TrackedInv { s with manager := (s.manager.unregisterBuffer offset).2 } := by
  rcases MmapMappingManager.unregisterBuffer_cases s.manager offset with
    ⟨-, h⟩ | ⟨l₁, b, l₂, hm, -, ⟨hb, h⟩ | ⟨hb, h⟩⟩ <;> rw [h]
  · exact hs
  · exact TrackedInv.erase (hm ▸ hs) hb
  · exact TrackedInv.markUnregistered (hm ▸ hs) hb

/-- `create_mapping`: a count that goes up, a new mapping, or an error. -/
theorem TrackedInv.create {s : Tracked} {offset : UInt32} {fd : Nat} {rw : Bool}
    {answer : Except Int UInt64} (hs : TrackedInv s)
    (hfresh : AnswersFresh s (.create offset fd rw answer)) :
    TrackedInv (s.create offset fd rw answer).2 := by
  simp only [AnswersFresh] at hfresh
  unfold Tracked.create
  rcases MmapMappingManager.createMapping_cases s.manager offset fd rw answer with
    ⟨e, h⟩ | ⟨l₁, b, l₂, hm, -, -, ⟨addr, hb, -, h⟩ | ⟨p, hb, -, h⟩⟩ <;>
    rw [h] at hfresh ⊢
  · exact hs
  · exact TrackedInv.establish (hm ▸ hs) hb (hfresh _ List.mem_cons_self)
  · have hok := hs.buffers b (hm ▸ mem_split.mpr (.inl rfl))
    obtain ⟨hpos, hcount⟩ := hok.counted p hb
    obtain ⟨hc, hr⟩ := @counts_created s.log p.guestAddr
    have hnew : p.numMappings + 1 + removes (.created p.guestAddr :: s.log) p.guestAddr =
        creates (.created p.guestAddr :: s.log) p.guestAddr := by omega
    exact TrackedInv.recount (hm ▸ hs) hb (.inl rfl) ⟨Nat.le_add_left 1 _, hnew⟩

/-- `remove_mapping`: a count that goes down, the end of the mapping, or an
error. -/
theorem TrackedInv.remove {s : Tracked} (hs : TrackedInv s) (addr : UInt64) :
    TrackedInv (s.remove addr).2 := by
  unfold Tracked.remove
  rcases MmapMappingManager.removeMapping_cases s.manager addr with
    ⟨h, -⟩ | ⟨l₁, b, l₂, p, hm, hb, rfl, ⟨-, h⟩ | ⟨hlt, h⟩⟩ <;> rw [h]
  · exact hs
  · exact TrackedInv.unmap (hm ▸ hs) hb
  · have hok := hs.buffers b (hm ▸ mem_split.mpr (.inl rfl))
    obtain ⟨hpos, hcount⟩ := hok.counted p hb
    obtain ⟨hc, hr⟩ := @counts_removed s.log p.guestAddr
    have hnew : p.numMappings - 1 + removes (.removed p.guestAddr :: s.log) p.guestAddr =
        creates (.removed p.guestAddr :: s.log) p.guestAddr := by omega
    exact TrackedInv.recount (hm ▸ hs) hb (.inr rfl) ⟨by omega, hnew⟩

/-- Every call of the manager. -/
theorem TrackedInv.step {checks : Bool} {s s' : Tracked} {a : MmapAction} (hs : TrackedInv s)
    (hfresh : AnswersFresh s a) (h : s.step checks a = some s') : TrackedInv s' := by
  cases a with
  | register offset size =>
      simp only [Tracked.step, MmapMappingManager.registerBuffer, Option.map_map,
        Option.map_eq_some_iff] at h
      obtain ⟨o, -, rfl⟩ := h
      exact hs.registerAt o size
  | unregister offset =>
      cases h
      exact hs.unregister offset
  | create offset fd rw answer =>
      cases h
      exact hs.create hfresh
  | remove addr =>
      cases h
      exact hs.remove addr

/-- An offset without bits below the page mask is a multiple of the page. -/
theorem pageAligned_of_mask {offset : UInt32} (h : offset &&& pageMask = offset) :
    offset.toNat % 4096 = 0 := by
  have hlow : offset &&& 0xfff = 0 := by
    rw [← h, UInt32.and_assoc]
    have hmask : pageMask &&& 0xfff = 0 := by decide
    rw [hmask, UInt32.and_zero]
  have hnat := congrArg UInt32.toNat hlow
  rw [UInt32.toNat_and] at hnat
  exact (Nat.and_two_pow_sub_one_eq_mod offset.toNat 12).symm.trans hnat

/-- A multiple of the page has no bits below the page mask. -/
theorem mask_of_pageAligned {offset : UInt32} (h : offset.toNat % 4096 = 0) :
    offset &&& pageMask = offset := by
  have hlow : offset &&& 0xfff = 0 := by
    apply UInt32.toNat_inj.mp
    rw [UInt32.toNat_and]
    exact (Nat.and_two_pow_sub_one_eq_mod offset.toNat 12).trans h
  have hor : (offset &&& pageMask) ||| (offset &&& 0xfff) = offset := by
    apply UInt32.toBitVec_inj.mp
    rw [UInt32.toBitVec_or, UInt32.toBitVec_and, UInt32.toBitVec_and, ← BitVec.and_or_distrib_left]
    have hall : pageMask.toBitVec ||| (0xfff : UInt32).toBitVec = BitVec.allOnes 32 := by decide
    rw [hall, BitVec.and_allOnes]
  rwa [hlow, UInt32.or_zero] at hor

/-- In every state reached by calls on an empty manager, with a mapper that
never returns an address still mapped: the buffers strictly increase in
offset, and every offset is page aligned and every size non-zero; a buffer
that is not registered is mapped; a mapping counts the successful creations
minus removals since the mapper established it, and at least one; and for
each address the mapper's `add_mapping` and `remove_mapping` alternate, so
that the live addresses are those of the stored mappings. -/
theorem mmap_manager_consistent (checks : Bool) (acts : List MmapAction) (s : Tracked)
    (hfresh : Trace.Conforms (Tracked.step checks) AnswersFresh .init acts)
    (hrun : Trace.run (Tracked.step checks) .init acts = some s) :
    s.manager.buffers.Pairwise (fun a b => a.offset < b.offset) ∧
      (∀ b ∈ s.manager.buffers, b.offset.toNat % 4096 = 0 ∧ b.size ≠ 0 ∧
        (b.registered = false → b.mapping.isSome = true) ∧
        ∀ p, b.mapping = some p → 1 ≤ p.numMappings ∧
          p.numMappings + removes s.log p.guestAddr = creates s.log p.guestAddr) ∧
      (∀ a, Alternates (mapperCalls s.log a)) ∧
      ∀ a, live s.log a = true ↔
        ∃ b ∈ s.manager.buffers, ∃ p, b.mapping = some p ∧ p.guestAddr = a := by
  have hinv : TrackedInv s := Trace.run_invariant_of_conforms (P := TrackedInv)
    (fun _ _ _ h hok hs => h.step hok hs) trackedInv_init hfresh hrun
  refine ⟨hinv.sorted, fun b hb => ?_, hinv.calls, fun a => ?_⟩
  · have hok := hinv.buffers b hb
    exact ⟨pageAligned_of_mask hok.aligned, hok.size, hok.unregistered, hok.counted⟩
  · rw [hinv.liveIff a]
    simp [addrs]

/-- Two buffers; the first is mapped twice, unregistered while mapped, unmapped
once, and the second is mapped and unmapped. -/
def mappingRun : List MmapAction :=
  [.register none 0x1000, .register none 0x5000, .create 0 3 true (.ok 0x8000),
    .create 0 3 true (.error 5), .unregister 0, .remove 0x8000,
    .create 0x1000 4 false (.ok 0x9000), .remove 0x9000]

theorem mmap_manager_consistent_mappingRun :
    ∃ s, Trace.run (Tracked.step true) .init mappingRun = some s ∧
      s.manager.buffers = [⟨0, 0x1000, false, some ⟨1, 0x8000, true⟩⟩,
        ⟨0x1000, 0x5000, true, none⟩] ∧
      Alternates (mapperCalls s.log 0x9000) ∧ live s.log 0x8000 = true := by
  refine ⟨_, rfl, by decide, ?_⟩
  have h := mmap_manager_consistent true mappingRun _ (by decide) rfl
  exact ⟨h.2.2.1 _, (h.2.2.2 _).mpr ⟨_, List.mem_cons_self, _, rfl, rfl⟩⟩

end VirtioMedia.Device
