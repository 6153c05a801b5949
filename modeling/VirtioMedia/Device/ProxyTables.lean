import VirtioMedia.Device.MmapIdentity
import VirtioMedia.Device.ProxyIsolation

/-!
# The plane table of the proxy agrees with the mapping manager

`V4l2ProxyDevice` keeps the MMAP planes twice: in `mmap_buffers`, by the
offset the host reported, and as buffers of its mapping manager. A plane that
is forgotten while it is mapped leaves a buffer behind in the manager only,
marked as not registered. The two tables agree on the registered offsets, and
every record is of a session that is open. A record keeps the index that the
host put in its QUERYBUF reply; this module says when no record has an index
past the range that was allocated.
-/

namespace VirtioMedia.Device

open V4l2

/-! ### The device -/

/-- The record `update_mmap_offsets` makes of a reported plane. -/
def Reported.info (sessionId : UInt32) (queue : QueueType) (r : Reported) : MmapPlaneInfo :=
  ⟨r.host.memOffset, sessionId, queue, r.index.toUInt8, .ofNat r.plane, 0, true⟩

/-- Every record is active, and the records have the registered offsets. -/
structure DeviceAgrees (d : ProxyDevice) : Prop where
  sorted : d.mmap.manager.Sorted
  active : ∀ info ∈ d.mmapBuffers.entries, info.active = true
  agree : ∀ o : UInt32, (∃ info ∈ d.mmapBuffers.entries, info.offset = o) ↔
    d.mmap.manager.Registered o

namespace DeviceAgrees

theorem mem_deactivate_iff {d : ProxyDevice} (h : DeviceAgrees d) {gone : MmapPlaneInfo → Bool}
    {info : MmapPlaneInfo} :
    info ∈ (d.deactivate gone).mmapBuffers.entries ↔
      info ∈ d.mmapBuffers.entries ∧ gone info = false := by
  refine ⟨mem_deactivate, ?_⟩
  rintro ⟨hinfo, hgone⟩
  simp only [ProxyDevice.deactivate, SortedMap.mem_retain, SortedMap.mapEntries, List.mem_map]
  refine ⟨⟨info, hinfo, ?_⟩, h.active info hinfo⟩
  rw [hgone, Bool.not_false, Bool.and_true]

/-- Forgetting records removes their offsets from both tables. -/
theorem deactivate {d : ProxyDevice} (h : DeviceAgrees d) (gone : MmapPlaneInfo → Bool) :
    DeviceAgrees (d.deactivate gone) where
  sorted := ProxyDevice.deactivate_sorted h.sorted gone
  active := fun info hinfo => h.active info (mem_deactivate hinfo).1
  agree := by
    intro o
    refine Iff.trans ?_ (MmapMappingManager.registered_unregisterAll h.sorted
      ((d.mmapBuffers.entries.filter gone).map (·.offset)) o).symm
    simp only [h.mem_deactivate_iff, ← h.agree, List.mem_map, List.mem_filter, not_exists, not_and]
    constructor
    · rintro ⟨info, ⟨hinfo, hgone⟩, rfl⟩
      refine ⟨⟨info, hinfo, rfl⟩, fun c hc heq => ?_⟩
      have hsame : c = info :=
        d.mmapBuffers.sorted.eq_of_key_eq hc.1 hinfo (congrArg UInt32.toNat heq)
      rw [hsame, hgone] at hc
      cases hc.2
    · rintro ⟨⟨info, hinfo, rfl⟩, hno⟩
      refine ⟨info, ⟨hinfo, ?_⟩, rfl⟩
      by_contra hgone
      exact hno info ⟨hinfo, Bool.not_eq_false _ ▸ hgone⟩ rfl

/-- One registration adds one record and one registered offset. -/
theorem registerPlane {d d' : ProxyDevice} (h : DeviceAgrees d) {sessionId : UInt32}
    {queue : QueueType} {r : Reported} (hd : d.registerPlane sessionId queue r = some d') :
    DeviceAgrees d' ∧ ∀ info ∈ d'.mmapBuffers.entries,
      info = r.info sessionId queue ∨ info ∈ d.mmapBuffers.entries := by
  obtain ⟨hn, -⟩ | ⟨d₁, h₁, hlen, hal, hfree, rfl⟩ :=
    ProxyDevice.registerPlane_cases h.sorted sessionId queue r
  · rw [hn] at hd
    cases hd
  · rw [h₁] at hd
    cases hd
    have hreg := (MmapMappingManager.registerBufferByOffset_ok_iff h.sorted r.host.memOffset
      r.host.length).mpr ⟨hlen, hal, hfree⟩
    have hmem : ∀ info, info ∈ (d.mmapBuffers.insert (r.info sessionId queue)).entries ↔
        info = r.info sessionId queue ∨
          (info ∈ d.mmapBuffers.entries ∧ info.key ≠ r.host.memOffset.toNat) :=
      fun info => SortedMap.mem_insert
    refine ⟨⟨MmapMappingManager.registerBufferByOffset_sorted h.sorted _ _, ?_, ?_⟩, ?_⟩
    · intro info hinfo
      rcases (hmem info).mp hinfo with rfl | ⟨hold, -⟩
      · rfl
      · exact h.active info hold
    · intro o
      refine Iff.trans ?_
        (MmapMappingManager.registered_registerBufferByOffset h.sorted hreg o).symm
      rw [← h.agree]
      constructor
      · rintro ⟨info, hinfo, rfl⟩
        rcases (hmem info).mp hinfo with rfl | ⟨hold, -⟩
        · exact .inl rfl
        · exact .inr ⟨info, hold, rfl⟩
      · rintro (rfl | ⟨info, hold, rfl⟩)
        · exact ⟨r.info sessionId queue, (hmem _).mpr (.inl rfl), rfl⟩
        · by_cases heq : info.offset = r.host.memOffset
          · exact ⟨r.info sessionId queue, (hmem _).mpr (.inl rfl), heq.symm⟩
          · exact ⟨info, (hmem _).mpr (.inr ⟨hold, fun hk => heq (UInt32.toNat_inj.mp hk)⟩), rfl⟩
    · intro info hinfo
      exact ((hmem info).mp hinfo).imp_right And.left

/-- The registration loop records nothing but what was reported. -/
theorem registerPlanes {d d' : ProxyDevice} (h : DeviceAgrees d) {sessionId : UInt32}
    {queue : QueueType} {rs : List Reported}
    (hd : ProxyDevice.registerPlanes sessionId queue d rs = some d') :
    DeviceAgrees d' ∧ ∀ info ∈ d'.mmapBuffers.entries,
      (∃ r ∈ rs, info = r.info sessionId queue) ∨ info ∈ d.mmapBuffers.entries := by
  induction rs generalizing d with
  | nil =>
      cases hd
      exact ⟨h, fun info hinfo => .inr hinfo⟩
  | cons r rest ih =>
      obtain ⟨d₁, h₁, hrest⟩ := Option.bind_eq_some_iff.mp hd
      obtain ⟨hagree₁, hmem₁⟩ := h.registerPlane h₁
      obtain ⟨hagree, hmem⟩ := ih hagree₁ hrest
      refine ⟨hagree, fun info hinfo => ?_⟩
      rcases hmem info hinfo with ⟨x, hx, rfl⟩ | hold
      · exact .inl ⟨x, List.mem_cons_of_mem r hx, rfl⟩
      · rcases hmem₁ info hold with rfl | hold
        · exact .inl ⟨r, List.mem_cons_self, rfl⟩
        · exact .inr hold

/-- A record of an offset that is not registered again stays. -/
theorem registerPlanes_keeps {d d' : ProxyDevice} (hs : d.mmap.manager.Sorted)
    {sessionId : UInt32} {queue : QueueType} {rs : List Reported}
    (hd : ProxyDevice.registerPlanes sessionId queue d rs = some d') {info : MmapPlaneInfo}
    (hinfo : info ∈ d.mmapBuffers.entries)
    (hother : ∀ r ∈ rs, r.host.memOffset ≠ info.offset) : info ∈ d'.mmapBuffers.entries := by
  induction rs generalizing d with
  | nil =>
      cases hd
      exact hinfo
  | cons r rest ih =>
      obtain ⟨d₁, h₁, hrest⟩ := Option.bind_eq_some_iff.mp hd
      obtain ⟨hn, -⟩ | ⟨d₂, h₂, -, -, -, rfl⟩ :=
        ProxyDevice.registerPlane_cases hs sessionId queue r
      · rw [hn] at h₁
        cases h₁
      · cases h₂.symm.trans h₁
        refine ih (MmapMappingManager.registerBufferByOffset_sorted hs _ _) hrest ?_
          fun x hx => hother x (List.mem_cons_of_mem r hx)
        exact SortedMap.mem_insert.mpr (.inr ⟨hinfo, fun hkey =>
          hother r List.mem_cons_self (UInt32.toNat_inj.mp hkey).symm⟩)

/-- Every reported plane is on record after the registration loop: an offset
that is reported twice panics. -/
theorem registerPlanes_records {d d' : ProxyDevice} (hs : d.mmap.manager.Sorted)
    {sessionId : UInt32} {queue : QueueType} {rs : List Reported}
    (hd : ProxyDevice.registerPlanes sessionId queue d rs = some d') :
    (∀ r ∈ rs, ¬ d.mmap.manager.Occupied r.host.memOffset) ∧
      ∀ r ∈ rs, r.info sessionId queue ∈ d'.mmapBuffers.entries := by
  induction rs generalizing d with
  | nil => simp
  | cons r rest ih =>
      obtain ⟨d₁, h₁, hrest⟩ := Option.bind_eq_some_iff.mp hd
      obtain ⟨hn, -⟩ | ⟨d₂, h₂, hlen, hal, hfree, rfl⟩ :=
        ProxyDevice.registerPlane_cases hs sessionId queue r
      · rw [hn] at h₁
        cases h₁
      · cases h₂.symm.trans h₁
        have hreg := (MmapMappingManager.registerBufferByOffset_ok_iff hs r.host.memOffset
          r.host.length).mpr ⟨hlen, hal, hfree⟩
        have hmem := MmapMappingManager.mem_registerBufferByOffset hs hreg
        have hs₁ := MmapMappingManager.registerBufferByOffset_sorted hs r.host.memOffset
          r.host.length
        obtain ⟨hfree₁, hrec⟩ := ih hs₁ hrest
        refine ⟨List.forall_mem_cons.mpr ⟨hfree, ?_⟩, List.forall_mem_cons.mpr ⟨?_, hrec⟩⟩
        · rintro x hx ⟨b, hb, ho⟩
          exact hfree₁ x hx ⟨b, (hmem b).mpr (.inr hb), ho⟩
        · refine registerPlanes_keeps hs₁ hrest (SortedMap.mem_insert.mpr (.inl rfl)) ?_
          exact fun x hx ho => hfree₁ x hx ⟨_, (hmem _).mpr (.inl rfl), ho.symm⟩

/-- `update_mmap_offsets`: what it keeps and what it adds. -/
theorem updateMmapOffsets {d d' : ProxyDevice} (h : DeviceAgrees d) {sessionId : UInt32}
    {queue : QueueType} {start count : Nat} {query : Nat → Option HostBuffer}
    (hd : d.updateMmapOffsets sessionId queue start count query = some d') :
    DeviceAgrees d' ∧
      (∀ r ∈ ProxyDevice.reportedPlanes start count query,
        r.info sessionId queue ∈ d'.mmapBuffers.entries) ∧
      ∀ info ∈ d'.mmapBuffers.entries,
        (∃ r ∈ ProxyDevice.reportedPlanes start count query, info = r.info sessionId queue) ∨
        (info ∈ d.mmapBuffers.entries ∧
          ProxyDevice.deallocated sessionId queue start count info = false) := by
  have h₁ := h.deactivate (ProxyDevice.deallocated sessionId queue start count)
  obtain ⟨hagree, hmem⟩ := h₁.registerPlanes hd
  exact ⟨hagree, (registerPlanes_records h₁.sorted hd).2,
    fun info hinfo => (hmem info hinfo).imp_right mem_deactivate⟩

/-- MMAP changes the address of a record and a mapping of the manager. -/
theorem doMmap {d : ProxyDevice} (h : DeviceAgrees d)
    (exported : QueueType → Nat → Nat → Except Int Nat) (flags offset : UInt32)
    (answer : Except Int UInt64) :
    DeviceAgrees (d.doMmap exported flags offset answer).2 ∧
      ∀ info ∈ (d.doMmap exported flags offset answer).2.mmapBuffers.entries,
        ∃ info₀ ∈ d.mmapBuffers.entries, info₀.sessionId = info.sessionId := by
  have hsorted : ∀ fd rw, (d.mmap.create offset fd rw answer).2.manager.Sorted :=
    fun fd rw => MmapMappingManager.createMapping_sorted h.sorted offset fd rw answer
  have hreg : ∀ fd rw o, (d.mmap.create offset fd rw answer).2.manager.Registered o ↔
      d.mmap.manager.Registered o :=
    fun fd rw o => MmapMappingManager.registered_createMapping _ offset fd rw answer o
  obtain ⟨e, heq⟩ | ⟨info, fd, hinfo, -, ⟨e, heq⟩ | ⟨addr, size, -, heq⟩⟩ :=
    d.doMmap_cases exported flags offset answer
  · rw [heq]
    exact ⟨h, fun info hinfo => ⟨info, hinfo, rfl⟩⟩
  · rw [heq]
    exact ⟨⟨hsorted fd _, h.active, fun o => (h.agree o).trans (hreg fd _ o).symm⟩,
      fun info hinfo => ⟨info, hinfo, rfl⟩⟩
  · rw [heq]
    obtain ⟨hold, hkey⟩ := SortedMap.get?_eq_some_iff.mp hinfo
    have hmem : ∀ c, c ∈ (d.mmapBuffers.insert { info with mapAddress := addr }).entries ↔
        c = { info with mapAddress := addr } ∨
          (c ∈ d.mmapBuffers.entries ∧ c.key ≠ info.key) := fun c => SortedMap.mem_insert
    refine ⟨⟨hsorted fd _, ?_, ?_⟩, ?_⟩
    · intro c hc
      rcases (hmem c).mp hc with rfl | ⟨hc, -⟩
      · exact h.active info hold
      · exact h.active c hc
    · intro o
      refine Iff.trans ?_ ((h.agree o).trans (hreg fd _ o).symm)
      constructor
      · rintro ⟨c, hc, rfl⟩
        rcases (hmem c).mp hc with rfl | ⟨hc, -⟩
        · exact ⟨info, hold, rfl⟩
        · exact ⟨c, hc, rfl⟩
      · rintro ⟨c, hc, rfl⟩
        by_cases heq : c.key = info.key
        · exact ⟨_, (hmem _).mpr (.inl rfl), (UInt32.toNat_inj.mp heq).symm⟩
        · exact ⟨c, (hmem c).mpr (.inr ⟨hc, heq⟩), rfl⟩
    · intro c hc
      rcases (hmem c).mp hc with rfl | ⟨hc, -⟩
      · exact ⟨info, hold, rfl⟩
      · exact ⟨c, hc, rfl⟩

theorem doMunmap {d : ProxyDevice} (h : DeviceAgrees d) (guestAddr : UInt64) :
    DeviceAgrees (d.doMunmap guestAddr).2 :=
  ⟨MmapMappingManager.removeMapping_sorted h.sorted guestAddr, h.active,
    fun o => (h.agree o).trans
      (MmapMappingManager.registered_removeMapping _ guestAddr o).symm⟩

end DeviceAgrees

/-! ### Runs -/

/-- The tables agree, and every record is of an open session. -/
structure TablesAgree (s : Proxy) : Prop where
  device : DeviceAgrees s.device
  opened : ∀ info ∈ s.device.mmapBuffers.entries, (s.sessions info.sessionId).isSome = true

/-- The queue on which a command allocates, and the range of buffer indices
that it hands to `update_mmap_offsets`. -/
structure Allocation where
  sessionId : UInt32
  queue : QueueType
  start : Nat
  stop : Nat
  deriving DecidableEq, Repr

/-- REQBUFS of an open session allocates, and so does CREATE_BUFS unless it
asks for no buffer. -/
def Proxy.allocates (s : Proxy) : ProxyCmd → Option Allocation
  | .reqbufs sessionId queue count _ _ =>
    (s.sessions sessionId).map fun _ => ⟨sessionId, queue, 0, count.toNat⟩
  | .createBufs sessionId queue count reply _ _ =>
    if count = 0 then none
    else (s.sessions sessionId).map fun _ => ⟨sessionId, queue, reply.index.toNat, reply.stop⟩
  | _ => none

/-- Every record of the queue is of a plane that the host reported for this
allocation, or it is an older one with an index below the range. REQBUFS, which
frees the old buffers, starts at index zero, so it leaves no older record. -/
def RecordsAllocated (s s' : Proxy) (a : ProxyCmd) (al : Allocation) : Prop :=
  ∀ info ∈ s'.device.mmapBuffers.entries, info.sessionId = al.sessionId →
    info.queue = al.queue →
    (∃ r ∈ s.reported a, info = r.info al.sessionId al.queue) ∨
      (info ∈ s.device.mmapBuffers.entries ∧ info.index.toNat < al.start ∧ al.start < al.stop)

/-- No record of the queue has an index past the range. -/
def IndicesInRange (s' : Proxy) (al : Allocation) : Prop :=
  ∀ info ∈ s'.device.mmapBuffers.entries, info.sessionId = al.sessionId →
    info.queue = al.queue → info.index.toNat < al.stop

/-- The eight bits that are recorded of the index in a QUERYBUF reply are
below the end of the range. -/
def RepliesInRange (s : Proxy) (a : ProxyCmd) (al : Allocation) : Prop :=
  ∀ r ∈ s.reported a, r.index.toUInt8.toNat < al.stop

/-- QUERYBUF is asked for the indices of the range only. -/
theorem reportedPlanes_range {start count : Nat} {query : Nat → Option HostBuffer} {r : Reported}
    (h : r ∈ ProxyDevice.reportedPlanes start count query) :
    start ≤ r.asked ∧ r.asked < start + count := by
  simp only [ProxyDevice.reportedPlanes, List.mem_flatMap, List.mem_range'_1] at h
  obtain ⟨i, hi, hr⟩ := h
  cases hq : query i with
  | none =>
      rw [hq] at hr
      cases hr
  | some b =>
      rw [hq] at hr
      obtain ⟨j, hj, rfl⟩ := List.mem_mapIdx.mp hr
      exact hi

/-- A record of the queue that an allocation does not forget. -/
theorem index_lt_of_kept {sessionId : UInt32} {queue : QueueType} {start count : Nat}
    {info : MmapPlaneInfo} (hid : info.sessionId = sessionId) (hq : info.queue = queue)
    (h : ProxyDevice.deallocated sessionId queue start count info = false) :
    count ≠ 0 ∧ info.index.toNat < start := by
  simpa [ProxyDevice.deallocated, hid, hq] using h

theorem setSession_isSome {s : Proxy} {sessionId i : UInt32} (session : V4l2Session)
    (h : (s.sessions i).isSome = true) :
    ((s.setSession sessionId (some session)).sessions i).isSome = true := by
  unfold Proxy.setSession
  dsimp only
  split_ifs
  · rfl
  · exact h

/-- An allocation keeps the agreement: new records are of its own session. -/
theorem TablesAgree.update {s : Proxy} (hs : TablesAgree s) {sessionId : UInt32}
    {queue : QueueType} {start count : Nat} {query : Nat → Option HostBuffer} {d : ProxyDevice}
    (h : s.device.updateMmapOffsets sessionId queue start count query = some d)
    (session : V4l2Session) :
    TablesAgree ({ s with device := d }.setSession sessionId (some session)) := by
  obtain ⟨hagree, -, hmem⟩ := hs.device.updateMmapOffsets h
  refine ⟨hagree, fun info hinfo => ?_⟩
  rcases hmem info hinfo with ⟨r, -, rfl⟩ | ⟨hold, -⟩
  · simp [Proxy.setSession, Reported.info]
  · have hopen : (({ s with device := d } : Proxy).sessions info.sessionId).isSome = true :=
      hs.opened info hold
    exact setSession_isSome session hopen

theorem TablesAgree.closeSession {s : Proxy} (hs : TablesAgree s) (sessionId : UInt32) :
    TablesAgree
      ({ s with device := s.device.deleteSession sessionId }.setSession sessionId none) := by
  refine ⟨hs.device.deactivate _, fun info hinfo => ?_⟩
  obtain ⟨hold, hne⟩ := mem_deactivate hinfo
  have hid : info.sessionId ≠ sessionId := by simpa using hne
  change ((if info.sessionId = sessionId then none else s.sessions info.sessionId) :
    Option V4l2Session).isSome = true
  rw [if_neg hid]
  exact hs.opened info hold

theorem TablesAgree.setSession {s : Proxy} (hs : TablesAgree s) (sessionId : UInt32)
    (session : V4l2Session) : TablesAgree (s.setSession sessionId (some session)) :=
  ⟨hs.device, fun info hinfo => setSession_isSome session (hs.opened info hinfo)⟩

theorem TablesAgree.step {s s' : Proxy} {a : ProxyCmd} (hs : TablesAgree s)
    (h : s.step a = some s') : TablesAgree s' := by
  cases Proxy.step_moves h with
  | same => exact hs
  | openSession _ => exact hs.setSession _ .new
  | closeSession => exact hs.closeSession _
  | reqbufs _ hd => exact hs.update hd _
  | reqbufsFails _ => exact hs.setSession _ _
  | createBufs _ _ hd => exact hs.update hd _
  | @mmap sessionId session flags offset refusal answer _ =>
      obtain ⟨hagree, hmem⟩ := hs.device.doMmap (session.expbuf refusal) flags offset answer
      refine ⟨hagree, fun info hinfo => ?_⟩
      obtain ⟨info₀, hold, hid⟩ := hmem info hinfo
      exact hid ▸ hs.opened info₀ hold
  | munmap => exact ⟨hs.device.doMunmap _, hs.opened⟩

/-- An allocation that does not panic is a call of `update_mmap_offsets`. -/
theorem Proxy.step_allocates {s s' : Proxy} {a : ProxyCmd} {al : Allocation}
    (h : s.step a = some s') (hal : s.allocates a = some al) :
    ∃ query, s.reported a = ProxyDevice.reportedPlanes al.start (al.stop - al.start) query ∧
      s.device.updateMmapOffsets al.sessionId al.queue al.start (al.stop - al.start) query =
        some s'.device := by
  cases a with
  | reqbufs sessionId queue count bufs refused =>
      obtain ⟨session, hsession, rfl⟩ := Option.map_eq_some_iff.mp hal
      simp only [Proxy.step, hsession] at h
      obtain ⟨d, hd, rfl⟩ := Option.map_eq_some_iff.mp h
      exact ⟨_, by simp only [Proxy.reported, hsession, Nat.sub_zero], hd⟩
  | createBufs sessionId queue count reply bufs refused =>
      simp only [Proxy.allocates] at hal
      split_ifs at hal with hcount
      obtain ⟨session, hsession, rfl⟩ := Option.map_eq_some_iff.mp hal
      simp only [Proxy.step, hsession, Proxy.createBufs, if_neg hcount] at h
      obtain ⟨d, hd, rfl⟩ := Option.map_eq_some_iff.mp h
      exact ⟨_, by simp only [Proxy.reported, hsession, if_neg hcount], hd⟩
  | openSession _ => cases hal
  | closeSession _ => cases hal
  | reqbufsFails _ _ _ => cases hal
  | mmap _ _ _ _ _ => cases hal
  | munmap _ => cases hal

/-- What an allocation leaves of the records of its queue. -/
theorem TablesAgree.recordsAllocated {s s' : Proxy} {a : ProxyCmd} {al : Allocation}
    (hs : TablesAgree s) (h : s.step a = some s') (hal : s.allocates a = some al) :
    RecordsAllocated s s' a al := by
  intro info hinfo hid hq
  obtain ⟨query, hreported, hd⟩ := Proxy.step_allocates h hal
  rcases (hs.device.updateMmapOffsets hd).2.2 info hinfo with ⟨r, hr, rfl⟩ | ⟨hold, hkept⟩
  · exact .inl ⟨r, hreported ▸ hr, rfl⟩
  · obtain ⟨hcount, hlt⟩ := index_lt_of_kept hid hq hkept
    exact .inr ⟨hold, hlt, by omega⟩

/-- The records are in the range exactly if the replies are. -/
theorem TablesAgree.indicesInRange_iff {s s' : Proxy} {a : ProxyCmd} {al : Allocation}
    (hs : TablesAgree s) (h : s.step a = some s') (hal : s.allocates a = some al) :
    IndicesInRange s' al ↔ RepliesInRange s a al := by
  constructor
  · intro hin r hr
    obtain ⟨query, hreported, hd⟩ := Proxy.step_allocates h hal
    exact hin _ ((hs.device.updateMmapOffsets hd).2.1 r (hreported ▸ hr)) rfl rfl
  · intro hreplies info hinfo hid hq
    rcases hs.recordsAllocated h hal info hinfo hid hq with ⟨r, hr, rfl⟩ | ⟨-, hlt, hle⟩
    · exact hreplies r hr
    · exact hlt.trans hle

/-- A host that answers with the index it was asked for answers in the range. -/
theorem repliesInRange_of_asked {s s' : Proxy} {a : ProxyCmd} {al : Allocation}
    (h : s.step a = some s') (hal : s.allocates a = some al)
    (hasked : ∀ r ∈ s.reported a, r.index.toNat = r.asked) : RepliesInRange s a al := by
  intro r hr
  obtain ⟨query, hreported, -⟩ := Proxy.step_allocates h hal
  obtain ⟨hge, hlt⟩ := reportedPlanes_range (hreported ▸ hr)
  have hle : r.index.toUInt8.toNat ≤ r.asked := by
    rw [UInt32.toNat_toUInt8, hasked r hr]
    exact Nat.mod_le _ _
  omega

theorem tablesAgree_init : TablesAgree .init where
  device := by
    refine ⟨List.Pairwise.nil, fun info h => absurd h List.not_mem_nil, fun o => ?_⟩
    constructor
    · rintro ⟨info, h, -⟩
      exact absurd h List.not_mem_nil
    · rintro ⟨b, h, -⟩
      exact absurd h List.not_mem_nil
  opened := fun info h => absurd h List.not_mem_nil

/-- In every state that a run reaches without a panic, the keys of
`mmap_buffers` are exactly the registered offsets of the manager and every
record is of an open session. The next allocation on a queue leaves no record
of a buffer that it freed, and no record with an index past its range if and
only if the recorded part of the index in every QUERYBUF reply is below its
end. It is if the host answers with the index it was asked for. -/
theorem proxy_tables_agree (acts : List ProxyCmd) (s : Proxy)
    (hrun : Trace.run Proxy.step .init acts = some s) :
    (∀ o : UInt32, (s.device.mmapBuffers.get? o.toNat).isSome = true ↔
      ∃ b ∈ s.device.mmap.manager.buffers, b.offset = o ∧ b.registered = true) ∧
    (∀ info ∈ s.device.mmapBuffers.entries, (s.sessions info.sessionId).isSome = true) ∧
    ∀ a s' al, s.step a = some s' → s.allocates a = some al →
      RecordsAllocated s s' a al ∧
      (IndicesInRange s' al ↔ RepliesInRange s a al) ∧
      ((∀ r ∈ s.reported a, r.index.toNat = r.asked) → IndicesInRange s' al) := by
  have hs : TablesAgree s := Trace.run_invariant (fun _ _ _ h hstep => h.step hstep)
    tablesAgree_init hrun
  refine ⟨fun o => ?_, hs.opened, fun a s' al h hal => ⟨hs.recordsAllocated h hal, ?_, ?_⟩⟩
  · refine Iff.trans ?_ (hs.device.agree o)
    rw [Option.isSome_iff_exists]
    simp only [SortedMap.get?_eq_some_iff, MmapPlaneInfo.key, UInt32.toNat_inj]
  · exact hs.indicesInRange_iff h hal
  · exact fun hasked => (hs.indicesInRange_iff h hal).mpr (repliesInRange_of_asked h hal hasked)

/-- Two sessions allocate, one of them maps a plane, closes, and leaves the
mapped buffer behind unregistered. -/
def mappedCloseRun : List ProxyCmd :=
  twoSessionsRun 0x1000 ++ [.mmap 0 1 0 none (.ok 0x8000), .closeSession 0]

/-- The other session then adds a buffer to its queue. -/
def addedBuffer : ProxyCmd :=
  .createBufs 1 .videoCapture 1 ⟨1, 1⟩ [onePlane 1 0x2000 2] fun _ => false

theorem proxy_tables_agree_mappedClose :
    ∃ s s', Trace.run Proxy.step .init mappedCloseRun = some s ∧
      s.device.mmap.manager.buffers.map (fun b => (b.offset, b.registered)) =
        [(0, false), (0x1000, true)] ∧
      (∀ o : UInt32, (s.device.mmapBuffers.get? o.toNat).isSome = true ↔
        ∃ b ∈ s.device.mmap.manager.buffers, b.offset = o ∧ b.registered = true) ∧
      s.step addedBuffer = some s' ∧ s'.device.mmapBuffers.entries.length = 2 ∧
      IndicesInRange s' ⟨1, .videoCapture, 1, 2⟩ := by
  have hagree := proxy_tables_agree mappedCloseRun _ rfl
  refine ⟨_, _, rfl, by decide, hagree.1, rfl, by decide, ?_⟩
  exact (hagree.2.2 addedBuffer _ ⟨1, .videoCapture, 1, 2⟩ rfl rfl).2.2 (by decide)

/-- The host answers QUERYBUF of the only buffer with index 7. -/
theorem proxy_tables_agree_fails_replyIndex :
    ¬ ∀ acts s, Trace.run Proxy.step .init acts = some s → ∀ a s' al, s.step a = some s' →
      s.allocates a = some al → IndicesInRange s' al := by
  intro h
  have hin := h [.openSession 0] _ rfl
    (.reqbufs 0 .videoCapture 1 [onePlane 7 0 0] fun _ => false) _ ⟨0, .videoCapture, 0, 1⟩ rfl rfl
  have hlt := hin ⟨0, 0, .videoCapture, 7, 0, 0, true⟩ (List.mem_singleton.mpr rfl) rfl rfl
  exact absurd hlt (by decide)

end VirtioMedia.Device
