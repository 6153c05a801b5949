import Mathlib.Data.List.Flatten
import VirtioMedia.Device.Proxy

/-!
# When the proxy can register the planes of a session

`update_mmap_offsets` unwraps the registration of every plane that QUERYBUF
reports. The offsets of all sessions share one mapping manager, and buffers
that were freed while mapped keep their offset, so the registration of a
plane can find its offset occupied, and the host program then panics. This
module says exactly when that does not happen.
-/

namespace VirtioMedia.Device

open V4l2

/-! ### The host driver -/

/-- The MMAP planes at an index of a queue. -/
def slotPlanes (b : Option HostBuffer) : List HostPlane := b.elim [] HostBuffer.mmapPlanes

/-- The MMAP planes of everything a session has allocated. -/
def sessionPlanes (device : QueueType → List (Option HostBuffer)) : List HostPlane :=
  QueueType.all.flatMap fun q => (device q).flatMap slotPlanes

/-- What is assumed of the host: non-zero lengths, and page aligned offsets
that are distinct within one session. -/
structure WellReported (device : QueueType → List (Option HostBuffer)) : Prop where
  distinct : ((sessionPlanes device).map HostPlane.memOffset).Nodup
  length : ∀ p ∈ sessionPlanes device, p.length ≠ 0
  aligned : ∀ p ∈ sessionPlanes device, p.memOffset.toNat % 4096 = 0

instance (device : QueueType → List (Option HostBuffer)) : Decidable (WellReported device) :=
  decidable_of_iff (((sessionPlanes device).map HostPlane.memOffset).Nodup ∧
      (∀ p ∈ sessionPlanes device, p.length ≠ 0) ∧
      ∀ p ∈ sessionPlanes device, p.memOffset.toNat % 4096 = 0)
    ⟨fun h => ⟨h.1, h.2.1, h.2.2⟩, fun h => ⟨h.distinct, h.length, h.aligned⟩⟩

/-- The host behaves so after the command. -/
def HostAnswersOk (s : Proxy) : ProxyCmd → Prop
  | .reqbufs sessionId queue _ bufs _ => ∀ session, s.sessions sessionId = some session →
      WellReported (session.setBuffers queue (bufs.map some)).device
  | .createBufs sessionId queue _ reply bufs _ =>
      ∀ session, s.sessions sessionId = some session →
        WellReported (session.setBuffers queue
          (session.addedBuffers queue reply.index.toNat bufs)).device
  | _ => True

instance (s : Proxy) : (a : ProxyCmd) → Decidable (HostAnswersOk s a)
  | .reqbufs sessionId queue _ bufs _ => inferInstanceAs (Decidable
      (∀ session, s.sessions sessionId = some session →
        WellReported (session.setBuffers queue (bufs.map some)).device))
  | .createBufs sessionId queue _ reply bufs _ => inferInstanceAs (Decidable
      (∀ session, s.sessions sessionId = some session →
        WellReported (session.setBuffers queue
          (session.addedBuffers queue reply.index.toNat bufs)).device))
  | .openSession _ | .closeSession _ | .reqbufsFails _ _ _ | .mmap _ _ _ _ _ | .munmap _ =>
    inferInstanceAs (Decidable True)

/-- The planes that QUERYBUF reports while the command is handled. -/
def Proxy.reported (s : Proxy) : ProxyCmd → List Reported
  | .reqbufs sessionId queue count bufs refused =>
    match s.sessions sessionId with
    | none => []
    | some session => ProxyDevice.reportedPlanes 0 count.toNat
        ((session.setBuffers queue (bufs.map some)).query queue refused)
  | .createBufs sessionId queue count reply bufs refused =>
    match s.sessions sessionId with
    | none => []
    | some session =>
      if count = 0 then []
      else ProxyDevice.reportedPlanes reply.index.toNat (reply.stop - reply.index.toNat)
        ((session.setBuffers queue
          (session.addedBuffers queue reply.index.toNat bufs)).query queue refused)
  | _ => []

/-- The recorded planes that the command deallocates. -/
def ProxyCmd.forgets : ProxyCmd → MmapPlaneInfo → Bool
  | .reqbufs sessionId queue count _ _ => ProxyDevice.deallocated sessionId queue 0 count.toNat
  | .createBufs sessionId queue _ reply _ _ =>
      ProxyDevice.deallocated sessionId queue reply.index.toNat (reply.stop - reply.index.toNat)
  | _ => fun _ => false

/-- The command does not panic, and every plane that QUERYBUF reports is
registered after it. -/
def Registers (s : Proxy) (a : ProxyCmd) : Prop :=
  ∃ s', s.step a = some s' ∧ ∀ r ∈ s.reported a, ∃ b ∈ s'.device.mmap.manager.buffers,
    b.offset = r.host.memOffset ∧ b.registered = true

/-- A reported offset is not stored in the manager, or it belongs to a buffer
that is not mapped and that the command deallocates. -/
def OffsetsFree (s : Proxy) (a : ProxyCmd) : Prop :=
  ∀ r ∈ s.reported a, ∀ b ∈ s.device.mmap.manager.buffers, b.offset = r.host.memOffset →
    b.mapping = none ∧ ∃ info ∈ s.device.mmapBuffers.entries,
      info.offset = r.host.memOffset ∧ a.forgets info = true

instance (s : Proxy) (a : ProxyCmd) : Decidable (OffsetsFree s a) :=
  inferInstanceAs (Decidable (∀ r ∈ s.reported a, ∀ b ∈ s.device.mmap.manager.buffers,
    b.offset = r.host.memOffset → b.mapping = none ∧ ∃ info ∈ s.device.mmapBuffers.entries,
      info.offset = r.host.memOffset ∧ a.forgets info = true))

/-! ### The reported planes are planes of the session -/

theorem QueueType.mem_all (q : QueueType) : q ∈ QueueType.all := by
  cases q <;> decide

theorem flatMap_range'_getElem? {α β : Type} (f : α → List β) (l : List α) (start count : Nat) :
    (List.range' start count).flatMap (fun i => (l[i]?).toList.flatMap f) =
      ((l.drop start).take count).flatMap f := by
  induction count generalizing start with
  | zero => simp
  | succ n ih =>
      rw [List.range'_succ, List.flatMap_cons, ih]
      by_cases hlt : start < l.length
      · rw [List.drop_eq_getElem_cons hlt, List.take_succ_cons, List.flatMap_cons]
        simp [List.getElem?_eq_getElem hlt]
      · have hle := not_lt.mp hlt
        simp [List.getElem?_eq_none hle, List.drop_eq_nil_of_le hle,
          List.drop_eq_nil_of_le (Nat.le_succ_of_le hle)]

theorem map_host_mapIdx (i : Nat) (k : UInt32) (ps : List HostPlane) :
    (ps.mapIdx fun j p => (⟨i, k, j, p⟩ : Reported)).map Reported.host = ps := by
  apply List.ext_getElem?
  intro j
  cases h : ps[j]? <;> simp [h]

/-- A buffer that QUERYBUF reports is one of the session's. -/
theorem V4l2Session.query_eq_some {session : V4l2Session} {queue : QueueType}
    {refused : Nat → Bool} {i : Nat} {b : HostBuffer}
    (h : session.query queue refused i = some b) : session.buffer queue i = some b := by
  unfold V4l2Session.query at h
  split at h
  · cases h
  · exact h

theorem reportedPlanes_sublist (session : V4l2Session) (queue : QueueType)
    (refused : Nat → Bool) (start count : Nat) :
    ((ProxyDevice.reportedPlanes start count (session.query queue refused)).map
      Reported.host).Sublist (sessionPlanes session.device) := by
  have hquery : ((ProxyDevice.reportedPlanes start count (session.query queue refused)).map
      Reported.host).Sublist ((List.range' start count).flatMap fun i =>
        ((session.device queue)[i]?).toList.flatMap slotPlanes) := by
    rw [ProxyDevice.reportedPlanes, List.map_flatMap]
    apply List.Sublist.flatMap_right _
    intro i _
    cases hq : session.query queue refused i with
    | none => exact List.nil_sublist _
    | some b =>
        have hget : (session.device queue)[i]? = some (some b) :=
          Option.join_eq_some_iff.mp (V4l2Session.query_eq_some hq)
        simp only [hget, map_host_mapIdx, Option.toList_some, List.flatMap_singleton]
        exact List.Sublist.refl _
  refine hquery.trans ?_
  rw [flatMap_range'_getElem?]
  have hpart : (((session.device queue).drop start).take count).Sublist (session.device queue) :=
    (List.take_sublist _ _).trans (List.drop_sublist _ _)
  refine (hpart.flatMap _).trans ?_
  have hqueue := (List.singleton_sublist.mpr (QueueType.mem_all queue)).flatMap fun q =>
    (session.device q).flatMap slotPlanes
  rwa [List.flatMap_singleton] at hqueue

/-- The planes of one command: valid, with distinct offsets. -/
structure ReportedOk (rs : List Reported) : Prop where
  distinct : (rs.map fun r => r.host.memOffset).Nodup
  length : ∀ r ∈ rs, r.host.length ≠ 0
  aligned : ∀ r ∈ rs, r.host.memOffset &&& pageMask = r.host.memOffset

theorem WellReported.reportedPlanes {session : V4l2Session} (h : WellReported session.device)
    (queue : QueueType) (refused : Nat → Bool) (start count : Nat) :
    ReportedOk (ProxyDevice.reportedPlanes start count (session.query queue refused)) := by
  have hsub := reportedPlanes_sublist session queue refused start count
  refine ⟨?_, fun r hr => ?_, fun r hr => ?_⟩
  · have := h.distinct.sublist (hsub.map HostPlane.memOffset)
    rwa [List.map_map] at this
  · exact h.length _ (hsub.subset (List.mem_map_of_mem hr))
  · exact mask_of_pageAligned (h.aligned _ (hsub.subset (List.mem_map_of_mem hr)))

theorem reportedOk_nil : ReportedOk [] := ⟨List.nodup_nil, by simp, by simp⟩

theorem reported_ok {s : Proxy} {a : ProxyCmd} (h : HostAnswersOk s a) :
    ReportedOk (s.reported a) := by
  cases a with
  | reqbufs sessionId queue count bufs refused =>
      simp only [Proxy.reported]
      split
      · exact reportedOk_nil
      · rename_i session hs
        exact (h session hs).reportedPlanes queue refused _ _
  | createBufs sessionId queue count reply bufs refused =>
      simp only [Proxy.reported]
      split
      · exact reportedOk_nil
      · rename_i session hs
        split
        · exact reportedOk_nil
        · exact (h session hs).reportedPlanes queue refused _ _
  | _ => exact reportedOk_nil

/-! ### Deactivation and registration -/

namespace ProxyDevice

/-- The offsets that are still occupied after planes were deactivated. -/
theorem deactivate_occupied {d : ProxyDevice} (hs : d.mmap.manager.Sorted)
    (gone : MmapPlaneInfo → Bool) (offset : UInt32) :
    (d.deactivate gone).mmap.manager.Occupied offset ↔
      ∃ b ∈ d.mmap.manager.buffers, b.offset = offset ∧
        ¬ (b.mapping = none ∧
          ∃ info ∈ d.mmapBuffers.entries, info.offset = offset ∧ gone info = true) := by
  have hgone : ∀ o, o ∈ (d.mmapBuffers.entries.filter gone).map (·.offset) ↔
      ∃ info ∈ d.mmapBuffers.entries, info.offset = o ∧ gone info = true := by
    intro o
    simp only [List.mem_map, List.mem_filter]
    constructor
    · rintro ⟨info, ⟨hinfo, hg⟩, ho⟩
      exact ⟨info, hinfo, ho, hg⟩
    · rintro ⟨info, hinfo, ho, hg⟩
      exact ⟨info, ⟨hinfo, hg⟩, ho⟩
  simp only [MmapMappingManager.Occupied, deactivate,
    MmapMappingManager.mem_unregisterAll hs, hgone]
  constructor
  · rintro ⟨c, ⟨hc, hno⟩ | ⟨b, hb, -, hmap, rfl⟩, rfl⟩
    · exact ⟨c, hc, rfl, fun h => hno h.2⟩
    · exact ⟨b, hb, rfl, fun h => by simp [h.1] at hmap⟩
  · rintro ⟨b, hb, rfl, hkeep⟩
    by_cases hg : ∃ info ∈ d.mmapBuffers.entries, info.offset = b.offset ∧ gone info = true
    · have hmap : b.mapping ≠ none := fun h => hkeep ⟨h, hg⟩
      exact ⟨{ b with registered := false },
        .inr ⟨b, hb, hg, Option.isSome_iff_ne_none.mpr hmap, rfl⟩, rfl⟩
    · exact ⟨b, .inl ⟨hb, hg⟩, rfl⟩

theorem deactivate_sorted {d : ProxyDevice} (hs : d.mmap.manager.Sorted)
    (gone : MmapPlaneInfo → Bool) : (d.deactivate gone).mmap.manager.Sorted :=
  MmapMappingManager.unregisterAll_sorted hs _

/-- One registration: it panics, or the plane is stored. -/
theorem registerPlane_cases {d : ProxyDevice} (hs : d.mmap.manager.Sorted) (sessionId : UInt32)
    (queue : QueueType) (r : Reported) :
    (d.registerPlane sessionId queue r = none ∧ ¬ (r.host.length ≠ 0 ∧
      r.host.memOffset &&& pageMask = r.host.memOffset ∧
      ¬ d.mmap.manager.Occupied r.host.memOffset)) ∨
    (∃ d', d.registerPlane sessionId queue r = some d' ∧ r.host.length ≠ 0 ∧
      r.host.memOffset &&& pageMask = r.host.memOffset ∧
      ¬ d.mmap.manager.Occupied r.host.memOffset ∧
      d' = { mmapBuffers := d.mmapBuffers.insert
               ⟨r.host.memOffset, sessionId, queue, r.index.toUInt8, .ofNat r.plane, 0, true⟩
             mmap := { d.mmap with manager :=
               (d.mmap.manager.registerBufferByOffset r.host.memOffset r.host.length).2 } }) := by
  have hiff := MmapMappingManager.registerBufferByOffset_ok_iff hs r.host.memOffset r.host.length
  unfold registerPlane MmapMappingManager.registerBuffer
  cases h : (d.mmap.manager.registerBufferByOffset r.host.memOffset r.host.length).1 with
  | error e =>
      left
      refine ⟨by simp [h, Except.map], fun hok => ?_⟩
      rw [hiff.mpr hok] at h
      cases h
  | ok u =>
      right
      exact ⟨_, by simp only [Option.map_some, h, Except.map], (hiff.mp h).1, (hiff.mp h).2.1,
        (hiff.mp h).2.2, rfl⟩

/-- The registration loop succeeds exactly where every offset is free. -/
theorem registerPlanes_isSome_iff {d : ProxyDevice} (hs : d.mmap.manager.Sorted)
    (sessionId : UInt32) (queue : QueueType) {rs : List Reported} (hok : ReportedOk rs) :
    (registerPlanes sessionId queue d rs).isSome = true ↔
      ∀ r ∈ rs, ¬ d.mmap.manager.Occupied r.host.memOffset := by
  induction rs generalizing d with
  | nil => simp [registerPlanes]
  | cons r rest ih =>
      have hdist := List.nodup_cons.mp hok.distinct
      have hrest : ReportedOk rest :=
        ⟨hdist.2, fun x hx => hok.length x (List.mem_cons_of_mem _ hx),
          fun x hx => hok.aligned x (List.mem_cons_of_mem _ hx)⟩
      simp only [registerPlanes, List.forall_mem_cons]
      rcases registerPlane_cases hs sessionId queue r with ⟨h, hno⟩ | ⟨d', h, hlen, hal, hfree, rfl⟩
      · have hocc : d.mmap.manager.Occupied r.host.memOffset := by
          by_contra hfree
          exact hno ⟨hok.length r List.mem_cons_self, hok.aligned r List.mem_cons_self, hfree⟩
        simp [h, hocc]
      · have hreg := (MmapMappingManager.registerBufferByOffset_ok_iff hs r.host.memOffset
          r.host.length).mpr ⟨hlen, hal, hfree⟩
        simp only [h, Option.bind_some]
        rw [ih (MmapMappingManager.registerBufferByOffset_sorted hs _ _) hrest]
        refine ⟨fun hall => ⟨hfree, fun x hx hocc => hall x hx ?_⟩, fun hall x hx hocc => ?_⟩
        · obtain ⟨b, hb, ho⟩ := hocc
          exact ⟨b, (MmapMappingManager.mem_registerBufferByOffset hs hreg b).mpr (.inr hb), ho⟩
        · obtain ⟨b, hb, ho⟩ := hocc
          rcases (MmapMappingManager.mem_registerBufferByOffset hs hreg b).mp hb with rfl | hb
          · exact hdist.1 (List.mem_map.mpr ⟨x, hx, ho.symm⟩)
          · exact hall.2 x hx ⟨b, hb, ho⟩

/-- What the registration loop stores. -/
theorem mem_registerPlanes {d d' : ProxyDevice} (hs : d.mmap.manager.Sorted)
    (sessionId : UInt32) (queue : QueueType) {rs : List Reported}
    (h : registerPlanes sessionId queue d rs = some d') :
    d'.mmap.manager.Sorted ∧ ∀ c, c ∈ d'.mmap.manager.buffers ↔
      (∃ r ∈ rs, c = .new r.host.memOffset r.host.length) ∨ c ∈ d.mmap.manager.buffers := by
  induction rs generalizing d with
  | nil =>
      cases h
      exact ⟨hs, by simp⟩
  | cons r rest ih =>
      simp only [registerPlanes] at h
      rcases registerPlane_cases hs sessionId queue r with ⟨hn, -⟩ | ⟨d₁, h₁, hlen, hal, hfree, rfl⟩
      · simp [hn] at h
      · have hreg := (MmapMappingManager.registerBufferByOffset_ok_iff hs r.host.memOffset
          r.host.length).mpr ⟨hlen, hal, hfree⟩
        rw [h₁, Option.bind_some] at h
        obtain ⟨hs', hmem⟩ := ih (MmapMappingManager.registerBufferByOffset_sorted hs _ _) h
        refine ⟨hs', fun c => ?_⟩
        rw [hmem c, MmapMappingManager.mem_registerBufferByOffset hs hreg]
        simp only [List.exists_mem_cons_iff]
        exact or_left_comm.trans or_assoc.symm

end ProxyDevice

/-! ### Commands -/

theorem doMmap_sorted {d : ProxyDevice} (hs : d.mmap.manager.Sorted)
    (exported : QueueType → Nat → Nat → Except Int Nat) (flags offset : UInt32)
    (answer : Except Int UInt64) :
    (d.doMmap exported flags offset answer).2.mmap.manager.Sorted := by
  unfold ProxyDevice.doMmap
  split
  · exact hs
  · split
    · exact hs
    · dsimp only
      split <;> exact MmapMappingManager.createMapping_sorted hs _ _ _ _

/-- A command reports no plane and does not panic, or it deactivates what it
forgets and registers what is reported. -/
theorem step_update (s : Proxy) (a : ProxyCmd) :
    (s.reported a = [] ∧ ∃ s', s.step a = some s' ∧
      (s.device.mmap.manager.Sorted → s'.device.mmap.manager.Sorted)) ∨
    ∃ sessionId queue, ∃ f : ProxyDevice → Proxy, (∀ d, (f d).device = d) ∧
      s.step a = (ProxyDevice.registerPlanes sessionId queue
        (s.device.deactivate a.forgets) (s.reported a)).map f := by
  cases a with
  | reqbufs sessionId queue count bufs refused =>
      cases hs : s.sessions sessionId with
      | none => exact .inl ⟨by simp [Proxy.reported, hs], s, by simp [Proxy.step, hs], id⟩
      | some session =>
          right
          simp only [Proxy.step, Proxy.reported, hs]
          refine ⟨sessionId, queue, _, ?_, rfl⟩
          exact fun _ => rfl
  | createBufs sessionId queue count reply bufs refused =>
      cases hs : s.sessions sessionId with
      | none => exact .inl ⟨by simp [Proxy.reported, hs], s, by simp [Proxy.step, hs], id⟩
      | some session =>
          by_cases hcount : count = 0
          · exact .inl ⟨by simp [Proxy.reported, hs, hcount], s,
              by simp [Proxy.step, Proxy.createBufs, hs, hcount], id⟩
          · right
            simp only [Proxy.step, Proxy.reported, Proxy.createBufs, hs, hcount, if_false]
            refine ⟨sessionId, queue, _, ?_, rfl⟩
            exact fun _ => rfl
  | openSession sessionId =>
      refine .inl ⟨rfl, ?_⟩
      simp only [Proxy.step]
      split <;> exact ⟨_, rfl, id⟩
  | closeSession sessionId =>
      refine .inl ⟨rfl, ?_⟩
      simp only [Proxy.step]
      split
      · exact ⟨_, rfl, id⟩
      · exact ⟨_, rfl, fun hs => ProxyDevice.deactivate_sorted hs _⟩
  | reqbufsFails sessionId queue freed =>
      refine .inl ⟨rfl, ?_⟩
      simp only [Proxy.step]
      split
      · exact ⟨_, rfl, id⟩
      · refine ⟨_, rfl, fun hs => ?_⟩
        split <;> exact hs
  | mmap sessionId flags offset refusal answer =>
      refine .inl ⟨rfl, ?_⟩
      simp only [Proxy.step]
      split
      · exact ⟨_, rfl, id⟩
      · exact ⟨_, rfl, fun hs => doMmap_sorted hs _ _ _ _⟩
  | munmap guestAddr =>
      exact .inl ⟨rfl, _, rfl, fun hs => MmapMappingManager.removeMapping_sorted hs guestAddr⟩

/-- On a sorted manager the condition decides whether a command registers
every plane it is told about. -/
theorem registers_iff {s : Proxy} {a : ProxyCmd} (hs : s.device.mmap.manager.Sorted)
    (hhost : HostAnswersOk s a) : Registers s a ↔ OffsetsFree s a := by
  have hok := reported_ok hhost
  rcases step_update s a with ⟨hnil, s', hs', -⟩ | ⟨sessionId, queue, f, hf, hstep⟩
  · simp [Registers, OffsetsFree, hnil, hs']
  · have hs₁ := ProxyDevice.deactivate_sorted hs a.forgets
    have hiff := ProxyDevice.registerPlanes_isSome_iff hs₁ sessionId queue hok
    have hfree : OffsetsFree s a ↔ ∀ r ∈ s.reported a,
        ¬ (s.device.deactivate a.forgets).mmap.manager.Occupied r.host.memOffset := by
      constructor
      · intro h r hr hocc
        obtain ⟨b, hb, ho, hkeep⟩ := (ProxyDevice.deactivate_occupied hs _ _).mp hocc
        exact hkeep (h r hr b hb ho)
      · intro h r hr b hb ho
        by_contra hkeep
        exact h r hr ((ProxyDevice.deactivate_occupied hs _ _).mpr ⟨b, hb, ho, hkeep⟩)
    rw [hfree, ← hiff]
    constructor
    · rintro ⟨s', hs', -⟩
      rw [hstep] at hs'
      obtain ⟨d', hd', -⟩ := Option.map_eq_some_iff.mp hs'
      rw [hd']
      rfl
    · intro hsome
      obtain ⟨d', hd'⟩ := Option.isSome_iff_exists.mp hsome
      refine ⟨f d', by rw [hstep, hd']; rfl, fun r hr => ?_⟩
      refine ⟨.new r.host.memOffset r.host.length, ?_, rfl, rfl⟩
      rw [hf d']
      exact ((ProxyDevice.mem_registerPlanes hs₁ sessionId queue hd').2 _).mpr (.inl ⟨r, hr, rfl⟩)

theorem step_sorted {s s' : Proxy} {a : ProxyCmd} (hs : s.device.mmap.manager.Sorted)
    (h : s.step a = some s') : s'.device.mmap.manager.Sorted := by
  rcases step_update s a with ⟨-, s₁, hs₁, hsorted⟩ | ⟨sessionId, queue, f, hf, hstep⟩
  · rw [hs₁] at h
    cases h
    exact hsorted hs
  · rw [hstep] at h
    obtain ⟨d', hd', rfl⟩ := Option.map_eq_some_iff.mp h
    rw [hf d']
    exact (ProxyDevice.mem_registerPlanes (ProxyDevice.deactivate_sorted hs _) sessionId queue
      hd').1

/-- For every run of commands under the assumption on the host: no command
panics and every plane that QUERYBUF reports is registered, if and only if at
every command each reported offset is free, or held by an unmapped buffer that
this command deallocates. -/
theorem update_mmap_offsets_registers (acts : List ProxyCmd)
    (hhost : Trace.Conforms Proxy.step HostAnswersOk .init acts) :
    Trace.Conforms Proxy.step Registers .init acts ↔
      Trace.Conforms Proxy.step OffsetsFree .init acts :=
  Trace.conforms_congr (P := fun s => s.device.mmap.manager.Sorted)
    (fun _ _ _ hs _ h => step_sorted hs h) (fun _ _ hs hh => registers_iff hs hh)
    List.Pairwise.nil hhost

/-- A host buffer with one MMAP plane of one page. -/
def onePlane (index memOffset : UInt32) (mem : Nat) : HostBuffer :=
  ⟨index, true, [⟨memOffset, 4096, mem⟩], Nat.le_add_left 1 7⟩

/-- Two sessions allocate a buffer each. -/
def twoSessionsRun (second : UInt32) : List ProxyCmd :=
  [.openSession 0, .openSession 1,
    .reqbufs 0 .videoCapture 1 [onePlane 0 0 0] fun _ => false,
    .reqbufs 1 .videoCapture 1 [onePlane 0 second 1] fun _ => false]

theorem update_mmap_offsets_registers_distinct :
    Trace.Conforms Proxy.step HostAnswersOk .init (twoSessionsRun 0x1000) ∧
      Trace.Conforms Proxy.step Registers .init (twoSessionsRun 0x1000) := by
  have hhost : Trace.Conforms Proxy.step HostAnswersOk .init (twoSessionsRun 0x1000) := by decide
  exact ⟨hhost, (update_mmap_offsets_registers _ hhost).mpr (by decide)⟩

/-- The second session is told the same offset as the first: its REQBUFS
panics. -/
theorem update_mmap_offsets_registers_fails_sameOffset :
    ¬ ∀ acts, Trace.Conforms Proxy.step HostAnswersOk .init acts →
      Trace.Conforms Proxy.step Registers .init acts := by
  intro h
  have hreg := h (twoSessionsRun 0) (by decide)
  have hsome := Trace.run_isSome_of_conforms
    (fun s a (hr : Registers s a) => by
      obtain ⟨s', hs', -⟩ := hr
      rw [hs']
      rfl) hreg
  exact absurd hsome (by decide)

end VirtioMedia.Device
