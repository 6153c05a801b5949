import VirtioMedia.Device.ProxyRegistration

/-!
# Whose memory an MMAP command maps

`do_mmap` looks up the record of an offset without regard to the session that
made it, and exports the buffer with the recorded queue, index and plane from
the caller's own device. The record keeps the buffer index in eight bits. This
module says under which condition the mapped memory is that of the plane with
this offset, and gives the two ways in which it is not.
-/

namespace VirtioMedia.Device

open V4l2

/-! ### What is behind a mapping -/

/-- The descriptor that the mapping at `a` was established with last. -/
def backing (log : List MapEvent) (a : UInt64) : Option Nat :=
  log.findSome? fun e =>
    match e with
    | .call (.add fd _ _ _ b) => if b = a then some fd else none
    | _ => none

theorem backing_add (log : List MapEvent) (a b : UInt64) (fd : Nat) (length offset : UInt64)
    (rw : Bool) :
    backing (.call (.add fd length offset rw b) :: log) a =
      if b = a then some fd else backing log a := by
  by_cases h : b = a <;> simp [backing, h]

/-- A registered buffer at this offset is mapped, and `x` is behind it. -/
def BackedBy (t : Tracked) (offset : UInt32) (x : Option Nat) : Prop :=
  ∃ b ∈ t.manager.buffers, b.offset = offset ∧ b.registered = true ∧
    ∃ p, b.mapping = some p ∧ backing t.log p.guestAddr = x

theorem BackedBy.of_unregisterAll {m : MmapMappingManager} {log : List MapEvent}
    (hs : m.Sorted) {offsets : List UInt32} {offset : UInt32} {x : Option Nat}
    (h : BackedBy ⟨m.unregisterAll offsets, log⟩ offset x) : BackedBy ⟨m, log⟩ offset x := by
  obtain ⟨c, hc, ho, hreg, p, hp, hx⟩ := h
  rcases (MmapMappingManager.mem_unregisterAll hs offsets c).mp hc with ⟨hc, -⟩ | ⟨b, -, -, -, rfl⟩
  · exact ⟨c, hc, ho, hreg, p, hp, hx⟩
  · cases hreg

/-- The registration loop maps nothing. -/
theorem BackedBy.of_registerPlanes {d d' : ProxyDevice} (hs : d.mmap.manager.Sorted)
    {sessionId : UInt32} {queue : QueueType} {rs : List Reported}
    (hr : ProxyDevice.registerPlanes sessionId queue d rs = some d')
    (hlog : d'.mmap.log = d.mmap.log) {offset : UInt32} {x : Option Nat}
    (h : BackedBy d'.mmap offset x) : BackedBy d.mmap offset x := by
  obtain ⟨c, hc, ho, hreg, p, hp, hx⟩ := h
  rcases ((ProxyDevice.mem_registerPlanes hs sessionId queue hr).2 c).mp hc with
    ⟨r, -, rfl⟩ | hc
  · cases hp
  · exact ⟨c, hc, ho, hreg, p, hp, hlog ▸ hx⟩

theorem BackedBy.of_remove {t : Tracked} {addr : UInt64} {offset : UInt32} {x : Option Nat}
    (h : BackedBy (t.remove addr).2 offset x) : BackedBy t offset x := by
  obtain ⟨c, hc, ho, hreg, p, hp, hx⟩ := h
  unfold Tracked.remove at hc hx
  rcases MmapMappingManager.removeMapping_cases t.manager addr with
    ⟨h, -⟩ | ⟨l₁, b, l₂, q, hm, hb, -, ⟨-, h⟩ | ⟨-, h⟩⟩ <;> rw [h] at hc hx
  · exact ⟨c, hc, ho, hreg, p, hp, hx⟩
  · have hmem : c ∈ l₁ ++ l₂ := by
      dsimp only at hc
      split at hc
      · simp only [List.append_assoc, List.singleton_append] at hc
        rcases mem_split.mp hc with rfl | hc
        · cases hp
        · exact hc
      · simpa using hc
    refine ⟨c, ?_, ho, hreg, p, hp, hx⟩
    rw [hm]
    exact mem_split_of_mem hmem
  · rcases mem_split.mp hc with rfl | hc
    · cases hp
      exact ⟨b, hm ▸ mem_split.mpr (.inl rfl), ho, hreg, q, hb, hx⟩
    · refine ⟨c, ?_, ho, hreg, p, hp, hx⟩
      rw [hm]
      exact mem_split_of_mem hc

/-- After `create_mapping`, what is behind an offset was so before, or it is
the descriptor passed for this offset. -/
theorem BackedBy.of_create {t : Tracked} (ht : TrackedInv t) {offset : UInt32} {fd : Nat}
    {rw : Bool} {answer : Except Int UInt64}
    (hfresh : AnswersFresh t (.create offset fd rw answer)) {o : UInt32} {x : Option Nat}
    (h : BackedBy (t.create offset fd rw answer).2 o x) :
    BackedBy t o x ∨ (o = offset ∧ x = some fd) := by
  obtain ⟨c, hc, ho, hreg, p, hp, hx⟩ := h
  unfold Tracked.create at hc hx
  simp only [AnswersFresh] at hfresh
  rcases MmapMappingManager.createMapping_cases t.manager offset fd rw answer with
    ⟨e, h⟩ | ⟨l₁, b, l₂, hm, hb, hbreg, ⟨addr, hnone, -, h⟩ | ⟨q, hq, -, h⟩⟩ <;>
    rw [h] at hc hx hfresh
  · exact .inl ⟨c, hc, ho, hreg, p, hp, hx⟩
  · have hx' : (if addr = p.guestAddr then some fd else backing t.log p.guestAddr) = x :=
      (backing_add t.log p.guestAddr addr fd b.size.toUInt64 b.offset.toUInt64 rw).symm.trans hx
    rcases mem_split.mp hc with rfl | hc
    · right
      cases hp
      rw [if_pos rfl] at hx'
      exact ⟨ho.symm.trans hb, hx'.symm⟩
    · -- another buffer is mapped elsewhere, because the new address is fresh
      have hmem : c ∈ t.manager.buffers := by
        rw [hm]
        exact mem_split_of_mem hc
      have hne : addr ≠ p.guestAddr := by
        intro heq
        have hlive := (ht.liveIff p.guestAddr).mpr (mem_addrs hmem hp)
        have hdead : live t.log addr = false := hfresh _ List.mem_cons_self
        rw [← heq, hdead] at hlive
        cases hlive
      rw [if_neg hne] at hx'
      exact .inl ⟨c, hmem, ho, hreg, p, hp, hx'⟩
  · left
    rcases mem_split.mp hc with rfl | hc
    · cases hp
      exact ⟨b, hm ▸ mem_split.mpr (.inl rfl), ho, hreg, q, hq, hx⟩
    · refine ⟨c, ?_, ho, hreg, p, hp, hx⟩
      rw [hm]
      exact mem_split_of_mem hc

/-- The address that `create_mapping` returns is that of the buffer at the
offset, and this buffer is registered. -/
theorem create_backedBy {t : Tracked} {offset : UInt32} {fd : Nat} {rw : Bool}
    {answer : Except Int UInt64} {addr size : UInt64}
    (h : (t.create offset fd rw answer).1 = .ok (addr, size)) :
    BackedBy (t.create offset fd rw answer).2 offset
      (backing (t.create offset fd rw answer).2.log addr) := by
  unfold Tracked.create at h ⊢
  rcases MmapMappingManager.createMapping_cases t.manager offset fd rw answer with
    ⟨e, hc⟩ | ⟨l₁, b, l₂, hm, hb, hbreg, ⟨a, -, -, hc⟩ | ⟨q, -, -, hc⟩⟩ <;> rw [hc] at h ⊢
  · cases h
  · cases h
    exact ⟨_, mem_split.mpr (.inl rfl), hb, hbreg, _, rfl, rfl⟩
  · cases h
    exact ⟨_, mem_split.mpr (.inl rfl), hb, hbreg, _, rfl, rfl⟩

/-! ### The property and its condition -/

/-- What `do_mmap` asks EXPBUF for: a queue, a buffer index and a plane. -/
def ProxyDevice.exportTarget (d : ProxyDevice) (offset : UInt32) :
    Option (QueueType × Nat × Nat) :=
  (d.mmapBuffers.get? offset.toNat).map fun info =>
    (info.queue, info.index.toNat, info.plane.toNat)

/-- A successful MMAP command: the offset is the one the host reported for a
plane of the calling session, this plane is the one that is exported, and its
memory is behind the returned address. -/
def MmapIsolated (s : Proxy) : ProxyCmd → Prop
  | .mmap sessionId flags offset refusal answer =>
    ∀ session, s.sessions sessionId = some session → ∀ addr size d,
      s.device.doMmap (session.expbuf refusal) flags offset answer = (.ok (addr, size), d) →
      ∃ queue index plane host, session.plane queue index plane = some host ∧
        host.memOffset = offset ∧ s.device.exportTarget offset = some (queue, index, plane) ∧
        backing d.mmap.log addr = some host.mem
  | _ => True

/-- What is assumed of the mapper: an address it returns is not mapped. -/
def MapperAnswersOk (s : Proxy) : ProxyCmd → Prop
  | .mmap sessionId flags offset refusal answer =>
    ∀ session, s.sessions sessionId = some session → ∀ info,
      s.device.mmapBuffers.get? offset.toNat = some info → ∀ fd,
      session.expbuf refusal info.queue info.index.toNat info.plane.toNat = .ok fd →
      AnswersFresh s.device.mmap (.create offset fd (flags &&& mmapFlagRw != 0) answer)
  | _ => True

instance instDecidableOfOk {ε α : Type} {e : Except ε α} {p : α → Prop} [∀ a, Decidable (p a)] :
    Decidable (∀ a, e = .ok a → p a) :=
  match e with
  | .error _ => .isTrue fun _ h => nomatch h
  | .ok a => decidable_of_iff (p a) ⟨fun h _ ha => Except.ok.inj ha ▸ h, fun h => h a rfl⟩

instance (s : Proxy) : (a : ProxyCmd) → Decidable (MapperAnswersOk s a)
  | .mmap sessionId flags offset refusal answer => inferInstanceAs (Decidable
      (∀ session, s.sessions sessionId = some session → ∀ info,
        s.device.mmapBuffers.get? offset.toNat = some info → ∀ fd,
        session.expbuf refusal info.queue info.index.toNat info.plane.toNat = .ok fd →
        AnswersFresh s.device.mmap (.create offset fd (flags &&& mmapFlagRw != 0) answer)))
  | .openSession _ | .closeSession _ | .reqbufs _ _ _ _ _ | .reqbufsFails _ _ _
  | .createBufs _ _ _ _ _ _ | .munmap _ => inferInstanceAs (Decidable True)

/-- An MMAP command names an offset recorded for its own session, unless the
caller has no buffer where the record points; and the eight bits that are
recorded of the index in a QUERYBUF reply are the index that was asked for. -/
def OwnOffsets (s : Proxy) : ProxyCmd → Prop
  | .mmap sessionId _ offset _ _ =>
    ∀ session, s.sessions sessionId = some session → ∀ info,
      s.device.mmapBuffers.get? offset.toNat = some info →
      info.sessionId = sessionId ∨
        session.plane info.queue info.index.toNat info.plane.toNat = none
  | a => ∀ r ∈ s.reported a, r.index.toUInt8.toNat = r.asked

instance (s : Proxy) : (a : ProxyCmd) → Decidable (OwnOffsets s a)
  | .mmap sessionId _ offset _ _ => inferInstanceAs (Decidable
      (∀ session, s.sessions sessionId = some session → ∀ info,
        s.device.mmapBuffers.get? offset.toNat = some info →
        info.sessionId = sessionId ∨
          session.plane info.queue info.index.toNat info.plane.toNat = none))
  | .openSession _ | .closeSession _ | .reqbufs _ _ _ _ _ | .reqbufsFails _ _ _
  | .createBufs _ _ _ _ _ _ | .munmap _ =>
    inferInstanceAs (Decidable (∀ r ∈ s.reported _, r.index.toUInt8.toNat = r.asked))

/-! ### The invariant -/

/-- A record is right about the session it was made for. -/
structure RecordOk (d : ProxyDevice) (info : MmapPlaneInfo) (host : HostPlane) : Prop where
  offset : host.memOffset = info.offset
  backed : ∀ x, BackedBy d.mmap info.offset x → x = some host.mem

structure ProxyInv (s : Proxy) : Prop where
  tracked : TrackedInv s.device.mmap
  recorded : ∀ info ∈ s.device.mmapBuffers.entries, ∀ session,
    s.sessions info.sessionId = some session → ∀ host,
      session.plane info.queue info.index.toNat info.plane.toNat = some host →
      RecordOk s.device info host

theorem proxyInv_init : ProxyInv .init where
  tracked := trackedInv_init
  recorded := fun info h => absurd h (by simp [Proxy.init, ProxyDevice.new, SortedMap.empty])

theorem TrackedInv.unregisterAll {m : MmapMappingManager} {log : List MapEvent}
    (h : TrackedInv ⟨m, log⟩) (offsets : List UInt32) :
    TrackedInv ⟨m.unregisterAll offsets, log⟩ := by
  induction offsets generalizing m with
  | nil => exact h
  | cons o rest ih => exact ih (h.unregister o)

theorem mem_deactivate {d : ProxyDevice} {gone : MmapPlaneInfo → Bool} {info : MmapPlaneInfo}
    (h : info ∈ (d.deactivate gone).mmapBuffers.entries) :
    info ∈ d.mmapBuffers.entries ∧ gone info = false := by
  simp only [ProxyDevice.deactivate, SortedMap.mem_retain, SortedMap.mapEntries,
    List.mem_map] at h
  obtain ⟨⟨p, hp, rfl⟩, hact⟩ := h
  simp only [Bool.and_eq_true, Bool.not_eq_true'] at hact
  have hsame : ({ p with active := p.active && !gone p } : MmapPlaneInfo) = p := by
    rw [hact.2, Bool.not_false, Bool.and_true]
  rw [hsame]
  exact ⟨hp, hact.2⟩

/-- What the registration loop records, and that it touches no mapping. -/
theorem registerPlanes_frame {d d' : ProxyDevice} (hd : TrackedInv d.mmap) {sessionId : UInt32}
    {queue : QueueType} {rs : List Reported}
    (h : ProxyDevice.registerPlanes sessionId queue d rs = some d') :
    TrackedInv d'.mmap ∧ d'.mmap.log = d.mmap.log ∧
      (∀ r ∈ rs, ¬ d.mmap.manager.Occupied r.host.memOffset) ∧
      ∀ info ∈ d'.mmapBuffers.entries,
        (∃ r ∈ rs, info = ⟨r.host.memOffset, sessionId, queue, r.index.toUInt8, .ofNat r.plane,
          0, true⟩) ∨ info ∈ d.mmapBuffers.entries := by
  induction rs generalizing d with
  | nil =>
      cases h
      exact ⟨hd, rfl, by simp, fun info hinfo => .inr hinfo⟩
  | cons r rest ih =>
      simp only [ProxyDevice.registerPlanes] at h
      rcases ProxyDevice.registerPlane_cases hd.sorted sessionId queue r with
        ⟨hn, -⟩ | ⟨d₁, h₁, hlen, hal, hfree, rfl⟩
      · simp [hn] at h
      · have hreg := (MmapMappingManager.registerBufferByOffset_ok_iff hd.sorted
          r.host.memOffset r.host.length).mpr ⟨hlen, hal, hfree⟩
        rw [h₁, Option.bind_some] at h
        obtain ⟨ht, hlog, hocc, hinfo⟩ := ih (hd.registerAt _ _) h
        refine ⟨ht, hlog, ?_, fun info hi => ?_⟩
        · rintro x hx ⟨b, hb, ho⟩
          rcases List.mem_cons.mp hx with rfl | hx
          · exact hfree ⟨b, hb, ho⟩
          · exact hocc x hx ⟨b,
              (MmapMappingManager.mem_registerBufferByOffset hd.sorted hreg b).mpr (.inr hb), ho⟩
        · rcases hinfo info hi with ⟨x, hx, rfl⟩ | hold
          · exact .inl ⟨x, List.mem_cons_of_mem _ hx, rfl⟩
          · rcases SortedMap.mem_insert.mp hold with rfl | ⟨hold, -⟩
            · exact .inl ⟨r, List.mem_cons_self, rfl⟩
            · exact .inr hold

/-- A step keeps the invariant if it maps nothing and every record of a plane
is an old record of this plane, or right for another reason. -/
theorem ProxyInv.keep {s s' : Proxy} (hs : ProxyInv s) (ht : TrackedInv s'.device.mmap)
    (hback : ∀ o x, BackedBy s'.device.mmap o x → BackedBy s.device.mmap o x)
    (hold : ∀ info ∈ s'.device.mmapBuffers.entries, ∀ session,
      s'.sessions info.sessionId = some session → ∀ host,
      session.plane info.queue info.index.toNat info.plane.toNat = some host →
      (info ∈ s.device.mmapBuffers.entries ∧ ∃ session₀,
        s.sessions info.sessionId = some session₀ ∧
        session₀.plane info.queue info.index.toNat info.plane.toNat = some host) ∨
      RecordOk s'.device info host) : ProxyInv s' where
  tracked := ht
  recorded := by
    intro info hinfo session hsession host hhost
    rcases hold info hinfo session hsession host hhost with ⟨hinfo₀, session₀, hs₀, hh₀⟩ | hok
    · have hok := hs.recorded info hinfo₀ session₀ hs₀ host hh₀
      exact ⟨hok.offset, fun x hx => hok.backed x (hback _ x hx)⟩
    · exact hok

theorem mem_reportedPlanes {start count : Nat} {query : Nat → Option HostBuffer} {r : Reported}
    (h : r ∈ ProxyDevice.reportedPlanes start count query) :
    ∃ b, query r.asked = some b ∧ b.index = r.index ∧
      b.mmapPlanes[r.plane]? = some r.host := by
  simp only [ProxyDevice.reportedPlanes, List.mem_flatMap] at h
  obtain ⟨i, -, hr⟩ := h
  split at hr
  · cases hr
  · rename_i b hb
    obtain ⟨j, hj, rfl⟩ := List.mem_mapIdx.mp hr
    exact ⟨b, hb, rfl, List.getElem?_eq_getElem hj⟩

theorem plane_lt {b : HostBuffer} {j : Nat} {p : HostPlane} (h : b.mmapPlanes[j]? = some p) :
    j < 256 := by
  have hj : j < b.mmapPlanes.length := (List.getElem?_eq_some_iff.mp h).1
  have hle : b.mmapPlanes.length ≤ videoMaxPlanes := by
    unfold HostBuffer.mmapPlanes
    split
    · exact b.bound
    · exact Nat.zero_le _
  exact lt_of_lt_of_le hj (hle.trans (by decide))

/-- `update_mmap_offsets` for a session whose buffers below `start` did not
change, where every record has the index that was asked for. -/
theorem ProxyInv.update {s : Proxy} (hs : ProxyInv s) {sessionId : UInt32}
    {session session' : V4l2Session} {queue : QueueType} {start count : Nat}
    {refused : Nat → Bool} {d' : ProxyDevice} (hsession : s.sessions sessionId = some session)
    (h : s.device.updateMmapOffsets sessionId queue start count (session'.query queue refused) =
      some d')
    (hidx : ∀ r ∈ ProxyDevice.reportedPlanes start count (session'.query queue refused),
      r.index.toUInt8.toNat = r.asked)
    (hother : ∀ q, q ≠ queue → session'.device q = session.device q)
    (hbelow : ∀ i, count ≠ 0 → i < start →
      session'.buffer queue i = session.buffer queue i)
    {session'' : V4l2Session} (hdev : session''.device = session'.device) :
    ProxyInv ({ s with device := d' }.setSession sessionId (some session'')) := by
  have hd := hs.tracked.unregisterAll
    ((s.device.mmapBuffers.entries.filter
      (ProxyDevice.deallocated sessionId queue start count)).map (·.offset))
  obtain ⟨ht, hlog, hocc, hentries⟩ := registerPlanes_frame
    (d := s.device.deactivate (ProxyDevice.deallocated sessionId queue start count)) hd h
  have hsorted : (s.device.deactivate
      (ProxyDevice.deallocated sessionId queue start count)).mmap.manager.Sorted := hd.sorted
  have hback : ∀ o x, BackedBy d'.mmap o x → BackedBy (s.device.deactivate
      (ProxyDevice.deallocated sessionId queue start count)).mmap o x :=
    fun o x hx => hx.of_registerPlanes hsorted h hlog
  refine hs.keep ht (fun o x hx => (hback o x hx).of_unregisterAll hs.tracked.sorted) ?_
  intro info hinfo session₁ hs₁ host hhost
  rcases hentries info hinfo with ⟨r, hr, rfl⟩ | hinfo
  · -- a new record
    right
    obtain ⟨b, hb, -, hplane⟩ := mem_reportedPlanes hr
    have hs₁' : session'' = session₁ := by
      simpa [Proxy.setSession] using hs₁
    have hi : r.index.toUInt8.toNat = r.asked := hidx r hr
    have hj : (UInt8.ofNat r.plane).toNat = r.plane := Nat.mod_eq_of_lt (plane_lt hplane)
    have hget : session''.buffer queue r.asked = some b := by
      rw [V4l2Session.buffer, hdev]
      exact V4l2Session.query_eq_some hb
    have hhost' : some r.host = some host := by
      rw [← hhost, ← hs₁', V4l2Session.plane, hi, hj, hget]
      exact hplane.symm
    cases hhost'
    refine ⟨rfl, fun x hx => absurd ?_ (hocc r hr)⟩
    obtain ⟨c, hc, ho, -⟩ := hback _ x hx
    exact ⟨c, hc, ho⟩
  · -- an old record that is kept
    obtain ⟨hinfo, hgone⟩ := mem_deactivate hinfo
    refine .inl ⟨hinfo, ?_⟩
    by_cases hid : info.sessionId = sessionId
    · have hs₁' : session'' = session₁ := by
        simpa [Proxy.setSession, hid] using hs₁
      refine ⟨session, hid ▸ hsession, ?_⟩
      have hbuffer : ∀ q i, session''.buffer q i = session'.buffer q i := fun q i => by
        rw [V4l2Session.buffer, V4l2Session.buffer, hdev]
      rw [← hhost, ← hs₁', V4l2Session.plane, V4l2Session.plane, hbuffer]
      by_cases hq : info.queue = queue
      · simp only [ProxyDevice.deallocated, hid, hq, beq_self_eq_true, Bool.true_and,
          Bool.or_eq_false_iff, beq_eq_false_iff_ne, decide_eq_false_iff_not, not_le] at hgone
        rw [hq, hbelow _ hgone.1 hgone.2]
      · rw [V4l2Session.buffer, V4l2Session.buffer, hother _ hq]
    · refine ⟨session₁, ?_, hhost⟩
      simpa [Proxy.setSession, hid] using hs₁

/-! ### One command -/

theorem V4l2Session.expbuf_eq_ok {session : V4l2Session} {refusal : Option Int}
    {queue : QueueType} {index plane fd : Nat}
    (h : session.expbuf refusal queue index plane = .ok fd) :
    ∃ host, session.plane queue index plane = some host ∧ host.mem = fd := by
  unfold V4l2Session.expbuf at h
  split at h
  · cases h
  · cases h
  · rename_i host hhost
    cases h
    exact ⟨host, hhost, rfl⟩

/-- `do_mmap` fails before it reaches the mapping manager, or it exports the
plane of the record and asks for a mapping. -/
theorem ProxyDevice.doMmap_cases (d : ProxyDevice)
    (exported : QueueType → Nat → Nat → Except Int Nat) (flags offset : UInt32)
    (answer : Except Int UInt64) :
    (∃ e, d.doMmap exported flags offset answer = (.error e, d)) ∨
    ∃ info fd, d.mmapBuffers.get? offset.toNat = some info ∧
      exported info.queue info.index.toNat info.plane.toNat = .ok fd ∧
      ((∃ e, d.doMmap exported flags offset answer = (.error e,
          { d with mmap := (d.mmap.create offset fd (flags &&& mmapFlagRw != 0) answer).2 })) ∨
        ∃ addr size, (d.mmap.create offset fd (flags &&& mmapFlagRw != 0) answer).1 =
            .ok (addr, size) ∧
          d.doMmap exported flags offset answer = (.ok (addr, size),
            { mmapBuffers := d.mmapBuffers.insert { info with mapAddress := addr }
              mmap := (d.mmap.create offset fd (flags &&& mmapFlagRw != 0) answer).2 })) := by
  unfold ProxyDevice.doMmap
  cases hinfo : d.mmapBuffers.get? offset.toNat with
  | none => exact .inl ⟨_, rfl⟩
  | some info =>
      dsimp only
      cases hfd : exported info.queue info.index.toNat info.plane.toNat with
      | error e => exact .inl ⟨_, rfl⟩
      | ok fd =>
          dsimp only
          refine .inr ⟨info, fd, rfl, hfd, ?_⟩
          cases hc : (d.mmap.create offset fd (flags &&& mmapFlagRw != 0) answer).1 with
          | error e => exact .inl ⟨_, rfl⟩
          | ok r => exact .inr ⟨r.1, r.2, rfl, rfl⟩

/-- What a command that reaches the mapping manager knows about its record. -/
theorem ProxyInv.exported {s : Proxy} (hs : ProxyInv s) {sessionId flags offset : UInt32}
    {refusal : Option Int} {answer : Except Int UInt64} {session : V4l2Session}
    (hown : OwnOffsets s (.mmap sessionId flags offset refusal answer))
    (hsession : s.sessions sessionId = some session) {info : MmapPlaneInfo} {fd : Nat}
    (hinfo : s.device.mmapBuffers.get? offset.toNat = some info)
    (hfd : session.expbuf refusal info.queue info.index.toNat info.plane.toNat = .ok fd) :
    info ∈ s.device.mmapBuffers.entries ∧ info.offset = offset ∧
      info.sessionId = sessionId ∧ ∃ host,
        session.plane info.queue info.index.toNat info.plane.toNat = some host ∧
        host.mem = fd ∧ RecordOk s.device info host := by
  obtain ⟨hmem, hkey⟩ := SortedMap.get?_eq_some_iff.mp hinfo
  obtain ⟨host, hhost, hmemory⟩ := V4l2Session.expbuf_eq_ok hfd
  have hid : info.sessionId = sessionId := by
    rcases hown session hsession info hinfo with hid | hnone
    · exact hid
    · rw [hhost] at hnone
      cases hnone
  exact ⟨hmem, UInt32.toNat_inj.mp hkey, hid, host, hhost, hmemory,
    hs.recorded info hmem session (hid ▸ hsession) host hhost⟩

/-- After `create_mapping` on behalf of the session of the record, the memory
behind a plane is still its own. -/
theorem RecordOk.create {s : Proxy} (hs : ProxyInv s) {offset : UInt32} {fd : Nat} {rw : Bool}
    {answer : Except Int UInt64}
    (hfresh : AnswersFresh s.device.mmap (.create offset fd rw answer))
    {info : MmapPlaneInfo} {host : HostPlane} (hok : RecordOk s.device info host)
    (hfd : info.offset = offset → host.mem = fd) {m : SortedMap MmapPlaneInfo.key} :
    RecordOk ⟨m, (s.device.mmap.create offset fd rw answer).2⟩ info host where
  offset := hok.offset
  backed := by
    intro x hx
    rcases hx.of_create hs.tracked hfresh with hx | ⟨ho, rfl⟩
    · exact hok.backed x hx
    · rw [hfd ho]

theorem ProxyInv.mmap {s : Proxy} (hs : ProxyInv s) {sessionId flags offset : UInt32}
    {refusal : Option Int} {answer : Except Int UInt64} {session : V4l2Session}
    (hfresh : MapperAnswersOk s (.mmap sessionId flags offset refusal answer))
    (hown : OwnOffsets s (.mmap sessionId flags offset refusal answer))
    (hsession : s.sessions sessionId = some session) :
    ProxyInv { s with
      device := (s.device.doMmap (session.expbuf refusal) flags offset answer).2 } := by
  rcases s.device.doMmap_cases (session.expbuf refusal) flags offset answer with
    ⟨e, h⟩ | ⟨info, fd, hinfo, hfd, hcase⟩
  · rw [h]
    exact hs
  · have hfresh := hfresh session hsession info hinfo fd hfd
    obtain ⟨hmem, ho, hid, host, hhost, hmemory, -⟩ := hs.exported hown hsession hinfo hfd
    -- every record is an old one, but for the address it remembers
    have hentries : ∀ i ∈ (s.device.doMmap (session.expbuf refusal) flags offset
        answer).2.mmapBuffers.entries, ∃ i₀ ∈ s.device.mmapBuffers.entries, ∃ addr,
        i = { i₀ with mapAddress := addr } := by
      intro i hi
      rcases hcase with ⟨e, h⟩ | ⟨addr, size, -, h⟩ <;> rw [h] at hi
      · exact ⟨i, hi, i.mapAddress, rfl⟩
      · rcases SortedMap.mem_insert.mp hi with rfl | ⟨hi, -⟩
        · exact ⟨info, hmem, addr, rfl⟩
        · exact ⟨i, hi, i.mapAddress, rfl⟩
    have hmmap : (s.device.doMmap (session.expbuf refusal) flags offset answer).2.mmap =
        (s.device.mmap.create offset fd (flags &&& mmapFlagRw != 0) answer).2 := by
      rcases hcase with ⟨e, h⟩ | ⟨addr, size, -, h⟩ <;> rw [h]
    refine ⟨hmmap ▸ hs.tracked.create hfresh, fun i hi session' hs' host' hh' => ?_⟩
    obtain ⟨i₀, hi₀, addr, rfl⟩ := hentries i hi
    have hok := RecordOk.create hs hfresh (hs.recorded i₀ hi₀ session' hs' host' hh')
      (m := .empty) ?_
    · exact ⟨hok.offset, by rw [hmmap]; exact hok.backed⟩
    · -- the record of the offset is that of the caller's plane
      intro ho₀
      have hsame : some i₀ = some info := by
        rw [← hinfo]
        exact (SortedMap.get?_eq_some_iff.mpr ⟨hi₀, congrArg UInt32.toNat ho₀⟩).symm
      cases hsame
      have hsessions : some session' = some session := by
        rw [← hs', ← hsession, ← hid]
      cases hsessions
      have hhosts : some host' = some host := by
        rw [← hh', ← hhost]
      cases hhosts
      exact hmemory

theorem ProxyInv.openSession {s : Proxy} (hs : ProxyInv s) (sessionId : UInt32) :
    ProxyInv (s.setSession sessionId (some .new)) := by
  refine hs.keep hs.tracked (fun o x hx => hx) ?_
  intro info hinfo session hsession host hhost
  left
  refine ⟨hinfo, session, ?_, hhost⟩
  by_cases hid : info.sessionId = sessionId
  · -- the new session has no buffer
    have hnew : V4l2Session.new = session := by
      simpa [Proxy.setSession, hid] using hsession
    rw [← hnew] at hhost
    cases hhost
  · simpa [Proxy.setSession, hid] using hsession

theorem ProxyInv.closeSession {s : Proxy} (hs : ProxyInv s) (sessionId : UInt32) :
    ProxyInv ({ s with device := s.device.deleteSession sessionId }.setSession sessionId none) := by
  refine hs.keep (hs.tracked.unregisterAll _)
    (fun o x hx => hx.of_unregisterAll hs.tracked.sorted) ?_
  intro info hinfo session hsession host hhost
  left
  refine ⟨(mem_deactivate hinfo).1, session, ?_, hhost⟩
  by_cases hid : info.sessionId = sessionId
  · simp [Proxy.setSession, hid] at hsession
  · simpa [Proxy.setSession, hid] using hsession

theorem ProxyInv.freed {s : Proxy} (hs : ProxyInv s) {sessionId : UInt32}
    {session : V4l2Session} (hsession : s.sessions sessionId = some session) (queue : QueueType) :
    ProxyInv (s.setSession sessionId (some (session.setBuffers queue []))) := by
  refine hs.keep hs.tracked (fun o x hx => hx) ?_
  intro info hinfo session' hsession' host hhost
  left
  by_cases hid : info.sessionId = sessionId
  · refine ⟨hinfo, session, hid ▸ hsession, ?_⟩
    have hset : session.setBuffers queue [] = session' := by
      simpa [Proxy.setSession, hid] using hsession'
    rw [← hset] at hhost
    simp only [V4l2Session.plane, V4l2Session.buffer, V4l2Session.setBuffers] at hhost ⊢
    split at hhost
    · cases hhost
    · exact hhost
  · exact ⟨hinfo, session', by simpa [Proxy.setSession, hid] using hsession', hhost⟩

@[simp] theorem V4l2Session.rememberQueue_device (session : V4l2Session) (queue : QueueType) :
    (session.rememberQueue queue).device = session.device := by
  unfold V4l2Session.rememberQueue
  split <;> rfl

@[simp] theorem V4l2Session.implicitStreamoff_device (session : V4l2Session) (queue : QueueType)
    (count : UInt32) : (session.implicitStreamoff queue count).device = session.device := by
  unfold V4l2Session.implicitStreamoff
  split
  · split <;> rfl
  · rfl

/-- Where the host adds no buffer the queue keeps its own. -/
theorem V4l2Session.addedBuffers_below {session : V4l2Session} {queue : QueueType}
    {index i : Nat} {bufs : List HostBuffer} (h : i < index) :
    (session.setBuffers queue (session.addedBuffers queue index bufs)).buffer queue i =
      session.buffer queue i := by
  have hget : (session.addedBuffers queue index bufs)[i]? = some (session.buffer queue i) := by
    rw [V4l2Session.addedBuffers, List.append_assoc, List.getElem?_append_left (by simpa using h)]
    simp [h]
  have hset : (session.setBuffers queue (session.addedBuffers queue index bufs)).device queue =
      session.addedBuffers queue index bufs := if_pos rfl
  rw [V4l2Session.buffer, hset, hget, Option.join_some]

theorem ProxyInv.step {s s' : Proxy} {a : ProxyCmd} (hs : ProxyInv s)
    (hok : MapperAnswersOk s a ∧ OwnOffsets s a) (h : s.step a = some s') : ProxyInv s' := by
  obtain ⟨hfresh, hown⟩ := hok
  cases Proxy.step_moves h with
  | same => exact hs
  | openSession _ => exact hs.openSession _
  | closeSession => exact hs.closeSession _
  | reqbufs hsession hd =>
      simp only [OwnOffsets, Proxy.reported, hsession] at hown
      exact hs.update hsession hd hown (fun q hq => if_neg hq)
        (fun i _ hi => absurd hi (Nat.not_lt_zero i)) (by simp)
  | reqbufsFails hsession => exact hs.freed hsession _
  | createBufs hsession hcount hd =>
      simp only [OwnOffsets, Proxy.reported, hsession, if_neg hcount] at hown
      refine hs.update hsession hd hown (fun q hq => if_neg hq) (fun i _ hi => ?_) (by simp)
      exact V4l2Session.addedBuffers_below hi
  | mmap hsession => exact hs.mmap hfresh hown hsession
  | @munmap guestAddr =>
      refine hs.keep (hs.tracked.remove guestAddr) (fun o x hx => hx.of_remove) ?_
      intro info hinfo session hsession host hhost
      exact .inl ⟨hinfo, session, hsession, hhost⟩

theorem ProxyInv.mmapIsolated {s : Proxy} {a : ProxyCmd} (hs : ProxyInv s)
    (hok : MapperAnswersOk s a ∧ OwnOffsets s a) : MmapIsolated s a := by
  obtain ⟨hfresh, hown⟩ := hok
  cases a with
  | mmap sessionId flags offset refusal answer =>
      intro session hsession addr size d h
      rcases s.device.doMmap_cases (session.expbuf refusal) flags offset answer with
        ⟨e, h'⟩ | ⟨info, fd, hinfo, hfd, ⟨e, h'⟩ | ⟨addr', size', hcreate, h'⟩⟩
      · simp [h'] at h
      · simp [h'] at h
      · obtain ⟨-, rfl, -, host, hhost, hmemory, hok⟩ := hs.exported hown hsession hinfo hfd
        rw [h'] at h
        cases h
        have hok' := RecordOk.create hs (hfresh session hsession info hinfo fd hfd) hok
          (fun _ => hmemory) (m := .empty)
        refine ⟨info.queue, info.index.toNat, info.plane.toNat, host, hhost,
          hok.offset, by simp [ProxyDevice.exportTarget, hinfo], ?_⟩
        exact hok'.backed _ (create_backedBy hcreate)
  | _ => trivial

/-- For every run of commands in which the recorded index of every reported
buffer is the one that was asked for and every MMAP names an offset recorded for
its own session (or one whose record points at no buffer of the caller): a
successful MMAP maps the plane of the caller that the host reported the offset
for. -/
theorem mmap_isolated (acts : List ProxyCmd)
    (hmapper : Trace.Conforms Proxy.step MapperAnswersOk .init acts)
    (hown : Trace.Conforms Proxy.step OwnOffsets .init acts) :
    Trace.Conforms Proxy.step MmapIsolated .init acts :=
  Trace.conforms_of_invariant (P := ProxyInv) (fun _ _ _ hs hok h => hs.step hok h)
    (fun _ _ hs hok => hs.mmapIsolated hok) proxyInv_init (Trace.conforms_and hmapper hown)

/-- Two sessions with a buffer each; the first one maps its own. -/
def firstMappingRun : List ProxyCmd :=
  twoSessionsRun 0x1000 ++ [.mmap 0 mmapFlagRw 0 none (.ok 0x8000)]

/-- The second one then asks for the offset `target`. -/
def twoMappingsRun (target : UInt32) : List ProxyCmd :=
  firstMappingRun ++ [.mmap 1 mmapFlagRw target none (.ok 0x9000)]

theorem mmap_isolated_ownOffsets :
    Trace.Conforms Proxy.step MapperAnswersOk .init (twoMappingsRun 0x1000) ∧
      Trace.Conforms Proxy.step MmapIsolated .init (twoMappingsRun 0x1000) := by
  have hmapper : Trace.Conforms Proxy.step MapperAnswersOk .init (twoMappingsRun 0x1000) := by
    decide
  exact ⟨hmapper, mmap_isolated _ hmapper (by decide)⟩

/-- The second session maps the first session's offset. EXPBUF finds a buffer
with the recorded index on its own device, and the command returns the address
at which the memory of the first session is mapped. -/
theorem mmap_isolated_fails_otherOffset :
    ¬ ∀ acts, Trace.Conforms Proxy.step MapperAnswersOk .init acts →
      Trace.Conforms Proxy.step MmapIsolated .init acts := by
  intro h
  have hiso := Trace.conforms_at (h (twoMappingsRun 0) (by decide))
    (rfl : Trace.run Proxy.step .init firstMappingRun = some _)
  obtain ⟨queue, index, plane, host, hplane, hoffset, htarget, -⟩ := hiso _ rfl 0x8000 4096 _ rfl
  cases htarget
  cases hplane
  exact absurd hoffset (by decide)

end VirtioMedia.Device
