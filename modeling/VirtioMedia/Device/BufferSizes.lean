import VirtioMedia.Device.BackendErasure
import VirtioMedia.Device.QueuedFlags
import VirtioMedia.Device.SelfAllocating

/-!
# The sizes of decoder buffers

REQBUFS registers a buffer with the size of its format and allocates a backing
of that size. QBUF then takes over the plane length of the guest, and what
QUERYBUF and DequeueBuffer events report from then on is that. It also has as
many bytes decoded as the guest says. The sizes stay what they were in every run
in which the guest passes the length that it was told and no more bytes than
that.

The sizes of backings and the calls of `decode` are written down next to any
backend.
-/

namespace VirtioMedia.Device

open V4l2 Fallible
open scoped List

variable {β S : Type}

/-- A call of `decode`: the number of bytes, and the size of the backing. -/
structure DecodeRequest where
  bytesUsed : UInt32
  size : UInt32
  deriving DecidableEq, Repr

/-- The backend together with the calls of `decode` and the sizes with which the
backings were created. -/
def DecoderBackend.audited (B : DecoderBackend β S) :
    DecoderBackend (β × List DecodeRequest) (S × UInt32) where
  new b queue index size :=
    let r := B.new b.1 queue index size
    (r.1.map fun backing => (backing, size), r.2, b.2)
  fdForPlane backing := B.fdForPlane backing.1
  decode b backing index timestamp bytesUsed :=
    let r := B.decode b.1 backing.1 index timestamp bytesUsed
    (r.1, r.2, ⟨bytesUsed, backing.2⟩ :: b.2)
  useAsOutput b index backing :=
    let r := B.useAsOutput b.1 index backing.1
    (r.1, (r.2.1, backing.2), r.2.2, b.2)
  drain b :=
    let r := B.drain b.1
    (r.1, r.2, b.2)
  clearOutputBuffers b :=
    let r := B.clearOutputBuffers b.1
    (r.1, r.2, b.2)
  nextEvent b :=
    let r := B.nextEvent b.1
    (r.1, r.2, b.2)
  sizeimages b := B.sizeimages b.1
  visibleRect b := B.visibleRect b.1
  buffersAllocated b direction count := (B.buffersAllocated b.1 direction count, b.2)
  streamingState b direction streaming := (B.streamingState b.1 direction streaming, b.2)

/-- Leaving the record out gives the backend back. -/
theorem audited_hom (B : DecoderBackend β S) : B.audited.Hom B Prod.fst Prod.fst where
  new b queue index size := by
    dsimp only [DecoderBackend.audited]
    obtain ⟨res, b'⟩ := B.new b.1 queue index size
    cases res with
    | error e => rfl
    | ok backing => rfl
  fdForPlane _ _ := rfl
  decode _ _ _ _ _ := rfl
  useAsOutput _ _ _ := rfl
  drain _ := rfl
  clearOutputBuffers _ := rfl
  nextEvent _ := rfl
  sizeimages _ _ := rfl
  visibleRect _ := rfl
  buffersAllocated _ _ _ := rfl
  streamingState _ _ _ := rfl

/-- The device over an audited backend. -/
abbrev AuditedDecoder (β S : Type) : Type := Decoder (β × List DecodeRequest) (S × UInt32)

def auditedNext (B : DecoderBackend β S) (checks : Bool) (s : AuditedDecoder β S)
    (a : DecoderAction β) : Option (AuditedDecoder β S) :=
  s.next B.audited checks (a.map fun b => (b, []))

/-- What is written down does not change the device. -/
theorem auditedRun_erase (B : DecoderBackend β S) (checks : Bool)
    (acts : List (DecoderAction β)) :
    (Trace.run (auditedNext B checks) .init acts).map (·.map Prod.fst Prod.fst) =
      Trace.run (Decoder.next B checks) .init acts :=
  (audited_hom B).run_erase (fun _ => rfl) acts

/-! ### The law -/

/-- The size that is registered for an offset. -/
def MmapMappingManager.registeredSize (m : MmapMappingManager) (o : UInt32) : Option UInt32 :=
  (m.buffers.find? fun b => b.offset == o && b.registered).map (·.size)

/-- The length of the plane is the size that is registered for its offset. -/
def VideoDecoder.Sizes (d : VideoDecoder) (v : DecoderV4l2Buffer) : Prop :=
  d.hostMapper.manager.registeredSize v.plane.memOffset = some v.plane.length

/-- What QUERYBUF answers has the registered size, a backing has the length of its
plane, and no more was to be decoded from a backing than it has. -/
structure Decoder.SizesHold (s : AuditedDecoder β S) : Prop where
  querybuf : s.Every fun session => ∀ queue index v,
    session.querybuf queue index = .ok v → s.device.Sizes v
  backing : s.Every fun session => ∀ b ∈ session.inputBuffers ++ session.outputBuffers,
    b.backing.2 = b.v4l2Buffer.plane.length
  decoded : s.Every fun session => ∀ r ∈ session.backendSession.2, r.bytesUsed ≤ r.size

/-- What is promised of every action: the sizes hold afterwards, and the buffers
in the events it sends and in the answer of QBUF have the registered sizes. -/
structure Decoder.SizesLaw (B : DecoderBackend β S) (checks : Bool) (s : AuditedDecoder β S)
    (a : DecoderAction β) : Prop where
  hold : ∀ s', auditedNext B checks s a = some s' → s'.SizesHold
  events : ∀ s', auditedNext B checks s a = some s' → ∀ id v,
    .dequeueBuffer id v ∈ s.sentSince s' → s'.device.Sizes v
  qbuf : ∀ i buffer session c v, a = .call i (.qbuf buffer) → s.sessions i = some session →
    s.device.qbuf B.audited session buffer = .ok c → c.result = .ok v → c.device.Sizes v

/-- QBUF comes with the length of the plane, and on the OUTPUT queue with no more
bytes than that. -/
def DecoderSession.KeepsSizes (s : DecoderSession β S) : DecoderCall → Prop
  | .qbuf buffer => ∀ host ∈ s.accepts buffer,
      buffer.plane.length = host.v4l2Buffer.plane.length ∧
        (buffer.queue = .videoOutputMplane → buffer.plane.bytesused ≤ buffer.plane.length)
  | _ => True

instance instDecidableKeepsSizes (s : DecoderSession β S) :
    (c : DecoderCall) → Decidable (s.KeepsSizes c)
  | .qbuf buffer => inferInstanceAs (Decidable (∀ host ∈ s.accepts buffer, _ ∧ (_ → _)))
  | .reqbufs _ _ _ | .streamon _ | .streamoff _ | .decoderCmd _ | .subscribeEvent _
  | .unsubscribeEvent _ | .mmap _ _ _ | .processEvents => .isTrue trivial

/-! ### Calls that keep the sizes -/

section Calls

variable {B : DecoderBackend β S} {checks : Bool} {d : VideoDecoder}
  {s s' : DecoderSession (β × List DecodeRequest) (S × UInt32)}

/-- The offset, the length and the size of the backing. -/
def DecoderBuffer.extent (b : DecoderBuffer (S × UInt32)) : UInt32 × UInt32 × UInt32 :=
  (b.offset, b.v4l2Buffer.plane.length, b.backing.2)

def DecoderSession.extents (s : DecoderSession (β × List DecodeRequest) (S × UInt32)) :
    List (UInt32 × UInt32 × UInt32) :=
  (s.inputBuffers ++ s.outputBuffers).map DecoderBuffer.extent

/-- No buffer changes its size, and nothing is decoded. -/
structure DecoderSession.SameSizes
    (s s' : DecoderSession (β × List DecodeRequest) (S × UInt32)) : Prop where
  extents : s'.extents = s.extents
  decoded : s'.backendSession.2 = s.backendSession.2

theorem DecoderSession.SameSizes.trans {t : DecoderSession (β × List DecodeRequest) (S × UInt32)}
    (h : s.SameSizes t) (h' : t.SameSizes s') : s.SameSizes s' :=
  ⟨h'.extents.trans h.extents, h'.decoded.trans h.decoded⟩

/-- One buffer of a queue is replaced by another one of the same size. -/
theorem extents_set {l : List (DecoderBuffer (S × UInt32))} {n : Nat}
    {b b' : DecoderBuffer (S × UInt32)} (h : l[n]? = some b) (hb : b'.extent = b.extent) :
    (l.set n b').map DecoderBuffer.extent = l.map DecoderBuffer.extent :=
  map_set_same h hb

theorem extents_clearQueued (l : List (DecoderBuffer (S × UInt32))) :
    (clearQueued l).map DecoderBuffer.extent = l.map DecoderBuffer.extent := by
  rw [clearQueued, List.map_map]
  rfl

theorem extents_eq (h : s'.inputBuffers.map DecoderBuffer.extent =
      s.inputBuffers.map DecoderBuffer.extent)
    (h' : s'.outputBuffers.map DecoderBuffer.extent =
      s.outputBuffers.map DecoderBuffer.extent) : s'.extents = s.extents := by
  rw [DecoderSession.extents, DecoderSession.extents, List.map_append, List.map_append, h, h']

/-- Sending pending buffers changes no size. -/
theorem sendPending_extents {is : List UInt32} {bufs : List (DecoderBuffer (S × UInt32))}
    {b : β × List DecodeRequest}
    {q : Except Int Unit × List (DecoderBuffer (S × UInt32)) × β × List DecodeRequest}
    (h : sendPending B.audited is bufs b = .ok q) :
    q.2.1.map DecoderBuffer.extent = bufs.map DecoderBuffer.extent ∧ q.2.2.2 = b.2 := by
  induction is generalizing bufs b with
  | nil =>
      cases h
      exact ⟨rfl, rfl⟩
  | cons i rest ih =>
      unfold sendPending at h
      split at h
      · cases h
      · rename_i buffer hbuffer
        have hsame : (bufs.set i.toNat { buffer with
            backing := (B.audited.useAsOutput b buffer.v4l2Buffer.index buffer.backing).2.1 }).map
              DecoderBuffer.extent = bufs.map DecoderBuffer.extent := extents_set hbuffer rfl
        dsimp only at h
        split at h
        · cases h
          exact ⟨hsame, rfl⟩
        · obtain ⟨hextents, hlog⟩ := ih h
          exact ⟨hextents.trans hsame, hlog⟩

theorem trySendPendingOutputBuffers_sameSizes
    {r : Except Int Unit × DecoderSession (β × List DecodeRequest) (S × UInt32)}
    (h : s.trySendPendingOutputBuffers B.audited = .ok r) : s.SameSizes r.2 := by
  rcases trySendPendingOutputBuffers_cases h with ⟨-, rfl⟩ | ⟨-, q, hq, rfl⟩
  · exact ⟨rfl, rfl⟩
  · obtain ⟨hextents, hlog⟩ := sendPending_extents hq
    exact ⟨extents_eq rfl hextents, hlog⟩

/-- STREAMOFF changes flags. -/
theorem streamoff_sameSizes (queue : QueueType) :
    s.SameSizes (d.streamoff B.audited s queue).session := by
  unfold VideoDecoder.streamoff
  split
  · exact ⟨extents_eq (extents_clearQueued _) rfl, rfl⟩
  · split
    · rename_i e b hclear
      obtain ⟨-, rfl⟩ := Prod.mk.inj hclear
      exact ⟨rfl, rfl⟩
    · rename_i b hclear
      obtain ⟨-, rfl⟩ := Prod.mk.inj hclear
      exact ⟨extents_eq rfl (extents_clearQueued _), rfl⟩

theorem decoderCmd_sameSizes {cmd : Option DecoderCmd}
    {c : Called (β × List DecodeRequest) (S × UInt32) DecoderCmd}
    (h : d.decoderCmd B.audited s cmd = .ok c) : s.SameSizes c.session := by
  rcases decoderCmd_cases h with ⟨-, hs⟩ | ⟨-, -, rfl⟩ | ⟨-, t, r, ht, hr, rfl⟩ |
    ⟨-, -, rfl⟩ | ⟨-, -, rfl⟩
  · rw [hs]
    exact ⟨rfl, rfl⟩
  · exact ⟨rfl, rfl⟩
  · have hst : s.SameSizes t := by
      rcases ht with ⟨-, rfl⟩ | ⟨i, o, -, -, rfl⟩
      · exact ⟨rfl, rfl⟩
      · exact ⟨rfl, rfl⟩
    exact hst.trans (trySendPendingOutputBuffers_sameSizes hr)
  · exact ⟨rfl, rfl⟩
  · exact ⟨rfl, rfl⟩

theorem done_extent (b : DecoderBuffer (S × UInt32)) (error : Int) :
    DecoderBuffer.extent { b with v4l2Buffer := b.v4l2Buffer.done error } = b.extent := by
  simp only [DecoderBuffer.extent, DecoderBuffer.offset, DecoderV4l2Buffer.done]
  split <;> rfl

/-- A completed buffer is one of the session, with the size that it has. -/
theorem processEvents_sameSizes {c : Called (β × List DecodeRequest) (S × UInt32) Unit}
    (h : d.processEvents B.audited checks s = .ok c) :
    s.SameSizes c.session ∧
      ∃ news, c.device.sent = news ++ d.sent ∧ ∀ id v, .dequeueBuffer id v ∈ news →
        ∃ b ∈ s.inputBuffers ++ s.outputBuffers, v.plane.memOffset = b.offset ∧
          v.plane.length = b.v4l2Buffer.plane.length := by
  obtain ⟨ev, b, hnext, hcase⟩ := processEvents_cases h
  obtain ⟨-, rfl⟩ := Prod.mk.inj hnext
  rcases hcase with ⟨rfl, -⟩ | ⟨bufferId, error, host, -, hhost, rfl⟩ | ⟨-, rfl⟩ |
    ⟨bufferId, timestamp, bytesUsed, isLast, host, v, -, hhost, rfl, rfl⟩
  · exact ⟨⟨rfl, rfl⟩, [], rfl, fun _ _ hmem => by cases hmem⟩
  · have hextent := done_extent host error
    refine ⟨⟨extents_eq (extents_set hhost hextent) rfl, rfl⟩,
      [.dequeueBuffer s.id (host.v4l2Buffer.done error)], rfl, ?_⟩
    intro id v hmem
    obtain ⟨-, rfl⟩ := DecoderEvent.dequeueBuffer.inj (List.mem_singleton.mp hmem)
    refine ⟨host, List.mem_append_left _ (List.mem_of_getElem? hhost), ?_, ?_⟩
    · exact congrArg Prod.fst hextent
    · exact congrArg (·.2.1) hextent
  · refine ⟨⟨rfl, rfl⟩, if s.srcChangeSubscribed then [.sourceChange s.id] else [], ?_, ?_⟩
    · dsimp only
      split <;> rfl
    · intro id v hmem
      split at hmem <;> simp at hmem
  · refine ⟨⟨extents_eq rfl (extents_set hhost rfl), rfl⟩, _, rfl, ?_⟩
    intro id v hmem
    have hv : v = host.v4l2Buffer.complete s.sequenceCpt timestamp bytesUsed isLast := by
      rcases List.mem_append.mp hmem with hmem | hmem
      · split at hmem <;> simp at hmem
      · exact (DecoderEvent.dequeueBuffer.inj (List.mem_singleton.mp hmem)).2
    rw [hv]
    exact ⟨host, List.mem_append_right _ (List.mem_of_getElem? hhost), rfl, rfl⟩

/-- QBUF with the length of the buffer keeps it, answers with it, and has at most
that much decoded. -/
theorem qbuf_sizes {buffer : DecoderV4l2Buffer}
    {c : Called (β × List DecodeRequest) (S × UInt32) DecoderV4l2Buffer}
    (hkeeps : s.KeepsSizes (.qbuf buffer)) (h : d.qbuf B.audited s buffer = .ok c) :
    c.device = d ∧ c.session.extents = s.extents ∧
      (∀ r ∈ c.session.backendSession.2, r ∈ s.backendSession.2 ∨
        ∃ b ∈ s.inputBuffers ++ s.outputBuffers, r.size = b.backing.2 ∧
          r.bytesUsed ≤ b.v4l2Buffer.plane.length) ∧
      ∀ v, c.result = .ok v → ∃ b ∈ s.inputBuffers ++ s.outputBuffers,
        v.plane.memOffset = b.offset ∧ v.plane.length = b.v4l2Buffer.plane.length := by
  rcases qbuf_cases h with ⟨-, rfl⟩ | ⟨host, haccepts, hqueue, hhost, res, b, hdecode, v, hv, rfl⟩ |
    ⟨host, haccepts, hqueue, hhost, r, hr, rfl⟩
  · exact ⟨rfl, rfl, fun r hr => .inl hr, fun v hv => by cases hv⟩
  · obtain ⟨hlength, hbytes⟩ := hkeeps host haccepts
    obtain ⟨-, rfl⟩ := Prod.mk.inj hdecode
    have hmem : host ∈ s.inputBuffers ++ s.outputBuffers :=
      List.mem_append_left _ (List.mem_of_getElem? hhost)
    have hplane : v.plane = host.v4l2Buffer.plane.update buffer.plane := by
      rw [hv]
      split <;> rfl
    refine ⟨rfl, extents_eq (extents_set hhost ?_) rfl, fun r hr => ?_, fun w hw => ?_⟩
    · simp only [DecoderBuffer.extent, DecoderBuffer.offset, hplane, BufferPlane.update, hlength]
    · rcases List.mem_cons.mp hr with rfl | hr
      · refine .inr ⟨host, hmem, rfl, ?_⟩
        rw [← hlength]
        change buffer.payload ≤ buffer.plane.length
        unfold DecoderV4l2Buffer.payload
        split
        · exact UInt32.le_refl _
        · exact hbytes hqueue
      · exact .inl hr
    · obtain ⟨u, -, rfl⟩ := map_eq_ok.mp hw
      refine ⟨host, hmem, ?_, ?_⟩
      · rw [hplane]
        rfl
      · rw [hplane]
        exact hlength
  · obtain ⟨hlength, -⟩ := hkeeps host haccepts
    obtain ⟨hextents, hlog⟩ := trySendPendingOutputBuffers_sameSizes hr
    refine ⟨rfl, hextents.trans (extents_eq rfl (extents_set hhost ?_)), ?_, ?_⟩
    · exact Prod.ext rfl (Prod.ext hlength rfl)
    · exact fun r hr => .inl (hlog ▸ hr)
    · intro w hw
      obtain ⟨u, -, rfl⟩ := map_eq_ok.mp hw
      exact ⟨host, List.mem_append_right _ (List.mem_of_getElem? hhost), rfl, hlength⟩

/-- The calls that have nothing to do with the sizes. -/
theorem call_sameSizes {c : DecoderCall}
    {p : VideoDecoder × DecoderSession (β × List DecodeRequest) (S × UInt32)}
    (hreqbufs : ∀ queue memory count, c ≠ .reqbufs queue memory count)
    (hqbuf : ∀ buffer, c ≠ .qbuf buffer)
    (h : VideoDecoder.call B.audited checks d s c = .ok p) : s.SameSizes p.2 := by
  cases c with
  | reqbufs queue memory count => exact absurd rfl (hreqbufs queue memory count)
  | qbuf buffer => exact absurd rfl (hqbuf buffer)
  | streamon queue =>
      obtain ⟨c, hc, rfl⟩ := map_eq_ok.mp h
      rcases streamon_cases hc with rfl | ⟨state, r, -, hr, rfl⟩
      · exact ⟨rfl, rfl⟩
      · obtain ⟨hextents, hlog⟩ := trySendPendingOutputBuffers_sameSizes hr
        exact ⟨hextents, hlog⟩
  | streamoff queue =>
      cases h
      exact streamoff_sameSizes queue
  | decoderCmd cmd =>
      obtain ⟨c, hc, rfl⟩ := map_eq_ok.mp h
      exact decoderCmd_sameSizes hc
  | subscribeEvent event =>
      cases h
      unfold VideoDecoder.subscribeEvent
      split <;> exact ⟨rfl, rfl⟩
  | unsubscribeEvent event =>
      cases h
      unfold VideoDecoder.unsubscribeEvent
      split <;> exact ⟨rfl, rfl⟩
  | mmap flags offset answer =>
      obtain ⟨c, hc, rfl⟩ := map_eq_ok.mp h
      rcases doMmap_cases hc with rfl | ⟨buffer, fd, rw, -, -, rfl⟩
      · exact ⟨rfl, rfl⟩
      · exact ⟨rfl, rfl⟩
  | processEvents =>
      obtain ⟨c, hc, rfl⟩ := map_eq_ok.mp h
      exact (processEvents_sameSizes hc).1

end Calls

/-! ### Registered sizes -/

section Registered

variable {m m' : MmapMappingManager}

/-- The same sizes are registered. -/
structure SameRegistered (m m' : MmapMappingManager) : Prop where
  sorted : m.Sorted → m'.Sorted
  registered : ∀ o size, m'.RegisteredAs o size ↔ m.RegisteredAs o size

/-- Nothing happened to the manager. -/
theorem SameRegistered.of_eq (h : m' = m) : SameRegistered m m' :=
  ⟨fun hs => h ▸ hs, fun _ _ => by rw [h]⟩

theorem sameRegistered_create (t : Tracked) (offset : UInt32) (fd : Nat) (rw : Bool)
    (answer : Except Int UInt64) :
    SameRegistered t.manager (t.create offset fd rw answer).2.manager :=
  ⟨fun hs => MmapMappingManager.createMapping_sorted hs offset fd rw answer,
    fun o size => MmapMappingManager.registeredAs_createMapping _ offset fd rw answer o size⟩

theorem sameRegistered_remove (t : Tracked) (addr : UInt64) :
    SameRegistered t.manager (t.remove addr).2.manager :=
  ⟨fun hs => MmapMappingManager.removeMapping_sorted hs addr,
    fun o size => MmapMappingManager.registeredAs_removeMapping _ addr o size⟩

/-- Only REQBUFS changes what is registered. -/
theorem call_sameRegistered {B : DecoderBackend β S} {checks : Bool} {d : VideoDecoder}
    {s : DecoderSession β S} {c : DecoderCall} {p : VideoDecoder × DecoderSession β S}
    (hreqbufs : ∀ queue memory count, c ≠ .reqbufs queue memory count)
    (h : VideoDecoder.call B checks d s c = .ok p) :
    SameRegistered d.hostMapper.manager p.1.hostMapper.manager := by
  rcases call_device h with hd | ⟨queue, memory, count, rfl⟩ | ⟨flags, offset, answer, rfl⟩ | rfl
  · exact .of_eq (congrArg (·.hostMapper.manager) hd)
  · exact absurd rfl (hreqbufs queue memory count)
  · obtain ⟨c, hc, rfl⟩ := map_eq_ok.mp h
    rcases doMmap_cases hc with rfl | ⟨buffer, fd, rw, -, -, rfl⟩
    · exact .of_eq rfl
    · exact sameRegistered_create _ _ _ _ _
  · obtain ⟨c, hc, rfl⟩ := map_eq_ok.mp h
    obtain ⟨ev, b, -, ⟨rfl, -⟩ | ⟨bufferId, error, host, -, -, rfl⟩ | ⟨-, rfl⟩ |
      ⟨bufferId, timestamp, bytesUsed, isLast, host, v, -, -, -, rfl⟩⟩ := processEvents_cases hc
    · exact .of_eq rfl
    · exact .of_eq rfl
    · refine .of_eq ?_
      change (if s.srcChangeSubscribed then d.send _ else d).hostMapper.manager = _
      split <;> rfl
    · exact .of_eq rfl

end Registered

/-! ### Allocation -/

/-- A registration adds one size, and taking it back at once leaves the others. -/
theorem registerBuffer_registeredAs {m m' : MmapMappingManager} (hs : m.Sorted) {checks : Bool}
    {size o : UInt32} (h : m.registerBuffer checks none size = some (.ok o, m')) :
    m'.RegisteredAs o size ∧ (∀ u n, m.RegisteredAs u n → m'.RegisteredAs u n) ∧
      ∀ u n, m.RegisteredAs u n → (m'.unregisterBuffer o).2.RegisteredAs u n := by
  have hgrown : Grown m m' [o] := by
    obtain ⟨e, he, -⟩ | ⟨u, hu, hgrown⟩ := registerBuffer_cases hs h
    · cases he
    · rw [Except.ok.inj hu]
      exact hgrown.toGrown
  simp only [MmapMappingManager.registerBuffer, Option.map_eq_some_iff, Prod.mk.injEq] at h
  obtain ⟨u, -, hres, rfl⟩ := h
  obtain ⟨⟨⟩, hok, rfl⟩ := map_eq_ok.mp hres
  have hreg := MmapMappingManager.registeredAs_registerBufferByOffset hs hok
  refine ⟨(hreg u size).mpr (.inl ⟨rfl, rfl⟩), fun v n hv => (hreg v n).mpr (.inr hv), ?_⟩
  intro v n hv
  refine (MmapMappingManager.registeredAs_unregisterAll hgrown.sorted [u] v n).mpr
    ⟨(hreg v n).mpr (.inr hv), fun hmem => ?_⟩
  obtain rfl := List.mem_singleton.mp hmem
  exact hgrown.fresh v List.mem_cons_self
    (MmapMappingManager.registered_iff.mpr ⟨n, hv⟩).occupied

/-- The loop of REQBUFS registers every buffer with its length, creates its backing
with that size, and keeps what was registered. -/
theorem allocateBuffers_sizes {B : DecoderBackend β S} {checks : Bool} {queue : QueueType}
    {size : UInt32} {is : List Nat} {d : VideoDecoder} {b : β × List DecodeRequest}
    {r : Except Int (List (DecoderBuffer (S × UInt32))) × VideoDecoder × β × List DecodeRequest}
    (hs : d.hostMapper.manager.Sorted)
    (h : allocateBuffers B.audited checks queue size is d b = .ok r) :
    r.2.2.2 = b.2 ∧
      (∀ o n, d.hostMapper.manager.RegisteredAs o n →
        r.2.1.hostMapper.manager.RegisteredAs o n) ∧
      ∀ news, r.1 = .ok news → ∀ x ∈ news, x.backing.2 = x.v4l2Buffer.plane.length ∧
        r.2.1.hostMapper.manager.RegisteredAs x.offset x.v4l2Buffer.plane.length := by
  induction is generalizing d b r with
  | nil =>
      cases h
      refine ⟨rfl, fun o n ho => ho, ?_⟩
      rintro news ⟨⟩ x hx
      cases hx
  | cons i rest ih =>
      simp only [allocateBuffers] at h
      cases hreg : d.hostMapper.manager.registerBuffer checks none size with
      | none => simp [hreg] at h
      | some p =>
          obtain ⟨res, m⟩ := p
          simp only [hreg] at h
          rcases registerBuffer_cases hs hreg with ⟨e, rfl, rfl⟩ | ⟨o, rfl, hgrown⟩
          · cases h
            exact ⟨rfl, fun o n ho => ho, fun _ h => by cases h⟩
          · obtain ⟨hnew, hkeep, hundo⟩ := registerBuffer_registeredAs hs hreg
            dsimp only at h
            split at h
            · rename_i e b' hfailed
              obtain ⟨-, rfl⟩ := Prod.mk.inj hfailed
              cases h
              exact ⟨rfl, hundo, fun _ h => by cases h⟩
            · rename_i backing b' hcreated
              obtain ⟨hbacking, rfl⟩ := Prod.mk.inj hcreated
              obtain ⟨r', hr', rfl⟩ := map_eq_ok.mp h
              obtain ⟨hlog, hregs, hnews⟩ := ih
                (d := { d with hostMapper := { d.hostMapper with manager := m } })
                hgrown.sorted hr'
              refine ⟨hlog, fun u n hu => hregs u n (hkeep u n hu), ?_⟩
              intro news hres x hx
              obtain ⟨news', hnews', rfl⟩ := map_eq_ok.mp hres
              rcases List.mem_cons.mp hx with rfl | hx
              · obtain ⟨y, -, rfl⟩ := map_eq_ok.mp hbacking
                exact ⟨rfl, hregs o size hnew⟩
              · exact hnews news' hnews' x hx

/-! ### What is reported -/

/-- The size of a registered offset is that of its buffer. -/
theorem MmapMappingManager.registeredSize_eq_some {m : MmapMappingManager} (hs : m.Sorted)
    {o size : UInt32} : m.registeredSize o = some size ↔ m.RegisteredAs o size := by
  unfold MmapMappingManager.registeredSize
  constructor
  · intro h
    obtain ⟨b, hb, rfl⟩ := Option.map_eq_some_iff.mp h
    have hprop := List.find?_some hb
    simp only [Bool.and_eq_true, beq_iff_eq] at hprop
    exact ⟨b, List.mem_of_find?_eq_some hb, hprop.1, hprop.2, rfl⟩
  · rintro ⟨b, hb, rfl, hreg, rfl⟩
    have hfound : ∃ c, m.buffers.find? (fun c => c.offset == b.offset && c.registered) =
        some c := by
      refine Option.isSome_iff_exists.mp (List.find?_isSome.mpr ⟨b, hb, ?_⟩)
      simp [hreg]
    obtain ⟨c, hc⟩ := hfound
    have hprop := List.find?_some hc
    simp only [Bool.and_eq_true, beq_iff_eq] at hprop
    -- offsets are the keys of the sorted buffers
    obtain rfl : c = b := SortedList.Sorted.eq_of_key_eq hs (List.mem_of_find?_eq_some hc) hb
      (congrArg UInt32.toNat hprop.1)
    rw [hc]
    rfl

/-- QUERYBUF answers with a buffer of the session. -/
theorem mem_of_querybuf {s : DecoderSession β S} {queue : QueueType} {index : UInt32}
    {v : DecoderV4l2Buffer} (h : s.querybuf queue index = .ok v) :
    ∃ b ∈ s.inputBuffers ++ s.outputBuffers, v = b.v4l2Buffer := by
  unfold DecoderSession.querybuf at h
  split at h
  · cases h
  · rename_i bufs hbufs
    split at h
    · cases h
    · rename_i b hb
      cases h
      refine ⟨b, ?_, rfl⟩
      rcases DecoderSession.buffers_cases hbufs with ⟨-, rfl⟩ | ⟨-, rfl⟩
      · exact List.mem_append_left _ (List.mem_of_getElem? hb)
      · exact List.mem_append_right _ (List.mem_of_getElem? hb)

/-! ### The invariant -/

/-- Every buffer is registered at an offset of its own with its length, and has a
backing of that size. -/
structure Decoder.SizesInv (B : DecoderBackend β S) (s : AuditedDecoder β S) : Prop where
  sorted : s.device.hostMapper.manager.Sorted
  distinct : Distinct (s.held B.audited)
  sized : s.Every fun session => ∀ b ∈ session.inputBuffers ++ session.outputBuffers,
    b.backing.2 = b.v4l2Buffer.plane.length ∧
      s.device.hostMapper.manager.RegisteredAs b.offset b.v4l2Buffer.plane.length
  decoded : s.Every fun session => ∀ r ∈ session.backendSession.2, r.bytesUsed ≤ r.size

section Inv

variable {B : DecoderBackend β S} {checks : Bool} {s s' : AuditedDecoder β S} {i : UInt32}
  {session session' : DecoderSession (β × List DecodeRequest) (S × UInt32)}

namespace Decoder.SizesInv

/-- A session changes to one whose buffers are all of the registered sizes, and the
other sessions keep theirs. -/
theorem setSession (hs : s.SizesInv B) {d : VideoDecoder}
    {v : Option (DecoderSession (β × List DecodeRequest) (S × UInt32))}
    (hsorted : d.hostMapper.manager.Sorted)
    (hdistinct : Distinct (holding (s.held B.audited) i (v.elim [] (·.held B.audited))))
    (hother : ∀ j ≠ i, ∀ session, s.sessions j = some session →
      ∀ b ∈ session.inputBuffers ++ session.outputBuffers,
        d.hostMapper.manager.RegisteredAs b.offset b.v4l2Buffer.plane.length)
    (hsized : ∀ session ∈ v, ∀ b ∈ session.inputBuffers ++ session.outputBuffers,
      b.backing.2 = b.v4l2Buffer.plane.length ∧
        d.hostMapper.manager.RegisteredAs b.offset b.v4l2Buffer.plane.length)
    (hdecoded : ∀ session ∈ v, ∀ r ∈ session.backendSession.2, r.bytesUsed ≤ r.size) :
    ({ s with device := d }.setSession i v).SizesInv B where
  sorted := hsorted
  distinct := by
    rw [Decoder.held_setSession]
    exact hdistinct
  sized := by
    intro j session hj b hb
    by_cases hji : j = i
    · exact hsized session (by simpa [Decoder.setSession, hji] using hj) b hb
    · have hj' : s.sessions j = some session := by simpa [Decoder.setSession, hji] using hj
      exact ⟨(hs.sized j session hj' b hb).1, hother j hji session hj' b hb⟩
  decoded := (hs.decoded.setSession d i).mpr hdecoded

/-- A call that keeps the sizes of the buffers and what is registered. -/
theorem same (hs : s.SizesInv B) (hi : s.sessions i = some session) {d : VideoDecoder}
    (hreg : SameRegistered s.device.hostMapper.manager d.hostMapper.manager)
    (hextents : session'.extents = session.extents)
    (hdecoded : ∀ r ∈ session'.backendSession.2, r.bytesUsed ≤ r.size) :
    ({ s with device := d }.setSession i (some session')).SizesInv B := by
  refine hs.setSession (hreg.sorted hs.sorted) ?_ ?_ ?_ ?_
  · refine hs.distinct.of_offsets fun j => ?_
    unfold holding
    split
    · rename_i hj
      rw [hj, Decoder.held_of_some hi]
      have hoffsets := congrArg (List.map Prod.fst) hextents
      rw [DecoderSession.extents, DecoderSession.extents, List.map_map, List.map_map] at hoffsets
      rw [Option.elim_some, DecoderSession.held, DecoderSession.held, List.map_map, List.map_map]
      exact hoffsets
    · rfl
  · exact fun j _ session hj b hb => (hreg.registered _ _).mpr (hs.sized j session hj b hb).2
  · rintro _ ⟨⟩ b hb
    have hmem : b.extent ∈ session.extents := hextents ▸ List.mem_map_of_mem hb
    obtain ⟨b', hb', heq⟩ := List.mem_map.mp hmem
    obtain ⟨hoffset, hlength, hbacking⟩ : b'.offset = b.offset ∧
        b'.v4l2Buffer.plane.length = b.v4l2Buffer.plane.length ∧ b'.backing.2 = b.backing.2 := by
      simpa [DecoderBuffer.extent] using heq
    obtain ⟨hsize, hregistered⟩ := hs.sized i session hi b' hb'
    rw [← hoffset, ← hlength, ← hbacking]
    exact ⟨hsize, (hreg.registered _ _).mpr hregistered⟩
  · rintro _ ⟨⟩
    exact hdecoded

/-- Buffers are unregistered, and the session does not hold them any more. -/
theorem shrink (hs : s.SizesInv B) (hi : s.sessions i = some session)
    {v : Option (DecoderSession (β × List DecodeRequest) (S × UInt32))}
    {gone : List (DecoderBuffer (S × UInt32))}
    (hperm : v.elim [] (fun t => t.inputBuffers ++ t.outputBuffers) ++ gone ~
      session.inputBuffers ++ session.outputBuffers)
    (hlog : ∀ t ∈ v, t.backendSession.2 = session.backendSession.2) :
    ({ s with device := s.device.unregister gone }.setSession i v).SizesInv B := by
  have hheld : v.elim [] (·.held B.audited) ++ gone.map B.audited.claim ~ s.held B.audited i := by
    have hclaims := hperm.map B.audited.claim
    rw [List.map_append] at hclaims
    rw [Decoder.held_of_some hi]
    cases v with
    | none => exact hclaims
    | some t => exact hclaims
  have hsubset : ∀ t ∈ v, ∀ b ∈ t.inputBuffers ++ t.outputBuffers,
      b ∈ session.inputBuffers ++ session.outputBuffers := by
    rintro t ht b hb
    rw [Option.mem_def.mp ht] at hperm
    exact hperm.subset (List.mem_append_left _ hb)
  -- what is unregistered is not held any more
  have hkept : ∀ j b n,
      B.audited.claim b ∈ holding (s.held B.audited) i (v.elim [] (·.held B.audited)) j →
      s.device.hostMapper.manager.RegisteredAs b.offset n →
      (s.device.unregister gone).hostMapper.manager.RegisteredAs b.offset n := by
    intro j b n hb hreg
    refine (MmapMappingManager.registeredAs_unregisterAll hs.sorted _ _ _).mpr ⟨hreg, ?_⟩
    have hgone := hs.distinct.not_gone hheld hb
    rwa [List.map_map] at hgone
  refine hs.setSession (MmapMappingManager.unregisterAll_sorted hs.sorted _) ?_ ?_ ?_ ?_
  · exact hs.distinct.drop ((List.sublist_append_left _ _).subperm.trans hheld.subperm)
  · intro j hj t ht b hb
    refine hkept j b _ ?_ (hs.sized j t ht b hb).2
    rw [holding, if_neg hj, Decoder.held_of_some ht]
    exact List.mem_map_of_mem hb
  · intro t ht b hb
    obtain ⟨hsize, hreg⟩ := hs.sized i session hi b (hsubset t ht b hb)
    refine ⟨hsize, hkept i b _ ?_ hreg⟩
    rw [holding, if_pos rfl, Option.mem_def.mp ht]
    exact List.mem_map_of_mem hb
  · intro t ht
    rw [hlog t ht]
    exact hs.decoded i session hi

/-- Buffers are registered, and the session holds `news` of them from now on. -/
theorem grow (hs : s.SizesInv B) (hi : s.sessions i = some session) {m : MmapMappingManager}
    {os : List UInt32} (h : Grown s.device.hostMapper.manager m os)
    (hregs : ∀ o n, s.device.hostMapper.manager.RegisteredAs o n → m.RegisteredAs o n)
    (news : List (DecoderBuffer (S × UInt32)))
    (hperm : session'.inputBuffers ++ session'.outputBuffers ~
      session.inputBuffers ++ session.outputBuffers ++ news)
    (hos : (news.map (·.offset)).Sublist os)
    (hnews : ∀ b ∈ news, b.backing.2 = b.v4l2Buffer.plane.length ∧
      m.RegisteredAs b.offset b.v4l2Buffer.plane.length)
    (hlog : session'.backendSession.2 = session.backendSession.2) :
    ({ s with device := { s.device with hostMapper :=
      { s.device.hostMapper with manager := m } } }.setSession i (some session')).SizesInv B := by
  have hocc : ∀ j, ∀ x ∈ s.held B.audited j, s.device.hostMapper.manager.Occupied x.1 := by
    intro j x hx
    cases hj : s.sessions j with
    | none => simp [Decoder.held, hj] at hx
    | some t =>
        rw [Decoder.held_of_some hj] at hx
        obtain ⟨b, hb, rfl⟩ := List.mem_map.mp hx
        exact (MmapMappingManager.registered_iff.mpr ⟨_, (hs.sized j t hj b hb).2⟩).occupied
  refine hs.setSession h.sorted ?_ ?_ ?_ ?_
  · have hclaims : DecoderSession.held B.audited _ ~ _ := hperm.map B.audited.claim
    rw [List.map_append] at hclaims
    refine hs.distinct.grow hocc h ?_ (?_ : (news.map B.audited.claim).map Prod.fst <+ os)
    · rw [Decoder.held_of_some hi]
      exact hclaims
    · rw [List.map_map]
      exact hos
  · exact fun j _ t ht b hb => hregs _ _ (hs.sized j t ht b hb).2
  · rintro _ ⟨⟩ b hb
    rcases List.mem_append.mp (hperm.subset hb) with hb | hb
    · obtain ⟨hsize, hreg⟩ := hs.sized i session hi b hb
      exact ⟨hsize, hregs _ _ hreg⟩
    · exact hnews b hb
  · rintro _ ⟨⟩
    rw [hlog]
    exact hs.decoded i session hi

/-- REQBUFS: old buffers keep their sizes, new ones have that of the current
format. -/
theorem reqbufs (hs : s.SizesInv B) (hi : s.sessions i = some session) {queue : QueueType}
    {memory : MemoryType} {count : UInt32}
    {c : Called (β × List DecodeRequest) (S × UInt32) UInt32}
    (h : s.device.reqbufs B.audited checks session queue memory count = .ok c) :
    ({ s with device := c.device }.setSession i (some c.session)).SizesInv B := by
  rcases reqbufs_cases h with rfl | ⟨bufs, hbufs, ⟨-, rfl⟩ | ⟨-, size, r, -, hr, hcase⟩⟩
  · exact hs.same hi (.of_eq rfl) rfl (hs.decoded i session hi)
  · refine hs.shrink hi (DecoderSession.shrink_perm hbufs _ _) ?_
    rintro _ ⟨⟩
    rfl
  · obtain ⟨m, os, hdev, hgrown, -, hnews, -⟩ := allocateBuffers_grown hs.sorted hr
    obtain ⟨hlog, hregs, hsizes⟩ := allocateBuffers_sizes hs.sorted hr
    rw [hdev] at hregs hsizes
    rcases hcase with ⟨e, -, rfl⟩ | ⟨news, hok, rfl⟩ <;> rw [hdev]
    · refine hs.grow hi hgrown.toGrown hregs [] ?_ (List.nil_sublist _) ?_ hlog
      · rw [List.append_nil]
        exact .refl _
      · exact fun b hb => by cases hb
    · refine hs.grow hi hgrown.toGrown hregs news (DecoderSession.grow_perm hbufs news _) ?_
        (hsizes news hok) ?_
      · rw [(hnews news hok).1]
      · exact hlog

theorem openSession (hs : s.SizesInv B) (b : β) :
    ({ s with device := s.device }.setSession i (some (.new i (b, [])))).SizesInv B := by
  refine hs.setSession hs.sorted (hs.distinct.drop List.nil_subperm) ?_ ?_ ?_
  · exact fun j _ session hj b hb => (hs.sized j session hj b hb).2
  · rintro _ ⟨⟩ b hb
    cases hb
  · rintro _ ⟨⟩ r hr
    cases hr

theorem init : (Decoder.init : AuditedDecoder β S).SizesInv B where
  sorted := List.Pairwise.nil
  distinct := ⟨fun _ => List.nodup_nil, fun _ _ _ _ hx => by cases hx⟩
  sized := Decoder.every_init
  decoded := Decoder.every_init

/-- Every action on the device keeps the invariant if QBUF comes with the length
of the buffer. -/
theorem next (hs : s.SizesInv B) {a : DecoderAction β}
    (hkeeps : s.Calls DecoderSession.KeepsSizes (a.map fun b => (b, [])))
    (h : auditedNext B checks s a = some s') : s'.SizesInv B := by
  rcases Decoder.next_cases h with rfl | ⟨guestAddr, -, rfl⟩ | ⟨i, b, ha, -, rfl⟩ |
    ⟨i, session, -, hi, rfl⟩ | ⟨i, c, session, p, ha, hi, hp, rfl⟩
  · exact hs
  · have hreg := sameRegistered_remove s.device.hostMapper guestAddr
    refine ⟨hreg.sorted hs.sorted, hs.distinct, ?_, hs.decoded⟩
    intro j session hj b hb
    obtain ⟨hsize, hregistered⟩ := hs.sized j session hj b hb
    exact ⟨hsize, (hreg.registered _ _).mpr hregistered⟩
  · obtain ⟨b, rfl⟩ := DecoderAction.map_eq_openSession ha
    exact hs.openSession b
  · exact hs.shrink hi (.refl _) fun t ht => by cases ht
  · rw [ha] at hkeeps
    have hkeeps := hkeeps session hi
    cases c with
    | reqbufs queue memory count =>
        obtain ⟨c, hc, rfl⟩ := map_eq_ok.mp hp
        exact hs.reqbufs hi hc
    | qbuf buffer =>
        have hreg := call_sameRegistered (by simp) hp
        obtain ⟨c, hc, rfl⟩ := map_eq_ok.mp hp
        obtain ⟨-, hextents, hlog, -⟩ := qbuf_sizes hkeeps hc
        refine hs.same hi hreg hextents fun r hr => ?_
        rcases hlog r hr with hr | ⟨b, hb, hsize, hbytes⟩
        · exact hs.decoded i session hi r hr
        · rw [hsize, (hs.sized i session hi b hb).1]
          exact hbytes
    | _ =>
        have hsame := call_sameSizes (by simp) (by simp) hp
        refine hs.same hi (call_sameRegistered (by simp) hp) hsame.extents ?_
        rw [hsame.decoded]
        exact hs.decoded i session hi

/-- A buffer of a session shows the size that is registered for its offset. -/
theorem sizes (hs : s.SizesInv B) (hi : s.sessions i = some session)
    {b : DecoderBuffer (S × UInt32)} (hb : b ∈ session.inputBuffers ++ session.outputBuffers)
    {d : VideoDecoder} (hreg : SameRegistered s.device.hostMapper.manager d.hostMapper.manager)
    {v : DecoderV4l2Buffer} (hoffset : v.plane.memOffset = b.offset)
    (hlength : v.plane.length = b.v4l2Buffer.plane.length) : d.Sizes v := by
  refine (MmapMappingManager.registeredSize_eq_some (hreg.sorted hs.sorted)).mpr ?_
  rw [hreg.registered, hoffset, hlength]
  exact (hs.sized i session hi b hb).2

/-- What the invariant says of a state. -/
theorem hold (hs : s.SizesInv B) : s.SizesHold where
  querybuf := by
    intro i session hi queue index v hv
    obtain ⟨b, hb, rfl⟩ := mem_of_querybuf hv
    exact hs.sizes hi hb (.of_eq rfl) rfl rfl
  backing := fun i session hi b hb => (hs.sized i session hi b hb).1
  decoded := hs.decoded

/-- What the invariant says of the next call. -/
theorem law (hs : s.SizesInv B) {a : DecoderAction β}
    (hkeeps : s.Calls DecoderSession.KeepsSizes (a.map fun b => (b, []))) :
    s.SizesLaw B checks a where
  hold := fun s' h => (hs.next hkeeps h).hold
  events := by
    intro s' h id v hv
    have hnone (hsent : s'.device.sent = s.device.sent) : s'.device.Sizes v := by
      have hnil : s.sentSince s' = [] := Decoder.sentSince_of_append hsent
      rw [hnil] at hv
      cases hv
    rcases Decoder.next_cases h with rfl | ⟨guestAddr, -, rfl⟩ | ⟨i, b, -, -, rfl⟩ |
      ⟨i, session, -, -, rfl⟩ | ⟨i, c, session, p, -, hi, hp, rfl⟩
    · exact hnone rfl
    · exact hnone rfl
    · exact hnone rfl
    · exact hnone rfl
    · by_cases hc : c = .processEvents
      · subst hc
        have hreg := call_sameRegistered (by simp) hp
        obtain ⟨c, hc, rfl⟩ := map_eq_ok.mp hp
        obtain ⟨-, news, hsent, hnews⟩ := processEvents_sameSizes hc
        rw [Decoder.sentSince_of_append hsent] at hv
        obtain ⟨b, hb, hoffset, hlength⟩ := hnews id v hv
        exact hs.sizes hi hb hreg hoffset hlength
      · exact hnone (call_sent hp hc)
  qbuf := by
    rintro i buffer session c v rfl hi hc hv
    obtain ⟨hdevice, -, -, hanswer⟩ := qbuf_sizes (hkeeps session hi) hc
    obtain ⟨b, hb, hoffset, hlength⟩ := hanswer v hv
    exact hs.sizes hi hb (.of_eq (congrArg (·.hostMapper.manager) hdevice)) hoffset hlength

end Decoder.SizesInv

end Inv

/-- For every backend and every run on a new device in which every QBUF that
passes the checks comes with the length of the buffer, and on the OUTPUT queue
with no more bytes than that: the sizes of buffers are those that were
registered, wherever they are reported, and those of the backings, and no call of
`decode` asks for more. -/
theorem buffer_sizes_fixed (B : DecoderBackend β S) (checks : Bool)
    {acts : List (DecoderAction β)}
    (hkeeps : Trace.Conforms (auditedNext B checks)
      (fun s a => s.Calls DecoderSession.KeepsSizes (a.map fun b => (b, []))) .init acts) :
    Trace.Conforms (auditedNext B checks) (Decoder.SizesLaw B checks) .init acts :=
  Trace.conforms_of_invariant (P := Decoder.SizesInv B) (fun _ _ _ hs hc h => hs.next hc h)
    (fun _ _ hs hc => hs.law hc) Decoder.SizesInv.init hkeeps

/-- A buffer of a queue, full, with the length of `idleBackend`. -/
def fullBuffer (queue : QueueType) (index : UInt32) : DecoderV4l2Buffer :=
  ⟨queue, index, .mmap, 0, fieldNone, ⟨0, 0⟩, 0, ⟨4096, 4096, 0, 0⟩⟩

/-- Buffers of both queues are queued with their length, and the CAPTURE queue is
reduced. -/
def honestRun : List (DecoderAction Unit) :=
  .openSession 0 (.ok ()) ::
    ([.reqbufs .videoOutputMplane .mmap 1, .reqbufs .videoCaptureMplane .mmap 2,
      .streamon .videoOutputMplane, .streamon .videoCaptureMplane,
      .qbuf (fullBuffer .videoCaptureMplane 1), .qbuf (fullBuffer .videoOutputMplane 0),
      .processEvents, .reqbufs .videoCaptureMplane .mmap 1].map (.call 0))

theorem buffer_sizes_fixed_honest :
    Trace.Conforms (auditedNext idleBackend true) (Decoder.SizesLaw idleBackend true) .init
      honestRun :=
  buffer_sizes_fixed idleBackend true (by decide +kernel)

/-- An OUTPUT buffer of 4096 bytes is queued with the largest length there is. -/
def oversizedRun : List (DecoderAction Unit) :=
  .openSession 0 (.ok ()) ::
    ([.reqbufs .videoOutputMplane .mmap 1,
      .qbuf ⟨.videoOutputMplane, 0, .mmap, 0, fieldNone, ⟨0, 0⟩, 0, ⟨0, 0xffffffff, 0, 0⟩⟩].map
        (.call 0))

/-- QUERYBUF reports that length for the offset at which 4096 bytes are
registered, and that many bytes were to be decoded from the backing. -/
theorem buffer_sizes_fixed_fails_oversized :
    ∃ s session v, Trace.run (auditedNext idleBackend true) .init oversizedRun = some s ∧
      s.sessions 0 = some session ∧ session.querybuf .videoOutputMplane 0 = .ok v ∧
      v.plane.length = 0xffffffff ∧
      s.device.hostMapper.manager.registeredSize v.plane.memOffset = some 4096 ∧
      session.backendSession.2 = [⟨0xffffffff, 4096⟩] ∧
      ¬Trace.Conforms (auditedNext idleBackend true) (Decoder.SizesLaw idleBackend true) .init
        oversizedRun := by
  refine ⟨_, _, _, rfl, rfl, rfl, rfl, rfl, rfl, fun h => ?_⟩
  change Trace.Conforms _ _ _ (oversizedRun.take 2 ++ [.call 0 (.qbuf _)]) at h
  have hlaw := Trace.conforms_at h rfl
  have hdecoded := (hlaw.hold _ rfl).decoded 0 _ rfl ⟨0xffffffff, 4096⟩ List.mem_cons_self
  revert hdecoded
  decide

end VirtioMedia.Device
