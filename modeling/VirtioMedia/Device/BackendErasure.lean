import VirtioMedia.Device.DecoderCalls
import VirtioMedia.Lib.Trace

/-!
# Maps between backends

Some results need to know more than a backend tells: which buffers it was handed,
or how large its backings are. This is written down beside the backend. A map
from such a backend to the one under it commutes with every call, so what is
written down does not change what the device does, and every run of the device is
one of the device that writes it down.
-/

namespace VirtioMedia.Device

open V4l2

variable {β β' S S' : Type}

/-- The states of a backend are mapped to those of another one, which gives the
same answers. -/
structure DecoderBackend.Hom (B : DecoderBackend β S) (C : DecoderBackend β' S') (f : β → β')
    (g : S → S') : Prop where
  new : ∀ b queue index size, C.new (f b) queue index size =
    ((B.new b queue index size).1.map g, f (B.new b queue index size).2)
  fdForPlane : ∀ x n, C.fdForPlane (g x) n = B.fdForPlane x n
  decode : ∀ b x index timestamp bytesUsed, C.decode (f b) (g x) index timestamp bytesUsed =
    ((B.decode b x index timestamp bytesUsed).1, f (B.decode b x index timestamp bytesUsed).2)
  useAsOutput : ∀ b index x, C.useAsOutput (f b) index (g x) =
    ((B.useAsOutput b index x).1, g (B.useAsOutput b index x).2.1, f (B.useAsOutput b index x).2.2)
  drain : ∀ b, C.drain (f b) = ((B.drain b).1, f (B.drain b).2)
  clearOutputBuffers : ∀ b, C.clearOutputBuffers (f b) =
    ((B.clearOutputBuffers b).1, f (B.clearOutputBuffers b).2)
  nextEvent : ∀ b, C.nextEvent (f b) = ((B.nextEvent b).1, f (B.nextEvent b).2)
  sizeimages : ∀ b direction, C.sizeimages (f b) direction = B.sizeimages b direction
  visibleRect : ∀ b, C.visibleRect (f b) = B.visibleRect b
  buffersAllocated : ∀ b direction count, C.buffersAllocated (f b) direction count =
    f (B.buffersAllocated b direction count)
  streamingState : ∀ b direction streaming, C.streamingState (f b) direction streaming =
    f (B.streamingState b direction streaming)

/-! ### The device over the other backend -/

section Maps

variable (f : β → β') (g : S → S')

abbrev DecoderBuffer.map (b : DecoderBuffer S) : DecoderBuffer S' := ⟨b.v4l2Buffer, g b.backing⟩

def DecoderSession.map (s : DecoderSession β S) : DecoderSession β' S' where
  id := s.id
  state := s.state
  inputBuffers := s.inputBuffers.map (·.map g)
  outputBuffers := s.outputBuffers.map (·.map g)
  pendingOutputBuffers := s.pendingOutputBuffers
  sequenceCpt := s.sequenceCpt
  srcChangeSubscribed := s.srcChangeSubscribed
  eosSubscribed := s.eosSubscribed
  cropRectangle := s.cropRectangle
  backendSession := f s.backendSession
  formatChangePending := s.formatChangePending

def Called.map {α : Type} (c : Called β S α) : Called β' S' α :=
  ⟨c.result, c.device, c.session.map f g⟩

def Decoder.map (s : Decoder β S) : Decoder β' S' :=
  ⟨s.device, fun i => (s.sessions i).map (·.map f g)⟩

theorem DecoderSession.buffers_map (s : DecoderSession β S) (queue : QueueType) :
    (s.map f g).buffers queue = (s.buffers queue).map (List.map (·.map g)) := by
  cases queue <;> rfl

theorem DecoderSession.setBuffers_map (s : DecoderSession β S) (queue : QueueType)
    (bufs : List (DecoderBuffer S)) :
    (s.map f g).setBuffers queue (bufs.map (·.map g)) = (s.setBuffers queue bufs).map f g := by
  cases queue <;> rfl

theorem unregister_map (d : VideoDecoder) (bufs : List (DecoderBuffer S)) :
    d.unregister (bufs.map (·.map g)) = d.unregister bufs := by
  rw [VideoDecoder.unregister, VideoDecoder.unregister, List.map_map]
  rfl

theorem clearQueued_map (bufs : List (DecoderBuffer S)) :
    clearQueued (bufs.map (·.map g)) = (clearQueued bufs).map (·.map g) := by
  rw [clearQueued, clearQueued, List.map_map, List.map_map]
  rfl

theorem set_map (bufs : List (DecoderBuffer S)) (n : Nat) (b : DecoderBuffer S) :
    (bufs.map (·.map g)).set n (b.map g) = (bufs.set n b).map (·.map g) :=
  List.map_set.symm

theorem Decoder.setSession_map (s : Decoder β S) (i : UInt32)
    (v : Option (DecoderSession β S)) :
    (s.setSession i v).map f g = (s.map f g).setSession i (v.map (·.map f g)) := by
  refine congrArg (Decoder.mk s.device) (funext fun j => ?_)
  simp only [Decoder.setSession]
  split <;> rfl

/-- A completed OUTPUT buffer is completed in both. -/
theorem inputBufferDone_map (d : VideoDecoder) (s : DecoderSession β S) (bufferId : UInt32)
    (error : Int) :
    d.inputBufferDone (s.map f g) bufferId error =
      (d.inputBufferDone s bufferId error).map f g := by
  have hget : (s.map f g).inputBuffers[bufferId.toNat]? = _ := List.getElem?_map
  unfold VideoDecoder.inputBufferDone
  rw [hget]
  cases s.inputBuffers[bufferId.toNat]? with
  | none => rfl
  | some buffer =>
      simp only [Option.map_some, DecoderSession.map, Called.map]
      rw [← set_map]

theorem frameCompleted_map {checks : Bool} (d : VideoDecoder) (s : DecoderSession β S)
    (bufferId : UInt32) (timestamp : Timeval) (bytesUsed : List UInt32) (isLast : Bool) :
    d.frameCompleted checks (s.map f g) bufferId timestamp bytesUsed isLast =
      (d.frameCompleted checks s bufferId timestamp bytesUsed isLast).map (·.map f g) := by
  have hget : (s.map f g).outputBuffers[bufferId.toNat]? = _ := List.getElem?_map
  unfold VideoDecoder.frameCompleted
  rw [hget]
  cases s.outputBuffers[bufferId.toNat]? with
  | none => rfl
  | some buffer =>
      have hset (v : DecoderV4l2Buffer) : (s.map f g).outputBuffers.set bufferId.toNat
          ⟨v, g buffer.backing⟩ = _ := set_map g s.outputBuffers bufferId.toNat ⟨v, buffer.backing⟩
      have hcount : (s.map f g).sequenceCpt = s.sequenceCpt := rfl
      have hpending : (s.map f g).formatChangePending = s.formatChangePending := rfl
      simp only [Option.map_some, hset, hcount, hpending]
      by_cases hoverflow : checks ∧ s.sequenceCpt.toNat + 1 = 2 ^ 32
      · rw [if_pos hoverflow, if_pos hoverflow]
        rfl
      · rw [if_neg hoverflow, if_neg hoverflow]
        cases isLast with
        | false => rfl
        | true => cases s.formatChangePending <;> rfl

end Maps

/-! ### Calls -/

namespace DecoderBackend.Hom

variable {B : DecoderBackend β S} {C : DecoderBackend β' S'} {f : β → β'} {g : S → S'}
  {checks : Bool}

/-- By induction on the pending buffers. -/
theorem map_sendPending (h : B.Hom C f g) (is : List UInt32) (bufs : List (DecoderBuffer S))
    (b : β) : sendPending C is (bufs.map (·.map g)) (f b) =
      (sendPending B is bufs b).map fun r => (r.1, r.2.1.map (·.map g), f r.2.2) := by
  induction is generalizing bufs b with
  | nil => rfl
  | cons i rest ih =>
      rw [sendPending, sendPending, List.getElem?_map]
      cases bufs[i.toNat]? with
      | none => rfl
      | some buffer =>
          have huse := h.useAsOutput b buffer.v4l2Buffer.index buffer.backing
          have hset := set_map g bufs i.toNat { buffer with
            backing := (B.useAsOutput b buffer.v4l2Buffer.index buffer.backing).2.1 }
          simp only [DecoderBuffer.map] at hset
          simp only [Option.map_some, DecoderBuffer.map, huse, hset]
          cases (B.useAsOutput b buffer.v4l2Buffer.index buffer.backing).1 with
          | error e => rfl
          | ok u => exact ih _ _

theorem map_trySend (h : B.Hom C f g) (s : DecoderSession β S) :
    (s.map f g).trySendPendingOutputBuffers C =
      (s.trySendPendingOutputBuffers B).map fun r => (r.1, r.2.map f g) := by
  have hsend := h.map_sendPending s.pendingOutputBuffers s.outputBuffers s.backendSession
  simp only [DecoderSession.trySendPendingOutputBuffers, DecoderSession.map, hsend]
  split
  · cases sendPending B s.pendingOutputBuffers s.outputBuffers s.backendSession with
    | error e => rfl
    | ok r => rfl
  · rfl

/-- A call that ends with the pending buffers. -/
theorem map_trySend_called {α : Type} (h : B.Hom C f g) (d : VideoDecoder)
    (k : Except Int Unit → Except Int α) (s : DecoderSession β S) :
    ((s.map f g).trySendPendingOutputBuffers C).map (fun r => Called.mk (k r.1) d r.2) =
      ((s.trySendPendingOutputBuffers B).map fun r => Called.mk (k r.1) d r.2).map
        (·.map f g) := by
  rw [h.map_trySend]
  cases s.trySendPendingOutputBuffers B with
  | error e => rfl
  | ok r => rfl

/-- By induction on the indices. -/
theorem map_allocateBuffers (h : B.Hom C f g) (queue : QueueType) (size : UInt32) (is : List Nat)
    (d : VideoDecoder) (b : β) : allocateBuffers C checks queue size is d (f b) =
      (allocateBuffers B checks queue size is d b).map fun r =>
        (r.1.map (List.map (·.map g)), r.2.1, f r.2.2) := by
  induction is generalizing d b with
  | nil => rfl
  | cons i rest ih =>
      rw [allocateBuffers, allocateBuffers]
      cases d.hostMapper.manager.registerBuffer checks none size with
      | none => rfl
      | some p =>
          obtain ⟨res, m⟩ := p
          cases res with
          | error e => rfl
          | ok offset =>
              dsimp only
              rw [h.new]
              obtain ⟨created, b'⟩ := B.new b queue (.ofNat i) size
              cases created with
              | error e => rfl
              | ok backing =>
                  simp only [Except.map]
                  rw [ih]
                  cases allocateBuffers B checks queue size rest
                    { d with hostMapper := { d.hostMapper with manager := m } } b' with
                  | error e => rfl
                  | ok r =>
                      obtain ⟨news, d', b''⟩ := r
                      cases news <;> rfl

/-- REQBUFS creates corresponding backings. -/
theorem map_reqbufs (h : B.Hom C f g) (d : VideoDecoder) (s : DecoderSession β S)
    (queue : QueueType) (memory : MemoryType) (count : UInt32) :
    d.reqbufs C checks (s.map f g) queue memory count =
      (d.reqbufs B checks s queue memory count).map (·.map f g) := by
  let allocated (t : DecoderSession β' S') : DecoderSession β' S' :=
    t.withBackend (C.buffersAllocated t.backendSession queue.direction count)
  have hallocated (t : DecoderSession β S) (bufs : List (DecoderBuffer S)) :
      allocated ((t.map f g).setBuffers queue (bufs.map (·.map g))) =
        ((t.setBuffers queue bufs).withBackend (B.buffersAllocated
          (t.setBuffers queue bufs).backendSession queue.direction count)).map f g := by
    rw [DecoderSession.setBuffers_map]
    simp only [allocated, DecoderSession.map, DecoderSession.withBackend, h.buffersAllocated]
  unfold VideoDecoder.reqbufs
  split
  · rfl
  · rw [DecoderSession.buffers_map]
    cases s.buffers queue with
    | none => rfl
    | some bufs =>
        have hsize : C.sizeimages (s.map f g).backendSession queue.direction =
            B.sizeimages s.backendSession queue.direction := h.sizeimages _ _
        simp only [Option.map_some, List.length_map, hsize]
        split
        · rw [← List.map_drop, ← List.map_take, unregister_map]
          exact congrArg (fun t => Except.ok (Called.mk (.ok count) _ t)) (hallocated s _)
        · cases B.sizeimages s.backendSession queue.direction with
          | nil => rfl
          | cons sizeimage _ =>
              have halloc : allocateBuffers C checks queue sizeimage
                  (List.range' bufs.length (count.toNat - bufs.length)) d
                    (s.map f g).backendSession = _ := h.map_allocateBuffers queue sizeimage _ d _
              dsimp only
              rw [halloc]
              cases allocateBuffers B checks queue sizeimage
                  (List.range' bufs.length (count.toNat - bufs.length)) d s.backendSession with
              | error e => rfl
              | ok r =>
                  obtain ⟨res, d', b⟩ := r
                  cases res with
                  | error e => rfl
                  | ok news =>
                      simp only [Except.map, ← List.map_append]
                      exact congrArg (fun t => Except.ok (Called.mk (.ok count) d' t))
                        (hallocated (s.withBackend b) _)

theorem map_streamon (h : B.Hom C f g) (d : VideoDecoder) (s : DecoderSession β S)
    (queue : QueueType) :
    d.streamon C (s.map f g) queue = (d.streamon B s queue).map (·.map f g) := by
  unfold VideoDecoder.streamon
  rw [DecoderSession.buffers_map]
  cases s.buffers queue with
  | none => rfl
  | some bufs =>
      cases bufs with
      | nil => rfl
      | cons b rest =>
          have hstate : C.streamingState (s.map f g).backendSession queue.direction true =
              f (B.streamingState s.backendSession queue.direction true) := h.streamingState _ _ _
          simp only [Option.map_some, List.map_cons, hstate]
          exact h.map_trySend_called d id { s with
            state := _
            backendSession := B.streamingState s.backendSession queue.direction true }

theorem map_streamoff (h : B.Hom C f g) (d : VideoDecoder) (s : DecoderSession β S)
    (queue : QueueType) :
    d.streamoff C (s.map f g) queue = (d.streamoff B s queue).map f g := by
  unfold VideoDecoder.streamoff
  cases queue.direction with
  | output => simp only [DecoderSession.map, Called.map, clearQueued_map, h.streamingState]
  | capture =>
      have hclear := h.clearOutputBuffers s.backendSession
      simp only [DecoderSession.map, hclear]
      obtain ⟨res, b⟩ := B.clearOutputBuffers s.backendSession
      cases res with
      | error e => rfl
      | ok u => simp only [DecoderSession.map, Called.map, clearQueued_map, h.streamingState]

/-- QBUF hands corresponding backings to the backend. -/
theorem map_qbuf (h : B.Hom C f g) (d : VideoDecoder) (s : DecoderSession β S)
    (buffer : DecoderV4l2Buffer) :
    d.qbuf C (s.map f g) buffer = (d.qbuf B s buffer).map (·.map f g) := by
  unfold VideoDecoder.qbuf
  rw [DecoderSession.buffers_map]
  cases s.buffers buffer.queue with
  | none => rfl
  | some bufs =>
      simp only [Option.map_some, List.getElem?_map]
      cases bufs[buffer.index.toNat]? with
      | none => rfl
      | some host =>
          have hstore (v : DecoderV4l2Buffer) : (s.map f g).setBuffers buffer.queue
              ((bufs.map (·.map g)).set buffer.index.toNat ⟨v, g host.backing⟩) =
                (s.setBuffers buffer.queue
                  (bufs.set buffer.index.toNat { host with v4l2Buffer := v })).map f g := by
            rw [← DecoderSession.setBuffers_map, ← set_map]
          dsimp only [Option.map_some]
          simp only [hstore]
          split
          · rfl
          · cases buffer.queue.direction with
            | output =>
                have hdecode (i : UInt32) (t : Timeval) (n : UInt32) :
                    C.decode (s.map f g).backendSession (g host.backing) i t n = _ :=
                  h.decode s.backendSession host.backing i t n
                simp only [hdecode]
                obtain ⟨res, b⟩ := B.decode s.backendSession host.backing _ _ _
                cases res with
                | error e => rfl
                | ok u => rfl
            | capture =>
                exact h.map_trySend_called d (·.map fun _ => _) { s.setBuffers buffer.queue _ with
                  pendingOutputBuffers := s.pendingOutputBuffers ++ [buffer.index] }

theorem map_decoderCmd (h : B.Hom C f g) (d : VideoDecoder) (s : DecoderSession β S)
    (cmd : Option DecoderCmd) :
    d.decoderCmd C (s.map f g) cmd = (d.decoderCmd B s cmd).map (·.map f g) := by
  cases cmd with
  | none => rfl
  | some cmd =>
      have htry : (s.map f g).tryDecoderCmd cmd = s.tryDecoderCmd cmd := rfl
      have hstate : (s.map f g).state = s.state := rfl
      simp only [VideoDecoder.decoderCmd, htry, hstate]
      cases s.tryDecoderCmd cmd with
      | error e => rfl
      | ok cmd =>
          cases cmd with
          | stop =>
              have hdrain : C.drain (s.map f g).backendSession = _ := h.drain s.backendSession
              simp only [hdrain]
              cases s.state <;> rfl
          | start =>
              have hstart : C.streamingState (s.map f g).backendSession .capture true = _ :=
                h.streamingState s.backendSession .capture true
              simp only [hstart]
              cases s.state with
              | stopped inputStreaming outputStreaming =>
                  dsimp only
                  split
                  · exact h.map_trySend_called d (·.map fun _ => _) { s with
                      state := .running
                      backendSession := B.streamingState s.backendSession .capture true }
                  · exact h.map_trySend_called d (·.map fun _ => _) s
              | running => rfl
              | paused => rfl
          | pause =>
              dsimp only
              split <;> rfl
          | resume =>
              dsimp only
              split <;> rfl

/-- Corresponding backends have the same events ready. -/
theorem map_processEvents (h : B.Hom C f g) (d : VideoDecoder) (s : DecoderSession β S) :
    d.processEvents C checks (s.map f g) = (d.processEvents B checks s).map (·.map f g) := by
  have hevent : C.nextEvent (s.map f g).backendSession = _ := h.nextEvent s.backendSession
  simp only [VideoDecoder.processEvents, hevent, h.visibleRect]
  cases (B.nextEvent s.backendSession).1 with
  | none => rfl
  | some ev =>
      cases ev with
      | streamFormatChanged => rfl
      | inputBufferDone bufferId error =>
          exact congrArg Except.ok (inputBufferDone_map f g d
            (s.withBackend (B.nextEvent s.backendSession).2) bufferId error)
      | frameCompleted bufferId timestamp bytesUsed isLast =>
          exact frameCompleted_map f g d (s.withBackend (B.nextEvent s.backendSession).2) bufferId
            timestamp bytesUsed isLast

theorem map_doMmap (h : B.Hom C f g) (d : VideoDecoder) (s : DecoderSession β S)
    (flags offset : UInt32) (answer : Except Int UInt64) :
    d.doMmap C (s.map f g) flags offset answer =
      (d.doMmap B s flags offset answer).map (·.map f g) := by
  unfold VideoDecoder.doMmap
  have hfind : ((s.map f g).inputBuffers ++ (s.map f g).outputBuffers).find?
      (fun b => b.v4l2Buffer.plane.memOffset == offset) =
        ((s.inputBuffers ++ s.outputBuffers).find?
          fun b => b.v4l2Buffer.plane.memOffset == offset).map (·.map g) := by
    simp only [DecoderSession.map, ← List.map_append, List.find?_map]
    rfl
  rw [hfind]
  cases (s.inputBuffers ++ s.outputBuffers).find? fun b =>
      b.v4l2Buffer.plane.memOffset == offset with
  | none => rfl
  | some buffer =>
      simp only [Option.map_some, h.fdForPlane]
      cases B.fdForPlane buffer.backing 0 with
      | none => rfl
      | some fd => rfl

/-- Every call on a session commutes with the map. -/
theorem map_call (h : B.Hom C f g) (d : VideoDecoder) (s : DecoderSession β S) (c : DecoderCall) :
    VideoDecoder.call C checks d (s.map f g) c =
      (VideoDecoder.call B checks d s c).map fun p => (p.1, p.2.map f g) := by
  have hafter {α : Type} (x : Except Panic (Called β S α)) :
      (x.map (·.map f g)).map (·.after) = (x.map (·.after)).map fun p => (p.1, p.2.map f g) := by
    cases x with
    | error e => rfl
    | ok c => rfl
  cases c with
  | reqbufs queue memory count =>
      exact (congrArg (Except.map _) (h.map_reqbufs d s queue memory count)).trans (hafter _)
  | qbuf buffer => exact (congrArg (Except.map _) (h.map_qbuf d s buffer)).trans (hafter _)
  | streamon queue => exact (congrArg (Except.map _) (h.map_streamon d s queue)).trans (hafter _)
  | streamoff queue => exact congrArg (fun c => Except.ok c.after) (h.map_streamoff d s queue)
  | decoderCmd cmd => exact (congrArg (Except.map _) (h.map_decoderCmd d s cmd)).trans (hafter _)
  | subscribeEvent event =>
      simp only [VideoDecoder.call, VideoDecoder.subscribeEvent]
      split <;> rfl
  | unsubscribeEvent event =>
      simp only [VideoDecoder.call, VideoDecoder.unsubscribeEvent]
      split <;> rfl
  | mmap flags offset answer =>
      exact (congrArg (Except.map _) (h.map_doMmap d s flags offset answer)).trans (hafter _)
  | processEvents => exact (congrArg (Except.map _) (h.map_processEvents d s)).trans (hafter _)

/-! ### Runs -/

/-- Every action on the device commutes with the map, also where it panics. -/
theorem map_step (h : B.Hom C f g) (s : Decoder β S) (a : DecoderAction β) :
    (s.map f g).step C checks (a.map f) = (s.step B checks a).map (·.map f g) := by
  have hsessions (i : UInt32) : (s.map f g).sessions i = (s.sessions i).map (·.map f g) := rfl
  cases a with
  | openSession i answer =>
      simp only [Decoder.step, DecoderAction.map, hsessions]
      cases s.sessions i with
      | none =>
          cases answer with
          | error e => rfl
          | ok b =>
              exact congrArg Except.ok (Decoder.setSession_map f g s i (some (.new i b))).symm
      | some session => cases answer <;> rfl
  | closeSession i =>
      simp only [Decoder.step, DecoderAction.map, hsessions]
      cases s.sessions i with
      | none => rfl
      | some session =>
          have hclose : s.device.closeSession (session.map f g) =
              s.device.closeSession session := by
            simp only [VideoDecoder.closeSession, DecoderSession.map, ← List.map_append,
              unregister_map]
          simp only [Option.map_some, Except.map, Decoder.setSession_map]
          change Except.ok (Decoder.setSession ⟨s.device.closeSession (session.map f g), _⟩ _ _) = _
          rw [hclose]
          rfl
  | munmap guestAddr => rfl
  | call i c =>
      simp only [Decoder.step, DecoderAction.map, hsessions]
      cases s.sessions i with
      | none => rfl
      | some session =>
          have hcall : VideoDecoder.call C checks (s.map f g).device (session.map f g) c = _ :=
            h.map_call s.device session c
          simp only [Option.map_some, hcall]
          cases VideoDecoder.call B checks s.device session c with
          | error e => rfl
          | ok p =>
              exact congrArg Except.ok
                (Decoder.setSession_map f g { s with device := p.1 } i (some p.2)).symm

/-- Every command commutes with the map. -/
theorem map_next (h : B.Hom C f g) (s : Decoder β S) (a : DecoderAction β) :
    (s.map f g).next C checks (a.map f) = (s.next B checks a).map (·.map f g) := by
  unfold Decoder.next
  rw [h.map_step]
  cases s.step B checks a with
  | error e => rfl
  | ok t => rfl

/-- The run of a device that writes something down, starting with `e` in a new
session, is the run of the device under it. -/
theorem run_erase (h : B.Hom C f g) {e : β' → β} (he : ∀ b, f (e b) = b)
    (acts : List (DecoderAction β')) :
    (Trace.run (fun s a => Decoder.next B checks s (a.map e)) .init acts).map (·.map f g) =
      Trace.run (Decoder.next C checks) .init acts := by
  have haction (a : DecoderAction β') : (a.map e).map f = a := by
    cases a with
    | openSession i answer => cases answer <;> simp [DecoderAction.map, Except.map, he]
    | closeSession i => rfl
    | munmap guestAddr => rfl
    | call i c => rfl
  refine (Trace.run_map (f := Decoder.map f g) (fun s a => ?_) .init acts).symm
  rw [← h.map_next, haction]

end DecoderBackend.Hom

end VirtioMedia.Device
