import VirtioMedia.Device.Decoder
import VirtioMedia.Lib.Fallible

/-!
# What each call of the decoder can do

One case lemma for each call. A call is refused and changes nothing, or it
takes one of a few ways, each with the state that it leaves.
-/

namespace VirtioMedia.Device

open V4l2 Fallible

variable {β S : Type} {B : DecoderBackend β S} {checks : Bool} {d : VideoDecoder}
  {s : DecoderSession β S}

theorem DecoderSession.buffers_cases {queue : QueueType} {bufs : List (DecoderBuffer S)}
    (h : s.buffers queue = some bufs) :
    (queue = .videoOutputMplane ∧ bufs = s.inputBuffers) ∨
      (queue = .videoCaptureMplane ∧ bufs = s.outputBuffers) := by
  unfold DecoderSession.buffers at h
  split at h
  · exact .inl ⟨rfl, (Option.some.inj h).symm⟩
  · exact .inr ⟨rfl, (Option.some.inj h).symm⟩
  · cases h

/-- The session with another state of its backend. -/
def DecoderSession.withBackend (s : DecoderSession β S) (b : β) : DecoderSession β S :=
  { s with backendSession := b }

/-- Pending buffers wait, or all of them go to the backend. -/
theorem trySendPendingOutputBuffers_cases {r : Except Int Unit × DecoderSession β S}
    (h : s.trySendPendingOutputBuffers B = .ok r) :
    (s.state.isOutputStreaming = false ∧ r = (.ok (), s)) ∨
      (s.state.isOutputStreaming = true ∧
        ∃ q, sendPending B s.pendingOutputBuffers s.outputBuffers s.backendSession = .ok q ∧
          r = (q.1, { s with
            outputBuffers := q.2.1
            pendingOutputBuffers := []
            backendSession := q.2.2 })) := by
  unfold DecoderSession.trySendPendingOutputBuffers at h
  split at h
  · rename_i hstate
    obtain ⟨q, hq, rfl⟩ := map_eq_ok.mp h
    exact .inr ⟨hstate, q, hq, rfl⟩
  · rename_i hstate
    cases h
    exact .inl ⟨by simpa using hstate, rfl⟩

/-- REQBUFS is refused, shrinks the queue, or allocates. -/
theorem reqbufs_cases {queue : QueueType} {memory : MemoryType} {count : UInt32}
    {c : Called β S UInt32} (h : d.reqbufs B checks s queue memory count = .ok c) :
    c = ⟨.error einval, d, s⟩ ∨ ∃ bufs, s.buffers queue = some bufs ∧
      (((memory = .mmap ∧ count.toNat < bufs.length) ∧
        c = ⟨.ok count, d.unregister (bufs.drop count.toNat),
          (s.setBuffers queue (bufs.take count.toNat)).withBackend
            (B.buffersAllocated s.backendSession queue.direction count)⟩) ∨
      ((memory = .mmap ∧ bufs.length ≤ count.toNat) ∧ ∃ size r,
        (B.sizeimages s.backendSession queue.direction).head? = some size ∧
        allocateBuffers B checks queue size
          (List.range' bufs.length (count.toNat - bufs.length)) d s.backendSession = .ok r ∧
        ((∃ e, r.1 = .error e ∧ c = ⟨.error e, r.2.1, s.withBackend r.2.2⟩) ∨
          ∃ news, r.1 = .ok news ∧ c = ⟨.ok count, r.2.1,
            (s.setBuffers queue (bufs ++ news)).withBackend
              (B.buffersAllocated r.2.2 queue.direction count)⟩))) := by
  unfold VideoDecoder.reqbufs at h
  split at h
  · cases h
    exact .inl rfl
  · rename_i hmemory
    split at h
    · cases h
      exact .inl rfl
    · rename_i bufs hbufs
      refine or_iff_not_imp_left.mpr fun hrefused => ⟨bufs, hbufs, ?_⟩
      split at h
      · rename_i hlt
        cases h
        exact .inl ⟨⟨not_not.mp hmemory, hlt⟩, by cases queue <;> rfl⟩
      · rename_i hge
        split at h
        · cases h
          exact absurd rfl hrefused
        · rename_i size _ hsizes
          obtain ⟨r, hr, hc⟩ := map_eq_ok.mp h
          refine .inr ⟨⟨not_not.mp hmemory, not_lt.mp hge⟩, size, r, by rw [hsizes]; rfl, hr, ?_⟩
          subst hc
          obtain ⟨res, d', b'⟩ := r
          cases res with
          | error e => exact .inl ⟨e, rfl, rfl⟩
          | ok news => exact .inr ⟨news, rfl, by cases queue <;> rfl⟩

/-- STREAMON is refused, or the state changes and pending buffers are sent. -/
theorem streamon_cases {queue : QueueType} {c : Called β S Unit}
    (h : d.streamon B s queue = .ok c) :
    c = ⟨.error einval, d, s⟩ ∨ ∃ state r,
      ((queue = .videoOutputMplane ∧ state = s.state.inputStreamon) ∨
        (queue = .videoCaptureMplane ∧ state = s.state.outputStreamon)) ∧
      { s with
        state
        backendSession := B.streamingState s.backendSession queue.direction true
      }.trySendPendingOutputBuffers B = .ok r ∧ c = ⟨r.1, d, r.2⟩ := by
  unfold VideoDecoder.streamon at h
  split at h
  · cases h
    exact .inl rfl
  · cases h
    exact .inl rfl
  · rename_i hbufs
    obtain ⟨r, hr, rfl⟩ := map_eq_ok.mp h
    refine .inr ⟨_, r, ?_, hr, rfl⟩
    rcases DecoderSession.buffers_cases hbufs with ⟨rfl, -⟩ | ⟨rfl, -⟩
    · exact .inl ⟨rfl, rfl⟩
    · exact .inr ⟨rfl, rfl⟩

/-- What QBUF stores in an OUTPUT buffer. -/
def DecoderV4l2Buffer.submit (host guest : DecoderV4l2Buffer) : DecoderV4l2Buffer :=
  { host with
    field := fieldNone
    timestamp := guest.timestamp
    plane := host.plane.update guest.plane }

/-- The number of bytes that QBUF has decoded. -/
def DecoderV4l2Buffer.payload (guest : DecoderV4l2Buffer) : UInt32 :=
  if guest.plane.bytesused = 0 then guest.plane.length else guest.plane.bytesused

/-- What QBUF stores in a CAPTURE buffer. -/
def DecoderV4l2Buffer.offer (host guest : DecoderV4l2Buffer) : DecoderV4l2Buffer :=
  { (host.addFlags bufFlagQueued).clearFlags bufFlagLast with
    plane := host.plane.update guest.plane }

/-- A buffer as the guest names it, with nothing in it. -/
def guestBuffer (queue : QueueType) (index : UInt32) : DecoderV4l2Buffer :=
  ⟨queue, index, .mmap, 0, fieldNone, ⟨0, 0⟩, 0, ⟨0, 0, 0, 0⟩⟩

/-- The buffer that QBUF is for, if it passes the checks. -/
def DecoderSession.accepts (s : DecoderSession β S) (buffer : DecoderV4l2Buffer) :
    Option (DecoderBuffer S) :=
  ((s.buffers buffer.queue).bind (·[buffer.index.toNat]?)).filter fun host =>
    buffer.memory = host.v4l2Buffer.memory

/-- QBUF is refused, submits a job, or offers a buffer for output. -/
theorem qbuf_cases {buffer : DecoderV4l2Buffer} {c : Called β S DecoderV4l2Buffer}
    (h : d.qbuf B s buffer = .ok c) :
    (s.accepts buffer = none ∧ c = ⟨.error einval, d, s⟩) ∨
      (∃ host, s.accepts buffer = some host ∧ buffer.queue = .videoOutputMplane ∧
        s.inputBuffers[buffer.index.toNat]? = some host ∧
        ∃ res b, B.decode s.backendSession host.backing host.v4l2Buffer.index
            buffer.timestamp buffer.payload = (res, b) ∧
          ∃ v, v = (if res.toOption.isSome then
              (host.v4l2Buffer.submit buffer).addFlags bufFlagQueued
            else host.v4l2Buffer.submit buffer) ∧
          c = ⟨res.map fun _ => v, d, { s with
            inputBuffers := s.inputBuffers.set buffer.index.toNat { host with v4l2Buffer := v }
            backendSession := b }⟩) ∨
      ∃ host, s.accepts buffer = some host ∧ buffer.queue = .videoCaptureMplane ∧
        s.outputBuffers[buffer.index.toNat]? = some host ∧
        ∃ r, { s with
            outputBuffers := s.outputBuffers.set buffer.index.toNat
              { host with v4l2Buffer := host.v4l2Buffer.offer buffer }
            pendingOutputBuffers := s.pendingOutputBuffers ++ [buffer.index]
          }.trySendPendingOutputBuffers B = .ok r ∧
          c = ⟨r.1.map fun _ => host.v4l2Buffer.offer buffer, d, r.2⟩ := by
  unfold VideoDecoder.qbuf at h
  split at h
  · rename_i hbufs
    cases h
    exact .inl ⟨by simp [DecoderSession.accepts, hbufs], rfl⟩
  · rename_i bufs hbufs
    split at h
    · rename_i hhost
      cases h
      exact .inl ⟨by simp [DecoderSession.accepts, hbufs, hhost], rfl⟩
    · rename_i host hhost
      split at h
      · rename_i hmemory
        cases h
        exact .inl ⟨by simp [DecoderSession.accepts, hbufs, hhost, Option.filter, hmemory], rfl⟩
      · rename_i hmemory
        have haccepts : s.accepts buffer = some host := by
          simp [DecoderSession.accepts, hbufs, hhost, Option.filter, not_not.mp hmemory]
        right
        rcases DecoderSession.buffers_cases hbufs with ⟨hq, rfl⟩ | ⟨hq, rfl⟩
        · left
          refine ⟨host, haccepts, hq, hhost, ?_⟩
          simp only [hq, QueueType.direction, DecoderSession.setBuffers] at h
          split at h
          · rename_i e b hdec
            cases h
            exact ⟨_, b, hdec, _, rfl, rfl⟩
          · rename_i b hdec
            cases h
            exact ⟨_, b, hdec, _, rfl, rfl⟩
        · right
          refine ⟨host, haccepts, hq, hhost, ?_⟩
          simp only [hq, QueueType.direction, DecoderSession.setBuffers] at h
          obtain ⟨r, hr, rfl⟩ := map_eq_ok.mp h
          exact ⟨r, hr, rfl⟩

theorem tryDecoderCmd_eq_ok {cmd cmd' : DecoderCmd} (h : s.tryDecoderCmd cmd = .ok cmd') :
    cmd' = cmd := by
  unfold DecoderSession.tryDecoderCmd at h
  split at h
  · cases h
  · cases h
  · exact (Except.ok.inj h).symm

/-- DECODER_CMD leaves the session as it is, or it is one of the four
transitions. -/
theorem decoderCmd_cases {cmd : Option DecoderCmd} {c : Called β S DecoderCmd}
    (h : d.decoderCmd B s cmd = .ok c) :
    (c.device = d ∧ c.session = s) ∨
      (cmd = some .stop ∧ (∀ i o, s.state ≠ .stopped i o) ∧
        c = ⟨(B.drain s.backendSession).1.map fun _ => .stop, d, { s with
          state := .stopped true true
          backendSession := (B.drain s.backendSession).2 }⟩) ∨
      (cmd = some .start ∧ ∃ s' r,
        ((s.state = .stopped true true ∧ s' = { s with
            state := .running
            backendSession := B.streamingState s.backendSession .capture true }) ∨
          (∃ i o, s.state = .stopped i o ∧ (i && o) = false ∧ s' = s)) ∧
        s'.trySendPendingOutputBuffers B = .ok r ∧ c = ⟨r.1.map fun _ => .start, d, r.2⟩) ∨
      (cmd = some .pause ∧ s.state = .running ∧ c = ⟨.ok .pause, d, { s with state := .paused }⟩) ∨
      (cmd = some .resume ∧ s.state = .paused ∧
        c = ⟨.ok .resume, d, { s with state := .running }⟩) := by
  unfold VideoDecoder.decoderCmd at h
  split at h
  · cases h
    exact .inl ⟨rfl, rfl⟩
  · rename_i cmd
    split at h
    · cases h
      exact .inl ⟨rfl, rfl⟩
    · rename_i htry
      rw [← tryDecoderCmd_eq_ok htry]
      split at h
      · cases h
        exact .inl ⟨rfl, rfl⟩
      · rename_i hstate
        cases h
        exact .inr (.inl ⟨rfl, hstate, rfl⟩)
    · rename_i htry
      rw [← tryDecoderCmd_eq_ok htry]
      split at h
      · rename_i i o hstate
        obtain ⟨r, hr, rfl⟩ := map_eq_ok.mp h
        refine .inr (.inr (.inl ⟨rfl, _, r, ?_, hr, rfl⟩))
        split
        · rename_i hboth
          obtain ⟨rfl, rfl⟩ := Bool.and_eq_true_iff.mp hboth
          exact .inl ⟨hstate, rfl⟩
        · rename_i hboth
          exact .inr ⟨i, o, hstate, by simpa using hboth, rfl⟩
      · cases h
        exact .inl ⟨rfl, rfl⟩
    · rename_i htry
      rw [← tryDecoderCmd_eq_ok htry]
      cases h
      by_cases hstate : s.state = .running
      · exact .inr (.inr (.inr (.inl ⟨rfl, hstate, by rw [if_pos hstate]⟩)))
      · exact .inl ⟨rfl, if_neg hstate⟩
    · rename_i htry
      rw [← tryDecoderCmd_eq_ok htry]
      cases h
      by_cases hstate : s.state = .paused
      · exact .inr (.inr (.inr (.inr ⟨rfl, hstate, by rw [if_pos hstate]⟩)))
      · exact .inl ⟨rfl, if_neg hstate⟩

/-- The buffer of an `InputBufferDone` event. -/
def BackendEvent.inputDone? : BackendEvent → Option UInt32
  | .inputBufferDone bufferId _ => some bufferId
  | _ => none

/-- The buffer of a `FrameCompleted` event. -/
def BackendEvent.frameDone? : BackendEvent → Option UInt32
  | .frameCompleted bufferId _ _ _ => some bufferId
  | _ => none

/-- What `process_events` stores in a completed OUTPUT buffer. -/
def DecoderV4l2Buffer.done (v : DecoderV4l2Buffer) (error : Int) : DecoderV4l2Buffer :=
  if error ≠ 0 then (v.clearFlags bufFlagQueued).setFlags bufFlagError
  else v.clearFlags bufFlagQueued

/-- What `process_events` stores in a completed CAPTURE buffer. -/
def DecoderV4l2Buffer.complete (v : DecoderV4l2Buffer) (sequence : UInt32) (timestamp : Timeval)
    (bytesUsed : List UInt32) (isLast : Bool) : DecoderV4l2Buffer :=
  { v with
    flags := if isLast then bufFlagLast else bufFlagTimestampCopy
    sequence
    timestamp
    plane := { v.plane with bytesused := bytesUsed.head?.getD 0 } }

/-- What a completed frame sends: the buffer, and EOS for a last one unless a
format change is pending. -/
def DecoderSession.frameEvents (s : DecoderSession β S) (v : DecoderV4l2Buffer) (isLast : Bool) :
    List DecoderEvent :=
  (if isLast && !s.formatChangePending && s.eosSubscribed then [.eos s.id] else []) ++
    [.dequeueBuffer s.id v]

theorem frameCompleted_eq_ok {bufferId : UInt32} {timestamp : Timeval} {bytesUsed : List UInt32}
    {isLast : Bool} {c : Called β S Unit}
    (h : d.frameCompleted checks s bufferId timestamp bytesUsed isLast = .ok c) :
    (s.outputBuffers[bufferId.toNat]? = none ∧ c = ⟨.ok (), d, s⟩) ∨
      ∃ host v, s.outputBuffers[bufferId.toNat]? = some host ∧
        v = host.v4l2Buffer.complete s.sequenceCpt timestamp bytesUsed isLast ∧
        c = ⟨.ok (), { d with sent := s.frameEvents v isLast ++ d.sent }, { s with
          outputBuffers := s.outputBuffers.set bufferId.toNat { host with v4l2Buffer := v }
          sequenceCpt := s.sequenceCpt + 1
          formatChangePending := s.formatChangePending && !isLast }⟩ := by
  unfold VideoDecoder.frameCompleted at h
  split at h
  · cases h
    exact .inl ⟨‹_›, rfl⟩
  · rename_i host hhost
    split at h
    · cases h
    · refine .inr ⟨host, _, hhost, rfl, ?_⟩
      cases isLast with
      | false =>
          cases h
          simp [DecoderV4l2Buffer.complete, DecoderV4l2Buffer.setFlags,
            DecoderV4l2Buffer.clearFlags, DecoderSession.frameEvents, VideoDecoder.send]
      | true =>
          cases hpending : s.formatChangePending with
          | false =>
              simp only [hpending, Bool.not_true, Bool.false_eq_true, ↓reduceIte] at h
              cases h
              cases heos : s.eosSubscribed <;>
                simp [DecoderV4l2Buffer.complete, DecoderV4l2Buffer.setFlags, heos,
                  DecoderV4l2Buffer.clearFlags, DecoderSession.frameEvents, VideoDecoder.send,
                  hpending]
          | true =>
              simp only [hpending, Bool.not_true, Bool.false_eq_true, ↓reduceIte] at h
              cases h
              simp [DecoderV4l2Buffer.complete, DecoderV4l2Buffer.setFlags,
                DecoderV4l2Buffer.clearFlags, DecoderSession.frameEvents, VideoDecoder.send,
                hpending]

/-- One event of the backend is taken, if there is one. -/
theorem processEvents_cases {c : Called β S Unit} (h : d.processEvents B checks s = .ok c) :
    ∃ ev b, B.nextEvent s.backendSession = (ev, b) ∧
      ((c = ⟨.ok (), d, s.withBackend b⟩ ∧
        (ev = none ∨
          (∃ bufferId error, ev = some (.inputBufferDone bufferId error) ∧
            s.inputBuffers[bufferId.toNat]? = none) ∨
          ∃ bufferId timestamp bytesUsed isLast,
            ev = some (.frameCompleted bufferId timestamp bytesUsed isLast) ∧
            s.outputBuffers[bufferId.toNat]? = none)) ∨
      (∃ bufferId error host, ev = some (.inputBufferDone bufferId error) ∧
        s.inputBuffers[bufferId.toNat]? = some host ∧
        c = ⟨.ok (), d.send (.dequeueBuffer s.id (host.v4l2Buffer.done error)), { s with
          inputBuffers := s.inputBuffers.set bufferId.toNat
            { host with v4l2Buffer := host.v4l2Buffer.done error }
          backendSession := b }⟩) ∨
      (ev = some .streamFormatChanged ∧
        c = ⟨.ok (), if s.srcChangeSubscribed then d.send (.sourceChange s.id) else d, { s with
          cropRectangle := .fromStream (B.visibleRect b)
          formatChangePending := true
          backendSession := b }⟩) ∨
      ∃ bufferId timestamp bytesUsed isLast host v,
        ev = some (.frameCompleted bufferId timestamp bytesUsed isLast) ∧
        s.outputBuffers[bufferId.toNat]? = some host ∧
        v = host.v4l2Buffer.complete s.sequenceCpt timestamp bytesUsed isLast ∧
        c = ⟨.ok (), { d with sent := s.frameEvents v isLast ++ d.sent }, { s with
          outputBuffers := s.outputBuffers.set bufferId.toNat { host with v4l2Buffer := v }
          sequenceCpt := s.sequenceCpt + 1
          formatChangePending := s.formatChangePending && !isLast
          backendSession := b }⟩) := by
  unfold VideoDecoder.processEvents at h
  dsimp only at h
  cases hev : B.nextEvent s.backendSession with
  | mk ev b =>
      refine ⟨ev, b, rfl, ?_⟩
      rw [hev] at h
      rcases ev with _ | _ | ⟨bufferId, error⟩ | ⟨bufferId, timestamp, bytesUsed, isLast⟩
      · cases h
        exact .inl ⟨rfl, .inl rfl⟩
      · cases h
        exact .inr (.inr (.inl ⟨rfl, rfl⟩))
      · simp only [VideoDecoder.inputBufferDone] at h
        split at h
        · cases h
          exact .inl ⟨rfl, .inr (.inl ⟨_, _, rfl, ‹_›⟩)⟩
        · rename_i host hhost
          cases h
          refine .inr (.inl ⟨bufferId, error, host, rfl, hhost, ?_⟩)
          unfold DecoderV4l2Buffer.done
          split <;> rfl
      · rcases frameCompleted_eq_ok h with ⟨hnone, rfl⟩ | ⟨host, v, hhost, hv, rfl⟩
        · exact .inl ⟨rfl, .inr (.inr ⟨_, _, _, _, rfl, hnone⟩)⟩
        · exact .inr (.inr (.inr ⟨_, _, _, _, host, v, rfl, hhost, hv, rfl⟩))

/-! ### What every call keeps -/

@[simp] theorem DecoderSession.setBuffers_id (s : DecoderSession β S) (queue : QueueType)
    (bufs : List (DecoderBuffer S)) : (s.setBuffers queue bufs).id = s.id := by
  unfold DecoderSession.setBuffers
  split <;> rfl

theorem trySendPendingOutputBuffers_id {r : Except Int Unit × DecoderSession β S}
    (h : s.trySendPendingOutputBuffers B = .ok r) : r.2.id = s.id := by
  rcases trySendPendingOutputBuffers_cases h with ⟨-, rfl⟩ | ⟨-, q, -, rfl⟩
  · rfl
  · rfl

/-- MMAP maps a buffer that the session has at the offset. -/
theorem doMmap_cases {flags offset : UInt32} {answer : Except Int UInt64}
    {c : Called β S (UInt64 × UInt64)} (h : d.doMmap B s flags offset answer = .ok c) :
    c = ⟨.error einval, d, s⟩ ∨ ∃ buffer fd rw,
      (buffer ∈ s.inputBuffers ++ s.outputBuffers ∧ buffer.v4l2Buffer.plane.memOffset = offset) ∧
      B.fdForPlane buffer.backing 0 = some fd ∧
      c = ⟨(d.hostMapper.create offset fd rw answer).1.mapError fun _ => einval,
        { d with hostMapper := (d.hostMapper.create offset fd rw answer).2 }, s⟩ := by
  unfold VideoDecoder.doMmap at h
  split at h
  · cases h
    exact .inl rfl
  · rename_i buffer hfind
    split at h
    · cases h
    · rename_i fd hfd
      cases h
      have hoffset := List.find?_some hfind
      simp only [beq_iff_eq] at hoffset
      exact .inr ⟨buffer, fd, _, ⟨List.mem_of_find?_eq_some hfind, hoffset⟩, hfd, rfl⟩

theorem allocateBuffers_sent {queue : QueueType} {size : UInt32} {is : List Nat} {b : β}
    {r : Except Int (List (DecoderBuffer S)) × VideoDecoder × β}
    (h : allocateBuffers B checks queue size is d b = .ok r) : r.2.1.sent = d.sent := by
  induction is generalizing d b r with
  | nil =>
      cases h
      rfl
  | cons i rest ih =>
      unfold allocateBuffers at h
      split at h
      · cases h
      · cases h
        rfl
      · split at h
        · cases h
          rfl
        · obtain ⟨r', hr', rfl⟩ := map_eq_ok.mp h
          have hsent := ih hr'
          exact hsent

/-- An allocation keeps what `new` keeps of the backend session. -/
theorem allocateBuffers_backend {P : β → Prop}
    (hnew : ∀ b queue index size, P b → P (B.new b queue index size).2) {queue : QueueType}
    {size : UInt32} {is : List Nat} {b : β}
    {r : Except Int (List (DecoderBuffer S)) × VideoDecoder × β} (hb : P b)
    (h : allocateBuffers B checks queue size is d b = .ok r) : P r.2.2 := by
  induction is generalizing d b r with
  | nil =>
      cases h
      exact hb
  | cons i rest ih =>
      unfold allocateBuffers at h
      split at h
      · cases h
      · cases h
        exact hb
      · have hnext := hnew b queue (.ofNat i) size hb
        split at h
        · rename_i hanswer
          cases h
          rwa [hanswer] at hnext
        · rename_i hanswer
          obtain ⟨r', hr', rfl⟩ := map_eq_ok.mp h
          rw [hanswer] at hnext
          exact ih (r := r') hnext hr'

/-- A call leaves the session its id. -/
theorem call_id {c : DecoderCall} {p : VideoDecoder × DecoderSession β S}
    (h : VideoDecoder.call B checks d s c = .ok p) : p.2.id = s.id := by
  cases c with
  | reqbufs queue memory count =>
      obtain ⟨c, hc, rfl⟩ := map_eq_ok.mp h
      rcases reqbufs_cases hc with rfl | ⟨bufs, -, ⟨-, rfl⟩ | ⟨-, size, r, -, hr, hcase⟩⟩
      · rfl
      · exact s.setBuffers_id _ _
      · rcases hcase with ⟨e, -, rfl⟩ | ⟨news, -, rfl⟩
        · rfl
        · exact s.setBuffers_id _ _
  | qbuf buffer =>
      obtain ⟨c, hc, rfl⟩ := map_eq_ok.mp h
      rcases qbuf_cases hc with ⟨-, rfl⟩ | ⟨host, -, -, -, res, b, -, v, -, rfl⟩ |
        ⟨host, -, -, -, r, hr, rfl⟩
      · rfl
      · rfl
      · have hid := trySendPendingOutputBuffers_id hr
        exact hid
  | streamon queue =>
      obtain ⟨c, hc, rfl⟩ := map_eq_ok.mp h
      rcases streamon_cases hc with rfl | ⟨state, r, -, hr, rfl⟩
      · rfl
      · have hid := trySendPendingOutputBuffers_id hr
        exact hid
  | streamoff queue =>
      cases h
      unfold VideoDecoder.streamoff
      split
      · rfl
      · split <;> rfl
  | decoderCmd cmd =>
      obtain ⟨c, hc, rfl⟩ := map_eq_ok.mp h
      rcases decoderCmd_cases hc with ⟨-, hs⟩ | ⟨-, -, rfl⟩ | ⟨-, s', r, hs', hr, rfl⟩ |
        ⟨-, -, rfl⟩ | ⟨-, -, rfl⟩
      · exact congrArg _ hs
      · rfl
      · have hid : s'.id = s.id := by
          rcases hs' with ⟨-, rfl⟩ | ⟨i, o, -, -, rfl⟩
          · rfl
          · rfl
        exact (trySendPendingOutputBuffers_id hr).trans hid
      · rfl
      · rfl
  | subscribeEvent event =>
      cases h
      unfold VideoDecoder.subscribeEvent
      split <;> rfl
  | unsubscribeEvent event =>
      cases h
      unfold VideoDecoder.unsubscribeEvent
      split <;> rfl
  | mmap flags offset answer =>
      obtain ⟨c, hc, rfl⟩ := map_eq_ok.mp h
      rcases doMmap_cases hc with rfl | ⟨buffer, fd, rw, -, -, rfl⟩
      · rfl
      · rfl
  | processEvents =>
      obtain ⟨c, hc, rfl⟩ := map_eq_ok.mp h
      obtain ⟨ev, b, -, ⟨rfl, -⟩ | ⟨bufferId, error, host, -, -, rfl⟩ | ⟨-, rfl⟩ |
        ⟨bufferId, timestamp, bytesUsed, isLast, host, v, -, -, -, rfl⟩⟩ := processEvents_cases hc
      · rfl
      · rfl
      · rfl
      · rfl

/-- Only REQBUFS, MMAP and the events of the backend change the device. -/
theorem call_device {c : DecoderCall} {p : VideoDecoder × DecoderSession β S}
    (h : VideoDecoder.call B checks d s c = .ok p) :
    p.1 = d ∨ (∃ queue memory count, c = .reqbufs queue memory count) ∨
      (∃ flags offset answer, c = .mmap flags offset answer) ∨ c = .processEvents := by
  cases c with
  | reqbufs queue memory count => exact .inr (.inl ⟨queue, memory, count, rfl⟩)
  | mmap flags offset answer => exact .inr (.inr (.inl ⟨flags, offset, answer, rfl⟩))
  | processEvents => exact .inr (.inr (.inr rfl))
  | qbuf buffer =>
      obtain ⟨c, hc, rfl⟩ := map_eq_ok.mp h
      rcases qbuf_cases hc with ⟨-, rfl⟩ | ⟨host, -, -, -, res, b, -, v, -, rfl⟩ |
        ⟨host, -, -, -, r, -, rfl⟩
      · exact .inl rfl
      · exact .inl rfl
      · exact .inl rfl
  | streamon queue =>
      obtain ⟨c, hc, rfl⟩ := map_eq_ok.mp h
      rcases streamon_cases hc with rfl | ⟨state, r, -, -, rfl⟩
      · exact .inl rfl
      · exact .inl rfl
  | streamoff queue =>
      cases h
      left
      unfold VideoDecoder.streamoff
      split
      · rfl
      · split <;> rfl
  | decoderCmd cmd =>
      obtain ⟨c, hc, rfl⟩ := map_eq_ok.mp h
      rcases decoderCmd_cases hc with ⟨hd, -⟩ | ⟨-, -, rfl⟩ | ⟨-, s', r, -, -, rfl⟩ |
        ⟨-, -, rfl⟩ | ⟨-, -, rfl⟩
      · exact .inl hd
      · exact .inl rfl
      · exact .inl rfl
      · exact .inl rfl
      · exact .inl rfl
  | subscribeEvent event =>
      cases h
      left
      unfold VideoDecoder.subscribeEvent
      split <;> rfl
  | unsubscribeEvent event =>
      cases h
      left
      unfold VideoDecoder.unsubscribeEvent
      split <;> rfl

/-- Only `process_events` sends. -/
theorem call_sent {c : DecoderCall} {p : VideoDecoder × DecoderSession β S}
    (h : VideoDecoder.call B checks d s c = .ok p) (hc : c ≠ .processEvents) :
    p.1.sent = d.sent := by
  rcases call_device h with hd | ⟨queue, memory, count, rfl⟩ | ⟨flags, offset, answer, rfl⟩ | rfl
  · rw [hd]
  · obtain ⟨c, hc, rfl⟩ := map_eq_ok.mp h
    rcases reqbufs_cases hc with rfl | ⟨bufs, -, ⟨-, rfl⟩ | ⟨-, size, r, -, hr, hcase⟩⟩
    · rfl
    · rfl
    · have hsent := allocateBuffers_sent hr
      rcases hcase with ⟨e, -, rfl⟩ | ⟨news, -, rfl⟩
      · exact hsent
      · exact hsent
  · obtain ⟨c, hc, rfl⟩ := map_eq_ok.mp h
    rcases doMmap_cases hc with rfl | ⟨buffer, fd, rw, -, -, rfl⟩
    · rfl
    · rfl
  · exact absurd rfl hc

/-! ### From calls to runs -/

/-- The state after an action, if the program does not panic. -/
def Decoder.next (B : DecoderBackend β S) (checks : Bool) (s : Decoder β S)
    (a : DecoderAction β) : Option (Decoder β S) := (s.step B checks a).toOption

/-- Every open session has the property. -/
def Decoder.Every (P : DecoderSession β S → Prop) (s : Decoder β S) : Prop :=
  ∀ sessionId session, s.sessions sessionId = some session → P session

/-- A condition on the calls that are made on open sessions. -/
def Decoder.Calls (Q : DecoderSession β S → DecoderCall → Prop) (s : Decoder β S) :
    DecoderAction β → Prop
  | .call sessionId c => ∀ session, s.sessions sessionId = some session → Q session c
  | _ => True

/-- Every session has the id under which it is open. -/
def Decoder.Named (s : Decoder β S) : Prop :=
  ∀ i session, s.sessions i = some session → session.id = i

instance instDecidableCalls {Q : DecoderSession β S → DecoderCall → Prop}
    [∀ s c, Decidable (Q s c)] (s : Decoder β S) (a : DecoderAction β) :
    Decidable (s.Calls Q a) :=
  match a with
  | .openSession _ _ | .closeSession _ | .munmap _ => .isTrue trivial
  | .call sessionId c =>
    match hsession : s.sessions sessionId with
    | none => .isTrue (by simp [Decoder.Calls, hsession])
    | some session => decidable_of_iff (Q session c) (by simp [Decoder.Calls, hsession])

/-- The same action on a device whose backend starts elsewhere. -/
def DecoderAction.map {α : Type} (f : α → β) : DecoderAction α → DecoderAction β
  | .openSession sessionId answer => .openSession sessionId (answer.map f)
  | .closeSession sessionId => .closeSession sessionId
  | .munmap guestAddr => .munmap guestAddr
  | .call sessionId c => .call sessionId c

theorem DecoderAction.map_eq_openSession {α : Type} {f : α → β} {a : DecoderAction α}
    {sessionId : UInt32} {b : β} (h : a.map f = .openSession sessionId (.ok b)) :
    ∃ x, b = f x := by
  cases a with
  | openSession i answer =>
      have hanswer := (DecoderAction.openSession.inj h).2
      obtain ⟨x, -, hx⟩ := map_eq_ok.mp hanswer
      exact ⟨x, hx.symm⟩
  | closeSession i => cases h
  | munmap guestAddr => cases h
  | call i c => cases h

section Sessions

variable {P : DecoderSession β S → Prop} {Q : DecoderSession β S → DecoderCall → Prop}
  {s s' : Decoder β S} {a : DecoderAction β}

/-- What an action can do to the device: nothing, or one of the four things that
it is named for, on a session that is open or is opened. -/
theorem Decoder.next_cases (h : s.next B checks a = some s') :
    s' = s ∨
    (∃ guestAddr, a = .munmap guestAddr ∧
      s' = { s with device := (s.device.doMunmap guestAddr).2 }) ∨
    (∃ i b, a = .openSession i (.ok b) ∧ s.sessions i = none ∧
      s' = s.setSession i (some (.new i b))) ∨
    (∃ i session, a = .closeSession i ∧ s.sessions i = some session ∧
      s' = { s with device := s.device.closeSession session }.setSession i none) ∨
    ∃ i c session p, a = .call i c ∧ s.sessions i = some session ∧
      s.device.call B checks session c = .ok p ∧
      s' = { s with device := p.1 }.setSession i (some p.2) := by
  have h := toOption_eq_some.mp h
  cases a with
  | openSession i answer =>
      simp only [Decoder.step] at h
      split at h
      · rename_i hsession _
        cases h
        exact .inr (.inr (.inl ⟨i, _, rfl, hsession, rfl⟩))
      · cases h
        exact .inl rfl
  | closeSession i =>
      simp only [Decoder.step] at h
      split at h
      · cases h
        exact .inl rfl
      · rename_i session hsession
        cases h
        exact .inr (.inr (.inr (.inl ⟨i, session, rfl, hsession, rfl⟩)))
  | munmap guestAddr =>
      cases h
      exact .inr (.inl ⟨guestAddr, rfl, rfl⟩)
  | call i c =>
      simp only [Decoder.step] at h
      split at h
      · cases h
        exact .inl rfl
      · rename_i session hsession
        obtain ⟨p, hp, rfl⟩ := map_eq_ok.mp h
        exact .inr (.inr (.inr (.inr ⟨i, c, session, p, rfl, hsession, hp, rfl⟩)))

/-- Only a call sends events. -/
theorem Decoder.sent_of_next (h : s.next B checks a = some s') (hcall : ∀ i c, a ≠ .call i c) :
    s'.device.sent = s.device.sent := by
  rcases Decoder.next_cases h with rfl | ⟨guestAddr, -, rfl⟩ | ⟨i, b, -, -, rfl⟩ |
    ⟨i, session, -, -, rfl⟩ | ⟨i, c, session, p, ha, -⟩
  · rfl
  · rfl
  · rfl
  · rfl
  · exact absurd ha (hcall i c)

theorem Decoder.Every.setSession (hs : s.Every P) (d : VideoDecoder) (sessionId : UInt32)
    {v : Option (DecoderSession β S)} :
    ({ s with device := d }.setSession sessionId v).Every P ↔
      ∀ session, v = some session → P session := by
  constructor
  · intro h session hv
    apply h sessionId session
    simp [Decoder.setSession, hv]
  · intro h i session hi
    by_cases heq : i = sessionId
    · exact h session (by simpa [Decoder.setSession, heq] using hi)
    · exact hs i session (by simpa [Decoder.setSession, heq] using hi)

theorem Decoder.Calls.imp {Q' : DecoderSession β S → DecoderCall → Prop}
    (h : s.Calls Q a) (himp : ∀ session c, Q session c → Q' session c) : s.Calls Q' a := by
  cases a with
  | call sessionId c => exact fun session hsession => himp session c (h session hsession)
  | openSession sessionId answer => trivial
  | closeSession sessionId => trivial
  | munmap guestAddr => trivial

/-- A property of a session that calls keep under a condition is kept for every
session. -/
theorem Decoder.Every.next (hs : s.Every P)
    (hnew : ∀ id b, a = .openSession id (.ok b) → P (.new id b))
    (hcall : ∀ d s c p, P s → Q s c → VideoDecoder.call B checks d s c = .ok p → P p.2)
    (hc : s.Calls Q a) (h : s.next B checks a = some s') : s'.Every P := by
  rcases Decoder.next_cases h with rfl | ⟨guestAddr, -, rfl⟩ | ⟨i, b, rfl, -, rfl⟩ |
    ⟨i, session, -, -, rfl⟩ | ⟨i, c, session, p, rfl, hsession, hp, rfl⟩
  · exact hs
  · exact hs
  · apply (hs.setSession s.device i).mpr
    rintro _ ⟨⟩
    exact hnew i b rfl
  · exact (hs.setSession _ i).mpr fun _ h => by cases h
  · apply (hs.setSession p.1 i).mpr
    rintro _ ⟨⟩
    exact hcall _ _ _ _ (hs i session hsession) (hc session hsession) hp

/-- A condition that decides whether a call keeps a property of its session
decides whether an action keeps it for every session. -/
theorem Decoder.every_next_iff (hnew : ∀ id b, P (.new id b))
    (hcall : ∀ d s c, P s →
      ((∀ p, VideoDecoder.call B checks d s c = .ok p → P p.2) ↔ Q s c))
    (hs : s.Every P) (a : DecoderAction β) :
    (∀ s', s.next B checks a = some s' → s'.Every P) ↔ s.Calls Q a := by
  constructor
  · intro h
    cases a with
    | openSession sessionId answer => trivial
    | closeSession sessionId => trivial
    | munmap guestAddr => trivial
    | call sessionId c =>
        intro session hsession
        refine (hcall s.device session c (hs sessionId session hsession)).mp fun p hp => ?_
        refine (hs.setSession p.1 sessionId).mp (h _ ?_) p.2 rfl
        simp only [Decoder.next, Decoder.step, hsession, hp, Except.map, Except.toOption]
  · intro hc s' h
    exact hs.next (fun id b _ => hnew id b) (fun d s c p hs hc => (hcall d s c hs).mpr hc p) hc h

theorem Decoder.every_init : (Decoder.init : Decoder β S).Every P := by
  intro i session hi
  cases hi

theorem Decoder.named_init : (Decoder.init : Decoder β S).Named := by
  intro i session hi
  cases hi

theorem Decoder.Named.setSession (hs : s.Named) (d : VideoDecoder) (sessionId : UInt32)
    {v : Option (DecoderSession β S)} (hv : ∀ session, v = some session → session.id = sessionId) :
    ({ s with device := d }.setSession sessionId v).Named := by
  intro i session hi
  by_cases heq : i = sessionId
  · rw [heq]
    exact hv session (by simpa [Decoder.setSession, heq] using hi)
  · exact hs i session (by simpa [Decoder.setSession, heq] using hi)

theorem Decoder.Named.next (hs : s.Named) (h : s.next B checks a = some s') : s'.Named := by
  rcases Decoder.next_cases h with rfl | ⟨guestAddr, -, rfl⟩ | ⟨i, b, -, -, rfl⟩ |
    ⟨i, session, -, -, rfl⟩ | ⟨i, c, session, p, -, hsession, hp, rfl⟩
  · exact hs
  · exact hs
  · apply hs.setSession s.device i
    rintro _ ⟨⟩
    rfl
  · exact hs.setSession _ i fun _ h => by cases h
  · apply hs.setSession p.1 i
    rintro _ ⟨⟩
    exact (call_id hp).trans (hs i session hsession)

end Sessions

end VirtioMedia.Device
