import VirtioMedia.Device.DecoderPending

/-!
# Pending CAPTURE buffers while the queue streams

CAPTURE buffers are parked in `pending_output_buffers` while the queue does not
stream or the decoder is paused. STREAMON and START send what was parked.
RESUME, STOP and STREAMOFF of the OUTPUT queue also leave the paused state for
one in which the CAPTURE queue streams, and send nothing.
-/

namespace VirtioMedia.Device

open V4l2 Fallible

variable {β S : Type} {B : DecoderBackend β S} {checks : Bool} {d : VideoDecoder}
  {s : DecoderSession β S}

/-- No buffer is parked while the CAPTURE queue streams. -/
def DecoderSession.Delivered (s : DecoderSession β S) : Prop :=
  s.state.isOutputStreaming = true → s.pendingOutputBuffers = []

/-- The call does not end a pause while buffers are parked, START apart. -/
def DecoderSession.Flushes (s : DecoderSession β S) : DecoderCall → Prop
  | .decoderCmd (some .resume) | .decoderCmd (some .stop) =>
    s.state = .paused → s.pendingOutputBuffers = []
  | .streamoff queue => queue.direction = .output → s.state = .paused → s.pendingOutputBuffers = []
  | _ => True

/-- Whatever the call returns, no buffer is parked while the queue streams. -/
def Delivers (r : Except Panic (VideoDecoder × DecoderSession β S)) : Prop :=
  ∀ p, r = .ok p → p.2.Delivered

theorem trySend_delivered {r : Except Int Unit × DecoderSession β S}
    (h : s.trySendPendingOutputBuffers B = .ok r) : r.2.Delivered := by
  rcases trySendPendingOutputBuffers_cases h with ⟨hstate, rfl⟩ | ⟨-, q, -, rfl⟩
  · intro hstreaming
    rw [hstate] at hstreaming
    cases hstreaming
  · exact fun _ => rfl

theorem reqbufs_delivers (hs : s.Delivered) (queue : QueueType) (memory : MemoryType)
    (count : UInt32) : Delivers (d.call B checks s (.reqbufs queue memory count)) := by
  intro p hp
  obtain ⟨c, hc, rfl⟩ := map_eq_ok.mp hp
  rcases reqbufs_cases hc with rfl | ⟨bufs, hb, ⟨-, rfl⟩ | ⟨-, size, r, -, -, ⟨e, -, rfl⟩ |
    ⟨news, -, rfl⟩⟩⟩
  · exact hs
  · rcases DecoderSession.buffers_cases hb with ⟨rfl, -⟩ | ⟨rfl, -⟩ <;> exact hs
  · exact hs
  · rcases DecoderSession.buffers_cases hb with ⟨rfl, -⟩ | ⟨rfl, -⟩ <;> exact hs

theorem qbuf_delivers (hs : s.Delivered) (buffer : DecoderV4l2Buffer) :
    Delivers (d.call B checks s (.qbuf buffer)) := by
  intro p hp
  obtain ⟨c, hc, rfl⟩ := map_eq_ok.mp hp
  rcases qbuf_cases hc with
    ⟨-, rfl⟩ | ⟨host, -, -, -, res, b, -, v, -, rfl⟩ | ⟨host, -, -, -, r, hr, rfl⟩
  · exact hs
  · exact hs
  · exact trySend_delivered hr

theorem streamon_delivers (hs : s.Delivered) (queue : QueueType) :
    Delivers (d.call B checks s (.streamon queue)) := by
  intro p hp
  obtain ⟨c, hc, rfl⟩ := map_eq_ok.mp hp
  rcases streamon_cases hc with rfl | ⟨state, r, -, hr, rfl⟩
  · exact hs
  · exact trySend_delivered hr

/-- STREAMOFF of the OUTPUT queue starts the CAPTURE queue only from a pause. -/
theorem inputStreamoff_isOutputStreaming (state : StreamingState) :
    state.inputStreamoff.isOutputStreaming = true ↔
      state.isOutputStreaming = true ∨ state = .paused := by
  rcases state with ⟨i, o⟩ | _ | _
  · cases o <;> simp [StreamingState.inputStreamoff, StreamingState.isOutputStreaming]
  · simp [StreamingState.inputStreamoff, StreamingState.isOutputStreaming]
  · simp [StreamingState.inputStreamoff, StreamingState.isOutputStreaming]

theorem streamoff_delivers_iff (hs : s.Delivered) (queue : QueueType) :
    Delivers (d.call B checks s (.streamoff queue)) ↔ s.Flushes (.streamoff queue) := by
  simp only [Delivers, VideoDecoder.call, Except.ok.injEq, forall_eq', VideoDecoder.streamoff,
    DecoderSession.Flushes]
  cases queue.direction with
  | output =>
      simp only [forall_const, Called.after, DecoderSession.Delivered,
        inputStreamoff_isOutputStreaming]
      constructor
      · exact fun h hpaused => h (.inr hpaused)
      · rintro h (hstreaming | hpaused)
        · exact hs hstreaming
        · exact h hpaused
  | capture =>
      refine iff_of_true ?_ fun h => by cases h
      dsimp only
      split
      · exact hs
      · exact fun _ => rfl

/-- A call that always returns leaves one state. -/
theorem delivers_ok (p : VideoDecoder × DecoderSession β S) :
    Delivers (.ok p) ↔ p.2.Delivered := by
  simp [Delivers]

theorem decoderCmd_delivers_iff (hs : s.Delivered) (cmd : Option DecoderCmd) :
    Delivers (d.call B checks s (.decoderCmd cmd)) ↔ s.Flushes (.decoderCmd cmd) := by
  constructor
  · intro h
    rcases cmd with _ | _ | _ | _ | _
    · trivial
    · intro hpaused
      have hcall : d.call B checks s (.decoderCmd (some .stop)) = .ok (d, { s with
          state := .stopped true true
          backendSession := (B.drain s.backendSession).2 }) := by
        simp [VideoDecoder.call, VideoDecoder.decoderCmd, DecoderSession.tryDecoderCmd, hpaused,
          Except.map, Called.after]
      exact h _ hcall rfl
    · trivial
    · trivial
    · intro hpaused
      have hcall : d.call B checks s (.decoderCmd (some .resume)) =
          .ok (d, { s with state := .running }) := by
        simp [VideoDecoder.call, VideoDecoder.decoderCmd, DecoderSession.tryDecoderCmd, hpaused,
          Except.map, Called.after]
      exact h _ hcall rfl
  · intro h p hp
    obtain ⟨c, hc, rfl⟩ := map_eq_ok.mp hp
    rcases decoderCmd_cases hc with ⟨-, hsame⟩ | ⟨rfl, hstate, rfl⟩ | ⟨-, s', r, -, hr, rfl⟩ |
      ⟨-, -, rfl⟩ | ⟨rfl, hpaused, rfl⟩
    · rw [Called.after, hsame]
      exact hs
    · intro _
      cases hstate' : s.state with
      | stopped i o => exact absurd hstate' (hstate i o)
      | running => exact hs (by rw [hstate']; rfl)
      | paused => exact h hstate'
    · exact trySend_delivered hr
    · exact fun hstreaming => by cases hstreaming
    · exact fun _ => h hpaused

theorem processEvents_delivers (hs : s.Delivered) :
    Delivers (d.call B checks s .processEvents) := by
  intro p hp
  obtain ⟨c, hc, rfl⟩ := map_eq_ok.mp hp
  obtain ⟨ev, b, -, hcase⟩ := processEvents_cases hc
  rcases hcase with ⟨rfl, -⟩ | ⟨bufferId, error, host, -, -, rfl⟩ | ⟨-, rfl⟩ |
    ⟨bufferId, timestamp, bytesUsed, isLast, host, v, -, -, -, rfl⟩
  · exact hs
  · exact hs
  · exact hs
  · exact hs

/-- From a delivered session, exactly the calls that do not end a pause without
sending what was parked leave it delivered. -/
theorem call_delivers_iff (hs : s.Delivered) (c : DecoderCall) :
    Delivers (d.call B checks s c) ↔ s.Flushes c := by
  cases c with
  | reqbufs queue memory count => exact iff_of_true (reqbufs_delivers hs queue memory count) trivial
  | qbuf buffer => exact iff_of_true (qbuf_delivers hs buffer) trivial
  | streamon queue => exact iff_of_true (streamon_delivers hs queue) trivial
  | streamoff queue => exact streamoff_delivers_iff hs queue
  | decoderCmd cmd => exact decoderCmd_delivers_iff hs cmd
  | subscribeEvent event =>
      refine iff_of_true ?_ trivial
      simp only [VideoDecoder.call, VideoDecoder.subscribeEvent, delivers_ok]
      split <;> exact hs
  | unsubscribeEvent event =>
      refine iff_of_true ?_ trivial
      simp only [VideoDecoder.call, VideoDecoder.unsubscribeEvent, delivers_ok]
      split <;> exact hs
  | mmap flags offset answer =>
      refine iff_of_true ?_ trivial
      intro p hp
      simp only [VideoDecoder.call, VideoDecoder.doMmap] at hp
      split at hp
      · cases hp
        exact hs
      · split at hp
        · cases hp
        · cases hp
          exact hs
  | processEvents => exact iff_of_true (processEvents_delivers hs) trivial

/-! ### Runs -/

/-- The action leaves no parked buffers while a CAPTURE queue streams. -/
def Decoder.Delivers (B : DecoderBackend β S) (checks : Bool) (s : Decoder β S)
    (a : DecoderAction β) : Prop :=
  ∀ s', s.next B checks a = some s' → s'.Every DecoderSession.Delivered

theorem Decoder.delivers_iff {s : Decoder β S} (hs : s.Every DecoderSession.Delivered)
    (a : DecoderAction β) :
    s.Delivers B checks a ↔ s.Calls DecoderSession.Flushes a := by
  refine Decoder.every_next_iff ?_ ?_ hs a
  · exact fun id b _ => rfl
  · exact fun d s c hs => call_delivers_iff hs c

/-- For every backend and every run of calls on any number of sessions: after
every call, whatever it returns, no CAPTURE buffer is parked in a session whose
CAPTURE queue streams, if and only if no RESUME, STOP or STREAMOFF of the
OUTPUT queue is made on a paused session with parked buffers. -/
theorem queued_buffers_reach_backend (B : DecoderBackend β S) (checks : Bool)
    (acts : List (DecoderAction β)) :
    Trace.Conforms (Decoder.next B checks) (Decoder.Delivers B checks) .init acts ↔
      Trace.Conforms (Decoder.next B checks) (Decoder.Calls DecoderSession.Flushes) .init
        acts := by
  refine Trace.conforms_congr (P := Decoder.Every DecoderSession.Delivered) ?_
    (fun s a hs _ => Decoder.delivers_iff hs a) Decoder.every_init (Trace.conforms_true _ acts)
  exact fun s a s' hs ha h => (Decoder.delivers_iff hs a).mpr ha s' h

/-- Both queues stream, the decoder is paused, and a CAPTURE buffer is queued. -/
def pausedRun : List (DecoderAction Unit) :=
  [.openSession 0 (.ok ()), .call 0 (.reqbufs .videoOutputMplane .mmap 1),
    .call 0 (.reqbufs .videoCaptureMplane .mmap 1), .call 0 (.streamon .videoOutputMplane),
    .call 0 (.streamon .videoCaptureMplane), .call 0 (.decoderCmd (some .pause)),
    .call 0 (.qbuf ⟨.videoCaptureMplane, 0, .mmap, 0, fieldNone, ⟨0, 0⟩, 0, ⟨0, 4096, 0, 0⟩⟩)]

/-- RESUME returns success and leaves the decoder running with the buffer
parked, although the backend accepts every buffer. -/
theorem queued_buffers_reach_backend_fails_resume :
    ∃ s session c, Trace.run (Decoder.next idleBackend true) .init pausedRun = some s ∧
      s.sessions 0 = some session ∧
      s.device.decoderCmd idleBackend session (some .resume) = .ok c ∧
      c.result = .ok .resume ∧ c.session.state = .running ∧
      c.session.pendingOutputBuffers = [0] :=
  ⟨_, _, _, rfl, rfl, rfl, rfl, rfl, rfl⟩

end VirtioMedia.Device
