import VirtioMedia.Ffmpeg.Session
import VirtioMedia.Device.DecoderCalls
import VirtioMedia.Lib.Trace

/-!
# What the steps of the decode loop can do

One case lemma for each of the three steps of `try_decode`, and the calls of
the backend trait as the actions of a run. The world after a step is named
only where a result depends on it.
-/

namespace VirtioMedia.Ffmpeg

open V4l2 Device Fallible

variable {κ : Type} {W : World κ} {s s' : Session κ} {r : Except DecodeError Bool}

/-! ### The world -/

/-- The calls that do not concern the codec keep the property. -/
structure World.Quiet (W : World κ) (Q : κ → Prop) : Prop where
  buildDecoder : ∀ k, Q k → Q (W.buildDecoder k).2
  frameAlloc : ∀ k, Q k → Q (W.frameAlloc k).2
  bufferCreate : ∀ k, Q k → Q (W.bufferCreate k).2
  swsGetContext : ∀ k, Q k → Q (W.swsGetContext k).2
  frameIsWritable : ∀ k, Q k → Q (W.frameIsWritable k).2
  swsScale : ∀ k, Q k → Q (W.swsScale k).2
  eventfdWrite : ∀ k, Q k → Q (W.eventfdWrite k).2
  readExact : ∀ k file n, Q k → Q (W.readExact k file n).2
  mmap : ∀ k file, Q k → Q (W.mmap k file).2

/-- Only such calls lead from one world to the other. -/
def World.Leads (W : World κ) (k k' : κ) : Prop := ∀ Q, W.Quiet Q → Q k → Q k'

theorem World.Leads.refl (W : World κ) (k : κ) : W.Leads k k := fun _ _ h => h

theorem World.Leads.trans {k₁ k₂ k₃ : κ} (h : W.Leads k₁ k₂) (h' : W.Leads k₂ k₃) :
    W.Leads k₁ k₃ := fun Q hQ hk => h' Q hQ (h Q hQ hk)

theorem convert_leads (c : SwConverter) (k : κ) (src : AvFrame) (format : Int)
    (size : UInt32 × UInt32) : W.Leads k (c.convert W k src format size).2 := by
  intro Q hQ hk
  unfold SwConverter.convert
  split
  · exact hk
  · split
    · exact hk
    · split
      · exact hk
      · dsimp only
        split
        · exact hQ.frameIsWritable _ hk
        · exact hQ.swsScale _ (hQ.frameIsWritable _ hk)

/-- A frame is not rendered, or it is what the conversion makes of it. -/
theorem renderFrame_cases (W : World κ) (k : κ) (size : UInt32 × UInt32) (c : SwConverter)
    (planes : List Nat) (frame : AvFrame) :
    (∃ crash, renderFrame W k size c planes frame = .error crash ∧ (crash = .panic ∨
      ∃ buffers ps, buildOwned W W.nv12 size.1 size.2 buffers ps = .error crash)) ∨
    (∃ err k', renderFrame W k size c planes frame = .ok (.error err, k') ∧ W.Leads k k' ∧
      ∀ e, err ≠ .conversionError e) ∨
    ∃ k' bytesUsed, W.Leads k k' ∧ renderFrame W k size c planes frame =
      .ok (((c.convert W k' frame W.nv12 size).1.map fun _ => bytesUsed).mapError .conversionError,
        (c.convert W k' frame W.nv12 size).2) := by
  have halloc : W.Leads k (W.frameAlloc k).2 := fun Q hQ hk => hQ.frameAlloc k hk
  have hcreate : W.Leads k (W.bufferCreate (W.frameAlloc k).2).2 :=
    halloc.trans fun Q hQ hk => hQ.bufferCreate _ hk
  unfold renderFrame
  dsimp only
  split
  · exact .inr (.inl ⟨_, _, rfl, halloc, fun e => nofun⟩)
  · split
    · exact .inr (.inl ⟨_, _, rfl, halloc, fun e => nofun⟩)
    · split
      · rename_i luma sizes length rest _
        split
        · exact .inr (.inl ⟨_, _, rfl, hcreate, fun e => nofun⟩)
        · cases hbuilt : buildOwned W W.nv12 size.1 size.2 [length]
            [⟨0, 0, W.lineSize W.nv12 size.1 0⟩, ⟨0, luma, W.lineSize W.nv12 size.1 1⟩] with
          | error crash => exact .inl ⟨crash, rfl, .inr ⟨_, _, hbuilt⟩⟩
          | ok built =>
              cases built with
              | error err => exact .inr (.inl ⟨_, _, rfl, hcreate, fun e => nofun⟩)
              | ok u => exact .inr (.inr ⟨_, _, hcreate, rfl⟩)
      · exact .inl ⟨_, rfl, .inl rfl⟩

theorem renderFrame_leads {k k' : κ} {size : UInt32 × UInt32} {c : SwConverter}
    {planes : List Nat} {frame : AvFrame} {res : Except DecodeError UInt32}
    (h : renderFrame W k size c planes frame = .ok (res, k')) : W.Leads k k' := by
  rcases renderFrame_cases W k size c planes frame with
    ⟨crash, hx, -⟩ | ⟨err, k₁, hx, hk, -⟩ | ⟨k₁, bytes, hk, hx⟩
  · cases hx.symm.trans h
  · cases hx.symm.trans h
    exact hk
  · cases hx.symm.trans h
    exact hk.trans (convert_leads c k₁ frame W.nv12 size)

/-! ### Events -/

theorem EventQueue.queueEvent_pendingEvents {T : Type} (q : EventQueue T) (e : T)
    (write : Except Int Unit) :
    (q.queueEvent e write).2.pendingEvents = q.pendingEvents ++ [e] := by
  unfold EventQueue.queueEvent
  dsimp only
  split
  · split <;> rfl
  · rfl

/-- The world after an event was queued. -/
def Session.signalled (W : World κ) (s : Session κ) : κ :=
  if s.events.pendingEvents.isEmpty then (W.eventfdWrite s.world).2 else s.world

theorem signalled_leads (s : Session κ) : W.Leads s.world (s.signalled W) := by
  intro Q hQ hk
  unfold Session.signalled
  split
  · exact hQ.eventfdWrite _ hk
  · exact hk

/-- An event is queued whether or not the eventfd can be written. -/
theorem queueEvent_cases (W : World κ) (s : Session κ) (e : BackendEvent) :
    ∃ q, (s.queueEvent W e).2 = { s with events := q, world := s.signalled W } ∧
      q.pendingEvents = s.events.pendingEvents ++ [e] := by
  unfold Session.queueEvent Session.signalled
  split
  · exact ⟨_, rfl, EventQueue.queueEvent_pendingEvents _ _ _⟩
  · exact ⟨_, rfl, EventQueue.queueEvent_pendingEvents _ _ _⟩

theorem emit_cases {e : BackendEvent} (h : s.emit W e = (r, s')) :
    (∃ q, s' = { s with events := q, world := s.signalled W } ∧
      q.pendingEvents = s.events.pendingEvents ++ [e]) ∧
      (r = .ok true ∨ ∃ err, r = .error err) := by
  obtain ⟨q, hq, hpending⟩ := queueEvent_cases W s e
  unfold Session.emit at h
  obtain ⟨rfl, rfl⟩ := Prod.mk.inj h
  refine ⟨⟨q, hq, hpending⟩, ?_⟩
  cases (s.queueEvent W e).1 with
  | ok u => exact .inl rfl
  | error errno => exact .inr ⟨_, rfl⟩

/-! ### The three steps -/

/-- The codec answers the packet with an error that the session does not expect. -/
def World.refuses (W : World κ) (k : κ) (packet : AvPacket) : Bool :=
  let err := (W.sendPacket k (some packet)).1
  err < 0 && err ≠ averrorEagain && err ≠ averrorEof && err ≠ averrorInvaliddata

/-- A job is sent, waits, or is dropped. -/
theorem trySendInputJob_cases (h : trySendInputJob W s = .ok (r, s')) :
    (s.context = none ∧ s' = s ∧ ∃ err, r = .error err) ∨
    ∃ ctx, s.context = some ctx ∧
      ((ctx.jobs = [] ∧ r = .ok false ∧ s' = s) ∨
      (∃ rest, ctx.jobs = .drain :: rest ∧ r = .ok true ∧
        s' = { s with context := some { ctx with jobs := rest, drainState := .initiated } }) ∨
      ∃ packet i rest, ctx.jobs = .decode packet i :: rest ∧
        ((r = .ok false ∧ s' = { s with world := (W.sendPacket s.world (some packet)).2 } ∧
            ((W.sendPacket s.world (some packet)).1 = averrorEagain ∨
              (W.sendPacket s.world (some packet)).1 = averrorEof)) ∨
          (W.refuses s.world packet = true ∧ ∃ err, r = .error err ∧ s' = { s with
            world := (W.sendPacket s.world (some packet)).2
            context := some { ctx with jobs := rest } }) ∨
          (W.refuses s.world packet = false ∧ { s with
            world := (W.sendPacket s.world (some packet)).2
            context := some { ctx with jobs := rest } }.emit W (.inputBufferDone i 0) =
              (r, s')))) := by
  unfold trySendInputJob at h
  split at h
  · cases h
    exact .inl ⟨‹_›, rfl, _, rfl⟩
  · rename_i ctx hctx
    refine .inr ⟨ctx, hctx, ?_⟩
    split at h
    · cases h
      exact .inl ⟨‹_›, rfl, rfl⟩
    · cases h
      exact .inr (.inl ⟨_, ‹_›, rfl, rfl⟩)
    · rename_i packet i rest hjobs
      refine .inr (.inr ⟨packet, i, rest, hjobs, ?_⟩)
      dsimp only [World.trySendPacket] at h
      by_cases hagain : (W.sendPacket s.world (some packet)).1 = averrorEagain
      · rw [if_pos hagain] at h
        cases h
        exact .inl ⟨rfl, rfl, .inl hagain⟩
      · rw [if_neg hagain] at h
        by_cases hpos : 0 ≤ (W.sendPacket s.world (some packet)).1
        · rw [if_pos hpos] at h
          exact .inr (.inr ⟨by simp [World.refuses, not_lt.mpr hpos], Except.ok.inj h⟩)
        · rw [if_neg hpos] at h
          dsimp only at h
          split at h
          · cases h
            exact .inl ⟨rfl, rfl, .inr ‹_›⟩
          · split at h
            · rename_i hinvalid
              exact .inr (.inr ⟨by simp [World.refuses, hinvalid], Except.ok.inj h⟩)
            · rename_i heof hinvalid
              cases h
              refine .inr (.inl ⟨?_, _, rfl, rfl⟩)
              simp [World.refuses, not_le.mp hpos, hagain, heof, hinvalid]

/-- The output buffers are dropped and the change is announced. -/
theorem announce_cases {ctx : DecodingContext} {frame : AvFrame}
    (h : s.announce W ctx frame = (r, s')) :
    ∃ q avframe, s' = { s with
        availableOutputFrames := []
        context := some { ctx with avframe }
        events := q
        world := s.signalled W } ∧
      q.pendingEvents = s.events.pendingEvents ++ [.streamFormatChanged] ∧
      ((r = .ok true ∧ avframe = some frame) ∨ ∃ err, r = .error err ∧ avframe = ctx.avframe) := by
  obtain ⟨q, hq, hpending⟩ := queueEvent_cases W
    { s with availableOutputFrames := [], context := some ctx } .streamFormatChanged
  unfold Session.announce at h
  dsimp only at h
  split at h
  · obtain ⟨rfl, rfl⟩ := Prod.mk.inj h
    exact ⟨q, ctx.avframe, hq, hpending, .inr ⟨_, rfl, rfl⟩⟩
  · obtain ⟨rfl, rfl⟩ := Prod.mk.inj h
    refine ⟨q, some frame, ?_, hpending, .inl ⟨rfl, rfl⟩⟩
    rw [hq]
    rfl

/-- A frame is taken over, at once or after a change of the format. -/
theorem received_cases {ctx : DecodingContext} {frame : AvFrame}
    (h : s.received W ctx frame = .ok (r, s')) :
    (r = .ok true ∧ s' = { s with context := some { ctx with avframe := some frame } }) ∨
    ∃ params, ((∃ err, r = .error err) ∧
        s' = { s with world := (W.swsGetContext s.world).2 }.adapt params) ∨
      ∃ converter, ({ s with world := (W.swsGetContext s.world).2 }.adapt params).announce W
        { ctx with converter, acceptingOutputBuffers := false } frame = (r, s') := by
  unfold Session.received at h
  split at h
  · cases h
  · rename_i rect _
    dsimp only at h
    split at h
    · refine .inr ⟨⟨(frame.width, frame.height), rect⟩, ?_⟩
      split at h
      · cases h
        exact .inl ⟨⟨_, rfl⟩, rfl⟩
      · exact .inr ⟨_, Except.ok.inj h⟩
    · cases h
      exact .inl ⟨rfl, rfl⟩

/-- The answers of the codec. -/
theorem tryReceiveFrame_answer (W : World κ) (k : κ) :
    ((W.receiveFrame k).1 = averrorEagain ∧ (W.tryReceiveFrame k).1 = .ok .tryAgain) ∨
    ((W.receiveFrame k).1 = averrorEof ∧ (W.tryReceiveFrame k).1 = .ok .flushCompleted) ∨
    (0 ≤ (W.receiveFrame k).1 ∧ (W.tryReceiveFrame k).1 = .ok (.received (W.receiveFrame k).2.1)) ∨
    ((W.receiveFrame k).1 < 0 ∧ (W.tryReceiveFrame k).1 = .error (W.receiveFrame k).1) := by
  unfold World.tryReceiveFrame
  grind

/-- A frame is received, a drain moves on, or nothing but the world changes. The
codec is asked last at `k`, before which it may have been flushed if a drain was
initiated. -/
theorem tryReceiveFrame_cases {n : Nat} (h : tryReceiveFrame W n s = .ok (r, s')) :
    (s.context = none ∧ s' = s ∧ ∃ err, r = .error err) ∨
    ∃ ctx, s.context = some ctx ∧
      ((ctx.avframe.isSome = true ∧ r = .ok false ∧ s' = s) ∨
      (ctx.avframe = none ∧ ∃ k, (ctx.drainState ≠ .initiated → W.Leads s.world k) ∧
        ((∃ k', s' = { s with world := k' } ∧ (((∃ err, r = .error err) ∧ k' = k) ∨
          (k' = (W.receiveFrame k).2.2 ∧ (r ≠ .ok false ∨ (ctx.drainState ≠ .initiated ∧
            ((W.receiveFrame k).1 = averrorEagain ∨ (W.receiveFrame k).1 = averrorEof)))))) ∨
        ((∃ err, r = .error err) ∧ (W.receiveFrame k).1 = averrorEagain ∧
          (W.sendPacket (W.receiveFrame k).2.2 none).1 < 0 ∧ s' = { s with
            world := (W.sendPacket (W.receiveFrame k).2.2 none).2
            context := some { ctx with drainState := .none } }) ∨
        (r = .ok true ∧ s' = { s with
          world := (W.receiveFrame k).2.2
          context := some { ctx with drainState := .awaitingFinalFrame } }) ∨
        ∃ frame, { s with world := (W.receiveFrame k).2.2 }.received W ctx frame =
          .ok (r, s')))) := by
  induction n generalizing s with
  | zero => cases h
  | succ n ih =>
      unfold tryReceiveFrame at h
      split at h
      · cases h
        exact .inl ⟨‹_›, rfl, _, rfl⟩
      · rename_i ctx hctx
        refine .inr ⟨ctx, hctx, ?_⟩
        split at h
        · cases h
          exact .inl ⟨‹_›, rfl, rfl⟩
        · rename_i hframe
          refine .inr ⟨by simpa using hframe, ?_⟩
          have halloc : W.Leads s.world (W.frameAlloc s.world).2 :=
            fun Q hQ hk => hQ.frameAlloc _ hk
          dsimp only at h
          split at h
          · cases h
            exact ⟨_, fun _ => halloc, .inl ⟨_, rfl, .inl ⟨⟨_, rfl⟩, rfl⟩⟩⟩
          · dsimp only [World.tryReceiveFrame] at h
            by_cases hagain : (W.receiveFrame (W.frameAlloc s.world).2).1 = averrorEagain
            · rw [if_pos hagain] at h
              dsimp only at h
              split at h
              · rename_i hinitiated
                dsimp only [World.flushDecoder] at h
                split at h
                · rcases ih h with ⟨hnone, -⟩ | ⟨ctx', hctx', hcase⟩
                  · exact absurd (hctx.symm.trans hnone) (by simp)
                  · obtain rfl : ctx = ctx' := Option.some.inj (hctx.symm.trans hctx')
                    rcases hcase with ⟨hsome, -⟩ | ⟨-, k, -, hcase⟩
                    · exact absurd hsome hframe
                    · exact ⟨k, fun hne => absurd hinitiated hne, hcase⟩
                · rename_i hflush
                  cases h
                  refine ⟨_, fun _ => halloc, .inr (.inl ⟨⟨_, rfl⟩, hagain, ?_, rfl⟩)⟩
                  by_contra hneg
                  rw [if_pos (not_lt.mp hneg)] at hflush
                  cases hflush
              · rename_i hinitiated
                cases h
                exact ⟨_, fun _ => halloc,
                  .inl ⟨_, rfl, .inr ⟨rfl, .inr ⟨hinitiated, .inl hagain⟩⟩⟩⟩
            · rw [if_neg hagain] at h
              by_cases heof : (W.receiveFrame (W.frameAlloc s.world).2).1 = averrorEof
              · rw [if_pos heof] at h
                dsimp only at h
                split at h
                · cases h
                  exact ⟨_, fun _ => halloc, .inr (.inr (.inl ⟨rfl, rfl⟩))⟩
                · rename_i hinitiated
                  cases h
                  exact ⟨_, fun _ => halloc,
                    .inl ⟨_, rfl, .inr ⟨rfl, .inr ⟨hinitiated, .inr heof⟩⟩⟩⟩
              · rw [if_neg heof] at h
                refine ⟨_, fun _ => halloc, ?_⟩
                split at h
                · exact .inr (.inr (.inr ⟨_, h⟩))
                · rename_i heq
                  split at heq <;> cases heq
                · rename_i heq
                  split at heq <;> cases heq
                · split at h
                  · cases h
                    exact .inl ⟨_, rfl, .inr ⟨rfl, .inl (by simp)⟩⟩
                  · cases h
                    exact .inl ⟨_, rfl, .inr ⟨rfl, .inl (by simp)⟩⟩

/-- Nothing can be output, or one output buffer is used up: for the end of a
drain, or for the frame that waits. -/
theorem tryOutputFrame_cases (h : tryOutputFrame W s = .ok (r, s')) :
    (s.context = none ∧ s' = s ∧ ∃ err, r = .error err) ∨
    ∃ ctx, s.context = some ctx ∧
      ((r = .ok false ∧ s' = s ∧ (s.availableOutputFrames = [] ∨
        (ctx.drainState = .awaitingFinalFrame ∧ ctx.avframe.isSome = true) ∨
        (ctx.drainState ≠ .awaitingFinalFrame ∧ ctx.avframe = none))) ∨
      ∃ out rest, s.availableOutputFrames = out :: rest ∧
        ((ctx.drainState = .awaitingFinalFrame ∧ ctx.avframe = none ∧ { s with
            availableOutputFrames := rest
            context := some { ctx with drainState := .none } }.emit W
              (.frameCompleted out.index ⟨0, 0⟩ [] true) = (r, s')) ∨
        (ctx.drainState ≠ .awaitingFinalFrame ∧ ∃ frame k, ctx.avframe = some frame ∧
          W.Leads s.world k ∧ (((∃ err, r = .error err) ∧ s' = { s with
            availableOutputFrames := rest
            context := some { ctx with avframe := none }
            world := k }) ∨
          ∃ bytesUsed, { s with
            availableOutputFrames := rest
            context := some { ctx with avframe := none }
            world := k }.emit W
              (.frameCompleted out.index frame.timestamp [bytesUsed] false) = (r, s'))))) := by
  unfold tryOutputFrame at h
  split at h
  · cases h
    exact .inl ⟨‹_›, rfl, _, rfl⟩
  · rename_i ctx hctx
    refine .inr ⟨ctx, hctx, ?_⟩
    split at h
    · cases h
      exact .inl ⟨rfl, rfl, .inl ‹_›⟩
    · rename_i out rest havail
      split at h
      · rename_i hdrain
        split at h
        · cases h
          exact .inl ⟨rfl, rfl, .inr (.inl ⟨hdrain, ‹_›⟩)⟩
        · rename_i hframe
          exact .inr ⟨out, rest, havail,
            .inl ⟨hdrain, by simpa using hframe, Except.ok.inj h⟩⟩
      · rename_i hdrain
        split at h
        · cases h
          exact .inl ⟨rfl, rfl, .inr (.inr ⟨hdrain, ‹_›⟩)⟩
        · rename_i frame hframe
          refine .inr ⟨out, rest, havail, .inr ⟨hdrain, frame, ?_⟩⟩
          obtain ⟨⟨res, k⟩, hrender, h⟩ := map_eq_ok.mp h
          refine ⟨k, hframe, renderFrame_leads hrender, ?_⟩
          cases res with
          | error err =>
              obtain ⟨rfl, rfl⟩ := Prod.mk.inj h
              exact .inl ⟨⟨err, rfl⟩, rfl⟩
          | ok bytesUsed => exact .inr ⟨bytesUsed, h⟩

/-! ### The calls -/

/-- A call of `VideoDecoderBackendSession`. -/
inductive Call where
  | decode (input : FfmpegDecoderBuffer) (index : UInt32) (timestamp : Timeval)
      (bytesUsed : UInt32)
  | useAsOutput (index : UInt32) (backing : FfmpegDecoderBuffer)
  | drain
  | clearOutputBuffers
  | nextEvent
  | streamingState (direction : QueueDirection) (streaming : Bool)
  deriving DecidableEq, Repr

def Session.call (W : World κ) (s : Session κ) : Call → Except Crash (Except Int Unit × Session κ)
  | .decode input index timestamp bytesUsed => s.decode W input index timestamp bytesUsed
  | .useAsOutput index backing => .ok (s.useAsOutput W index backing)
  | .drain => s.drain W
  | .clearOutputBuffers => .ok (.ok (), s.clearOutputBuffers)
  | .nextEvent => .ok (.ok (), s.nextEvent.2)
  | .streamingState direction streaming => .ok (.ok (), s.streamingState direction streaming)

/-- The session after a call, whatever it answers. -/
def Session.next (W : World κ) (s : Session κ) (c : Call) : Option (Session κ) :=
  (s.call W c).toOption.map (·.2)

theorem next_eq_some {c : Call} (h : s.next W c = some s') :
    ∃ res, s.call W c = .ok (res, s') := by
  obtain ⟨⟨res, t⟩, hr, rfl⟩ := Option.map_eq_some_iff.mp h
  exact ⟨res, toOption_eq_some.mp hr⟩

/-- A context in which nothing has happened yet. -/
structure DecodingContext.Fresh (ctx : DecodingContext) : Prop where
  jobs : ctx.jobs = []
  avframe : ctx.avframe = none
  drainState : ctx.drainState = .none
  accepting : ctx.acceptingOutputBuffers = true

/-- The context that `decode` works with: the one there is, or a new one. -/
def Session.Opens (s : Session κ) (ctx : DecodingContext) : Prop :=
  s.context = some ctx ∨ (s.context = none ∧ ctx.Fresh)

theorem openContext_cases (W : World κ) (s : Session κ) :
    ∃ k, W.Leads s.world k ∧
      ((∃ e, s.openContext W = (.error e, { s with world := k })) ∨
        ∃ ctx, s.Opens ctx ∧
          s.openContext W = (.ok ctx, { s with context := some ctx, world := k })) := by
  unfold Session.openContext
  split
  · rename_i ctx hctx
    refine ⟨s.world, .refl W _, .inr ⟨ctx, .inl hctx, ?_⟩⟩
    rw [← hctx]
  · rename_i hnone
    dsimp only
    split
    · exact ⟨_, fun Q hQ hk => hQ.buildDecoder _ hk, .inl ⟨_, rfl⟩⟩
    · refine ⟨(W.swsGetContext (W.buildDecoder s.world).2).2, ?_, ?_⟩
      · exact fun Q hQ hk => hQ.swsGetContext _ (hQ.buildDecoder _ hk)
      · split
        · exact .inl ⟨_, rfl⟩
        · exact .inr ⟨_, .inr ⟨hnone, ⟨rfl, rfl, rfl, rfl⟩⟩, rfl⟩

/-- The session in which the decode loop of a call starts, if the call gets that
far. -/
def Session.loops (W : World κ) (s : Session κ) : Call → Option (Session κ)
  | .decode input index timestamp bytesUsed =>
    match s.openContext W, packetTimestamp W.checks timestamp, input.fds with
    | (.ok context, s), some pts, fd :: _ =>
      let r := W.readExact s.world fd.file bytesUsed
      let b := W.bufferCreate r.2
      if b.1 then r.1.map fun data => { s with
        context := some { context with jobs := context.jobs ++ [.decode ⟨pts, data⟩ index] }
        world := b.2 }
      else none
    | _, _, _ => none
  | .drain => s.context.map fun context => { s with
      context := some { context with jobs := context.jobs ++ [.drain] } }
  | _ => none

/-- `decode` fails early, or it submits a job. -/
theorem decode_cases {input : FfmpegDecoderBuffer} {index : UInt32} {timestamp : Timeval}
    {bytesUsed : UInt32} {res : Except Int Unit}
    (h : s.decode W input index timestamp bytesUsed = .ok (res, s')) :
    ∃ k, W.Leads s.world k ∧
      (((∃ e, res = .error e) ∧ (s' = { s with world := k } ∨
        ∃ ctx, s.Opens ctx ∧ s' = { s with context := some ctx, world := k })) ∨
      ∃ ctx packet t, s.Opens ctx ∧ t = { s with
          context := some { ctx with jobs := ctx.jobs ++ [.decode packet index] }
          world := k } ∧
        s.loops W (.decode input index timestamp bytesUsed) = some t ∧
        ∃ r, tryDecode W t = .ok (r, s') ∧ res = r.mapError fun _ => einval) := by
  obtain ⟨k, hk, ⟨e, hopen⟩ | ⟨ctx, hctx, hopen⟩⟩ := openContext_cases W s
  · unfold Session.decode at h
    rw [hopen] at h
    cases h
    exact ⟨k, hk, .inl ⟨⟨e, rfl⟩, .inl rfl⟩⟩
  · unfold Session.decode at h
    rw [hopen] at h
    dsimp only at h
    split at h
    · cases h
    · rename_i pts hpts
      split at h
      · cases h
        exact ⟨k, hk, .inl ⟨⟨_, rfl⟩, .inr ⟨ctx, hctx, rfl⟩⟩⟩
      · rename_i fd _ hfds
        have hread : W.Leads s.world (W.readExact k fd.file bytesUsed).2 :=
          fun Q hQ hs => hQ.readExact _ _ _ (hk Q hQ hs)
        split at h
        · cases h
          exact ⟨_, hread, .inl ⟨⟨_, rfl⟩, .inr ⟨ctx, hctx, rfl⟩⟩⟩
        · rename_i data hdata
          have hcreate : W.Leads s.world
              (W.bufferCreate (W.readExact k fd.file bytesUsed).2).2 :=
            fun Q hQ hs => hQ.bufferCreate _ (hread Q hQ hs)
          split at h
          · cases h
            exact ⟨_, hcreate, .inl ⟨⟨_, rfl⟩, .inr ⟨ctx, hctx, rfl⟩⟩⟩
          · rename_i hcreated
            obtain ⟨⟨r, t⟩, hr, h⟩ := map_eq_ok.mp h
            obtain ⟨rfl, rfl⟩ := Prod.mk.inj h
            refine ⟨_, hcreate, .inr ⟨ctx, ⟨pts, data⟩, _, hctx, rfl, ?_, r, hr, rfl⟩⟩
            have hcreated : (W.bufferCreate (W.readExact k fd.file bytesUsed).2).1 = true := by
              simpa using hcreated
            simp only [Session.loops, hopen, hpts, hfds, hdata, hcreated, if_true, Option.map_some]

/-- `drain` does nothing, or it submits a job. -/
theorem drain_cases {res : Except Int Unit} (h : s.drain W = .ok (res, s')) :
    (s.context = none ∧ res = .ok () ∧ s' = s) ∨
      ∃ ctx t, s.context = some ctx ∧
        t = { s with context := some { ctx with jobs := ctx.jobs ++ [.drain] } } ∧
        s.loops W .drain = some t ∧
        ∃ r, tryDecode W t = .ok (r, s') ∧ res = r.mapError fun _ => einval := by
  unfold Session.drain at h
  split at h
  · cases h
    exact .inl ⟨‹_›, rfl, rfl⟩
  · rename_i ctx hctx
    obtain ⟨⟨r, t⟩, hr, h⟩ := map_eq_ok.mp h
    obtain ⟨rfl, rfl⟩ := Prod.mk.inj h
    exact .inr ⟨ctx, _, hctx, rfl, by simp only [Session.loops, hctx, Option.map_some], r, hr, rfl⟩

/-- A round of the decode loop: the first step that makes progress answers for
the round. -/
theorem tryProgress_cases (h : tryProgress W s = .ok (r, s')) :
    (tryOutputFrame W s = .ok (r, s') ∧ r ≠ .ok false) ∨
    (∃ s₁, tryOutputFrame W s = .ok (.ok false, s₁) ∧
      tryReceiveFrame W W.fuel s₁ = .ok (r, s') ∧ r ≠ .ok false) ∨
    ∃ s₁ s₂, tryOutputFrame W s = .ok (.ok false, s₁) ∧
      tryReceiveFrame W W.fuel s₁ = .ok (.ok false, s₂) ∧ trySendInputJob W s₂ = .ok (r, s') := by
  rcases Loop.orElse_cases h with hfirst | ⟨s₁, h₁, h⟩
  · exact .inl hfirst
  · rcases Loop.orElse_cases h with hsecond | ⟨s₂, h₂, h⟩
    · exact .inr (.inl ⟨s₁, h₁, hsecond⟩)
    · exact .inr (.inr ⟨s₁, s₂, h₁, h₂, h⟩)

/-- The last round of the decode loop. -/
theorem tryDecode_last {P ok : Session κ → Prop}
    (hP : ∀ s s', P s → ok s → tryProgress W s = .ok (.ok true, s') → P s')
    (hs : P s) (hcontext : s.context.isSome = true)
    (hok : Loop.Throughout ok (tryProgress W) W.fuel s) {r : Except DecodeError Unit}
    (h : tryDecode W s = .ok (r, s')) :
    ∃ s₀, P s₀ ∧ ok s₀ ∧ ((r = .ok () ∧ tryProgress W s₀ = .ok (.ok false, s')) ∨
      ∃ err, r = .error err ∧ tryProgress W s₀ = .ok (.error err, s')) := by
  unfold tryDecode at h
  rw [if_neg (by simpa [Option.isSome_iff_ne_none] using hcontext)] at h
  exact Loop.whileTrue_last hP hs hok h

theorem mmapPlanes_leads (fds : List MemFdBuffer) (k : κ) :
    W.Leads k (mmapPlanes W fds k).2 := by
  intro Q hQ hk
  induction fds generalizing k with
  | nil => exact hk
  | cons fd rest ih =>
      unfold mmapPlanes
      dsimp only
      split
      · exact hQ.mmap _ _ hk
      · exact ih _ (hQ.mmap _ _ hk)

/-- The session takes the buffer that `use_as_output` gives it. -/
def Session.Takes (W : World κ) (s : Session κ) (backing : FfmpegDecoderBuffer) : Prop :=
  (∀ ctx, s.context = some ctx → ctx.acceptingOutputBuffers = true) ∧
    (mmapPlanes W backing.fds s.world).1.isSome = true

theorem useAsOutput_cases (W : World κ) (s : Session κ) (index : UInt32)
    (backing : FfmpegDecoderBuffer) :
    (¬s.Takes W backing ∧ ∃ res k, W.Leads s.world k ∧
      s.useAsOutput W index backing = (res, { s with world := k })) ∨
    (s.Takes W backing ∧ ∃ planes k, W.Leads s.world k ∧
      s.useAsOutput W index backing = (.ok (), { s with
        availableOutputFrames := s.availableOutputFrames ++ [⟨index, planes⟩]
        world := k })) := by
  have haccept : (s.context.map (·.acceptingOutputBuffers)).getD true = true ↔
      ∀ ctx, s.context = some ctx → ctx.acceptingOutputBuffers = true := by
    cases s.context <;> simp
  unfold Session.useAsOutput
  split
  · rename_i hrefused
    refine .inl ⟨fun ht => ?_, _, s.world, .refl W _, rfl⟩
    rw [haccept.mpr ht.1] at hrefused
    cases hrefused
  · rename_i htaken
    have hleads := mmapPlanes_leads (W := W) backing.fds s.world
    dsimp only
    split
    · rename_i hnone
      refine .inl ⟨fun ht => ?_, _, _, hleads, rfl⟩
      have hsome := ht.2
      rw [hnone] at hsome
      cases hsome
    · rename_i planes hsome
      refine .inr ⟨⟨haccept.mp (by simpa using htaken), ?_⟩, planes, _, hleads, rfl⟩
      rw [hsome]
      rfl

/-- An action on the device over the ffmpeg backend, which starts every session
with a new backend session. -/
def ffmpegAction (a : DecoderAction κ) : DecoderAction (Option (Session κ)) :=
  a.map fun k => some (.new k)

/-- The device over the ffmpeg backend after an action. -/
def ffmpegNext (W : World κ) (checks : Bool)
    (s : Decoder (Option (Session κ)) FfmpegDecoderBuffer) (a : DecoderAction κ) :
    Option (Decoder (Option (Session κ)) FfmpegDecoderBuffer) :=
  s.next (ffmpegBackend W) checks (ffmpegAction a)

/-! ### A simple codec -/

/-- The frames that are decoded and not yet received, and whether a null packet
was sent. -/
structure CodecState where
  frames : Nat
  draining : Bool
  deriving DecidableEq, Repr

def CodecState.send (k : CodecState) (packet : Option AvPacket) : Int × CodecState :=
  if k.draining then (averrorEof, k)
  else
    match packet with
    | none => (0, { k with draining := true })
    | some packet =>
      if packet.data = [] then (-einval, k) else (0, { k with frames := k.frames + 1 })

def CodecState.receive (frame : AvFrame) (k : CodecState) : Int × AvFrame × CodecState :=
  if k.frames = 0 then (if k.draining then averrorEof else averrorEagain, frame, k)
  else (0, frame, { k with frames := k.frames - 1 })

/-- A codec that decodes every packet with data to a copy of one frame, on a system
that refuses nothing. The buffers hold zeros. -/
def codecWorld (frame : AvFrame) : World CodecState where
  checks := true
  fuel := 32
  nv12 := 23
  buildDecoder k := (true, k)
  pixFmt _ := frame.format
  sendPacket := CodecState.send
  receiveFrame := CodecState.receive frame
  imageGetLinesize _ width _ := width.toNat
  imageFillPlaneSizes _ height linesizes :=
    .ok (linesizes.zipIdx.map fun (l, i) =>
      l.toNat * if i = 0 then height.toNat else (height.toNat + 1) / 2)
  frameAlloc k := (true, k)
  bufferCreate k := (true, k)
  swsGetContext k := (true, k)
  frameIsWritable k := (true, k)
  swsScale k := (0, k)
  eventfdWrite k := (.ok (), k)
  readExact k _ bytesUsed := (some (.replicate bytesUsed.toNat 0), k)
  mmap k _ := (true, k)
  memfd k _ := (some 0, k)

/-- The first OUTPUT buffer, with a packet of four bytes. -/
def packetBuffer : DecoderV4l2Buffer :=
  { guestBuffer .videoOutputMplane 0 with plane := ⟨4, 4096, 0, 0⟩ }

/-- A frame of the format that a new session assumes. -/
def defaultFrame : AvFrame := ⟨320, 240, 0, 0, 320, 240, 0, 0⟩

end VirtioMedia.Ffmpeg
