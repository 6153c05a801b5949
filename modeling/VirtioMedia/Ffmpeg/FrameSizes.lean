import VirtioMedia.Ffmpeg.Drain
import VirtioMedia.Ffmpeg.Sizeimage

/-!
# The size of the frames and of their destination

The coded size, for which output buffers are allocated, follows the frames only
where one of them is wider or higher. The destination of a frame has the coded
size, and `convert` refuses a frame of another size. So a frame that is smaller
than the coded size is dropped, and its output buffer with it.

The world keeps a log of the sizes of the frames that came out of the codec.
-/

namespace VirtioMedia.Ffmpeg

open V4l2 Device Fallible

/-- A width and a height. -/
abbrev Size := UInt32 × UInt32

/-- The coded size after a frame that changes the format. -/
def grow (coded size : Size) : Size :=
  if size.1 > coded.1 ∨ size.2 > coded.2 then size else coded

/-- The coded size after frames of these sizes. -/
def codedAfter (sizes : List Size) : Size := sizes.foldl grow (320, 240)

/-- The last frame has the coded size. -/
def LastFits (sizes : List Size) : Prop := ∀ size ∈ sizes.getLast?, size = codedAfter sizes

theorem codedAfter_concat (sizes : List Size) (size : Size) :
    codedAfter (sizes ++ [size]) = grow (codedAfter sizes) size := by
  simp [codedAfter]

theorem grow_self (coded : Size) : grow coded coded = coded := by
  simp [grow]

theorem grow_grow (coded size : Size) : grow (grow coded size) size = grow coded size := by
  unfold grow
  split
  · simp
  · rfl

section Logged

variable {κ : Type}

/-- The size of a frame. -/
def AvFrame.size (f : AvFrame) : Size := (f.width, f.height)

/-- The world with a log of the sizes of the frames. -/
def World.logged (W : World κ) : World (κ × List Size) where
  checks := W.checks
  fuel := W.fuel
  nv12 := W.nv12
  buildDecoder k := (W.buildDecoder k.1).map id (·, k.2)
  pixFmt k := W.pixFmt k.1
  sendPacket k packet := (W.sendPacket k.1 packet).map id (·, k.2)
  receiveFrame k :=
    let r := W.receiveFrame k.1
    (r.1, r.2.1, r.2.2, if 0 ≤ r.1 then k.2 ++ [r.2.1.size] else k.2)
  imageGetLinesize := W.imageGetLinesize
  imageFillPlaneSizes := W.imageFillPlaneSizes
  frameAlloc k := (W.frameAlloc k.1).map id (·, k.2)
  bufferCreate k := (W.bufferCreate k.1).map id (·, k.2)
  swsGetContext k := (W.swsGetContext k.1).map id (·, k.2)
  frameIsWritable k := (W.frameIsWritable k.1).map id (·, k.2)
  swsScale k := (W.swsScale k.1).map id (·, k.2)
  eventfdWrite k := (W.eventfdWrite k.1).map id (·, k.2)
  readExact k file n := (W.readExact k.1 file n).map id (·, k.2)
  mmap k file := (W.mmap k.1 file).map id (·, k.2)
  memfd k size := (W.memfd k.1 size).map id (·, k.2)

theorem logged_quiet (W : World κ) (sizes : List Size) : W.logged.Quiet fun k => k.2 = sizes where
  buildDecoder _ h := h
  frameAlloc _ h := h
  bufferCreate _ h := h
  swsGetContext _ h := h
  frameIsWritable _ h := h
  swsScale _ h := h
  eventfdWrite _ h := h
  readExact _ _ _ h := h
  mmap _ _ h := h

end Logged

/-! ### The sizes of a session -/

variable {κ : Type} {W : World κ} {s s' : Session (κ × List Size)} {r : Except DecodeError Bool}

theorem log_of_leads {k k' : κ × List Size} (h : W.logged.Leads k k') : k'.2 = k.2 :=
  h _ (logged_quiet W k.2) rfl

/-- The coded size is that of the frames so far, the size of the stream fits into
it, and the frame that waits is the last one. -/
structure Sized (s : Session (κ × List Size)) : Prop where
  coded : s.codedSize = codedAfter s.world.2
  stream : grow s.codedSize s.streamParams.codedSize = s.codedSize
  frame : ∀ f ∈ s.avframe, s.world.2.getLast? = some f.size

/-- Nothing that the sizes depend on is different, but the frame may be gone. -/
theorem Sized.of_same (h : Sized s) (hcoded : s'.codedSize = s.codedSize)
    (hstream : s'.streamParams = s.streamParams) (hlog : s'.world.2 = s.world.2)
    (hframe : ∀ f ∈ s'.avframe, f ∈ s.avframe) : Sized s' where
  coded := by rw [hcoded, hlog, h.coded]
  stream := by rw [hcoded, hstream, h.stream]
  frame f hf := by rw [hlog, h.frame f (hframe f hf)]

theorem Sized.of_world (h : Sized s) {k : κ × List Size} (hlog : k.2 = s.world.2) :
    Sized { s with world := k } :=
  h.of_same rfl rfl hlog fun _ hf => hf

theorem new_sized (k : κ) : Sized (.new (k, [])) where
  coded := rfl
  stream := grow_self _
  frame f hf := by cases hf

theorem emit_sized {e : BackendEvent} (hs : Sized s) (h : s.emit W.logged e = (r, s')) :
    Sized s' := by
  obtain ⟨⟨q, rfl, -⟩, -⟩ := emit_cases h
  exact hs.of_same rfl rfl (log_of_leads (signalled_leads s)) fun _ hf => hf

theorem tryOutputFrame_sized (hs : Sized s) (h : tryOutputFrame W.logged s = .ok (r, s')) :
    Sized s' := by
  rcases tryOutputFrame_cases h with ⟨-, rfl, -⟩ | ⟨ctx, hctx, ⟨-, rfl, -⟩ |
    ⟨out, rest, -, ⟨-, -, hemit⟩ | ⟨-, frame, k, -, hk, ⟨-, rfl⟩ | ⟨bytesUsed, hemit⟩⟩⟩⟩
  · exact hs
  · exact hs
  · refine emit_sized ?_ hemit
    exact hs.of_same rfl rfl rfl (by simp [Session.avframe, hctx])
  · exact hs.of_same rfl rfl (log_of_leads hk) (by simp [Session.avframe])
  · refine emit_sized ?_ hemit
    exact hs.of_same rfl rfl (log_of_leads hk) (by simp [Session.avframe])

theorem trySendInputJob_sized (hs : Sized s) (h : trySendInputJob W.logged s = .ok (r, s')) :
    Sized s' := by
  rcases trySendInputJob_cases h with ⟨-, rfl, -⟩ | ⟨ctx, hctx, ⟨-, -, rfl⟩ | ⟨rest, -, -, rfl⟩ |
    ⟨packet, i, rest, -, ⟨-, rfl, -⟩ | ⟨-, err, -, rfl⟩ | ⟨-, hemit⟩⟩⟩
  · exact hs
  · exact hs
  · exact hs.of_same rfl rfl rfl (by simp [Session.avframe, hctx])
  · exact hs.of_world rfl
  · exact hs.of_same rfl rfl rfl (by simp [Session.avframe, hctx])
  · refine emit_sized ?_ hemit
    exact hs.of_same rfl rfl rfl (by simp [Session.avframe, hctx])

/-- A frame that comes out of the codec is the last one of the log, whether or not
it changes the format. -/
theorem received_sized {ctx : DecodingContext} {frame : AvFrame} {sizes : List Size}
    (hcoded : s.codedSize = codedAfter sizes)
    (hstream : grow s.codedSize s.streamParams.codedSize = s.codedSize)
    (hlog : s.world.2 = sizes ++ [frame.size]) (hctx : s.context = some ctx)
    (hnone : ctx.avframe = none) (h : s.received W.logged ctx frame = .ok (r, s')) : Sized s' := by
  have hafter : codedAfter (sizes ++ [frame.size]) = grow s.codedSize frame.size := by
    rw [codedAfter_concat, hcoded]
  unfold Session.received at h
  split at h
  · cases h
  · rename_i rect _
    dsimp only at h
    split at h
    · split at h
      · cases h
        refine ⟨?_, grow_grow _ _, ?_⟩
        · exact hafter.symm.trans (congrArg codedAfter hlog.symm)
        · simp [Session.avframe, Session.adapt, hctx, hnone]
      · obtain ⟨q, avframe, rfl, -, hframe⟩ := announce_cases (Except.ok.inj h)
        have hlog' : (Session.signalled W.logged
            (Session.adapt { s with world := (W.logged.swsGetContext s.world).2 }
              ⟨frame.size, rect⟩)).2 = sizes ++ [frame.size] :=
          (log_of_leads (signalled_leads _)).trans hlog
        refine ⟨?_, grow_grow _ _, ?_⟩
        · exact hafter.symm.trans (congrArg codedAfter hlog'.symm)
        · intro f hf
          rcases hframe with ⟨-, rfl⟩ | ⟨err, -, rfl⟩
          · cases hf
            exact (congrArg List.getLast? hlog').trans List.getLast?_concat
          · simp [Session.avframe, hnone] at hf
    · rename_i hparams
      cases h
      have hsize : frame.size = s.streamParams.codedSize :=
        congrArg StreamParams.codedSize (not_not.mp hparams)
      refine ⟨?_, hstream, ?_⟩
      · change s.codedSize = codedAfter s.world.2
        rw [hlog, hafter, hsize, hstream]
      · intro f hf
        cases hf
        exact (congrArg List.getLast? hlog).trans List.getLast?_concat

theorem tryReceiveFrame_sized {n : Nat} (hs : Sized s)
    (h : tryReceiveFrame W.logged n s = .ok (r, s')) : Sized s' := by
  induction n generalizing s with
  | zero => cases h
  | succ n ih =>
      unfold tryReceiveFrame at h
      split at h
      · cases h
        exact hs
      · rename_i ctx hctx
        split at h
        · cases h
          exact hs
        · rename_i hframe
          have hnone : ctx.avframe = none := by simpa using hframe
          dsimp only at h
          split at h
          · cases h
            exact hs.of_world rfl
          · have hlog : (W.logged.tryReceiveFrame (W.logged.frameAlloc s.world).2).2.2 =
                if 0 ≤ (W.logged.receiveFrame (W.logged.frameAlloc s.world).2).1 then
                  s.world.2 ++
                    [(W.logged.receiveFrame (W.logged.frameAlloc s.world).2).2.1.size]
                else s.world.2 := rfl
            have hagain : averrorEagain < 0 := by decide
            have heof : averrorEof < 0 := by decide
            rcases tryReceiveFrame_answer W.logged (W.logged.frameAlloc s.world).2 with
              ⟨hanswer, hr⟩ | ⟨hanswer, hr⟩ | ⟨hanswer, hr⟩ | ⟨hanswer, hr⟩
            · rw [hanswer, if_neg (not_le.mpr hagain)] at hlog
              rw [hr] at h
              dsimp only at h
              split at h
              · split at h
                · refine ih (hs.of_world ?_) h
                  exact hlog
                · cases h
                  exact hs.of_same rfl rfl hlog (by simp [Session.avframe, hnone])
              · cases h
                exact hs.of_world hlog
            · rw [hanswer, if_neg (not_le.mpr heof)] at hlog
              rw [hr] at h
              dsimp only at h
              split at h
              · cases h
                exact hs.of_same rfl rfl hlog (by simp [Session.avframe, hnone])
              · cases h
                exact hs.of_world hlog
            · rw [if_pos hanswer] at hlog
              rw [hr] at h
              refine received_sized ?_ ?_ hlog ?_ hnone h
              · exact hs.coded
              · exact hs.stream
              · exact hctx
            · rw [if_neg (not_le.mpr hanswer)] at hlog
              rw [hr] at h
              dsimp only at h
              split at h
              · cases h
                exact hs.of_world hlog
              · cases h
                exact hs.of_world hlog

theorem tryProgress_sized (hs : Sized s) (h : tryProgress W.logged s = .ok (r, s')) :
    Sized s' := by
  rcases tryProgress_cases h with ⟨h, -⟩ | ⟨s₁, h₁, h, -⟩ | ⟨s₁, s₂, h₁, h₂, h⟩
  · exact tryOutputFrame_sized hs h
  · exact tryReceiveFrame_sized (tryOutputFrame_sized hs h₁) h
  · have hs₂ := tryReceiveFrame_sized (tryOutputFrame_sized hs h₁) h₂
    exact trySendInputJob_sized hs₂ h

/-! ### The calls -/

theorem tryDecode_sized (hs : Sized s) (hcontext : s.context.isSome = true)
    {res : Except DecodeError Unit} (h : tryDecode W.logged s = .ok (res, s')) : Sized s' := by
  obtain ⟨s₀, hs₀, -, ⟨-, hlast⟩ | ⟨err, -, hlast⟩⟩ := tryDecode_last (P := Sized)
    (fun s s' hs _ h => tryProgress_sized hs h) hs hcontext (Loop.throughout_true _ _ _) h
  · exact tryProgress_sized hs₀ hlast
  · exact tryProgress_sized hs₀ hlast

theorem opens_sized (hs : Sized s) {ctx : DecodingContext} (hctx : s.Opens ctx)
    {k : κ × List Size} (hk : W.logged.Leads s.world k) (jobs : List Job) :
    Sized { s with context := some { ctx with jobs }, world := k } := by
  refine hs.of_same rfl rfl (log_of_leads hk) ?_
  rcases hctx with hctx | ⟨-, hfresh⟩
  · simp [Session.avframe, hctx]
  · simp [Session.avframe, hfresh.avframe]

/-- The loop of a call starts in a session of this kind. -/
theorem loops_sized (hs : Sized s) {c : Call} {t : Session (κ × List Size)}
    (h : s.loops W.logged c = some t) : Sized t := by
  unfold Session.loops at h
  split at h
  · rename_i input index timestamp bytesUsed
    obtain ⟨k, hk, ⟨e, hopen⟩ | ⟨ctx, hctx, hopen⟩⟩ := openContext_cases W.logged s
    · rw [hopen] at h
      cases h
    · rw [hopen] at h
      split at h
      · rename_i ctx' s₁ pts fd fds heq hpts hfds
        cases heq
        dsimp only at h
        split at h
        · obtain ⟨data, -, rfl⟩ := Option.map_eq_some_iff.mp h
          refine opens_sized (W := W) hs hctx ?_ _
          exact fun Q hQ hq => hQ.bufferCreate _ (hQ.readExact _ _ _ (hk Q hQ hq))
        · cases h
      · cases h
  · obtain ⟨ctx, hctx, rfl⟩ := Option.map_eq_some_iff.mp h
    exact opens_sized (W := W) hs (.inl hctx) (.refl _ s.world) _
  · cases h

theorem next_sized (hs : Sized s) {c : Call} (h : s.next W.logged c = some s') : Sized s' := by
  obtain ⟨res, h⟩ := next_eq_some h
  cases c with
  | decode input index timestamp bytesUsed =>
      obtain ⟨k, hk, ⟨-, rfl | ⟨ctx, hctx, rfl⟩⟩ | ⟨ctx, packet, t, hctx, rfl, -, r, hdecode, -⟩⟩ :=
        decode_cases h
      · exact hs.of_world (log_of_leads hk)
      · exact opens_sized hs hctx hk ctx.jobs
      · exact tryDecode_sized (opens_sized hs hctx hk _) rfl hdecode
  | drain =>
      rcases drain_cases h with ⟨-, -, rfl⟩ | ⟨ctx, t, hctx, rfl, -, r, hdecode, -⟩
      · exact hs
      · exact tryDecode_sized (opens_sized (W := W) hs (.inl hctx) (.refl _ s.world) _) rfl hdecode
  | clearOutputBuffers =>
      cases h
      exact hs.of_same rfl rfl rfl fun _ hf => hf
  | nextEvent =>
      cases h
      exact hs.of_same rfl rfl rfl fun _ hf => hf
  | streamingState direction streaming =>
      cases h
      unfold Session.streamingState
      split
      · refine hs.of_same rfl rfl rfl ?_
        cases hctx : s.context <;> simp [Session.avframe, hctx]
      · exact hs
  | useAsOutput index backing =>
      have hused : s.useAsOutput W.logged index backing = (res, s') := Except.ok.inj h
      rcases useAsOutput_cases W.logged s index backing with
        ⟨-, res, k, hk, h⟩ | ⟨-, planes, k, hk, h⟩
      · obtain ⟨-, rfl⟩ := Prod.mk.inj (h.symm.trans hused)
        exact hs.of_world (log_of_leads hk)
      · obtain ⟨-, rfl⟩ := Prod.mk.inj (h.symm.trans hused)
        exact hs.of_same rfl rfl (log_of_leads hk) fun _ hf => hf

/-! ### The conversion -/

section Conversion

variable {κ : Type} {W : World κ} {s s' : Session κ}

/-- The frame and the output buffer that `try_output_frame` works on. -/
structure Session.Outputs (s : Session κ) (ctx : DecodingContext) (frame : AvFrame)
    (out : AvailableOutputFrame) (rest : List AvailableOutputFrame) : Prop where
  context : s.context = some ctx
  drain : ctx.drainState ≠ .awaitingFinalFrame
  frame : ctx.avframe = some frame
  buffers : s.availableOutputFrames = out :: rest

/-- Everything but the sizes is as the conversion needs it: the allocations succeed,
the destination frame fits into the buffer, the formats are those of the
converter, and libswscale does its part. -/
structure Session.Serves (W : World κ) (s : Session κ) (ctx : DecodingContext) (frame : AvFrame)
    (out : AvailableOutputFrame) : Prop where
  alloc : (W.frameAlloc s.world).1 = true
  create : (W.bufferCreate (W.frameAlloc s.world).2).1 = true
  width : s.codedSize.1.toNat < 2 ^ 31
  height : s.codedSize.2.toNat < 2 ^ 31
  planes : W.planeSizes W.nv12 [s.codedSize.1, s.codedSize.1] s.codedSize.2 ≠ []
  built : ∃ length lengths, out.planes = length :: lengths ∧
    buildOwned W W.nv12 s.codedSize.1 s.codedSize.2 [length] (dstPlanes W s.codedSize) =
      .ok (.ok ())
  srcFormat : frame.format = ctx.converter.srcPixFormat
  dstFormat : W.nv12 = ctx.converter.dstPixFormat
  writable : (W.frameIsWritable (W.bufferCreate (W.frameAlloc s.world).2).2).1 = true
  scale : 0 ≤ (W.swsScale (W.frameIsWritable (W.bufferCreate (W.frameAlloc s.world).2).2).2).1

/-- The output buffer is given back with the frame. -/
def Session.Completes (W : World κ) (s : Session κ) (out : AvailableOutputFrame)
    (rest : List AvailableOutputFrame) : Prop :=
  ∃ r s' timestamp bytesUsed, tryOutputFrame W s = .ok (r, s') ∧ s'.availableOutputFrames = rest ∧
    s'.events.pendingEvents =
      s.events.pendingEvents ++ [.frameCompleted out.index timestamp [bytesUsed] false]

/-- What `try_output_frame` does with the outcome of the conversion. -/
theorem tryOutputFrame_outputs {ctx : DecodingContext} {frame : AvFrame}
    {out : AvailableOutputFrame} {rest : List AvailableOutputFrame}
    (ho : s.Outputs ctx frame out rest) :
    tryOutputFrame W s =
      (renderFrame W s.world s.codedSize ctx.converter out.planes frame).map fun r =>
        let s := { s with
          availableOutputFrames := rest
          context := some { ctx with avframe := none }
          world := r.2 }
        match r.1 with
        | .error err => (.error err, s)
        | .ok bytesUsed =>
          s.emit W (.frameCompleted out.index frame.timestamp [bytesUsed] false) := by
  cases hrendered : renderFrame W s.world s.codedSize ctx.converter out.planes frame with
  | error e =>
      simp only [tryOutputFrame, ho.context, ho.buffers, ho.drain, ho.frame, if_false, hrendered,
        Except.map]
  | ok r =>
      obtain ⟨rendered, world⟩ := r
      cases rendered <;>
        simp only [tryOutputFrame, ho.context, ho.buffers, ho.drain, ho.frame, if_false, hrendered,
          Except.map]

/-- A conversion that only the sizes can prevent. -/
theorem convert_eq {c : SwConverter} {k : κ} {frame : AvFrame} {size : Size}
    (hsrc : frame.format = c.srcPixFormat) (hdst : W.nv12 = c.dstPixFormat)
    (hwritable : (W.frameIsWritable k).1 = true)
    (hscale : 0 ≤ (W.swsScale (W.frameIsWritable k).2).1) :
    c.convert W k frame W.nv12 size =
      if frame.size = size then (.ok (), (W.swsScale (W.frameIsWritable k).2).2)
      else (.error (.dimensionMismatch frame.size size), k) := by
  have hsize : (frame.width, frame.height) = frame.size := rfl
  simp only [SwConverter.convert, hsrc, hdst, ne_eq, not_true_eq_false, if_false, hsize]
  by_cases heq : frame.size = size
  · simp [heq, hwritable, hscale]
  · simp [heq]

/-- Where only the sizes can be wrong, they decide on the outcome. -/
theorem renderFrame_serves {ctx : DecodingContext} {frame : AvFrame} {out : AvailableOutputFrame}
    (hs : s.Serves W ctx frame out) :
    ∃ k, renderFrame W s.world s.codedSize ctx.converter out.planes frame =
      .ok (if frame.size = s.codedSize then .ok (bytesUsed W s.codedSize)
        else .error (.conversionError (.dimensionMismatch frame.size s.codedSize)), k) := by
  obtain ⟨length, lengths, hplanes, hbuilt⟩ := hs.built
  obtain ⟨luma, sizes, hsizes⟩ := List.exists_cons_of_ne_nil hs.planes
  rw [hplanes, renderFrame_eq hsizes hs.width hs.height hs.alloc hs.create, hbuilt]
  simp only [Except.map, convert_eq hs.srcFormat hs.dstFormat hs.writable hs.scale]
  by_cases heq : frame.size = s.codedSize
  · rw [if_pos heq, if_pos heq]
    exact ⟨_, rfl⟩
  · rw [if_neg heq, if_neg heq]
    exact ⟨_, rfl⟩

/-- Where only the sizes can be wrong, the buffer is given back if they agree. -/
theorem completes_iff {ctx : DecodingContext} {frame : AvFrame} {out : AvailableOutputFrame}
    {rest : List AvailableOutputFrame} (ho : s.Outputs ctx frame out rest)
    (hs : s.Serves W ctx frame out) : s.Completes W out rest ↔ frame.size = s.codedSize := by
  obtain ⟨k, hrender⟩ := renderFrame_serves hs
  have houtput := tryOutputFrame_outputs (W := W) ho
  rw [hrender] at houtput
  constructor
  · rintro ⟨r, s', timestamp, bytes, h, -, hevents⟩
    by_contra hne
    rw [houtput, if_neg hne] at h
    cases h
    simp at hevents
  · intro heq
    rw [if_pos heq] at houtput
    dsimp only [Except.map] at houtput
    generalize hemit : Session.emit _ _ _ = p at houtput
    obtain ⟨r, s'⟩ := p
    obtain ⟨⟨q, rfl, hq⟩, -⟩ := emit_cases hemit
    exact ⟨r, _, _, _, houtput, rfl, hq⟩

theorem emit_error {e : BackendEvent} {err : DecodeError} (h : s.emit W e = (.error err, s')) :
    ∃ errno, err = .eventQueue errno := by
  unfold Session.emit at h
  obtain ⟨h, -⟩ := Prod.mk.inj h
  cases hq : (s.queueEvent W e).1 with
  | ok u =>
      rw [hq] at h
      cases h
  | error errno =>
      rw [hq] at h
      cases h
      exact ⟨errno, rfl⟩

theorem convert_mismatch {c : SwConverter} {k k' : κ} {frame : AvFrame} {format : Int}
    {size src dst : Size}
    (h : c.convert W k frame format size = (.error (.dimensionMismatch src dst), k')) :
    frame.size ≠ size := by
  unfold SwConverter.convert at h
  split at h
  · cases h
  · split at h
    · cases h
    · split at h
      · rename_i hne
        exact hne
      · dsimp only at h
        split at h
        · cases h
        · split at h <;> cases h

theorem renderFrame_mismatch {c : SwConverter} {k k' : κ} {frame : AvFrame} {planes : List Nat}
    {size src dst : Size} (h : renderFrame W k size c planes frame =
      .ok (.error (.conversionError (.dimensionMismatch src dst)), k')) : frame.size ≠ size := by
  rcases renderFrame_cases W k size c planes frame with
    ⟨crash, hx, -⟩ | ⟨err, k₁, hx, -, hne⟩ | ⟨k₁, bytes, -, hx⟩
  · cases hx.symm.trans h
  · cases hx.symm.trans h
    exact absurd rfl (hne _)
  · generalize hc : c.convert W k₁ frame W.nv12 size = p at hx
    obtain ⟨_ | u, k₂⟩ := p
    · cases hx.symm.trans h
      exact convert_mismatch hc
    · cases hx.symm.trans h

/-- A mismatch is one of the frame that waits. -/
theorem size_ne_of_mismatch {src dst : Size}
    (h : tryOutputFrame W s = .ok (.error (.conversionError (.dimensionMismatch src dst)), s')) :
    ∃ frame ∈ s.avframe, frame.size ≠ s.codedSize := by
  unfold tryOutputFrame at h
  split at h
  · cases h
  · rename_i ctx hctx
    split at h
    · cases h
    · split at h
      · split at h
        · cases h
        · obtain ⟨errno, herr⟩ := emit_error (Except.ok.inj h)
          cases herr
      · split at h
        · cases h
        · rename_i frame hframe
          refine ⟨frame, by simp [Session.avframe, hctx, hframe], ?_⟩
          obtain ⟨⟨res, k⟩, hrender, h⟩ := map_eq_ok.mp h
          cases res with
          | error err =>
              cases h
              exact renderFrame_mismatch hrender
          | ok bytes =>
              obtain ⟨errno, herr⟩ := emit_error h
              cases herr

end Conversion

/-! ### Runs -/

/-- The frame that waits has the size of its destination, and its buffer comes back
with it, if the last frame of the codec has the coded size, and only then. -/
structure Session.Matches (W : World (κ × List Size)) (s : Session (κ × List Size)) : Prop where
  size : ∀ frame ∈ s.avframe, frame.size = s.codedSize ↔ LastFits s.world.2
  converts : LastFits s.world.2 → ∀ src dst s',
    tryOutputFrame W s ≠ .ok (.error (.conversionError (.dimensionMismatch src dst)), s')
  completes : ∀ ctx frame out rest, s.Outputs ctx frame out rest → s.Serves W ctx frame out →
    (s.Completes W out rest ↔ LastFits s.world.2)

theorem Sized.size_iff (hs : Sized s) {frame : AvFrame} (hframe : frame ∈ s.avframe) :
    frame.size = s.codedSize ↔ LastFits s.world.2 := by
  rw [LastFits, hs.frame frame hframe, hs.coded]
  simp

theorem Sized.matches (hs : Sized s) : s.Matches W.logged where
  size frame hframe := hs.size_iff hframe
  converts hfits src dst s' h := by
    obtain ⟨frame, hframe, hne⟩ := size_ne_of_mismatch h
    exact hne ((hs.size_iff hframe).mpr hfits)
  completes ctx frame out rest ho hserves := by
    have hframe : frame ∈ s.avframe := by simp [Session.avframe, ho.context, ho.frame]
    exact (completes_iff ho hserves).trans (hs.size_iff hframe)

/-- In every round of every run, a frame meets a destination of its size if and only
if the last frame that came out of the codec has the coded size: it has the size
that was the coded size before, or it is larger on an axis. -/
theorem frames_match_iff (W : World κ) (k : κ) (calls : List Call) :
    Trace.Conforms (Session.next W.logged)
      (fun s c => ∀ t ∈ s.loops W.logged c,
        Loop.Throughout (Session.Matches W.logged) (tryProgress W.logged) W.fuel t)
      (.new (k, [])) calls := by
  refine Trace.conforms_of_invariant (P := Sized) (fun s c s' hs _ h => next_sized hs h) ?_
    (new_sized k) (Trace.conforms_true _ _)
  · intro s c hs _ t ht
    exact Loop.throughout_of_invariant (P := Sized) (fun s s' hs h => tryProgress_sized hs h)
      (fun s hs => hs.matches) W.fuel (loops_sized hs ht)

/-- A frame that fits into the buffers of a new session. -/
def smallFrame : AvFrame := ⟨160, 120, 0, 0, 160, 120, 0, 0⟩

/-- The smaller format is announced, and buffers of the old size are used again. -/
def smallFrameRun : List Call :=
  [.decode ⟨[⟨0, 4096⟩]⟩ 0 ⟨0, 0⟩ 4, .streamingState .capture true,
    .useAsOutput 0 ⟨[⟨1, 115200⟩]⟩, .decode ⟨[⟨0, 4096⟩]⟩ 1 ⟨0, 0⟩ 4]

/-- The frame that waits is smaller than its destination, and the buffer is gone
without an event. -/
theorem frames_match_fails_small :
    ¬Trace.Conforms (Session.next (codecWorld smallFrame))
      (fun s c => ∀ t ∈ s.loops (codecWorld smallFrame) c,
        Loop.Throughout (fun t => ∀ frame ∈ t.avframe, frame.size = t.codedSize)
          (tryProgress (codecWorld smallFrame)) 32 t) (.new ⟨0, false⟩) smallFrameRun ∧
    (Trace.run (Session.next (codecWorld smallFrame)) (.new ⟨0, false⟩) smallFrameRun).map
      (fun s => (s.availableOutputFrames, s.events.pendingEvents)) =
        some ([], [.inputBufferDone 0 0, .streamFormatChanged]) := by
  decide

end VirtioMedia.Ffmpeg
