import VirtioMedia.Ffmpeg.Steps

/-!
# Output that could be delivered

A decoded frame waits in `avframe` for an output buffer, and the end of a drain
waits for one too. `decode` and `drain` run the decode loop, which ends only
when it can make no progress. `use_as_output` brings an output buffer and does
not run the loop.
-/

namespace VirtioMedia.Ffmpeg

open V4l2 Device Fallible

variable {κ : Type} {W : World κ} {s s' : Session κ} {r : Except DecodeError Bool}

/-- Neither a frame nor the end of a drain waits for an output buffer. -/
def DecodingContext.Rests (ctx : DecodingContext) : Prop :=
  ctx.avframe = none ∧ ctx.drainState ≠ .awaitingFinalFrame

/-- Nothing that could be delivered is left: there is no output buffer, or
nothing waits for one. -/
def Session.Idle (s : Session κ) : Prop :=
  s.availableOutputFrames = [] ∨ ∀ ctx, s.context = some ctx → ctx.Rests

/-- The call gives no output buffer to a session in which something waits for
one. -/
def Session.Prompt (W : World κ) (s : Session κ) : Call → Prop
  | .useAsOutput _ backing =>
    s.Takes W backing → ∀ ctx, s.context = some ctx → ctx.Rests
  | _ => True

/-- While there are output buffers, a frame and the end of a drain do not wait
together. -/
def Session.Undivided (s : Session κ) : Prop :=
  s.availableOutputFrames = [] ∨ ∀ ctx, s.context = some ctx →
    ctx.avframe = none ∨ ctx.drainState ≠ .awaitingFinalFrame

theorem Session.Idle.undivided (h : s.Idle) : s.Undivided :=
  h.imp_right fun h ctx hctx => .inl (h ctx hctx).1

/-! ### The steps of the loop -/

theorem idle_of_context {ctx : DecodingContext} (h : s.context = some ctx) (hr : ctx.Rests) :
    s.Idle := by
  refine .inr fun ctx' hctx' => ?_
  rw [← Option.some.inj (h.symm.trans hctx')]
  exact hr

theorem tryOutputFrame_idle (hs : s.Undivided) (h : tryOutputFrame W s = .ok (r, s')) :
    s'.Idle := by
  rcases tryOutputFrame_cases h with ⟨hnone, rfl, -⟩ | ⟨ctx, hctx, hcase⟩
  · exact .inr fun ctx hctx => absurd (hnone.symm.trans hctx) (by simp)
  · rcases hcase with ⟨-, rfl, hempty | ⟨hdrain, hframe⟩ | ⟨hdrain, hframe⟩⟩ |
      ⟨out, rest, havail, ⟨hdrain, hframe, hemit⟩ | ⟨hdrain, frame, k, -, -, hcase⟩⟩
    · exact .inl hempty
    · rcases hs with hempty | hs
      · exact .inl hempty
      · rcases hs ctx hctx with hnone | hne
        · rw [hnone] at hframe
          cases hframe
        · exact absurd hdrain hne
    · exact idle_of_context hctx ⟨hframe, hdrain⟩
    · obtain ⟨⟨q, rfl, -⟩, -⟩ := emit_cases hemit
      exact idle_of_context rfl ⟨hframe, by simp⟩
    · rcases hcase with ⟨-, rfl⟩ | ⟨bytesUsed, hemit⟩
      · exact idle_of_context rfl ⟨rfl, hdrain⟩
      · obtain ⟨⟨q, rfl, -⟩, -⟩ := emit_cases hemit
        exact idle_of_context rfl ⟨rfl, hdrain⟩

/-- A change of the world, or of what no frame and no drain depends on. -/
theorem Session.Idle.of_eq (hs : s.Idle)
    (havail : s'.availableOutputFrames = s.availableOutputFrames)
    (hctx : s'.context = s.context) : s'.Idle :=
  hs.imp (fun h => havail.trans h) fun h ctx h' => h ctx (hctx.symm.trans h')

/-- A frame that is received waits, and it does so alone. -/
theorem received_undivided {ctx : DecodingContext} {frame : AvFrame} (hs : s.Idle)
    (hctx : s.context = some ctx) (h : s.received W ctx frame = .ok (r, s')) :
    s'.Undivided ∧ (r ≠ .ok true → s'.Idle) := by
  rcases received_cases h with ⟨rfl, rfl⟩ | ⟨params, ⟨-, rfl⟩ | ⟨converter, hannounce⟩⟩
  · refine ⟨hs.imp_right fun hrests ctx' hctx' => .inr ?_, fun hne => absurd rfl hne⟩
    rw [← Option.some.inj hctx']
    exact (hrests ctx hctx).2
  · have hidle : ({ s with world := (W.swsGetContext s.world).2 }.adapt params).Idle :=
      hs.of_eq rfl rfl
    exact ⟨hidle.undivided, fun _ => hidle⟩
  · obtain ⟨q, avframe, rfl, -, -⟩ := announce_cases hannounce
    exact ⟨.inl rfl, fun _ => .inl rfl⟩

theorem tryReceiveFrame_undivided {n : Nat} (hs : s.Idle)
    (h : tryReceiveFrame W n s = .ok (r, s')) : s'.Undivided ∧ (r ≠ .ok true → s'.Idle) := by
  have hidle (hs' : s'.Idle) : s'.Undivided ∧ (r ≠ .ok true → s'.Idle) :=
    ⟨hs'.undivided, fun _ => hs'⟩
  rcases tryReceiveFrame_cases h with ⟨-, rfl, -⟩ |
    ⟨ctx, hctx, ⟨-, -, rfl⟩ | ⟨hframe, k, -, hcase⟩⟩
  · exact hidle hs
  · exact hidle hs
  · rcases hcase with ⟨k', rfl, -⟩ | ⟨-, -, -, rfl⟩ | ⟨rfl, rfl⟩ | ⟨frame, hreceived⟩
    · exact hidle (hs.of_eq rfl rfl)
    · exact hidle (idle_of_context rfl ⟨hframe, by simp⟩)
    · refine ⟨.inr fun ctx' hctx' => .inl ?_, fun hne => absurd rfl hne⟩
      rw [← Option.some.inj hctx']
      exact hframe
    · exact received_undivided (s := { s with world := (W.receiveFrame k).2.2 })
        (hs.of_eq rfl rfl) hctx hreceived

/-- Sending a job brings neither a frame nor the end of a drain. -/
theorem trySendInputJob_idle (hs : s.Idle) (h : trySendInputJob W s = .ok (r, s')) :
    s'.Idle := by
  rcases trySendInputJob_cases h with ⟨-, rfl, -⟩ | ⟨ctx, hctx, hcase⟩
  · exact hs
  · -- the context keeps its frame, and its drain does not end
    have hjobs {jobs : List Job} {state : DrainState} {q : EventQueue BackendEvent} {k : κ}
        (hstate : state ≠ .awaitingFinalFrame ∨ state = ctx.drainState) :
        Session.Idle { s with
          context := some { ctx with jobs, drainState := state }, events := q, world := k } := by
      refine hs.imp_right fun hrests ctx' hctx' => ?_
      obtain ⟨hframe, hdrain⟩ := hrests ctx hctx
      rw [← Option.some.inj hctx']
      refine ⟨hframe, hstate.elim id fun heq => ?_⟩
      rw [heq]
      exact hdrain
    rcases hcase with ⟨-, -, rfl⟩ | ⟨rest, -, -, rfl⟩ | ⟨packet, i, rest, -, hcase⟩
    · exact hs
    · exact hjobs (.inl (by simp))
    · rcases hcase with ⟨-, rfl, -⟩ | ⟨-, err, -, rfl⟩ | ⟨-, hemit⟩
      · exact hs.of_eq rfl rfl
      · exact hjobs (.inr rfl)
      · obtain ⟨⟨q, rfl, -⟩, -⟩ := emit_cases hemit
        exact hjobs (.inr rfl)

/-- A round of the loop that is its last leaves nothing to deliver. -/
theorem tryProgress_undivided (hs : s.Undivided) (h : tryProgress W s = .ok (r, s')) :
    s'.Undivided ∧ (r ≠ .ok true → s'.Idle) := by
  rcases tryProgress_cases h with ⟨h, -⟩ | ⟨s₁, h₁, h, -⟩ | ⟨s₁, s₂, h₁, h₂, h⟩
  · have hidle := tryOutputFrame_idle hs h
    exact ⟨hidle.undivided, fun _ => hidle⟩
  · exact tryReceiveFrame_undivided (tryOutputFrame_idle hs h₁) h
  · have hidle₂ := (tryReceiveFrame_undivided (tryOutputFrame_idle hs h₁) h₂).2 (by simp)
    have hidle := trySendInputJob_idle hidle₂ h
    exact ⟨hidle.undivided, fun _ => hidle⟩

/-! ### The calls -/

theorem tryDecode_idle (hs : s.Undivided) (hcontext : s.context.isSome = true)
    {res : Except DecodeError Unit} (h : tryDecode W s = .ok (res, s')) : s'.Idle := by
  obtain ⟨s₀, hs₀, -, ⟨-, hlast⟩ | ⟨err, -, hlast⟩⟩ := tryDecode_last
    (fun s s' hs _ h => (tryProgress_undivided hs h).1) hs hcontext
    (Loop.throughout_true _ _ _) h
  · exact (tryProgress_undivided hs₀ hlast).2 (by simp)
  · exact (tryProgress_undivided hs₀ hlast).2 (by simp)

theorem opens_idle (hs : s.Idle) {ctx : DecodingContext} (hctx : s.Opens ctx) (k : κ)
    (jobs : List Job) :
    Session.Idle { s with context := some { ctx with jobs }, world := k } := by
  rcases hctx with hctx | ⟨-, hfresh⟩
  · refine hs.imp_right fun hrests ctx' hctx' => ?_
    rw [← Option.some.inj hctx']
    exact hrests ctx hctx
  · exact idle_of_context rfl ⟨hfresh.avframe, by simp [hfresh.drainState]⟩

theorem decode_idle (hs : s.Idle) {input : FfmpegDecoderBuffer} {index : UInt32}
    {timestamp : Timeval} {bytesUsed : UInt32} {res : Except Int Unit}
    (h : s.decode W input index timestamp bytesUsed = .ok (res, s')) : s'.Idle := by
  obtain ⟨k, -, ⟨-, rfl | ⟨ctx, hctx, rfl⟩⟩ | ⟨ctx, packet, t, hctx, rfl, -, r, h, -⟩⟩ :=
    decode_cases h
  · exact hs.of_eq rfl rfl
  · exact opens_idle hs hctx k ctx.jobs
  · exact tryDecode_idle (opens_idle hs hctx k _).undivided rfl h

theorem drain_idle (hs : s.Idle) {res : Except Int Unit} (h : s.drain W = .ok (res, s')) :
    s'.Idle := by
  rcases drain_cases h with ⟨-, -, rfl⟩ | ⟨ctx, t, hctx, rfl, -, r, h, -⟩
  · exact hs
  · exact tryDecode_idle (opens_idle hs (.inl hctx) s.world _).undivided rfl h

/-- A prompt call leaves nothing that could be delivered, whatever it answers. -/
theorem call_idle (hs : s.Idle) {c : Call} (hc : s.Prompt W c) (h : s.next W c = some s') :
    s'.Idle := by
  obtain ⟨res, h⟩ := next_eq_some h
  cases c with
  | decode input index timestamp bytesUsed => exact decode_idle hs h
  | drain => exact drain_idle hs h
  | clearOutputBuffers =>
      cases h
      exact .inl rfl
  | nextEvent =>
      cases h
      exact hs.of_eq rfl rfl
  | streamingState direction streaming =>
      cases h
      unfold Session.streamingState
      split
      · refine hs.imp_right fun hrests ctx hctx => ?_
        obtain ⟨ctx', hctx', rfl⟩ := Option.map_eq_some_iff.mp hctx
        exact hrests ctx' hctx'
      · exact hs
  | useAsOutput index backing =>
      have hused : s.useAsOutput W index backing = (res, s') := Except.ok.inj h
      rcases useAsOutput_cases W s index backing with
        ⟨-, res, k, -, h⟩ | ⟨htaken, planes, k, -, h⟩
      · obtain ⟨-, rfl⟩ := Prod.mk.inj (h.symm.trans hused)
        exact hs.of_eq rfl rfl
      · obtain ⟨-, rfl⟩ := Prod.mk.inj (h.symm.trans hused)
        exact .inr (hc htaken)

/-- A call that succeeds and leaves nothing that could be delivered is prompt. -/
theorem prompt_of_idle {c : Call} (h : ∀ s', s.call W c = .ok (.ok (), s') → s'.Idle) :
    s.Prompt W c := by
  cases c with
  | useAsOutput index backing =>
      intro htaken
      rcases useAsOutput_cases W s index backing with
        ⟨hrefused, -⟩ | ⟨-, planes, k, -, hused⟩
      · exact absurd htaken hrefused
      · exact (h _ (congrArg Except.ok hused)).resolve_left (by simp)
  | decode input index timestamp bytesUsed => trivial
  | drain => trivial
  | clearOutputBuffers => trivial
  | nextEvent => trivial
  | streamingState direction streaming => trivial

/-- For every world and every run of calls on a new session: after every call
that succeeds, no output buffer is available while a frame or the end of a
drain waits for one, if and only if every output buffer that the session takes
is given to it while nothing waits. -/
theorem never_sleeps_on_output (W : World κ) (k : κ) (calls : List Call) :
    Trace.Conforms (Session.next W)
        (fun s c => ∀ s', s.call W c = .ok (.ok (), s') → s'.Idle) (.new k) calls ↔
      Trace.Conforms (Session.next W) (Session.Prompt W) (.new k) calls := by
  refine Trace.conforms_congr (P := Session.Idle) ?_ ?_ (.inl rfl) (Trace.conforms_true _ calls)
  · exact fun s c s' hs hc h => call_idle hs hc h
  · intro s c hs _
    constructor
    · exact prompt_of_idle
    · intro hc s' h
      refine call_idle hs hc ?_
      simp [Session.next, h, Except.toOption]

/-- One packet is decoded to one frame, and an output buffer comes after it. -/
def lateBufferRun : List Call :=
  [.decode ⟨[⟨0, 4096⟩]⟩ 0 ⟨0, 0⟩ 4, .useAsOutput 0 ⟨[⟨1, 115200⟩]⟩]

/-- Both calls succeed, and afterwards the frame and the buffer wait for each
other. -/
theorem never_sleeps_on_output_fails_lateBuffer :
    ∃ s s' ctx, Session.next (codecWorld defaultFrame) (.new ⟨0, false⟩) lateBufferRun[0] = some s ∧
      Session.call (codecWorld defaultFrame) s lateBufferRun[1] = .ok (.ok (), s') ∧
      s'.availableOutputFrames ≠ [] ∧ s'.context = some ctx ∧ ctx.avframe.isSome = true :=
  ⟨_, _, _, rfl, rfl, by simp, rfl, rfl⟩

end VirtioMedia.Ffmpeg
