import VirtioMedia.Ffmpeg.Buffers

/-!
# Decoding after a drain

A null packet puts the codec into its draining mode, which only
`avcodec_flush_buffers` ends. The session sends the null packet and keeps a
drain state of its own, and it never flushes the buffers of the codec. The two
agree until a drain completes: then the session takes the codec to be ready,
and the codec refuses every packet.

What the session relies on is `World.Contract`. The draining mode is a property
of the world, since the codec keeps it to itself.
-/

namespace VirtioMedia.Ffmpeg

open V4l2 Device Fallible

variable {κ : Type} {W : World κ} {draining : κ → Prop} {s s' : Session κ}
  {r : Except DecodeError Bool}

/-- What libavcodec promises about its draining mode: a null packet that is
refused and calls of other kinds do not start it, no frame is missing for want
of input in it, and outside of it a codec without a frame takes a packet. -/
structure World.Contract (W : World κ) (draining : κ → Prop) : Prop where
  quiet : W.Quiet fun k => ¬draining k
  sendPacket : ∀ k packet, ¬draining k → ¬draining (W.sendPacket k (some packet)).2
  receiveFrame : ∀ k, ¬draining k → ¬draining (W.receiveFrame k).2.2
  nullPacket : ∀ k, ¬draining k → (W.sendPacket k none).1 < 0 → ¬draining (W.sendPacket k none).2
  again : ∀ k, (W.receiveFrame k).1 = averrorEagain → ¬draining k
  accepts : ∀ k packet, ¬draining k →
    ((W.receiveFrame k).1 = averrorEagain ∨ (W.receiveFrame k).1 = averrorEof) →
    (W.sendPacket (W.receiveFrame k).2.2 (some packet)).1 ≠ averrorEagain ∧
      (W.sendPacket (W.receiveFrame k).2.2 (some packet)).1 ≠ averrorEof

def Session.drainState (s : Session κ) : DrainState := s.context.elim .none (·.drainState)

/-- The decoded frame that waits. -/
def Session.avframe (s : Session κ) : Option AvFrame := s.context.bind (·.avframe)

/-- A session that is not draining has a codec that is not. -/
def Session.InStep (draining : κ → Prop) (s : Session κ) : Prop :=
  s.drainState = .none → ¬draining s.world

/-- The next step of the loop completes a drain. -/
def Session.endsDrain (s : Session κ) : Bool :=
  s.drainState = .awaitingFinalFrame && s.avframe.isNone && !s.availableOutputFrames.isEmpty

/-- No step of the loop that the call runs completes a drain. -/
def Session.EndsNoDrain (W : World κ) (s : Session κ) (c : Call) : Prop :=
  ∀ t ∈ s.loops W c, Loop.Throughout (fun t => t.endsDrain = false) (tryProgress W) W.fuel t

instance instDecidableEndsNoDrain (W : World κ) (s : Session κ) (c : Call) :
    Decidable (s.EndsNoDrain W c) :=
  inferInstanceAs (Decidable (∀ t ∈ s.loops W c, _))

/-- The buffer that a call submits. -/
def Call.inputs : Call → List UInt32
  | .decode _ index _ _ => [index]
  | _ => []

/-- The call runs the decode loop. -/
def Call.decodes : Call → Bool
  | .decode _ _ _ _ | .drain => true
  | _ => false

/-- What a call that succeeds leaves when the session is not draining: a codec
that is not draining, and, once no frame waits, no job but an `InputBufferDone`
for each one that there was. -/
structure Session.Continues (draining : κ → Prop) (s : Session κ) (c : Call) (s' : Session κ) :
    Prop where
  inStep : s'.InStep draining
  jobs : c.decodes = true → s'.drainState = .none → s'.avframe = none → s'.jobs = []
  inputsDone : c.decodes = true → s'.drainState = .none → s'.avframe = none →
    s'.inputsDone.Perm (s.inputsHeld ++ c.inputs)

/-! ### The steps of the loop -/

theorem Session.InStep.of_leads (hW : W.Contract draining) (hs : s.InStep draining)
    (hstate : s'.drainState = s.drainState) (hleads : W.Leads s.world s'.world) :
    s'.InStep draining :=
  fun h => hleads _ hW.quiet (hs (hstate.symm.trans h))

theorem inStep_of_ne (h : s.drainState ≠ .none) : s.InStep draining :=
  fun h' => absurd h' h

theorem tryOutputFrame_inStep (hW : W.Contract draining) (hs : s.InStep draining)
    (hends : s.endsDrain = false) (h : tryOutputFrame W s = .ok (r, s')) :
    s'.InStep draining := by
  rcases tryOutputFrame_cases h with ⟨-, rfl, -⟩ | ⟨ctx, hctx, ⟨-, rfl, -⟩ |
    ⟨out, rest, havail, ⟨hdrain, hframe, -⟩ | ⟨-, frame, k, -, hk, hcase⟩⟩⟩
  · exact hs
  · exact hs
  · simp [Session.endsDrain, Session.drainState, Session.avframe, hctx, hdrain, hframe, havail]
      at hends
  · have hstate : ctx.drainState = s.drainState := by simp [Session.drainState, hctx]
    rcases hcase with ⟨-, rfl⟩ | ⟨bytesUsed, hemit⟩
    · exact hs.of_leads hW hstate hk
    · obtain ⟨⟨q, rfl, -⟩, -⟩ := emit_cases hemit
      exact hs.of_leads hW hstate (hk.trans (signalled_leads { s with
        availableOutputFrames := rest
        context := some { ctx with avframe := none }
        world := k }))

/-- A job that is sent leaves the mode of the codec as it is. -/
theorem trySendInputJob_inStep (hW : W.Contract draining) (hs : s.InStep draining)
    (h : trySendInputJob W s = .ok (r, s')) : s'.InStep draining := by
  rcases trySendInputJob_cases h with ⟨-, rfl, -⟩ | ⟨ctx, hctx, ⟨-, -, rfl⟩ |
    ⟨rest, -, -, rfl⟩ | ⟨packet, i, rest, -, hcase⟩⟩
  · exact hs
  · exact hs
  · exact inStep_of_ne (by simp [Session.drainState])
  · have hstate : ctx.drainState = s.drainState := by simp [Session.drainState, hctx]
    have hsent : s.drainState = .none → ¬draining (W.sendPacket s.world (some packet)).2 :=
      fun h => hW.sendPacket _ _ (hs h)
    rcases hcase with ⟨-, rfl, -⟩ | ⟨-, err, -, rfl⟩ | ⟨-, hemit⟩
    · exact hsent
    · exact fun h => hsent (hstate.symm.trans h)
    · obtain ⟨⟨q, rfl, -⟩, -⟩ := emit_cases hemit
      refine Session.InStep.of_leads (s := { s with
        world := (W.sendPacket s.world (some packet)).2
        context := some { ctx with jobs := rest } }) hW ?_ rfl (signalled_leads _)
      exact fun h => hsent (hstate.symm.trans h)

theorem received_inStep (hW : W.Contract draining) (hs : s.InStep draining)
    {ctx : DecodingContext} {frame : AvFrame} (hctx : s.context = some ctx)
    (h : s.received W ctx frame = .ok (r, s')) : s'.InStep draining := by
  have hstate : ctx.drainState = s.drainState := by simp [Session.drainState, hctx]
  have hsws : W.Leads s.world (W.swsGetContext s.world).2 := fun Q hQ hk => hQ.swsGetContext _ hk
  rcases received_cases h with ⟨-, rfl⟩ | ⟨params, ⟨-, rfl⟩ | ⟨converter, hannounce⟩⟩
  · exact hs.of_leads hW hstate (.refl W _)
  · exact hs.of_leads hW rfl hsws
  · obtain ⟨q, avframe, rfl, -, -⟩ := announce_cases hannounce
    exact hs.of_leads hW hstate (hsws.trans (signalled_leads
      ({ s with world := (W.swsGetContext s.world).2 }.adapt params)))

/-- Only a session whose drain is initiated sends a null packet, and it knows
whether the codec took it. -/
theorem tryReceiveFrame_inStep (hW : W.Contract draining) (hs : s.InStep draining) {n : Nat}
    (h : tryReceiveFrame W n s = .ok (r, s')) : s'.InStep draining := by
  rcases tryReceiveFrame_cases h with ⟨-, rfl, -⟩ | ⟨ctx, hctx, ⟨-, -, rfl⟩ |
    ⟨-, k, hk, hcase⟩⟩
  · exact hs
  · exact hs
  · have hstate : ctx.drainState = s.drainState := by simp [Session.drainState, hctx]
    have hasked : s.drainState = .none → ¬draining k := fun h =>
      hk (by simp [hstate, h]) _ hW.quiet (hs h)
    have hanswered : Session.InStep draining { s with world := (W.receiveFrame k).2.2 } :=
      fun h => hW.receiveFrame k (hasked h)
    rcases hcase with ⟨k', rfl, ⟨-, rfl⟩ | ⟨rfl, -⟩⟩ | ⟨-, hagain, hrefused, rfl⟩ | ⟨-, rfl⟩ |
      ⟨frame, hreceived⟩
    · exact hasked
    · exact hanswered
    · exact fun _ => hW.nullPacket _ (hW.receiveFrame k (hW.again k hagain)) hrefused
    · exact inStep_of_ne (by simp [Session.drainState])
    · exact received_inStep hW hanswered hctx hreceived

theorem tryProgress_inStep (hW : W.Contract draining) (hs : s.InStep draining)
    (hends : s.endsDrain = false) (h : tryProgress W s = .ok (r, s')) : s'.InStep draining := by
  rcases tryProgress_cases h with ⟨h, -⟩ | ⟨s₁, h₁, h, -⟩ | ⟨s₁, s₂, h₁, h₂, h⟩
  · exact tryOutputFrame_inStep hW hs hends h
  · exact tryReceiveFrame_inStep hW (tryOutputFrame_inStep hW hs hends h₁) h
  · have hs₂ := tryReceiveFrame_inStep hW (tryOutputFrame_inStep hW hs hends h₁) h₂
    exact trySendInputJob_inStep hW hs₂ h

/-! ### Jobs -/

/-- Nothing is received because a frame waits, or because the codec has none. -/
theorem tryReceiveFrame_false {n : Nat} (h : tryReceiveFrame W n s = .ok (.ok false, s')) :
    (s.avframe.isSome = true ∧ s' = s) ∨ (∃ k, s' = { s with world := (W.receiveFrame k).2.2 } ∧
      W.Leads s.world k ∧
      ((W.receiveFrame k).1 = averrorEagain ∨ (W.receiveFrame k).1 = averrorEof)) := by
  rcases tryReceiveFrame_cases h with ⟨-, -, err, herr⟩ | ⟨ctx, hctx, ⟨hsome, -, rfl⟩ |
    ⟨-, k, hk, hcase⟩⟩
  · cases herr
  · exact .inl ⟨by simpa [Session.avframe, hctx] using hsome, rfl⟩
  · rcases hcase with ⟨k', rfl, ⟨⟨err, herr⟩, -⟩ | ⟨rfl, hne | ⟨hstate, hnone⟩⟩⟩ |
      ⟨⟨err, herr⟩, -⟩ | ⟨htrue, -⟩ | ⟨frame, hreceived⟩
    · cases herr
    · exact absurd rfl hne
    · exact .inr ⟨k, rfl, hk hstate, hnone⟩
    · cases herr
    · cases htrue
    · rcases received_cases hreceived with ⟨htrue, -⟩ | ⟨params, ⟨⟨err, herr⟩, -⟩ |
        ⟨converter, hannounce⟩⟩
      · cases htrue
      · cases herr
      · obtain ⟨q, avframe, -, -, ⟨htrue, -⟩ | ⟨err, herr, -⟩⟩ := announce_cases hannounce
        · cases htrue
        · cases herr

/-- A job that is not sent was refused by the codec. -/
theorem trySendInputJob_false (h : trySendInputJob W s = .ok (.ok false, s')) :
    s'.context = s.context ∧ (s.jobs = [] ∨ ∃ packet,
      (W.sendPacket s.world (some packet)).1 = averrorEagain ∨
        (W.sendPacket s.world (some packet)).1 = averrorEof) := by
  rcases trySendInputJob_cases h with ⟨-, -, err, herr⟩ | ⟨ctx, hctx, ⟨hjobs, -, rfl⟩ |
    ⟨rest, -, htrue, -⟩ | ⟨packet, i, rest, -, ⟨-, rfl, hrefused⟩ |
      ⟨-, err, herr, -⟩ | ⟨-, hemit⟩⟩⟩
  · cases herr
  · exact ⟨rfl, .inl (by simpa [Session.jobs, hctx] using hjobs)⟩
  · cases htrue
  · exact ⟨rfl, .inr ⟨packet, hrefused⟩⟩
  · cases herr
  · obtain ⟨-, htrue | ⟨err, herr⟩⟩ := emit_cases hemit
    · cases htrue
    · cases herr

/-- When the loop ends in step with the codec and no frame waits, every job was
sent. -/
theorem tryProgress_false_jobs (hW : W.Contract draining) (hs : s.InStep draining)
    (hends : s.endsDrain = false) (h : tryProgress W s = .ok (.ok false, s'))
    (hstate : s'.drainState = .none) (hframe : s'.avframe = none) : s'.jobs = [] := by
  rcases tryProgress_cases h with ⟨-, hne⟩ | ⟨s₁, -, -, hne⟩ | ⟨s₁, s₂, h₁, h₂, h₃⟩
  · exact absurd rfl hne
  · exact absurd rfl hne
  · have hs₁ := tryOutputFrame_inStep hW hs hends h₁
    obtain ⟨hcontext, hjobs⟩ := trySendInputJob_false h₃
    have hjobs' : s'.jobs = s₂.jobs := by simp [Session.jobs, hcontext]
    have hstate₂ : s₂.drainState = .none := by
      simpa [Session.drainState, hcontext] using hstate
    have hframe₂ : s₂.avframe = none := by simpa [Session.avframe, hcontext] using hframe
    rcases tryReceiveFrame_false h₂ with ⟨hsome, rfl⟩ | ⟨k, rfl, hk, hnone⟩
    · rw [hframe₂] at hsome
      cases hsome
    · refine hjobs'.trans (hjobs.resolve_right ?_)
      rintro ⟨packet, hrefused⟩
      have hready : ¬draining k := hk _ hW.quiet (hs₁ hstate₂)
      obtain ⟨hagain, heof⟩ := hW.accepts k packet hready hnone
      exact hrefused.elim hagain heof

/-! ### The calls -/

theorem tryDecode_inStep (hW : W.Contract draining) (hs : s.InStep draining)
    (hcontext : s.context.isSome = true)
    (hends : Loop.Throughout (fun t => t.endsDrain = false) (tryProgress W) W.fuel s)
    {res : Except DecodeError Unit} (h : tryDecode W s = .ok (res, s')) :
    s'.InStep draining ∧
      (res = .ok () → s'.drainState = .none → s'.avframe = none → s'.jobs = []) := by
  obtain ⟨s₀, hs₀, hends₀, ⟨-, hlast⟩ | ⟨err, rfl, hlast⟩⟩ := tryDecode_last
    (fun t t' ht hends h => tryProgress_inStep hW ht hends h) hs hcontext hends h
  · exact ⟨tryProgress_inStep hW hs₀ hends₀ hlast,
      fun _ => tryProgress_false_jobs hW hs₀ hends₀ hlast⟩
  · exact ⟨tryProgress_inStep hW hs₀ hends₀ hlast, fun h => by cases h⟩

theorem opens_inStep (hW : W.Contract draining) (hs : s.InStep draining) {ctx : DecodingContext}
    (hctx : s.Opens ctx) {k : κ} (hk : W.Leads s.world k) (jobs : List Job) :
    Session.InStep draining { s with context := some { ctx with jobs }, world := k } := by
  refine hs.of_leads hW ?_ hk
  rcases hctx with hctx | ⟨hnone, hfresh⟩
  · simp [Session.drainState, hctx]
  · simp [Session.drainState, hnone, hfresh.drainState]

/-- A loop that ends in step with the codec has completed the input buffers. -/
theorem inputsDone_of_jobs {t : Session κ} {inputs : List UInt32} {res : Except DecodeError Unit}
    (hcontext : t.context.isSome = true) (h : tryDecode W t = .ok (res, s')) (hres : res = .ok ())
    (ht : t.inputsHeld.Perm inputs) (hjobs : s'.jobs = []) : s'.inputsDone.Perm inputs := by
  have hheld := (tryDecode_handles hcontext h).inputs_ok false (by rw [hres]; rfl)
  have hdone : s'.inputsHeld = s'.inputsDone := by simp [Session.inputsHeld, hjobs]
  rw [← hdone]
  exact hheld.trans ht

theorem mapError_eq_ok_unit {res : Except DecodeError Unit}
    (h : Except.ok () = res.mapError fun _ => einval) : res = .ok () := by
  cases res with
  | error err => cases h
  | ok u => rfl

theorem decode_inStep (hW : W.Contract draining) (hs : s.InStep draining)
    {input : FfmpegDecoderBuffer} {index : UInt32} {timestamp : Timeval} {bytesUsed : UInt32}
    (hends : s.EndsNoDrain W (.decode input index timestamp bytesUsed)) {res : Except Int Unit}
    (h : s.decode W input index timestamp bytesUsed = .ok (res, s')) :
    s'.InStep draining ∧
      (res = .ok () → s.Continues draining (.decode input index timestamp bytesUsed) s') := by
  obtain ⟨k, hk, ⟨⟨e, rfl⟩, rfl | ⟨ctx, hctx, rfl⟩⟩ | ⟨ctx, packet, t, hctx, rfl, hloops, r,
    hdecode, rfl⟩⟩ := decode_cases h
  · exact ⟨hs.of_leads hW rfl hk, fun h => by cases h⟩
  · exact ⟨opens_inStep hW hs hctx hk ctx.jobs, fun h => by cases h⟩
  · obtain ⟨hinStep, hjobs⟩ := tryDecode_inStep hW (opens_inStep hW hs hctx hk _) rfl
      (hends _ hloops) hdecode
    refine ⟨hinStep, fun hres => ?_⟩
    have hres := mapError_eq_ok_unit hres.symm
    refine ⟨hinStep, fun _ => hjobs hres, fun _ hstate hframe => ?_⟩
    exact inputsDone_of_jobs rfl hdecode hres (opens_inputsHeld hctx packet index k)
      (hjobs hres hstate hframe)

theorem drain_inStep (hW : W.Contract draining) (hs : s.InStep draining)
    (hends : s.EndsNoDrain W .drain) {res : Except Int Unit} (h : s.drain W = .ok (res, s')) :
    s'.InStep draining ∧ (res = .ok () → s.Continues draining .drain s') := by
  rcases drain_cases h with ⟨hnone, -, rfl⟩ | ⟨ctx, t, hctx, rfl, hloops, r, hdecode, rfl⟩
  · have hjobs : s'.jobs = [] := by simp [Session.jobs, hnone]
    refine ⟨hs, fun _ => ⟨hs, fun _ _ _ => hjobs, fun _ _ _ => .of_eq ?_⟩⟩
    simp [Session.inputsHeld, hjobs, Call.inputs]
  · obtain ⟨hinStep, hjobs⟩ := tryDecode_inStep hW
      (opens_inStep hW hs (.inl hctx) (.refl W s.world) _) rfl (hends _ hloops) hdecode
    refine ⟨hinStep, fun hres => ?_⟩
    have hres := mapError_eq_ok_unit hres.symm
    refine ⟨hinStep, fun _ => hjobs hres, fun _ hstate hframe => ?_⟩
    refine inputsDone_of_jobs rfl hdecode hres (.of_eq ?_) (hjobs hres hstate hframe)
    simp [Session.inputsHeld, Session.inputsDone, Session.jobs, hctx, Job.inputIndex?,
      Call.inputs]

theorem call_inStep (hW : W.Contract draining) (hs : s.InStep draining) {c : Call}
    (hends : s.EndsNoDrain W c) {res : Except Int Unit} (h : s.call W c = .ok (res, s')) :
    s'.InStep draining ∧ (res = .ok () → s.Continues draining c s') := by
  have hquiet (hdecodes : c.decodes = false) (hinStep : s'.InStep draining) :
      s'.InStep draining ∧ (res = .ok () → s.Continues draining c s') :=
    ⟨hinStep, fun _ => ⟨hinStep, by simp [hdecodes], by simp [hdecodes]⟩⟩
  cases c with
  | decode input index timestamp bytesUsed => exact decode_inStep hW hs hends h
  | drain => exact drain_inStep hW hs hends h
  | clearOutputBuffers =>
      apply hquiet rfl
      cases h
      exact hs
  | nextEvent =>
      apply hquiet rfl
      cases h
      exact hs
  | streamingState direction streaming =>
      apply hquiet rfl
      cases h
      refine hs.of_leads hW ?_ ?_
      · unfold Session.streamingState
        split
        · cases hctx : s.context <;> simp [Session.drainState, hctx]
        · rfl
      · unfold Session.streamingState
        split
        · exact .refl W _
        · exact .refl W _
  | useAsOutput index backing =>
      apply hquiet rfl
      have hused : s.useAsOutput W index backing = (res, s') := Except.ok.inj h
      rcases useAsOutput_cases W s index backing with
        ⟨-, res, k, hk, h⟩ | ⟨-, planes, k, hk, h⟩
      · obtain ⟨-, rfl⟩ := Prod.mk.inj (h.symm.trans hused)
        exact hs.of_leads hW rfl hk
      · obtain ⟨-, rfl⟩ := Prod.mk.inj (h.symm.trans hused)
        exact hs.of_leads hW rfl hk

/-- For every codec that keeps the contract and every run of calls on a new
session in which no drain completes: after every call that succeeds, the codec
is not draining unless the session is, and every job was taken by the codec
unless a frame waits. -/
theorem decoding_continues (hW : W.Contract draining) {k : κ} (hk : ¬draining k)
    {calls : List Call}
    (hends : Trace.Conforms (Session.next W) (Session.EndsNoDrain W) (.new k) calls) :
    Trace.Conforms (Session.next W)
      (fun s c => ∀ s', s.call W c = .ok (.ok (), s') → s.Continues draining c s')
      (.new k) calls := by
  refine Trace.conforms_of_invariant (P := Session.InStep draining) ?_ ?_ (fun _ => hk) hends
  · intro s c s' hs hc h
    obtain ⟨res, h⟩ := next_eq_some h
    exact (call_inStep hW hs hc h).1
  · intro s c hs hc s' h
    exact (call_inStep hW hs hc h).2 rfl

theorem codecWorld_contract (frame : AvFrame) :
    (codecWorld frame).Contract fun k => k.draining = true := by
  have hne : averrorEof ≠ averrorEagain ∧ -einval ≠ averrorEagain ∧ -einval ≠ averrorEof := by
    decide
  have hagain : averrorEagain < 0 := by decide
  have heof : averrorEof < 0 := by decide
  refine ⟨⟨?_, ?_, ?_, ?_, ?_, ?_, ?_, ?_, ?_⟩, ?_, ?_, ?_, ?_, ?_⟩
  all_goals
    simp only [codecWorld, CodecState.send, CodecState.receive]
    intro k
    grind

/-- Two packets and a drain that does not complete for want of a buffer. -/
def unfinishedDrainRun : List Call :=
  [.useAsOutput 0 ⟨[⟨1, 115200⟩]⟩, .useAsOutput 1 ⟨[⟨2, 115200⟩]⟩,
    .decode ⟨[⟨0, 4096⟩]⟩ 0 ⟨0, 0⟩ 4, .decode ⟨[⟨0, 4096⟩]⟩ 1 ⟨0, 0⟩ 4, .drain]

theorem decoding_continues_unfinishedDrain :
    Trace.Conforms (Session.next (codecWorld defaultFrame))
      (fun s c => ∀ s', s.call (codecWorld defaultFrame) c = .ok (.ok (), s') →
        s.Continues (fun k => k.draining = true) c s')
      (.new ⟨0, false⟩) unfinishedDrainRun :=
  decoding_continues (codecWorld_contract defaultFrame) (by simp) (by decide +kernel)

/-- A drain that completes, and a packet after it. -/
def completedDrainRun : List Call :=
  [.useAsOutput 0 ⟨[⟨1, 115200⟩]⟩, .useAsOutput 1 ⟨[⟨2, 115200⟩]⟩,
    .decode ⟨[⟨0, 4096⟩]⟩ 0 ⟨0, 0⟩ 4, .drain]

/-- The packet after the drain is accepted by the session and never by the
codec: the call succeeds, the session is not draining, the codec is, and the
job waits. -/
theorem decoding_continues_fails_completedDrain :
    (codecWorld defaultFrame).Contract (fun k => k.draining = true) ∧ ∃ s s',
      Trace.run (Session.next (codecWorld defaultFrame)) (.new ⟨0, false⟩)
        completedDrainRun = some s ∧
      s.call (codecWorld defaultFrame) (.decode ⟨[⟨0, 4096⟩]⟩ 1 ⟨0, 0⟩ 4) =
        .ok (.ok (), s') ∧
      s'.drainState = .none ∧ s'.avframe = none ∧ s'.world.draining = true ∧
      s'.jobs = [.decode ⟨0, [0, 0, 0, 0]⟩ 1] ∧ s'.inputsDone = [0] :=
  ⟨codecWorld_contract defaultFrame, _, _, rfl, rfl, rfl, rfl, rfl, rfl, rfl⟩

end VirtioMedia.Ffmpeg
