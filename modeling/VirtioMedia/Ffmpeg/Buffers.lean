import VirtioMedia.Device.BufferOwners
import VirtioMedia.Ffmpeg.Steps

/-!
# The buffers that a session holds

An OUTPUT buffer is held while its job waits and until its `InputBufferDone`
event is taken. A CAPTURE buffer is held while it is available and until its
`FrameCompleted` event is taken. The decode loop never adds a buffer to either
of them, and it loses an OUTPUT buffer only together with an error. So the
session is a custodian of the buffers that it is given.
-/

namespace VirtioMedia.Ffmpeg

open V4l2 Device Fallible

variable {κ : Type} {W : World κ} {s s' : Session κ} {r : Except DecodeError Bool}

def Job.inputIndex? : Job → Option UInt32
  | .decode _ inputIndex => some inputIndex
  | .drain => none

def Session.jobs (s : Session κ) : List Job := s.context.elim [] (·.jobs)

def Session.inputsDone (s : Session κ) : List UInt32 :=
  s.events.pendingEvents.filterMap BackendEvent.inputDone?

def Session.framesDone (s : Session κ) : List UInt32 :=
  s.events.pendingEvents.filterMap BackendEvent.frameDone?

/-- The OUTPUT buffers that the session holds. -/
def Session.inputsHeld (s : Session κ) : List UInt32 :=
  s.jobs.filterMap Job.inputIndex? ++ s.inputsDone

/-- The CAPTURE buffers that the session holds. -/
def Session.outputsHeld (s : Session κ) : List UInt32 :=
  s.availableOutputFrames.map (·.index) ++ s.framesDone

/-- What a step of the loop may do to the buffers. -/
structure Session.Handles (s : Session κ) (r : Except DecodeError Bool) (s' : Session κ) :
    Prop where
  inputs : s'.inputsHeld.Subperm s.inputsHeld
  outputs : s'.outputsHeld.Subperm s.outputsHeld
  inputs_ok : ∀ b, r = .ok b → s'.inputsHeld.Perm s.inputsHeld

namespace Session.Handles

theorem of_perm (hi : s'.inputsHeld.Perm s.inputsHeld) (ho : s'.outputsHeld.Subperm s.outputsHeld) :
    s.Handles r s' :=
  ⟨hi.subperm, ho, fun _ _ => hi⟩

theorem of_eq (hi : s'.inputsHeld = s.inputsHeld) (ho : s'.outputsHeld = s.outputsHeld) :
    s.Handles r s' :=
  .of_perm (.of_eq hi) (List.Perm.of_eq ho).subperm

theorem trans {t : Session κ} {b : Bool} (h : s.Handles (.ok b) t) (h' : t.Handles r s') :
    s.Handles r s' :=
  ⟨h'.inputs.trans h.inputs, h'.outputs.trans h.outputs,
    fun b' hr => (h'.inputs_ok b' hr).trans (h.inputs_ok b rfl)⟩

end Session.Handles

/-- The buffer of the job that is sent is done, or it is lost. -/
theorem trySendInputJob_handles (h : trySendInputJob W s = .ok (r, s')) : s.Handles r s' := by
  rcases trySendInputJob_cases h with ⟨-, rfl, -⟩ | ⟨ctx, hctx, ⟨-, -, rfl⟩ |
    ⟨rest, hjobs, -, rfl⟩ | ⟨packet, i, rest, hjobs, ⟨-, rfl, -⟩ | ⟨-, err, rfl, rfl⟩ |
    ⟨-, hemit⟩⟩⟩
  · exact .of_eq rfl rfl
  · exact .of_eq rfl rfl
  · refine .of_eq ?_ rfl
    simp [Session.inputsHeld, Session.jobs, Session.inputsDone, hctx, hjobs, List.filterMap_cons,
      Job.inputIndex?]
  · exact .of_eq rfl rfl
  · have hheld : s.inputsHeld = i :: (rest.filterMap Job.inputIndex? ++ s.inputsDone) := by
      simp [Session.inputsHeld, Session.jobs, hctx, hjobs, Job.inputIndex?]
    refine ⟨?_, .refl _, fun b hb => by cases hb⟩
    rw [hheld]
    exact (List.sublist_cons_self _ _).subperm
  · obtain ⟨⟨q, rfl, hq⟩, -⟩ := emit_cases hemit
    refine .of_perm ?_ (List.Perm.subperm (.of_eq ?_))
    · have hheld : s.inputsHeld = i :: (rest.filterMap Job.inputIndex? ++ s.inputsDone) := by
        simp [Session.inputsHeld, Session.jobs, hctx, hjobs, Job.inputIndex?]
      rw [hheld]
      simp only [Session.inputsHeld, Session.jobs, Session.inputsDone, hq, Option.elim_some,
        List.filterMap_append, List.filterMap_cons, BackendEvent.inputDone?, List.filterMap_nil,
        ← List.append_assoc]
      exact List.perm_append_singleton _ _
    · simp [Session.outputsHeld, Session.framesDone, hq, BackendEvent.frameDone?]

theorem received_handles {ctx : DecodingContext} {frame : AvFrame} (hctx : s.context = some ctx)
    (h : s.received W ctx frame = .ok (r, s')) : s.Handles r s' := by
  rcases received_cases h with ⟨-, rfl⟩ | ⟨params, ⟨-, rfl⟩ | ⟨converter, hannounce⟩⟩
  · refine .of_eq ?_ rfl
    simp [Session.inputsHeld, Session.inputsDone, hctx, Session.jobs]
  · exact .of_eq rfl rfl
  · obtain ⟨q, avframe, rfl, hq, -⟩ := announce_cases hannounce
    refine .of_perm (.of_eq ?_) ?_
    · simp [Session.inputsHeld, Session.inputsDone, hctx, Session.jobs, hq, BackendEvent.inputDone?,
        Session.adapt]
    · simp only [Session.outputsHeld, Session.framesDone, hq, List.filterMap_append,
        List.filterMap_cons, BackendEvent.frameDone?, List.filterMap_nil, List.append_nil,
        List.map_nil, List.nil_append, Session.adapt]
      exact (List.sublist_append_right _ _).subperm

/-- Receiving a frame at most gives up output buffers. -/
theorem tryReceiveFrame_handles {n : Nat} (h : tryReceiveFrame W n s = .ok (r, s')) :
    s.Handles r s' := by
  rcases tryReceiveFrame_cases h with ⟨-, rfl, -⟩ | ⟨ctx, hctx, ⟨-, -, rfl⟩ |
    ⟨-, k, -, ⟨k', rfl, -⟩ | ⟨-, -, -, rfl⟩ | ⟨-, rfl⟩ | ⟨frame, hreceived⟩⟩⟩
  · exact .of_eq rfl rfl
  · exact .of_eq rfl rfl
  · exact .of_eq rfl rfl
  · refine .of_eq ?_ rfl
    simp [Session.inputsHeld, Session.inputsDone, hctx, Session.jobs]
  · refine .of_eq ?_ rfl
    simp [Session.inputsHeld, Session.inputsDone, hctx, Session.jobs]
  · have hreceived' := received_handles
      (s := { s with world := (W.receiveFrame k).2.2 }) hctx hreceived
    exact ⟨hreceived'.inputs, hreceived'.outputs, hreceived'.inputs_ok⟩

/-- An output buffer is used for the event that is queued for it, or lost. -/
theorem tryOutputFrame_handles (h : tryOutputFrame W s = .ok (r, s')) : s.Handles r s' := by
  rcases tryOutputFrame_cases h with ⟨-, rfl, -⟩ | ⟨ctx, hctx, ⟨-, rfl, -⟩ |
    ⟨out, rest, havail, hcase⟩⟩
  · exact .of_eq rfl rfl
  · exact .of_eq rfl rfl
  · have hjobs : s.jobs = ctx.jobs := by simp [Session.jobs, hctx]
    have hheld : s.outputsHeld = out.index :: (rest.map (·.index) ++ s.framesDone) := by
      simp [Session.outputsHeld, havail]
    -- the event takes the place of the available buffer
    have hused {t : Session κ} {timestamp : Timeval} {bytesUsed : List UInt32} {isLast : Bool}
        (hcontext : t.jobs = s.jobs) (havail' : t.availableOutputFrames = rest)
        (hevents : t.events.pendingEvents =
          s.events.pendingEvents ++ [.frameCompleted out.index timestamp bytesUsed isLast]) :
        s.Handles r t := by
      refine .of_perm (.of_eq ?_) (List.Perm.subperm ?_)
      · simp [Session.inputsHeld, Session.inputsDone, hcontext, hevents, BackendEvent.inputDone?]
      · rw [hheld]
        simp only [Session.outputsHeld, Session.framesDone, hevents, havail',
          List.filterMap_append, List.filterMap_cons, BackendEvent.frameDone?, List.filterMap_nil,
          ← List.append_assoc]
        exact List.perm_append_singleton _ _
    rcases hcase with ⟨-, -, hemit⟩ | ⟨-, frame, k, -, -, ⟨-, rfl⟩ | ⟨bytesUsed, hemit⟩⟩
    · obtain ⟨⟨q, rfl, hq⟩, -⟩ := emit_cases hemit
      exact hused hjobs.symm rfl hq
    · refine .of_perm (.of_eq ?_) ?_
      · simp [Session.inputsHeld, Session.inputsDone, hctx, Session.jobs]
      · rw [hheld]
        exact (List.sublist_cons_self _ _).subperm
    · obtain ⟨⟨q, rfl, hq⟩, -⟩ := emit_cases hemit
      exact hused hjobs.symm rfl hq

/-! ### The loop -/

theorem tryProgress_handles (h : tryProgress W s = .ok (r, s')) : s.Handles r s' := by
  rcases tryProgress_cases h with ⟨h, -⟩ | ⟨s₁, h₁, h, -⟩ | ⟨s₁, s₂, h₁, h₂, h⟩
  · exact tryOutputFrame_handles h
  · exact (tryOutputFrame_handles h₁).trans (tryReceiveFrame_handles h)
  · have hhandles₂ := (tryOutputFrame_handles h₁).trans (tryReceiveFrame_handles h₂)
    exact hhandles₂.trans (trySendInputJob_handles h)

/-- A whole loop handles the buffers like one step. -/
theorem tryDecode_handles {res : Except DecodeError Unit} (hcontext : s.context.isSome = true)
    (h : tryDecode W s = .ok (res, s')) : s.Handles (res.map fun _ => false) s' := by
  obtain ⟨s₀, hs₀, -, ⟨rfl, hlast⟩ | ⟨err, rfl, hlast⟩⟩ := tryDecode_last
    (fun t t' (ht : s.Handles (.ok true) t) _ h => ht.trans (tryProgress_handles h))
    (.of_eq rfl rfl) hcontext (Loop.throughout_true _ _ _) h
  · exact hs₀.trans (tryProgress_handles hlast)
  · exact hs₀.trans (tryProgress_handles hlast)

/-! ### The calls -/

theorem opens_jobs {ctx : DecodingContext} (hctx : s.Opens ctx) : s.jobs = ctx.jobs := by
  rcases hctx with hctx | ⟨hnone, hfresh⟩
  · simp [Session.jobs, hctx]
  · simp [Session.jobs, hnone, hfresh.jobs]

theorem opens_inputsHeld {ctx : DecodingContext} (hctx : s.Opens ctx) (packet : AvPacket)
    (index : UInt32) (k : κ) :
    (Session.inputsHeld { s with
      context := some { ctx with jobs := ctx.jobs ++ [.decode packet index] }
      world := k }).Perm (s.inputsHeld ++ [index]) := by
  rw [Session.inputsHeld, Session.inputsHeld, opens_jobs hctx]
  simp only [Session.jobs, Option.elim_some, List.filterMap_append, List.filterMap_cons,
    Job.inputIndex?, List.filterMap_nil, List.append_assoc]
  exact List.perm_append_comm.append_left _

/-- `decode` takes one OUTPUT buffer. -/
theorem decode_held {input : FfmpegDecoderBuffer} {index : UInt32} {timestamp : Timeval}
    {bytesUsed : UInt32} {res : Except Int Unit}
    (h : s.decode W input index timestamp bytesUsed = .ok (res, s')) :
    s'.inputsHeld.Subperm (s.inputsHeld ++ [index]) ∧ s'.outputsHeld.Subperm s.outputsHeld := by
  have hleft : s.inputsHeld.Subperm (s.inputsHeld ++ [index]) :=
    (List.sublist_append_left _ _).subperm
  obtain ⟨k, -, ⟨-, rfl | ⟨ctx, hctx, rfl⟩⟩ | ⟨ctx, packet, t, hctx, rfl, -, r, hdecode, -⟩⟩ :=
    decode_cases h
  · exact ⟨hleft, .refl _⟩
  · refine ⟨?_, .refl _⟩
    change (ctx.jobs.filterMap Job.inputIndex? ++ s.inputsDone).Subperm _
    rw [← opens_jobs hctx]
    exact hleft
  · have hhandles := tryDecode_handles rfl hdecode
    exact ⟨hhandles.inputs.trans (opens_inputsHeld hctx packet index k).subperm, hhandles.outputs⟩

theorem drain_held {res : Except Int Unit} (h : s.drain W = .ok (res, s')) :
    s'.inputsHeld.Subperm s.inputsHeld ∧ s'.outputsHeld.Subperm s.outputsHeld := by
  rcases drain_cases h with ⟨-, -, rfl⟩ | ⟨ctx, t, hctx, rfl, -, r, hdecode, -⟩
  · exact ⟨.refl _, .refl _⟩
  · have hhandles := tryDecode_handles rfl hdecode
    refine ⟨hhandles.inputs.trans (List.Perm.subperm (.of_eq ?_)), hhandles.outputs⟩
    simp [Session.inputsHeld, Session.inputsDone, Session.jobs, hctx, Job.inputIndex?]

/-- `use_as_output` takes one CAPTURE buffer, or none. -/
theorem useAsOutput_held (W : World κ) (s : Session κ) (index : UInt32)
    (backing : FfmpegDecoderBuffer) :
    (s.useAsOutput W index backing).2.inputsHeld = s.inputsHeld ∧
      (s.useAsOutput W index backing).2.outputsHeld.Subperm (s.outputsHeld ++ [index]) := by
  rcases useAsOutput_cases W s index backing with ⟨-, res, k, -, h⟩ | ⟨-, planes, k, -, h⟩
  · rw [h]
    exact ⟨rfl, (List.sublist_append_left _ _).subperm⟩
  · rw [h]
    refine ⟨rfl, List.Perm.subperm ?_⟩
    simp only [Session.outputsHeld, List.map_append, List.map_cons, List.map_nil,
      List.append_assoc]
    exact List.perm_append_comm.append_left _

theorem Session.clearOutputBuffers_inputsDone (s : Session κ) :
    s.clearOutputBuffers.inputsDone = s.inputsDone := by
  simp only [Session.inputsDone, Session.clearOutputBuffers, EventQueue.retain,
    List.filterMap_filter]
  refine List.filterMap_congr fun e _ => ?_
  cases e <;> simp [isFrameCompleted, BackendEvent.inputDone?]

/-- `clear_output_buffers` gives all CAPTURE buffers back. -/
theorem clearOutputBuffers_held (s : Session κ) :
    s.clearOutputBuffers.inputsHeld = s.inputsHeld ∧ s.clearOutputBuffers.outputsHeld = [] := by
  constructor
  · exact congrArg (s.jobs.filterMap Job.inputIndex? ++ ·) s.clearOutputBuffers_inputsDone
  · simp only [Session.outputsHeld, Session.framesDone, Session.clearOutputBuffers,
      EventQueue.retain, List.map_nil, List.nil_append, List.filterMap_filter]
    refine List.filterMap_eq_nil_iff.mpr fun e _ => ?_
    cases e <;> simp [isFrameCompleted, BackendEvent.frameDone?]

/-- An event that is taken gives its buffer back. -/
theorem nextEvent_held (s : Session κ) :
    (s.nextEvent.1 = none ∧ s.nextEvent.2 = s) ∨ ∃ ev, s.nextEvent.1 = some ev ∧
      s.inputsHeld.Perm (ev.inputDone?.toList ++ s.nextEvent.2.inputsHeld) ∧
      s.outputsHeld.Perm (ev.frameDone?.toList ++ s.nextEvent.2.outputsHeld) := by
  unfold Session.nextEvent EventQueue.dequeueEvent
  split
  · exact .inl ⟨rfl, rfl⟩
  · rename_i ev rest hpending
    refine .inr ⟨ev, rfl, ?_, ?_⟩
    · have hheld : s.inputsHeld = s.jobs.filterMap Job.inputIndex? ++
          (ev.inputDone?.toList ++ rest.filterMap BackendEvent.inputDone?) := by
        rw [Session.inputsHeld, Session.inputsDone, hpending, List.filterMap_cons]
        cases ev.inputDone? <;> rfl
      rw [hheld, ← List.append_assoc]
      exact (List.perm_append_comm.append_right _).trans (.of_eq (List.append_assoc _ _ _))
    · have hheld : s.outputsHeld = s.availableOutputFrames.map (·.index) ++
          (ev.frameDone?.toList ++ rest.filterMap BackendEvent.frameDone?) := by
        rw [Session.outputsHeld, Session.framesDone, hpending, List.filterMap_cons]
        cases ev.frameDone? <;> rfl
      rw [hheld, ← List.append_assoc]
      exact (List.perm_append_comm.append_right _).trans (.of_eq (List.append_assoc _ _ _))

/-- `streaming_state` concerns neither jobs, nor events, nor output buffers. -/
theorem streamingState_same (s : Session κ) (direction : QueueDirection) (streaming : Bool) :
    (s.streamingState direction streaming).jobs = s.jobs ∧
      (s.streamingState direction streaming).events = s.events ∧
      (s.streamingState direction streaming).availableOutputFrames = s.availableOutputFrames := by
  unfold Session.streamingState
  split
  · refine ⟨?_, rfl, rfl⟩
    cases hctx : s.context <;> simp [Session.jobs, hctx]
  · exact ⟨rfl, rfl, rfl⟩

theorem streamingState_held (s : Session κ) (direction : QueueDirection) (streaming : Bool) :
    (s.streamingState direction streaming).inputsHeld = s.inputsHeld ∧
      (s.streamingState direction streaming).outputsHeld = s.outputsHeld := by
  obtain ⟨hjobs, hevents, havail⟩ := streamingState_same s direction streaming
  constructor
  · rw [Session.inputsHeld, Session.inputsDone, hjobs, hevents, Session.inputsHeld,
      Session.inputsDone]
  · rw [Session.outputsHeld, Session.framesDone, havail, hevents, Session.outputsHeld,
      Session.framesDone]

end VirtioMedia.Ffmpeg
