import VirtioMedia.Device.CompletionFlags
import VirtioMedia.Ffmpeg.Buffers

/-!
# Completions

`process_events` turns the events of the backend into DequeueBuffer events for
the guest. STREAMOFF of the OUTPUT queue clears the QUEUED flags but cancels
neither the jobs of the backend nor its `InputBufferDone` events, so a
completion may come for a buffer that is not queued any more. STREAMOFF of the
CAPTURE queue cancels what there is.
-/

namespace VirtioMedia.Ffmpeg

open V4l2 Device Fallible

variable {κ : Type} {W : World κ} {checks : Bool}

/-- The buffers that the backend session holds. -/
def heldBy : QueueDirection → Option (Session κ) → List UInt32
  | _, none => []
  | .output, some s => s.inputsHeld
  | .capture, some s => s.outputsHeld

/-- What is true of a session after a call is true after a crash, if it is of a
backend that holds nothing. -/
theorem afterCrash_held {P : QueueDirection → List UInt32 → Prop} {dir : QueueDirection}
    {r : Except Crash (Except Int Unit × Session κ)} (hnil : P dir [])
    (h : ∀ res s', r = .ok (res, s') → P dir (heldBy dir (some s'))) :
    P dir (heldBy dir (afterCrash r).2) := by
  cases r with
  | error c => exact hnil
  | ok p => exact h p.1 p.2 rfl

theorem ffmpeg_custodian (W : World κ) : (ffmpegBackend W).Custodian heldBy where
  new dir b queue i size := by
    cases b with
    | none => exact .refl _
    | some s =>
        simp only [ffmpegBackend]
        split
        · exact .refl _
        · split
          · cases dir <;> exact .refl _
          · cases dir <;> exact .refl _
  decode_output b x i timestamp bytesUsed := by
    cases b with
    | none => exact List.nil_subperm
    | some s =>
        refine afterCrash_held (P := fun _ l => l.Subperm _) List.nil_subperm fun res s' h => ?_
        exact (decode_held h).1
  decode_capture b x i timestamp bytesUsed := by
    cases b with
    | none => exact List.nil_subperm
    | some s =>
        refine afterCrash_held (P := fun _ l => l.Subperm _) List.nil_subperm fun res s' h => ?_
        exact (decode_held h).2
  useAsOutput_output b i x := by
    cases b with
    | none => exact .refl _
    | some s => exact (List.Perm.of_eq (useAsOutput_held W s i x).1).subperm
  useAsOutput_capture b i x := by
    cases b with
    | none => exact List.nil_subperm
    | some s => exact (useAsOutput_held W s i x).2
  drain dir b := by
    cases b with
    | none => exact .refl _
    | some s =>
        refine afterCrash_held (P := fun dir l => l.Subperm (heldBy dir (some s)))
          List.nil_subperm fun res s' h => ?_
        cases dir with
        | output => exact (drain_held h).1
        | capture => exact (drain_held h).2
  clearOutputBuffers dir b := by
    cases b with
    | none => exact .refl _
    | some s =>
        obtain ⟨hinputs, houtputs⟩ := clearOutputBuffers_held s
        cases dir with
        | output => exact (List.Perm.of_eq hinputs).subperm
        | capture =>
            change s.clearOutputBuffers.outputsHeld.Subperm _
            rw [houtputs]
            exact List.nil_subperm
  clearOutputBuffers_ok b h := by
    cases b with
    | none => rfl
    | some s => exact (clearOutputBuffers_held s).2
  nextEvent dir b := by
    cases b with
    | none => exact .refl _
    | some s =>
        rcases nextEvent_held s with ⟨-, hsame⟩ | ⟨ev, -, hinputs, houtputs⟩
        · change (heldBy dir (some s.nextEvent.2)).Subperm _
          rw [hsame]
        · cases dir with
          | output => exact (List.sublist_append_right _ _).subperm.trans hinputs.symm.subperm
          | capture => exact (List.sublist_append_right _ _).subperm.trans houtputs.symm.subperm
  inputBufferDone b ev hev hnodup i hi := by
    cases b with
    | none => exact List.not_mem_nil
    | some s =>
        rcases nextEvent_held s with ⟨hnone, -⟩ | ⟨ev', hev', hinputs, -⟩
        · cases hnone.symm.trans hev
        · obtain rfl : ev' = ev := Option.some.inj (hev'.symm.trans hev)
          have hnodup := hinputs.nodup_iff.mp hnodup
          rw [Option.mem_def.mp hi] at hnodup
          exact (List.nodup_cons.mp hnodup).1
  frameCompleted b ev hev hnodup i hi := by
    cases b with
    | none => exact List.not_mem_nil
    | some s =>
        rcases nextEvent_held s with ⟨hnone, -⟩ | ⟨ev', hev', -, houtputs⟩
        · cases hnone.symm.trans hev
        · obtain rfl : ev' = ev := Option.some.inj (hev'.symm.trans hev)
          have hnodup := houtputs.nodup_iff.mp hnodup
          rw [Option.mem_def.mp hi] at hnodup
          exact (List.nodup_cons.mp hnodup).1
  buffersAllocated dir b direction count := .refl _
  streamingState dir b direction streaming := by
    cases b with
    | none => exact .refl _
    | some s =>
        obtain ⟨hinputs, houtputs⟩ := streamingState_held s direction streaming
        cases dir with
        | output => exact (List.Perm.of_eq hinputs).subperm
        | capture => exact (List.Perm.of_eq houtputs).subperm

/-- An event is for a buffer that the session holds. -/
theorem nextEvent_mem {b : Option (Session κ)} {ev : BackendEvent}
    (h : ((ffmpegBackend W).nextEvent b).1 = some ev) :
    (∀ i ∈ ev.inputDone?, i ∈ heldBy .output b) ∧
      (∀ i ∈ ev.frameDone?, i ∈ heldBy .capture b) := by
  cases b with
  | none => cases h
  | some s =>
      rcases nextEvent_held s with ⟨hnone, -⟩ | ⟨ev', hev', hinputs, houtputs⟩
      · cases hnone.symm.trans h
      · obtain rfl : ev' = ev := Option.some.inj (hev'.symm.trans h)
        constructor
        · intro i hi
          refine hinputs.mem_iff.mpr ?_
          rw [Option.mem_def.mp hi]
          exact List.mem_cons_self
        · intro i hi
          refine houtputs.mem_iff.mpr ?_
          rw [Option.mem_def.mp hi]
          exact List.mem_cons_self

/-! ### Sessions -/

section Calls

variable {d : VideoDecoder} {s : DecoderSession (Option (Session κ)) FfmpegDecoderBuffer}

/-- The call is `process_events`. -/
def takesEvent : DecoderCall → Bool
  | .processEvents => true
  | _ => false

/-- The call does not go where the owners are lost. What the ffmpeg session
completes was never pending, so `process_events` is always careful. -/
def Careful (W : World κ) (s : DecoderSession (Option (Session κ)) FfmpegDecoderBuffer)
    (c : DecoderCall) : Prop :=
  takesEvent c = true ∨ s.Careful (ffmpegBackend W) heldBy c

instance instDecidableCareful (W : World κ)
    (s : DecoderSession (Option (Session κ)) FfmpegDecoderBuffer) (c : DecoderCall) :
    Decidable (Careful W s c) :=
  inferInstanceAs (Decidable (_ ∨ _))

theorem careful (hs : s.Tracked heldBy) {c : DecoderCall} (hc : Careful W s c) :
    s.Careful (ffmpegBackend W) heldBy c := by
  rcases hc with hc | hc
  · cases c with
    | processEvents =>
        intro ev hev i hi hpending
        have hheld := (nextEvent_mem hev).2 i hi
        exact (List.nodup_append.mp (hs.tracks .capture).nodup).2.2 i hpending i hheld rfl
    | _ => cases hc
  · exact hc

/-- An owned buffer is queued under the index that it names. -/
theorem queued_of_owned (hs : s.Tracked heldBy) (dir : QueueDirection) {i : UInt32}
    {v : DecoderV4l2Buffer} (hi : i ∈ s.owned heldBy dir) (hv : (s.views dir)[i.toNat]? = some v) :
    (s.views v.queue.direction)[v.index.toNat]? = some v ∧ v.isQueued = true := by
  obtain ⟨hqueue, hindex⟩ := hs.numbered dir _ v hv
  obtain ⟨w, hw, hqueued⟩ := (hs.tracks dir).flagged i hi
  obtain rfl := Option.some.inj (hv.symm.trans hw)
  rw [hqueue, hindex]
  exact ⟨hv, hqueued⟩

/-- What a call sends, and that the buffers were queued. -/
theorem call_sends (hs : s.Tracked heldBy) {c : DecoderCall}
    {p : VideoDecoder × DecoderSession (Option (Session κ)) FfmpegDecoderBuffer}
    (h : VideoDecoder.call (ffmpegBackend W) checks d s c = .ok p) :
    ∃ news, p.1.sent = news ++ d.sent ∧ ∀ i v, .dequeueBuffer i v ∈ news →
      i = s.id ∧ ∃ w, (s.views v.queue.direction)[v.index.toNat]? = some w ∧
        w.isQueued = true := by
  by_cases hc : c = .processEvents
  · subst hc
    obtain ⟨c, hcalled, rfl⟩ := map_eq_ok.mp h
    obtain ⟨news, hsent, hnews⟩ := processEvents_sent hcalled
    refine ⟨news, hsent, fun i v hv => ?_⟩
    obtain ⟨hi, hback⟩ := (hnews i v).mp hv
    refine ⟨hi, ?_⟩
    rcases hback with ⟨bufferId, error, host, hev, hhost, rfl⟩ |
      ⟨bufferId, timestamp, bytesUsed, isLast, host, hev, hhost, rfl⟩
    · have hview : (s.views .output)[bufferId.toNat]? = some host.v4l2Buffer := by
        simp [DecoderSession.views, hhost]
      have hheld := (nextEvent_mem hev).1 bufferId rfl
      rw [done_queue, done_index]
      exact ⟨host.v4l2Buffer, queued_of_owned hs .output hheld hview⟩
    · have hview : (s.views .capture)[bufferId.toNat]? = some host.v4l2Buffer := by
        simp [DecoderSession.views, hhost]
      have hheld := (nextEvent_mem hev).2 bufferId rfl
      exact ⟨host.v4l2Buffer, queued_of_owned hs .capture (List.mem_append_right _ hheld) hview⟩
  · exact ⟨[], call_sent h hc, fun i v hv => absurd hv List.not_mem_nil⟩

end Calls

/-! ### Runs -/

/-- The device over the ffmpeg backend. -/
abbrev FfmpegDecoder (κ : Type) : Type := Decoder (Option (Session κ)) FfmpegDecoderBuffer

/-- The flags record the owners in every session. -/
structure TrackedInv (s : FfmpegDecoder κ) : Prop where
  named : s.Named
  tracked : s.Every (DecoderSession.Tracked heldBy)

variable {s s' : FfmpegDecoder κ} {a : DecoderAction κ}

theorem TrackedInv.next (hs : TrackedInv s) (hc : s.Calls (Careful W) (ffmpegAction a))
    (h : ffmpegNext W checks s a = some s') : TrackedInv s' := by
  refine ⟨hs.named.next h, hs.tracked.next (fun id b ha => ?_) (fun d s c p hs hc h => ?_) hc h⟩
  · obtain ⟨k, rfl⟩ := DecoderAction.map_eq_openSession ha
    exact tracked_new fun dir => by cases dir <;> rfl
  · exact call_tracked (ffmpeg_custodian W) hs (careful hs hc) h

/-- Every DequeueBuffer event that was sent is for a buffer that was queued
before. -/
def OnlyQueued (s s' : FfmpegDecoder κ) : Prop :=
  ∀ i v, .dequeueBuffer i v ∈ s.sentSince s' → s.Queued i v.queue.direction v.index

theorem TrackedInv.onlyQueued (hs : TrackedInv s) (h : ffmpegNext W checks s a = some s') :
    OnlyQueued s s' := by
  have hquiet (hsent : s'.device.sent = s.device.sent) : OnlyQueued s s' := by
    intro i v hv
    have hnews : s'.device.sent = [] ++ s.device.sent := hsent
    rw [Decoder.sentSince_of_append hnews] at hv
    cases hv
  rcases Decoder.next_cases h with rfl | ⟨guestAddr, -, rfl⟩ | ⟨i, b, -, -, rfl⟩ |
    ⟨i, session, -, -, rfl⟩ | ⟨i, c, session, p, -, hsession, hp, rfl⟩
  · exact hquiet rfl
  · exact hquiet rfl
  · exact hquiet rfl
  · exact hquiet rfl
  · obtain ⟨news, hsent, hnews⟩ := call_sends (hs.tracked i session hsession) hp
    intro j v hv
    rw [Decoder.sentSince_of_append hsent] at hv
    obtain ⟨rfl, w, hw, hqueued⟩ := hnews j v hv
    rw [hs.named i session hsession]
    exact ⟨session, w, hsession, hw, hqueued⟩

/-- After a STREAMOFF that succeeds nobody owns a buffer of the queue. -/
def GivesBack (W : World κ) (s : FfmpegDecoder κ) (a : DecoderAction κ) (s' : FfmpegDecoder κ) :
    Prop :=
  ∀ i queue session session', a = .call i (.streamoff queue) → s.sessions i = some session →
    (s.device.streamoff (ffmpegBackend W) session queue).result = .ok () →
    s'.sessions i = some session' → session'.owned heldBy queue.direction = []

theorem streamoff_next {i : UInt32} {queue : QueueType}
    {session : DecoderSession (Option (Session κ)) FfmpegDecoderBuffer}
    (hsession : s.sessions i = some session)
    (h : ffmpegNext W checks s (.call i (.streamoff queue)) = some s') :
    s'.sessions i = some (s.device.streamoff (ffmpegBackend W) session queue).session := by
  have h := toOption_eq_some.mp h
  simp only [ffmpegAction, DecoderAction.map, Decoder.step, hsession, VideoDecoder.call,
    Except.map] at h
  cases h
  simp [Decoder.setSession, Called.after]

theorem TrackedInv.givesBack (hs : TrackedInv s) (hc : s.Calls (Careful W) (ffmpegAction a))
    (h : ffmpegNext W checks s a = some s') : GivesBack W s a s' := by
  rintro i queue session session' rfl hsession hok hsession'
  have hcareful := careful (hs.tracked i session hsession) (hc session hsession)
  rw [streamoff_next hsession h] at hsession'
  rw [← Option.some.inj hsession']
  exact streamoff_owned (ffmpeg_custodian W) hcareful hok

/-- Between a STREAMOFF that succeeds and the next QBUF of a buffer of the queue,
no DequeueBuffer event is sent for it. -/
def SilentAfterStreamoff (W : World κ) (checks : Bool) (acts : List (DecoderAction κ)) : Prop :=
  ∀ before between after i queue a s t u u' session v,
    acts = before ++ .call i (.streamoff queue) :: (between ++ a :: after) →
    Trace.run (ffmpegNext W checks) .init before = some s →
    s.sessions i = some session →
    (s.device.streamoff (ffmpegBackend W) session queue).result = .ok () →
    ffmpegNext W checks s (.call i (.streamoff queue)) = some t →
    Trace.run (ffmpegNext W checks) t between = some u →
    (∀ x ∈ between, ¬x.Queues i queue.direction v.index) →
    ffmpegNext W checks u a = some u' →
    v.queue.direction = queue.direction → .dequeueBuffer i v ∉ u.sentSince u'

/-- A buffer that is not queued stays so until it is queued. -/
theorem not_queued_run {i : UInt32} {dir : QueueDirection} {index : UInt32}
    {acts : List (DecoderAction κ)} (hacts : ∀ x ∈ acts, ¬x.Queues i dir index)
    (hs : ¬s.Queued i dir index) (hrun : Trace.run (ffmpegNext W checks) s acts = some s') :
    ¬s'.Queued i dir index := by
  have hconf : Trace.Conforms (ffmpegNext W checks) (fun _ x => ¬x.Queues i dir index) s acts :=
    Trace.conforms_of_forall (fun x hx _ => hacts x hx) s
  refine Trace.run_invariant_of_conforms (P := fun s => ¬s.Queued i dir index) ?_ hs hconf hrun
  intro s x s' hs hx h hqueued
  rcases Decoder.queued_next h hqueued with hqueued | hqueues
  · exact hs hqueued
  · exact hx ((DecoderAction.queues_map _ x i dir index).mp hqueues)

theorem silent_of_onlyQueued {acts : List (DecoderAction κ)}
    (h : Trace.Conforms (ffmpegNext W checks)
      (fun s a => ∀ s', ffmpegNext W checks s a = some s' → OnlyQueued s s') .init acts) :
    SilentAfterStreamoff W checks acts := by
  rintro before between after i queue a s t u u' session v rfl hbefore hsession hok hoff hbetween
    hacts hnext hqueue hsent
  have hrun : Trace.run (ffmpegNext W checks) .init
      (before ++ .call i (.streamoff queue) :: between) = some u := by
    rw [Trace.run_append, hbefore, Option.bind_some, Trace.run_cons, hoff, Option.bind_some,
      hbetween]
  have hlist : before ++ .call i (.streamoff queue) :: (between ++ a :: after) =
      before ++ .call i (.streamoff queue) :: between ++ a :: after := by simp
  rw [hlist] at h
  have honly := Trace.conforms_at h hrun u' hnext i v hsent
  rw [hqueue] at honly
  refine not_queued_run hacts ?_ hbetween honly
  rintro ⟨session', w, hsession', hw, hqueued⟩
  rw [streamoff_next hsession hoff] at hsession'
  rw [← Option.some.inj hsession'] at hw
  rw [streamoff_clears hok hw] at hqueued
  cases hqueued

/-- For every world and every run of the device over the ffmpeg backend in which
every call is careful: every DequeueBuffer event is for a buffer that was queued,
a STREAMOFF that succeeds leaves no completion of its queue on the way, and no
event comes for a buffer between that STREAMOFF and its next QBUF. -/
theorem completions_only_for_queued (W : World κ) (checks : Bool)
    {acts : List (DecoderAction κ)}
    (hc : Trace.Conforms (ffmpegNext W checks)
      (fun s a => s.Calls (Careful W) (ffmpegAction a)) .init acts) :
    Trace.Conforms (ffmpegNext W checks) (fun s a => ∀ s', ffmpegNext W checks s a = some s' →
        OnlyQueued s s' ∧ GivesBack W s a s') .init acts ∧
      SilentAfterStreamoff W checks acts := by
  have hinit : TrackedInv (.init : FfmpegDecoder κ) := by
    refine ⟨Decoder.named_init, fun i session hi => ?_⟩
    cases hi
  have hstep : ∀ s a s', TrackedInv s → s.Calls (Careful W) (ffmpegAction a) →
      ffmpegNext W checks s a = some s' → TrackedInv s' :=
    fun s a s' hs hc h => hs.next hc h
  constructor
  · refine Trace.conforms_of_invariant hstep ?_ hinit hc
    exact fun s a hs hc s' h => ⟨hs.onlyQueued h, hs.givesBack hc h⟩
  · refine silent_of_onlyQueued (Trace.conforms_of_invariant hstep ?_ hinit hc)
    exact fun s a hs _ s' h => hs.onlyQueued h

/-- A stream of one packet whose buffers are all completed, and STREAMOFF of both
queues. -/
def streamRun : List (DecoderAction CodecState) :=
  .openSession 0 (.ok ⟨0, false⟩) ::
    ([.reqbufs .videoOutputMplane .mmap 1, .reqbufs .videoCaptureMplane .mmap 2,
      .streamon .videoOutputMplane, .streamon .videoCaptureMplane,
      .qbuf (guestBuffer .videoCaptureMplane 0), .qbuf (guestBuffer .videoCaptureMplane 1),
      .qbuf packetBuffer, .processEvents, .processEvents,
      .streamoff .videoOutputMplane, .streamoff .videoCaptureMplane].map (.call 0))

theorem completions_only_for_queued_stream :
    Trace.Conforms (ffmpegNext (codecWorld defaultFrame) true)
        (fun s a => ∀ s', ffmpegNext (codecWorld defaultFrame) true s a = some s' →
          OnlyQueued s s' ∧ GivesBack (codecWorld defaultFrame) s a s') .init streamRun ∧
      SilentAfterStreamoff (codecWorld defaultFrame) true streamRun :=
  completions_only_for_queued (codecWorld defaultFrame) true (by decide +kernel)

/-- An OUTPUT buffer is queued and its queue is switched off. -/
def cancelledRun : List (DecoderAction CodecState) :=
  .openSession 0 (.ok ⟨0, false⟩) ::
    ([.reqbufs .videoOutputMplane .mmap 1, .streamon .videoOutputMplane,
      .qbuf packetBuffer, .streamoff .videoOutputMplane].map (.call 0))

/-- No OUTPUT buffer is queued any more, and a DequeueBuffer event comes for one. -/
theorem completions_only_for_queued_fails_streamoff :
    (Trace.run (ffmpegNext (codecWorld defaultFrame) true) .init cancelledRun).map (fun s =>
      ((s.sessions 0).map fun session => session.inputBuffers.map (·.v4l2Buffer.isQueued),
        (ffmpegNext (codecWorld defaultFrame) true s (.call 0 .processEvents)).map fun s' =>
          s.sentSince s')) =
      some (some [false], some [.dequeueBuffer 0 ⟨.videoOutputMplane, 0, .mmap,
        bufFlagTimestampMonotonic, fieldNone, ⟨0, 0⟩, 0, ⟨4, 4096, 0, 0⟩⟩]) := by
  decide +kernel

end VirtioMedia.Ffmpeg
