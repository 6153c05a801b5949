import VirtioMedia.Device.DecoderCalls

/-!
# Pending CAPTURE buffers of the decoder

`pending_output_buffers` holds indices of `output_buffers`, and
`try_send_pending_output_buffers` unwraps the lookup of each. Every call keeps
the indices valid except a REQBUFS that shrinks the CAPTURE queue below one of
them: it truncates the vector and leaves the list as it is.
-/

namespace VirtioMedia.Device

variable {β S : Type} {B : DecoderBackend β S} {checks : Bool}

/-- Every pending index is that of a buffer. -/
def DecoderSession.PendingValid (s : DecoderSession β S) : Prop :=
  ∀ i ∈ s.pendingOutputBuffers, i.toNat < s.outputBuffers.length

/-- The call does not meet a missing buffer, and leaves valid indices. -/
def PendingSafe : Except Panic (VideoDecoder × DecoderSession β S) → Prop
  | .error p => p ≠ .missingOutputBuffer
  | .ok r => r.2.PendingValid

/-- A REQBUFS that shrinks the CAPTURE queue keeps the buffers that are
pending. -/
def DecoderSession.KeepsPending (s : DecoderSession β S) : DecoderCall → Prop
  | .reqbufs queue memory count =>
    queue = .videoCaptureMplane → memory = .mmap → count.toNat < s.outputBuffers.length →
      ∀ i ∈ s.pendingOutputBuffers, i.toNat < count.toNat
  | _ => True

/-! ### The send loop -/

theorem sendPending_eq_ok (is : List UInt32) (bufs : List (DecoderBuffer S)) (b : β)
    (h : ∀ i ∈ is, i.toNat < bufs.length) :
    ∃ r, sendPending B is bufs b = .ok r ∧ r.2.1.length = bufs.length := by
  induction is generalizing bufs b with
  | nil => exact ⟨_, rfl, rfl⟩
  | cons i rest ih =>
      have hi : i.toNat < bufs.length := h i List.mem_cons_self
      simp only [sendPending, List.getElem?_eq_getElem hi]
      split
      · exact ⟨_, rfl, List.length_set⟩
      · refine (ih _ _ fun j hj => ?_).imp fun r hr => ⟨hr.1, hr.2.trans List.length_set⟩
        rw [List.length_set]
        exact h j (List.mem_cons_of_mem _ hj)

theorem trySendPendingOutputBuffers_eq_ok {s : DecoderSession β S} (h : s.PendingValid) :
    ∃ r, s.trySendPendingOutputBuffers B = .ok r ∧ r.2.PendingValid := by
  unfold DecoderSession.trySendPendingOutputBuffers
  split
  · obtain ⟨r, hr, -⟩ := sendPending_eq_ok s.pendingOutputBuffers s.outputBuffers
      s.backendSession h
    rw [hr]
    exact ⟨_, rfl, fun i hi => absurd hi List.not_mem_nil⟩
  · exact ⟨_, rfl, h⟩

/-- A call that ends with the send loop is safe. -/
theorem pendingSafe_trySend {α : Type} {s : DecoderSession β S} (h : s.PendingValid)
    (f : Except Int Unit × DecoderSession β S → Called β S α)
    (hf : ∀ r, (f r).session = r.2) :
    PendingSafe (((s.trySendPendingOutputBuffers B).map f).map Called.after) := by
  obtain ⟨r, hr, hvalid⟩ := trySendPendingOutputBuffers_eq_ok h
  rw [hr]
  change ((f r).session).PendingValid
  rw [hf]
  exact hvalid

/-! ### The calls -/

/-- Allocation stops at an arithmetic check or not at all. -/
theorem allocateBuffers_error {queue : QueueType} {size : UInt32} {is : List Nat}
    {d : VideoDecoder} {b : β} {p : Panic}
    (h : allocateBuffers B checks queue size is d b = .error p) : p = .arithmetic := by
  induction is generalizing d b with
  | nil => cases h
  | cons i rest ih =>
      simp only [allocateBuffers] at h
      split at h
      · cases h
        rfl
      · cases h
      · split at h
        · cases h
        · generalize hr : allocateBuffers B checks queue size rest _ _ = x at h
          cases x with
          | error p' =>
              cases h
              exact ih hr
          | ok r => cases h

theorem reqbufs_pendingSafe_iff {d : VideoDecoder} {s : DecoderSession β S} (hs : s.PendingValid)
    (queue : QueueType) (memory : MemoryType) (count : UInt32) :
    PendingSafe (d.call B checks s (.reqbufs queue memory count)) ↔
      s.KeepsPending (.reqbufs queue memory count) := by
  simp only [VideoDecoder.call, VideoDecoder.reqbufs]
  by_cases hmem : memory = .mmap
  · rw [if_neg (fun h => h hmem)]
    cases hb : s.buffers queue with
    | none =>
        apply iff_of_true hs
        intro hq
        subst hq
        cases hb
    | some bufs =>
        dsimp only
        by_cases hlt : count.toNat < bufs.length
        · rw [if_pos hlt]
          rcases DecoderSession.buffers_cases hb with ⟨rfl, rfl⟩ | ⟨rfl, rfl⟩
          · exact iff_of_true hs fun hq => by cases hq
          · -- the vector is truncated and the list is not
            constructor
            · intro h hq hm _ i hi
              have := h i hi
              exact lt_of_lt_of_le this (List.length_take_le _ _)
            · intro h i hi
              have hi' := h rfl hmem hlt i hi
              change i.toNat < (s.outputBuffers.take count.toNat).length
              rw [List.length_take]
              exact lt_min hi' (hs i hi)
        · rw [if_neg hlt]
          have hkeep : s.KeepsPending (.reqbufs queue memory count) := by
            intro hq _ hlt'
            subst hq
            cases hb
            exact absurd hlt' hlt
          refine iff_of_true ?_ hkeep
          cases hsizes : B.sizeimages s.backendSession queue.direction with
          | nil => exact hs
          | cons sizeimage rest =>
              dsimp only
              generalize hr : allocateBuffers B checks queue sizeimage _ _ _ = x
              cases x with
              | error p =>
                  rw [allocateBuffers_error hr]
                  exact fun h => by cases h
              | ok r =>
                  obtain ⟨news | news, d', b'⟩ := r
                  · exact hs
                  · rcases DecoderSession.buffers_cases hb with ⟨rfl, rfl⟩ | ⟨rfl, rfl⟩
                    · exact hs
                    · intro i hi
                      change i.toNat < (s.outputBuffers ++ news).length
                      rw [List.length_append]
                      exact Nat.lt_add_right _ (hs i hi)
  · rw [if_pos hmem]
    exact iff_of_true hs fun _ hm => absurd hm hmem

theorem streamon_pendingSafe {d : VideoDecoder} {s : DecoderSession β S} (hs : s.PendingValid)
    (queue : QueueType) : PendingSafe (d.call B checks s (.streamon queue)) := by
  simp only [VideoDecoder.call, VideoDecoder.streamon]
  split
  · exact hs
  · exact hs
  · refine pendingSafe_trySend ?_ _ ?_
    · exact hs
    · exact fun _ => rfl

theorem streamoff_pendingSafe {d : VideoDecoder} {s : DecoderSession β S} (hs : s.PendingValid)
    (queue : QueueType) : PendingSafe (d.call B checks s (.streamoff queue)) := by
  simp only [VideoDecoder.call, VideoDecoder.streamoff]
  split
  · exact hs
  · split
    · exact hs
    · exact fun i hi => absurd hi List.not_mem_nil

/-- QBUF pushes the index of a buffer that it has looked up. -/
theorem qbuf_pendingSafe {d : VideoDecoder} {s : DecoderSession β S} (hs : s.PendingValid)
    (buffer : DecoderV4l2Buffer) : PendingSafe (d.call B checks s (.qbuf buffer)) := by
  simp only [VideoDecoder.call, VideoDecoder.qbuf]
  cases hb : s.buffers buffer.queue with
  | none => exact hs
  | some bufs =>
      dsimp only
      cases hi : bufs[buffer.index.toNat]? with
      | none => exact hs
      | some host =>
          dsimp only
          by_cases hmem : buffer.memory = host.v4l2Buffer.memory
          · rw [if_neg (fun h => h hmem)]
            rcases DecoderSession.buffers_cases hb with ⟨hq, rfl⟩ | ⟨hq, rfl⟩
            · simp only [hq, QueueType.direction, DecoderSession.setBuffers]
              split <;> exact hs
            · simp only [hq, QueueType.direction, DecoderSession.setBuffers]
              refine pendingSafe_trySend ?_ _ ?_
              · intro i hi'
                rw [List.length_set]
                rcases List.mem_append.mp hi' with hi' | hi'
                · exact hs i hi'
                · rw [List.mem_singleton.mp hi']
                  exact (List.getElem?_eq_some_iff.mp hi).1
              · exact fun _ => rfl
          · rw [if_pos hmem]
            exact hs

theorem decoderCmd_pendingSafe {d : VideoDecoder} {s : DecoderSession β S} (hs : s.PendingValid)
    (cmd : Option DecoderCmd) : PendingSafe (d.call B checks s (.decoderCmd cmd)) := by
  simp only [VideoDecoder.call, VideoDecoder.decoderCmd]
  split
  · exact hs
  · split
    · exact hs
    · split <;> exact hs
    · split
      · refine pendingSafe_trySend ?_ _ ?_
        · split <;> exact hs
        · exact fun _ => rfl
      · exact hs
    · change (if _ then _ else s).PendingValid
      split <;> exact hs
    · change (if _ then _ else s).PendingValid
      split <;> exact hs

/-- A completed frame changes no index and no number of buffers. -/
theorem frameCompleted_cases (d : VideoDecoder) (s : DecoderSession β S) (bufferId : UInt32)
    (timestamp : Timeval) (bytesUsed : List UInt32) (isLast : Bool) :
    d.frameCompleted checks s bufferId timestamp bytesUsed isLast = .error .arithmetic ∨
      ∃ c, d.frameCompleted checks s bufferId timestamp bytesUsed isLast = .ok c ∧
        c.session.pendingOutputBuffers = s.pendingOutputBuffers ∧
        c.session.outputBuffers.length = s.outputBuffers.length := by
  unfold VideoDecoder.frameCompleted
  split
  · exact .inr ⟨_, rfl, rfl, rfl⟩
  · by_cases hover : checks ∧ s.sequenceCpt.toNat + 1 = 2 ^ 32
    · rw [if_pos hover]
      exact .inl rfl
    · rw [if_neg hover]
      cases isLast with
      | false => exact .inr ⟨_, rfl, rfl, List.length_set⟩
      | true =>
          cases hpending : s.formatChangePending with
          | false => exact .inr ⟨_, rfl, rfl, List.length_set⟩
          | true => exact .inr ⟨_, rfl, rfl, List.length_set⟩

theorem processEvents_pendingSafe {d : VideoDecoder} {s : DecoderSession β S}
    (hs : s.PendingValid) : PendingSafe (d.call B checks s .processEvents) := by
  simp only [VideoDecoder.call, VideoDecoder.processEvents]
  split
  · exact hs
  · change (VideoDecoder.inputBufferDone _ _ _ _).session.PendingValid
    unfold VideoDecoder.inputBufferDone
    split <;> exact hs
  · exact hs
  · rename_i bufferId timestamp bytesUsed isLast _
    rcases frameCompleted_cases d { s with backendSession := (B.nextEvent s.backendSession).2 }
      bufferId timestamp bytesUsed isLast with h | ⟨c, h, hpending, hlen⟩ <;> rw [h]
    · exact fun h => by cases h
    · intro i hi
      change i.toNat < c.session.outputBuffers.length
      rw [hlen]
      exact hs i (hpending ▸ hi)

/-- From valid indices, exactly the calls that keep the pending buffers are
safe. -/
theorem call_pendingSafe_iff {d : VideoDecoder} {s : DecoderSession β S} (hs : s.PendingValid)
    (c : DecoderCall) : PendingSafe (d.call B checks s c) ↔ s.KeepsPending c := by
  cases c with
  | reqbufs queue memory count => exact reqbufs_pendingSafe_iff hs queue memory count
  | qbuf buffer => exact iff_of_true (qbuf_pendingSafe hs buffer) trivial
  | streamon queue => exact iff_of_true (streamon_pendingSafe hs queue) trivial
  | streamoff queue => exact iff_of_true (streamoff_pendingSafe hs queue) trivial
  | decoderCmd cmd => exact iff_of_true (decoderCmd_pendingSafe hs cmd) trivial
  | subscribeEvent event =>
      refine iff_of_true ?_ trivial
      simp only [VideoDecoder.call, VideoDecoder.subscribeEvent]
      split <;> exact hs
  | unsubscribeEvent event =>
      refine iff_of_true ?_ trivial
      simp only [VideoDecoder.call, VideoDecoder.unsubscribeEvent]
      split <;> exact hs
  | mmap flags offset answer =>
      refine iff_of_true ?_ trivial
      simp only [VideoDecoder.call, VideoDecoder.doMmap]
      split
      · exact hs
      · split
        · exact fun h => by cases h
        · exact hs
  | processEvents => exact iff_of_true (processEvents_pendingSafe hs) trivial

/-! ### Runs -/

/-- Every session has valid pending indices. -/
def Decoder.PendingValid (s : Decoder β S) : Prop :=
  ∀ sessionId session, s.sessions sessionId = some session → session.PendingValid

/-- The action does not stop at a missing buffer, and leaves valid indices. -/
def Decoder.PendingOk (B : DecoderBackend β S) (checks : Bool) (s : Decoder β S)
    (a : DecoderAction β) : Prop :=
  match s.step B checks a with
  | .error p => p ≠ .missingOutputBuffer
  | .ok s' => s'.PendingValid

def Decoder.KeepsPending (s : Decoder β S) : DecoderAction β → Prop
  | .call sessionId c => ∀ session, s.sessions sessionId = some session → session.KeepsPending c
  | _ => True

theorem Decoder.PendingValid.setSession {s : Decoder β S} (hs : s.PendingValid) (d : VideoDecoder)
    (sessionId : UInt32) {v : Option (DecoderSession β S)} :
    ({ s with device := d }.setSession sessionId v).PendingValid ↔
      ∀ session, v = some session → session.PendingValid :=
  Decoder.Every.setSession hs d sessionId

theorem pendingOk_iff {s : Decoder β S} (hs : s.PendingValid) (a : DecoderAction β) :
    s.PendingOk B checks a ↔ s.KeepsPending a := by
  unfold Decoder.PendingOk
  cases a with
  | openSession sessionId answer =>
      refine iff_of_true ?_ trivial
      simp only [Decoder.step]
      split <;> rename_i heq <;> split at heq <;> cases heq
      · apply (hs.setSession s.device sessionId).mpr
        intro session h
        cases h
        exact fun i hi => absurd hi List.not_mem_nil
      · exact hs
  | closeSession sessionId =>
      refine iff_of_true ?_ trivial
      simp only [Decoder.step]
      split <;> rename_i heq <;> split at heq <;> cases heq
      · exact hs
      · exact (hs.setSession _ sessionId).mpr fun _ h => by cases h
  | munmap guestAddr => exact iff_of_true hs trivial
  | call sessionId c =>
      simp only [Decoder.step, Decoder.KeepsPending]
      cases hsession : s.sessions sessionId with
      | none => exact iff_of_true hs fun _ h => by cases h
      | some session =>
          have hiff : PendingSafe (s.device.call B checks session c) ↔ session.KeepsPending c :=
            call_pendingSafe_iff (hs sessionId session hsession) c
          simp only [Option.some.injEq, forall_eq']
          rw [← hiff]
          cases s.device.call B checks session c with
          | error p => exact Iff.rfl
          | ok r =>
              refine (hs.setSession r.1 sessionId).trans ?_
              simp only [Option.some.injEq, forall_eq']
              exact Iff.rfl

/-- For every backend and every run of calls on any number of sessions: no
action stops at a missing buffer and all pending indices stay valid, if and
only if every REQBUFS that shrinks a CAPTURE queue is made while the pending
indices are below the new count. -/
theorem pending_output_buffers_valid (B : DecoderBackend β S) (checks : Bool)
    (acts : List (DecoderAction β)) :
    Trace.Conforms (Decoder.next B checks) (Decoder.PendingOk B checks) .init acts ↔
      Trace.Conforms (Decoder.next B checks) Decoder.KeepsPending .init acts := by
  refine Trace.conforms_congr (P := Decoder.PendingValid) ?_ (fun s a hs _ => pendingOk_iff hs a)
    Decoder.every_init (Trace.conforms_true _ acts)
  intro s a s' hs ha h
  have hok : s.PendingOk B checks a := (pendingOk_iff hs a).mpr ha
  unfold Decoder.PendingOk at hok
  unfold Decoder.next at h
  cases hstep : s.step B checks a with
  | error p =>
      rw [hstep] at h
      cases h
  | ok s₁ =>
      rw [hstep] at h hok
      cases h
      exact hok

/-- A backend that accepts everything and stores nothing. -/
def idleBackend : DecoderBackend Unit Unit where
  new _ _ _ _ := (.ok (), ())
  fdForPlane _ _ := some 0
  decode _ _ _ _ _ := (.ok (), ())
  useAsOutput _ _ _ := (.ok (), (), ())
  drain _ := (.ok (), ())
  clearOutputBuffers _ := (.ok (), ())
  nextEvent _ := (none, ())
  sizeimages _ _ := [4096]
  visibleRect _ := ⟨0, 0, 0, 0⟩
  buffersAllocated _ _ _ := ()
  streamingState _ _ _ := ()

/-- Four CAPTURE buffers; the last one is queued before the queue is reduced to
one buffer. -/
def shrinkRun : List (DecoderAction Unit) :=
  [.openSession 0 (.ok ()), .call 0 (.reqbufs .videoCaptureMplane .mmap 4),
    .call 0 (.qbuf ⟨.videoCaptureMplane, 3, .mmap, 0, fieldNone, ⟨0, 0⟩, 0, ⟨0, 4096, 0, 0⟩⟩),
    .call 0 (.reqbufs .videoCaptureMplane .mmap 1)]

/-- STREAMON after that looks up the missing buffer and panics. -/
theorem pending_output_buffers_valid_fails_shrink :
    ¬ ∀ acts, Trace.Conforms (Decoder.next idleBackend true)
      (Decoder.PendingOk idleBackend true) .init acts := by
  intro h
  have hok := Trace.conforms_at (h (shrinkRun ++ [.call 0 (.streamon .videoCaptureMplane)]))
    (rfl : Trace.run (Decoder.next idleBackend true) .init shrinkRun = some _)
  exact hok rfl

end VirtioMedia.Device
