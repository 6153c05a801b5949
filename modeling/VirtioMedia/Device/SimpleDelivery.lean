import VirtioMedia.Device.SimpleOwnership
import VirtioMedia.Lib.Feed

/-!
# Every queued buffer is delivered once and in order

The queue of a capture session is held back until the session streams. Beside
a run of the device the history of one session is kept: the QBUFs that were
accepted, the STREAMONs, and the STREAMOFFs and REQBUFSs that drop what waits.
The history alone says which frames the session sends.
-/

namespace VirtioMedia.Device.Simple

open V4l2 Fallible

variable {checks : Bool} {io : Nat → Bool} {d : CaptureDevice} {s : Session}
  {start : List DecoderEvent}

/-- The queue, the states and the QUEUED flags of the buffers agree. -/
structure Session.Consistent (s : Session) : Prop where
  nodup : s.queuedBuffers.Nodup
  queued : ∀ i, i ∈ s.queuedBuffers ↔ ∃ b, s.buffers[i]? = some b ∧ b.state = .incoming
  flags : ∀ (i : Nat) (b : Buffer), s.buffers[i]? = some b →
    (hasFlag b.v4l2Buffer.flags bufFlagQueued = true ↔ b.state = .incoming)
  indices : ∀ (i : Nat) (b : Buffer), s.buffers[i]? = some b → b.v4l2Buffer.index = .ofNat i

/-- The index and the sequence number of a frame of the session. -/
def frame? (id : UInt32) : DecoderEvent → Option (UInt32 × UInt32)
  | .dequeueBuffer i v => if i = id then some (v.index, v.sequence) else none
  | _ => none

/-- The frames of a session, oldest first. -/
def frames (id : UInt32) (sent : List DecoderEvent) : List (UInt32 × UInt32) :=
  sent.reverse.filterMap (frame? id)

/-- The buffers one after the other, with sequence numbers from 0 on. -/
def numbered (is : List Nat) : List (UInt32 × UInt32) :=
  is.mapIdx fun k i => (.ofNat i, .ofNat k)

@[simp] theorem frames_nil (id : UInt32) : frames id [] = [] := rfl

theorem frames_cons (id : UInt32) (e : DecoderEvent) (sent : List DecoderEvent) :
    frames id (e :: sent) = frames id sent ++ (frame? id e).toList := by
  cases h : frame? id e <;> simp [frames, h]

theorem frames_append (id : UInt32) (new sent : List DecoderEvent) :
    frames id (new ++ sent) = frames id sent ++ frames id new := by
  simp [frames]

theorem numbered_concat (is : List Nat) (i : Nat) :
    numbered (is ++ [i]) = numbered is ++ [(.ofNat i, .ofNat is.length)] := by
  simp [numbered, List.mapIdx_append]

/-! ### One buffer -/

theorem hasFlag_clearFlags (v : DecoderV4l2Buffer) :
    hasFlag (v.clearFlags bufFlagQueued).flags bufFlagQueued = false :=
  hasFlag_and_not _ _ _ (by decide)

/-- What `set_state` to `Outgoing` makes of a buffer. -/
theorem finish_spec {b b' : Buffer} {sequence : UInt32}
    (h : b.finish checks sequence = .ok b') :
    b'.state = .outgoing sequence ∧ b'.v4l2Buffer.sequence = sequence ∧
      b'.v4l2Buffer.index = b.v4l2Buffer.index ∧
      hasFlag b'.v4l2Buffer.flags bufFlagQueued = false := by
  unfold Buffer.finish at h
  split at h
  · cases h
  · cases h
    exact ⟨rfl, rfl, rfl, hasFlag_clearFlags _⟩

/-- A buffer of the updated list is the new one or an old one. -/
theorem getElem?_set_cases {bufs : List Buffer} {i j : Nat} {b c : Buffer}
    (h : (bufs.set i b)[j]? = some c) : j = i ∧ c = b ∨ bufs[j]? = some c := by
  by_cases hji : j = i
  · subst hji
    rw [List.getElem?_set_self'] at h
    obtain ⟨_, -, rfl⟩ := Option.map_eq_some_iff.mp h
    exact .inl ⟨rfl, rfl⟩
  · exact .inr ((List.getElem?_set_ne (Ne.symm hji)).symm.trans h)

/-- The buffer at the head of the queue is finished and leaves the queue. -/
theorem Session.Consistent.finish (hs : s.Consistent) {i : Nat} {rest : List Nat}
    (hqueue : s.queuedBuffers = i :: rest) {b b' : Buffer} (hb : s.buffers[i]? = some b)
    {sequence : UInt32} (hfinish : b.finish checks sequence = .ok b') (n : Nat) :
    Session.Consistent { s with
      queuedBuffers := rest, buffers := s.buffers.set i b', iteration := n } := by
  obtain ⟨hstate, -, hindex, hflag⟩ := finish_spec hfinish
  have hnodup : i ∉ rest ∧ rest.Nodup := by
    have h := hs.nodup
    rw [hqueue] at h
    exact List.nodup_cons.mp h
  have hself : (s.buffers.set i b')[i]? = some b' :=
    List.getElem?_set_self (List.getElem?_eq_some_iff.mp hb).1
  refine ⟨hnodup.2, ?_, ?_, ?_⟩
  · intro j
    by_cases hji : j = i
    · subst hji
      simp [hself, hstate, hnodup.1]
    · have hold := hs.queued j
      rw [hqueue, List.mem_cons] at hold
      simpa [List.getElem?_set_ne (Ne.symm hji), hji] using hold
  · intro j c hj
    rcases getElem?_set_cases hj with ⟨rfl, rfl⟩ | hj
    · simp [hflag, hstate]
    · exact hs.flags j c hj
  · intro j c hj
    rcases getElem?_set_cases hj with ⟨rfl, rfl⟩ | hj
    · exact hindex.trans (hs.indices j b hb)
    · exact hs.indices j c hj

/-- A buffer that is not queued enters the queue. -/
theorem Session.Consistent.enqueue (hs : s.Consistent) {i : Nat} {b : Buffer}
    (hb : s.buffers[i]? = some b) (hstate : b.state ≠ .incoming) :
    Session.Consistent { s with
      buffers := s.buffers.set i b.enqueue, queuedBuffers := s.queuedBuffers ++ [i] } := by
  have hnot : i ∉ s.queuedBuffers := by
    intro hi
    obtain ⟨b', hb', hincoming⟩ := (hs.queued i).mp hi
    obtain rfl := Option.some.inj (hb.symm.trans hb')
    exact hstate hincoming
  have hself : (s.buffers.set i b.enqueue)[i]? = some b.enqueue :=
    List.getElem?_set_self (List.getElem?_eq_some_iff.mp hb).1
  have hflag : hasFlag b.enqueue.v4l2Buffer.flags bufFlagQueued = true := by
    simp [Buffer.enqueue, DecoderV4l2Buffer.addFlags]
  refine ⟨?_, ?_, ?_, ?_⟩
  · exact List.nodup_append.mpr ⟨hs.nodup, List.nodup_singleton i, fun j hj k hk hjk =>
      hnot (List.mem_singleton.mp hk ▸ hjk ▸ hj)⟩
  · intro j
    by_cases hji : j = i
    · subst hji
      exact iff_of_true (by simp) ⟨_, hself, rfl⟩
    · have hold := hs.queued j
      simpa [List.getElem?_set_ne (Ne.symm hji), hji] using hold
  · intro j c hj
    rcases getElem?_set_cases hj with ⟨rfl, rfl⟩ | hj
    · exact iff_of_true hflag rfl
    · exact hs.flags j c hj
  · intro j c hj
    rcases getElem?_set_cases hj with ⟨rfl, rfl⟩ | hj
    · exact hs.indices j b hb
    · exact hs.indices j c hj

/-- Nothing is queued, and the flags of all buffers say so. -/
theorem Session.Consistent.of_idle (hqueue : s.queuedBuffers = [])
    (hbufs : ∀ (i : Nat) (b : Buffer), s.buffers[i]? = some b → b.state ≠ .incoming ∧
      hasFlag b.v4l2Buffer.flags bufFlagQueued = false ∧ b.v4l2Buffer.index = .ofNat i) :
    s.Consistent := by
  refine ⟨by simp [hqueue], ?_, ?_, fun i b hb => (hbufs i b hb).2.2⟩
  · intro i
    rw [hqueue]
    constructor
    · intro hi
      cases hi
    · rintro ⟨b, hb, hincoming⟩
      exact absurd hincoming (hbufs i b hb).1
  · intro i b hb
    simp [(hbufs i b hb).1, (hbufs i b hb).2.1]

theorem Session.Consistent.stop (hs : s.Consistent) : s.stop.Consistent := by
  refine .of_idle rfl fun i b hb => ?_
  simp only [Session.stop, List.getElem?_map, Option.map_eq_some_iff] at hb
  obtain ⟨b, hb, rfl⟩ := hb
  refine ⟨?_, hasFlag_clearFlags _, hs.indices i b hb⟩
  intro h
  cases h

/-! ### One session -/

/-- The session sent the frames of `done`, after `start` was sent. -/
structure Fed (start : List DecoderEvent) (done : List Nat) (d : CaptureDevice) (s : Session) :
    Prop where
  consistent : s.Consistent
  iteration : UInt32.ofNat s.iteration = .ofNat done.length
  sent : ∃ new, d.sent = new ++ start ∧ frames s.id new = numbered done

/-- The session does what the queue does. -/
structure Follows (start : List DecoderEvent) (f : Feed Nat) (d : CaptureDevice) (s : Session) :
    Prop where
  fed : Fed start f.delivered d s
  waiting : s.queuedBuffers = f.waiting
  streaming : s.streaming = f.isOpen

/-- The loop of `process_queued_buffers` delivers what is queued. -/
theorem processQueued_fed (hio : ∀ n, io n = true) {queued done : List Nat} {c : Called Unit}
    (h : processQueued checks io queued d s = .ok c) (hqueue : s.queuedBuffers = queued)
    (hs : Fed start done d s) :
    c.result = .ok () ∧ Fed start (done ++ queued) c.device c.session ∧
      c.session.queuedBuffers = [] := by
  induction queued generalizing d s done with
  | nil =>
      cases h
      rw [List.append_nil]
      refine ⟨rfl, ⟨?_, hs.iteration, hs.sent⟩, rfl⟩
      rw [← hqueue]
      exact hs.consistent
  | cons i rest ih =>
      obtain ⟨b, hb, -⟩ := (hs.consistent.queued i).mp (by simp [hqueue])
      simp only [processQueued, hb, hio, Bool.not_true, Bool.false_eq_true, if_false] at h
      obtain ⟨b', hfinish, h⟩ := bind_eq_ok.mp h
      obtain ⟨-, hsequence, hindex, -⟩ := finish_spec hfinish
      have hframe : frame? s.id (.dequeueBuffer s.id b'.v4l2Buffer) =
          some (.ofNat i, .ofNat done.length) := by
        rw [frame?, if_pos rfl, hsequence, hindex, hs.consistent.indices i b hb, hs.iteration]
      obtain ⟨new, hsent, hnew⟩ := hs.sent
      have hwrap : UInt32.ofNat ((s.iteration + 1) % 2 ^ 64) = .ofNat (s.iteration + 1) := by
        apply UInt32.toNat_inj.mp
        simp only [UInt32.toNat_ofNat']
        exact Nat.mod_mod_of_dvd _ (by decide)
      have hfed : Fed start (done ++ [i])
          { d with sent := .dequeueBuffer s.id b'.v4l2Buffer :: d.sent }
          { s with
            queuedBuffers := rest
            buffers := s.buffers.set i b'
            iteration := (s.iteration + 1) % 2 ^ 64 } := by
        refine ⟨hs.consistent.finish hqueue hb hfinish _, ?_, ?_⟩
        · rw [hwrap, List.length_append, List.length_singleton, UInt32.ofNat_add,
            UInt32.ofNat_add, hs.iteration]
        · refine ⟨.dequeueBuffer s.id b'.v4l2Buffer :: new, by simp [hsent], ?_⟩
          rw [frames_cons, hframe, hnew, numbered_concat]
          rfl
      have hrest := ih h rfl hfed
      rw [List.append_assoc, List.singleton_append] at hrest
      exact hrest

/-- An accepted QBUF pushes the buffer. -/
theorem qbuf_follows (hio : ∀ n, io n = true) {f : Feed Nat} (hs : Follows start f d s)
    {index : UInt32} {c : Called DecoderV4l2Buffer}
    (h : d.qbuf checks io s index = .ok c) :
    (c.result.isOk = false ∧ c.device = d ∧ c.session = s) ∨
      (c.result.isOk = true ∧ Follows start (f.step (.push index.toNat)) c.device c.session) := by
  unfold CaptureDevice.qbuf at h
  split at h
  · cases h
    exact .inl ⟨rfl, rfl, rfl⟩
  · rename_i b hb
    split at h
    · cases h
      exact .inl ⟨rfl, rfl, rfl⟩
    · rename_i hstate
      refine .inr ?_
      have hqueued : Fed start f.delivered d { s with
          buffers := s.buffers.set index.toNat b.enqueue
          queuedBuffers := s.queuedBuffers ++ [index.toNat] } :=
        ⟨hs.fed.consistent.enqueue hb hstate, hs.fed.iteration, hs.fed.sent⟩
      dsimp only at h
      split at h
      · rename_i hstreaming
        obtain ⟨r, hr, rfl⟩ := map_eq_ok.mp h
        obtain ⟨hok, hfed, hempty⟩ := processQueued_fed hio hr rfl hqueued
        have hopen : f.isOpen = true := hs.streaming.symm.trans hstreaming
        have hstream := processQueued_streaming hr
        refine ⟨by simp [hok, Except.map, Except.isOk, Except.toBool], ?_⟩
        have hstep : f.step (.push index.toNat) =
            ⟨true, [], f.delivered ++ (f.waiting ++ [index.toNat])⟩ := by
          simp [Feed.step, hopen]
        rw [hstep]
        refine ⟨?_, hempty, hstream.trans hstreaming⟩
        rw [← hs.waiting]
        exact hfed
      · rename_i hstreaming
        cases h
        have hopen : f.isOpen = false := hs.streaming.symm.trans (Bool.not_eq_true _ ▸ hstreaming)
        refine ⟨rfl, ?_⟩
        have hstep : f.step (.push index.toNat) =
            ⟨f.isOpen, f.waiting ++ [index.toNat], f.delivered⟩ := by
          simp [Feed.step, hopen]
        rw [hstep]
        exact ⟨hqueued, congrArg (· ++ [index.toNat]) hs.waiting, hs.streaming⟩

/-- A successful STREAMON starts the queue. -/
theorem streamon_follows (hio : ∀ n, io n = true) {f : Feed Nat} (hs : Follows start f d s)
    {queue : QueueType} {c : Called Unit} (h : d.streamon checks io s queue = .ok c) :
    (c.result.isOk = false ∧ c.device = d ∧ c.session = s) ∨
      (c.result.isOk = true ∧ Follows start (f.step .start) c.device c.session) := by
  unfold CaptureDevice.streamon at h
  split at h
  · cases h
    exact .inl ⟨rfl, rfl, rfl⟩
  · have hstarted : Fed start f.delivered d { s with streaming := true } :=
      ⟨⟨hs.fed.consistent.nodup, hs.fed.consistent.queued, hs.fed.consistent.flags,
        hs.fed.consistent.indices⟩, hs.fed.iteration, hs.fed.sent⟩
    obtain ⟨hok, hfed, hempty⟩ := processQueued_fed hio h rfl hstarted
    have hstream := processQueued_streaming h
    refine .inr ⟨by simp [hok, Except.isOk, Except.toBool], ?_, hempty, hstream⟩
    change Fed start (f.delivered ++ f.waiting) c.device c.session
    rw [← hs.waiting]
    exact hfed

theorem Follows.stop {f : Feed Nat} (hs : Follows start f d s) :
    Follows start (f.step .stop) d s.stop :=
  ⟨⟨hs.fed.consistent.stop, hs.fed.iteration, hs.fed.sent⟩, rfl, rfl⟩

/-- The new buffers are idle and know their index. -/
theorem allocateBuffers_idle {memfd : Nat → Option Nat} {is : List Nat} {t : Tracked}
    {r : Except Int (List Buffer) × Tracked} {news : List Buffer}
    (h : allocateBuffers checks memfd is t = .ok r) (hnews : r.1 = .ok news) :
    List.Forall₂ (fun i (b : Buffer) => b.state = .new ∧
      hasFlag b.v4l2Buffer.flags bufFlagQueued = false ∧ b.v4l2Buffer.index = .ofNat i)
      is news := by
  induction is generalizing t r news with
  | nil =>
      cases h
      cases hnews
      exact .nil
  | cons i rest ih =>
      simp only [allocateBuffers] at h
      split at h
      · cases h
        cases hnews
      · split at h
        · cases h
        · cases h
          cases hnews
        · obtain ⟨r', hr', rfl⟩ := map_eq_ok.mp h
          obtain ⟨news', hnews', rfl⟩ := map_eq_ok.mp hnews
          have hflag : hasFlag bufFlagTimestampMonotonic bufFlagQueued = false := by decide
          exact .cons ⟨rfl, hflag, rfl⟩ (ih hr' hnews')

theorem forall₂_range {P : Nat → Buffer → Prop} {n : Nat} {news : List Buffer}
    (h : List.Forall₂ P (List.range n) news) {i : Nat} {b : Buffer} (hb : news[i]? = some b) :
    P i b := by
  obtain ⟨hlt, hget⟩ := List.getElem?_eq_some_iff.mp hb
  have hlen := h.length_eq
  have hi := h.get (i := i) (by rw [hlen]; exact hlt) hlt
  simpa [hget] using hi

/-- REQBUFS that passes its checks stops the queue, also when it fails later. -/
theorem reqbufs_follows {f : Feed Nat} (hs : Follows start f d s) {queue : QueueType}
    {memory : MemoryType} {count : UInt32} {memfd : Nat → Option Nat} {c : Called UInt32}
    (hadmits : d.admits s queue memory = true)
    (h : d.reqbufs checks s queue memory count memfd = .ok c) :
    Follows start (f.step .stop) c.device c.session := by
  rw [reqbufs_of_admits hadmits] at h
  obtain ⟨r, hr, rfl⟩ := map_eq_ok.mp h
  have hstop := hs.stop
  cases hres : r.1 with
  | error e =>
      have hsession : ((d.takeOver s count).settle s.stop (min count.toNat 32) r).session =
          s.stop := by
        simp [CaptureDevice.settle, hres, Except.toOption]
      rw [hsession]
      exact ⟨⟨hstop.fed.consistent, hstop.fed.iteration, hstop.fed.sent⟩, rfl, rfl⟩
  | ok news =>
      have hsession : ((d.takeOver s count).settle s.stop (min count.toNat 32) r).session =
          { s.stop with buffers := news } := by
        simp [CaptureDevice.settle, hres, Except.toOption]
      rw [hsession]
      refine ⟨⟨.of_idle rfl fun i b hb => ?_, hstop.fed.iteration, hstop.fed.sent⟩, rfl, rfl⟩
      obtain ⟨hstate, hflag, hindex⟩ := forall₂_range (allocateBuffers_idle hr hres) hb
      refine ⟨?_, hflag, hindex⟩
      rw [hstate]
      exact fun h => by cases h

/-! ### The history of a session -/

/-- What a call does to the queue of its session. -/
def CaptureDevice.op (checks : Bool) (d : CaptureDevice) (s : Session) :
    Call → Option (Feed.Op Nat)
  | .qbuf index io =>
    if (d.qbuf checks io s index).toOption.any (·.result.isOk) then some (.push index.toNat)
    else none
  | .streamon queue io =>
    if (d.streamon checks io s queue).toOption.any (·.result.isOk) then some .start else none
  | .streamoff queue => if (d.streamoff s queue).result.isOk then some .stop else none
  | .reqbufs queue memory _ _ => if d.admits s queue memory then some .stop else none
  | .mmap .. => none

/-- The frames of the session can be written. -/
def Call.WritesFrames : Call → Prop
  | .qbuf _ io => ∀ fd, io fd = true
  | .streamon _ io => ∀ fd, io fd = true
  | _ => True

/-- A call does to the session what its part of the history says. -/
theorem call_follows {f : Feed Nat} (hs : Follows start f d s) {c : Call}
    (hio : c.WritesFrames) {r : CaptureDevice × Session} (h : d.call checks s c = .ok r) :
    Follows start ((d.op checks s c).toList.foldl Feed.step f) r.1 r.2 := by
  cases c with
  | reqbufs queue memory count memfd =>
      obtain ⟨c, hc, rfl⟩ := map_eq_ok.mp h
      rcases reqbufs_outcome hc with ⟨hadmits, e, rfl, -⟩ | ⟨hadmits, -⟩
      · simpa [CaptureDevice.op, hadmits, Called.after] using hs
      · simpa [CaptureDevice.op, hadmits, Called.after] using reqbufs_follows hs hadmits hc
  | qbuf index io =>
      obtain ⟨c, hc, rfl⟩ := map_eq_ok.mp h
      rcases qbuf_follows hio hs hc with ⟨hres, hd, hsession⟩ | ⟨hres, hf⟩
      · simpa [CaptureDevice.op, hc, Except.toOption, hres, Called.after, hd, hsession] using hs
      · simpa [CaptureDevice.op, hc, Except.toOption, hres, Called.after] using hf
  | streamon queue io =>
      obtain ⟨c, hc, rfl⟩ := map_eq_ok.mp h
      rcases streamon_follows hio hs hc with ⟨hres, hd, hsession⟩ | ⟨hres, hf⟩
      · simpa [CaptureDevice.op, hc, Except.toOption, hres, Called.after, hd, hsession] using hs
      · simpa [CaptureDevice.op, hc, Except.toOption, hres, Called.after] using hf
  | streamoff queue =>
      cases h
      by_cases hqueue : queue = .videoCapture
      · simpa [CaptureDevice.op, CaptureDevice.streamoff, hqueue, Except.isOk, Except.toBool,
          Called.after] using hs.stop
      · simpa [CaptureDevice.op, CaptureDevice.streamoff, hqueue, Except.isOk, Except.toBool,
          Called.after] using hs
  | mmap flags offset answer =>
      cases h
      have hsent : (d.doMmap s flags offset answer).device.sent = d.sent := by
        rcases doMmap_cases d s flags offset answer with h | ⟨b, -, -, rw, h⟩ <;> rw [h]
      change Follows start f (d.doMmap s flags offset answer).device
        (d.doMmap s flags offset answer).session
      rw [doMmap_session]
      exact ⟨⟨hs.fed.consistent, hs.fed.iteration, hsent.symm ▸ hs.fed.sent⟩, hs.waiting,
        hs.streaming⟩

/-! ### Other sessions -/

/-- Nothing but frames of the session was sent. -/
def SentBy (id : UInt32) (sent sent' : List DecoderEvent) : Prop :=
  ∃ new, sent' = new ++ sent ∧ ∀ other, other ≠ id → frames other new = []

theorem SentBy.refl (id : UInt32) (sent : List DecoderEvent) : SentBy id sent sent :=
  ⟨[], rfl, fun _ _ => rfl⟩

theorem processQueued_sentBy {queued : List Nat} {c : Called Unit}
    (h : processQueued checks io queued d s = .ok c) : SentBy s.id d.sent c.device.sent := by
  induction queued generalizing d s with
  | nil =>
      cases h
      exact .refl _ _
  | cons i rest ih =>
      simp only [processQueued] at h
      split at h
      · cases h
        exact .refl _ _
      · split at h
        · cases h
          exact .refl _ _
        · obtain ⟨b', -, h⟩ := bind_eq_ok.mp h
          obtain ⟨new, hsent, hnew⟩ := ih h
          refine ⟨new ++ [.dequeueBuffer s.id b'.v4l2Buffer], by simp [hsent], ?_⟩
          intro other hother
          rw [frames_append, hnew other hother, List.append_nil]
          simp [frames, frame?, Ne.symm hother]

theorem call_sentBy {c : Call} {r : CaptureDevice × Session} (h : d.call checks s c = .ok r) :
    SentBy s.id d.sent r.1.sent := by
  cases c with
  | reqbufs queue memory count memfd =>
      obtain ⟨c, hc, rfl⟩ := map_eq_ok.mp h
      rcases reqbufs_outcome hc with ⟨-, e, rfl, -⟩ | ⟨-, r, -, rfl⟩ <;> exact .refl _ _
  | qbuf index io =>
      obtain ⟨c, hc, rfl⟩ := map_eq_ok.mp h
      unfold CaptureDevice.qbuf at hc
      split at hc
      · cases hc
        exact .refl _ _
      · split at hc
        · cases hc
          exact .refl _ _
        · dsimp only at hc
          split at hc
          · obtain ⟨r, hr, rfl⟩ := map_eq_ok.mp hc
            have hsent := processQueued_sentBy hr
            exact hsent
          · cases hc
            exact .refl _ _
  | streamon queue io =>
      obtain ⟨c, hc, rfl⟩ := map_eq_ok.mp h
      unfold CaptureDevice.streamon at hc
      split at hc
      · cases hc
        exact .refl _ _
      · have hsent := processQueued_sentBy hc
        exact hsent
  | streamoff queue =>
      cases h
      unfold CaptureDevice.streamoff
      split <;> exact .refl _ _
  | mmap flags offset answer =>
      cases h
      change SentBy s.id d.sent (d.doMmap s flags offset answer).device.sent
      rcases doMmap_cases d s flags offset answer with h | ⟨b, -, -, rw, h⟩ <;> rw [h] <;>
        exact .refl _ _

/-- What other sessions send does not matter. -/
theorem Follows.frame {f : Feed Nat} (hs : Follows start f d s) {d' : CaptureDevice}
    {id : UInt32} (hsent : SentBy id d.sent d'.sent) (hid : s.id ≠ id) :
    Follows start f d' s := by
  refine ⟨⟨hs.fed.consistent, hs.fed.iteration, ?_⟩, hs.waiting, hs.streaming⟩
  obtain ⟨new, hnew, hframes⟩ := hs.fed.sent
  obtain ⟨new', hnew', hother⟩ := hsent
  refine ⟨new' ++ new, by rw [hnew', hnew, List.append_assoc], ?_⟩
  rw [frames_append, hother s.id hid, List.append_nil, hframes]

/-! ### Runs -/

/-- The device, and the history of one of its sessions. -/
structure Watched where
  capture : Capture
  history : List (Feed.Op Nat)

/-- What an action does to the queue of a session. -/
def Capture.op (checks : Bool) (s : Capture) (id : UInt32) : Action → Option (Feed.Op Nat)
  | .call i c =>
    if i = id then (s.sessions id).bind fun session => s.device.op checks session c else none
  | _ => none

/-- The device with the history of a session. -/
def Watched.next (checks : Bool) (id : UInt32) (w : Watched) (a : Action) : Option Watched :=
  (w.capture.next checks a).map fun s => ⟨s, w.history ++ (w.capture.op checks id a).toList⟩

/-- The action does not close the session, and the frames of its calls on the
session can be written. -/
def Action.Keeps (id : UInt32) : Action → Prop
  | .closeSession i => i ≠ id
  | .call i c => i = id → c.WritesFrames
  | _ => True

/-- The history does not change the device. -/
theorem watchedRun_capture (id : UInt32) (w : Watched) (actions : List Action) :
    (Trace.run (Watched.next checks id) w actions).map Watched.capture =
      Trace.run (Capture.next checks) w.capture actions := by
  refine (Trace.run_map (fun w a => ?_) w actions).symm
  cases h : w.capture.next checks a <;> simp [Watched.next, h]

/-- The session is open and does what its history says. -/
structure Watched.Inv (start : List DecoderEvent) (id : UInt32) (w : Watched) : Prop where
  mmap : w.capture.MmapInv
  follows : ∃ session, w.capture.sessions id = some session ∧
    Follows start (Feed.after w.history) w.capture.device session

/-- Nothing that concerns the session happened. -/
theorem Watched.Inv.other {id : UInt32} {w : Watched} (hw : w.Inv start id) {s' : Capture}
    (hmmap : s'.MmapInv) (hsession : s'.sessions id = w.capture.sessions id)
    (hsent : s'.device.sent = w.capture.device.sent ∨
      ∃ i, i ≠ id ∧ SentBy i w.capture.device.sent s'.device.sent) :
    (⟨s', w.history⟩ : Watched).Inv start id := by
  obtain ⟨session, hi, hs⟩ := hw.follows
  have hid := hw.mmap.ids id session hi
  refine ⟨hmmap, session, hsession.trans hi, ?_⟩
  rcases hsent with hsent | ⟨i, hne, hsent⟩
  · exact ⟨⟨hs.fed.consistent, hs.fed.iteration, hsent.symm ▸ hs.fed.sent⟩, hs.waiting,
      hs.streaming⟩
  · exact hs.frame hsent (hid.symm ▸ hne.symm)

theorem Watched.Inv.next {id : UInt32} {w w' : Watched} (hw : w.Inv start id) {a : Action}
    (ha : a.Keeps id) (h : Watched.next checks id w a = some w') : w'.Inv start id := by
  obtain ⟨s', hs', rfl⟩ := Option.map_eq_some_iff.mp h
  have hmmap := hw.mmap.step hs'
  have hstep : w.capture.step checks a = .ok s' := toOption_eq_some.mp hs'
  cases a with
  | openSession i =>
      simp only [Capture.op, Option.toList_none, List.append_nil]
      obtain ⟨session, hi, -⟩ := hw.follows
      simp only [Capture.step] at hstep
      split at hstep
      · rename_i hnone
        have hne : id ≠ i := by
          rintro rfl
          rw [hi] at hnone
          cases hnone
        cases hstep
        exact hw.other hmmap (if_neg hne) (.inl rfl)
      · cases hstep
        exact hw.other hmmap rfl (.inl rfl)
  | closeSession i =>
      simp only [Capture.op, Option.toList_none, List.append_nil]
      simp only [Capture.step] at hstep
      split at hstep
      · cases hstep
        exact hw.other hmmap rfl (.inl rfl)
      · cases hstep
        exact hw.other hmmap (if_neg (Ne.symm ha)) (.inl (closeSession_sent _ _))
  | munmap guestAddr =>
      simp only [Capture.op, Option.toList_none, List.append_nil]
      cases hstep
      exact hw.other hmmap rfl (.inl rfl)
  | call i c =>
      simp only [Capture.step] at hstep
      by_cases hi : i = id
      · obtain rfl := hi
        obtain ⟨session, hi, hs⟩ := hw.follows
        simp only [hi] at hstep
        obtain ⟨r, hr, rfl⟩ := map_eq_ok.mp hstep
        refine ⟨hmmap, r.2, if_pos rfl, ?_⟩
        have hfollows := call_follows hs (ha rfl) hr
        change Follows start _ r.1 r.2
        simpa [Capture.op, hi, Feed.after, List.foldl_append] using hfollows
      · simp only [Capture.op, if_neg hi, Option.toList_none, List.append_nil]
        split at hstep
        · cases hstep
          exact hw.other hmmap rfl (.inl rfl)
        · rename_i session hsession
          obtain ⟨r, hr, rfl⟩ := map_eq_ok.mp hstep
          refine hw.other hmmap (if_neg (Ne.symm hi)) (.inr ⟨i, hi, ?_⟩)
          rw [← hw.mmap.ids i session hsession]
          exact call_sentBy hr

end VirtioMedia.Device.Simple
