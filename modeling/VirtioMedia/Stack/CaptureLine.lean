import VirtioMedia.Driver.ReplyIndices
import VirtioMedia.Stack.Capture

/-!
# Each side's part of the queue of buffers

What the calls of the capture device do to the buffers that wait in it and to
the event queue, and what the ioctls of the driver do to the slots that it has
given away and to its pending list.
-/

namespace VirtioMedia.Stack

open V4l2 Driver Device Device.Simple Fallible

/-! ### The device -/

/-- The buffers of the device are those of its only queue. -/
def OfCapture (v : DecoderV4l2Buffer) : Prop := v.queue = .videoCapture ∧ v.memory = .mmap

/-- The slot of the driver that an event names. -/
def slotOf (v : DecoderV4l2Buffer) : Nat := v.index.toNat

structure Ready (s : Simple.Session) : Prop where
  consistent : s.Consistent
  capturing : ∀ b ∈ s.buffers, OfCapture b.v4l2Buffer
  small : s.buffers.length ≤ 32

theorem dequeued_append (id : UInt32) (new sent : List DecoderEvent) :
    dequeued id (new ++ sent) = dequeued id sent ++ dequeued id new := by
  simp [dequeued]

theorem dequeued_cons_self (id : UInt32) (v : DecoderV4l2Buffer) (sent : List DecoderEvent) :
    dequeued id (.dequeueBuffer id v :: sent) = dequeued id sent ++ [v] := by
  simp [dequeued, dequeued?]

/-- The frames of a session are its buffers without their contents. -/
theorem frames_eq_map (id : UInt32) (sent : List DecoderEvent) :
    frames id sent = (dequeued id sent).map fun v => (v.index, v.sequence) := by
  rw [frames, dequeued, List.map_filterMap]
  congr 1
  funext e
  cases e with
  | dequeueBuffer i v => by_cases h : i = id <;> simp [frame?, dequeued?, h]
  | sourceChange i => rfl
  | eos i => rfl

/-- What another session sends is not for this one. -/
theorem dequeued_of_sentBy {id i : UInt32} {sent sent' : List DecoderEvent}
    (h : SentBy i sent sent') (hne : id ≠ i) : dequeued id sent' = dequeued id sent := by
  obtain ⟨new, rfl, hother⟩ := h
  have hframes := hother id hne
  rw [frames_eq_map, List.map_eq_nil_iff] at hframes
  rw [dequeued_append, hframes, List.append_nil]

/-- The buffers that wait in the device move on to the event queue, in order,
and `extra` buffers come in behind them. -/
structure Passes (d : CaptureDevice) (s : Simple.Session) (d' : CaptureDevice)
    (s' : Simple.Session) (extra : List Nat) : Prop where
  ready : Ready s'
  id : s'.id = s.id
  length : s'.buffers.length = s.buffers.length
  line : ∃ vs, dequeued s.id d'.sent = dequeued s.id d.sent ++ vs ∧
    vs.map slotOf ++ s'.queuedBuffers = s.queuedBuffers ++ extra ∧ ∀ v ∈ vs, OfCapture v

section Device

variable {checks : Bool} {io : Nat → Bool} {d : CaptureDevice} {s : Simple.Session}

theorem Ready.passes (hs : Ready s) {d' : CaptureDevice}
    (hsent : dequeued s.id d'.sent = dequeued s.id d.sent) : Passes d s d' s [] where
  ready := hs
  id := rfl
  length := rfl
  line := ⟨[], by simp [hsent], by simp, by simp⟩

theorem finish_capturing {b b' : Buffer} {sequence : UInt32}
    (h : b.finish checks sequence = .ok b') (hb : OfCapture b.v4l2Buffer) :
    OfCapture b'.v4l2Buffer := by
  unfold Buffer.finish at h
  split at h
  · cases h
  · cases h
    exact hb

theorem capturing_set {bufs : List Buffer} (h : ∀ b ∈ bufs, OfCapture b.v4l2Buffer) {b : Buffer}
    (hb : OfCapture b.v4l2Buffer) (i : Nat) : ∀ c ∈ bufs.set i b, OfCapture c.v4l2Buffer := by
  intro c hc
  rcases List.mem_or_eq_of_mem_set hc with hc | rfl
  · exact h c hc
  · exact hb

/-- The loop of `process_queued_buffers` sends what waits. -/
theorem processQueued_passes (hio : ∀ n, io n = true) {queued : List Nat} {c : Called Unit}
    (h : processQueued checks io queued d s = .ok c) (hqueue : s.queuedBuffers = queued)
    (hs : Ready s) : c.result = .ok () ∧ Passes d s c.device c.session [] := by
  induction queued generalizing d s with
  | nil =>
      cases h
      have hsame : ({ s with queuedBuffers := [] } : Simple.Session) = s := by rw [← hqueue]
      rw [hsame]
      exact ⟨rfl, hs.passes rfl⟩
  | cons i rest ih =>
      obtain ⟨b, hb, -⟩ := (hs.consistent.queued i).mp (by simp [hqueue])
      simp only [processQueued, hb, hio, Bool.not_true, Bool.false_eq_true, if_false] at h
      obtain ⟨b', hfinish, h⟩ := bind_eq_ok.mp h
      have hcapture : OfCapture b'.v4l2Buffer :=
        finish_capturing hfinish (hs.capturing b (List.mem_of_getElem? hb))
      have hslot : slotOf b'.v4l2Buffer = i := by
        have hlt : i < s.buffers.length := (List.getElem?_eq_some_iff.mp hb).1
        have hsmall := hs.small
        rw [slotOf, (finish_spec hfinish).2.2.1, hs.consistent.indices i b hb]
        exact UInt32.toNat_ofNat_of_lt' (by rw [UInt32.size]; omega)
      have hready : Ready { s with
          queuedBuffers := rest
          buffers := s.buffers.set i b'
          iteration := (s.iteration + 1) % 2 ^ 64 } :=
        ⟨hs.consistent.finish hqueue hb hfinish _, capturing_set hs.capturing hcapture i,
          by simpa using hs.small⟩
      obtain ⟨hok, hpasses⟩ := ih h rfl hready
      obtain ⟨vs, hsent, hline, hvs⟩ := hpasses.line
      refine ⟨hok, hpasses.ready, hpasses.id, by simpa using hpasses.length,
        b'.v4l2Buffer :: vs, ?_, ?_, ?_⟩
      · rw [dequeued_cons_self] at hsent
        simpa using hsent
      · rw [hqueue, List.map_cons, hslot, List.cons_append, hline]
        simp
      · intro v hv
        rcases List.mem_cons.mp hv with rfl | hv
        · exact hcapture
        · exact hvs v hv

/-- QBUF of a buffer that is not queued. -/
theorem qbuf_passes (hio : ∀ n, io n = true) (hs : Ready s) {index : UInt32}
    (hlt : index.toNat < s.buffers.length) (hfree : index.toNat ∉ s.queuedBuffers)
    {c : Called DecoderV4l2Buffer} (h : d.qbuf checks io s index = .ok c) :
    c.result.isOk = true ∧ Passes d s c.device c.session [index.toNat] := by
  obtain ⟨b, hb⟩ : ∃ b, s.buffers[index.toNat]? = some b := ⟨_, List.getElem?_eq_getElem hlt⟩
  have hstate : b.state ≠ .incoming := fun h =>
    hfree ((hs.consistent.queued _).mpr ⟨b, hb, h⟩)
  have hready : Ready { s with
      buffers := s.buffers.set index.toNat b.enqueue
      queuedBuffers := s.queuedBuffers ++ [index.toNat] } :=
    ⟨hs.consistent.enqueue hb hstate,
      capturing_set hs.capturing (b := b.enqueue)
        (hs.capturing b (List.mem_of_getElem? hb)) _,
      by simpa using hs.small⟩
  simp only [CaptureDevice.qbuf, hb, if_neg hstate] at h
  split at h
  · obtain ⟨r, hr, rfl⟩ := map_eq_ok.mp h
    obtain ⟨hok, hpasses⟩ := processQueued_passes hio hr rfl hready
    obtain ⟨vs, hsent, hline, hvs⟩ := hpasses.line
    refine ⟨by simp [hok, Except.map, Except.isOk, Except.toBool], hpasses.ready, hpasses.id,
      by simpa using hpasses.length, vs, hsent, ?_, hvs⟩
    simpa using hline
  · cases h
    exact ⟨rfl, hready, rfl, by simp, [], by simp, by simp, by simp⟩

/-- STREAMON is refused, or it sends what waits. -/
theorem streamon_passes (hio : ∀ n, io n = true) (hs : Ready s) {queue : QueueType}
    {c : Called Unit} (h : d.streamon checks io s queue = .ok c) :
    Passes d s c.device c.session [] := by
  unfold CaptureDevice.streamon at h
  split at h
  · cases h
    exact hs.passes rfl
  · have hready : Ready { s with streaming := true } :=
      ⟨⟨hs.consistent.nodup, hs.consistent.queued, hs.consistent.flags, hs.consistent.indices⟩,
        hs.capturing, hs.small⟩
    obtain ⟨-, hpasses⟩ := processQueued_passes hio h rfl hready
    exact ⟨hpasses.ready, hpasses.id, hpasses.length, hpasses.line⟩

/-- The queue of the session is empty, and nothing was sent. -/
structure Cleared (d : CaptureDevice) (s : Simple.Session) (d' : CaptureDevice)
    (s' : Simple.Session) : Prop where
  ready : Ready s'
  id : s'.id = s.id
  queue : s'.queuedBuffers = []
  sent : d'.sent = d.sent

theorem Ready.stop (hs : Ready s) : Ready s.stop where
  consistent := hs.consistent.stop
  capturing := by
    intro b hb
    obtain ⟨c, hc, rfl⟩ := List.mem_map.mp hb
    exact hs.capturing c hc
  small := by simpa [Simple.Session.stop] using hs.small

theorem streamoff_cleared (hs : Ready s) {queue : QueueType}
    (hok : (d.streamoff s queue).result.isOk = true) :
    queue = .videoCapture ∧
      Cleared d s (d.streamoff s queue).device (d.streamoff s queue).session := by
  unfold CaptureDevice.streamoff at hok ⊢
  split at hok
  · cases hok
  · rename_i hqueue
    rw [if_neg hqueue]
    exact ⟨not_not.mp hqueue, hs.stop, rfl, rfl, rfl⟩

theorem allocateBuffers_capturing {memfd : Nat → Option Nat} {is : List Nat} {t : Tracked}
    {r : Except Int (List Buffer) × Tracked} {news : List Buffer}
    (h : Simple.allocateBuffers checks memfd is t = .ok r) (hnews : r.1 = .ok news) :
    ∀ b ∈ news, OfCapture b.v4l2Buffer := by
  induction is generalizing t r news with
  | nil =>
      cases h
      cases hnews
      simp
  | cons i rest ih =>
      simp only [Simple.allocateBuffers] at h
      split at h
      · cases h
        cases hnews
      · split at h
        · cases h
        · cases h
          cases hnews
        · obtain ⟨r', hr', rfl⟩ := map_eq_ok.mp h
          obtain ⟨news', hnews', rfl⟩ := map_eq_ok.mp hnews
          intro b hb
          rcases List.mem_cons.mp hb with rfl | hb
          · exact ⟨rfl, rfl⟩
          · exact ih hr' hnews' b hb

/-- REQBUFS that succeeds allocates as many buffers as it says. -/
theorem reqbufs_cleared {queue : QueueType} {memory : MemoryType} {count n : UInt32}
    {memfd : Nat → Option Nat} {c : Called UInt32}
    (h : d.reqbufs checks s queue memory count memfd = .ok c) (hok : c.result = .ok n) :
    d.admits s queue memory = true ∧ c.session.buffers.length = n.toNat ∧
      Cleared d s c.device c.session := by
  rcases reqbufs_outcome h with ⟨-, e, rfl, -⟩ | ⟨hadmits, r, hr, rfl⟩
  · cases hok
  · cases hres : r.1 with
    | error e =>
        rw [settle_error hres] at hok
        cases hok
    | ok news =>
        rw [settle_ok hres] at hok ⊢
        cases hok
        have hidle := allocateBuffers_idle hr hres
        have hlen : news.length = min count.toNat 32 := by
          rw [← hidle.length_eq, List.length_range]
        have hsmall : min count.toNat 32 < 2 ^ 32 := by omega
        refine ⟨hadmits, ?_, ⟨.of_idle rfl fun i b hb => ?_, allocateBuffers_capturing hr hres,
          ?_⟩, rfl, rfl, rfl⟩
        · rw [UInt32.toNat_ofNat_of_lt' hsmall]
          exact hlen
        · obtain ⟨hstate, hflag, hindex⟩ := forall₂_range hidle hb
          refine ⟨?_, hflag, hindex⟩
          rw [hstate]
          exact fun h => by cases h
        · change news.length ≤ 32
          omega

end Device

/-! ### The driver -/

theorem completedSlot_index (cfg : Driver.Config) (ev : DqbufEvent) (b : MediaBuffer) :
    (completedSlot cfg ev b).buffer.index = ev.buffer.index := by
  simp only [completedSlot, overrideTimestamp]
  split <;> rfl

/-- The driver has given the slots of `l` away, and the slots on its pending
list have come back under their own index. -/
structure Driven (q : QueueState) (l : List Nat) : Prop where
  memory : q.buffers ≠ [] → q.memory = memoryMmap
  owns : ∀ i, q.owns i = true ↔ i ∈ l
  indices : ∀ i ∈ q.pendingDqbufs, ∀ b, q.buffers[i]? = some b → b.buffer.index.toNat = i

section Driver

variable {q : QueueState} {l : List Nat} {i : Nat} {b b' : MediaBuffer}

theorem Driven.of_idle (hslots : ∀ b ∈ q.buffers, b.idle) (hpending : q.pendingDqbufs = [])
    (hmemory : q.buffers ≠ [] → q.memory = memoryMmap) : Driven q [] where
  memory := hmemory
  owns := by
    intro i
    cases hb : q.buffers[i]? with
    | none => simp [QueueState.owns, hb]
    | some b =>
        rw [owns_eq_of_slot hb, (hslots b (List.mem_of_getElem? hb)).1]
        simp
  indices := by simp [hpending]

theorem Driven.memory_of_slot (hq : Driven q l) (hb : q.buffers[i]? = some b) :
    q.memory = memoryMmap :=
  hq.memory (List.ne_nil_of_mem (List.mem_of_getElem? hb))

/-- A slot that is not pending is replaced. -/
theorem Driven.setBuffer (hq : Driven q l) (hb : q.buffers[i]? = some b) (b' : MediaBuffer)
    (hpending : i ∉ q.pendingDqbufs) (l' : List Nat) (hown : b'.onDevice = true ↔ i ∈ l')
    (hl : ∀ j, j ≠ i → (j ∈ l' ↔ j ∈ l)) : Driven (q.setBuffer i b') l' where
  memory := fun _ => hq.memory_of_slot hb
  owns := by
    intro j
    rw [owns_setBuffer hb]
    split
    · rename_i hj
      rw [hj]
      exact hown
    · rename_i hj
      rw [hl j hj]
      exact hq.owns j
  indices := by
    intro j hj c hc
    have hne : i ≠ j := fun h => hpending (h ▸ hj)
    exact hq.indices j hj c (by rwa [QueueState.setBuffer, List.getElem?_set_ne hne] at hc)

theorem Driven.frame (hq : Driven q l) {q' : QueueState} (hbuffers : q'.buffers = q.buffers)
    (hmemory : q'.memory = q.memory) (hpending : q'.pendingDqbufs = q.pendingDqbufs) :
    Driven q' l where
  memory := by
    rw [hbuffers, hmemory]
    exact hq.memory
  owns := by
    intro i
    rw [owns_congr hbuffers]
    exact hq.owns i
  indices := by
    rw [hbuffers, hpending]
    exact hq.indices

theorem not_pending_of_slot (hq : Accounted q) (hb : q.buffers[i]? = some b)
    (hdone : b.done = false) : i ∉ q.pendingDqbufs := by
  rw [hq.pending]
  rintro ⟨c, hc, hc'⟩
  obtain rfl := Option.some.inj (hb.symm.trans hc)
  rw [hdone] at hc'
  cases hc'

/-- The slot of a QBUF command is given away. -/
theorem Driven.enqueue (hq : Driven q l) (hacc : Accounted q) (hb : q.buffers[i]? = some b)
    (hidle : b.idle) (b' : MediaBuffer) : Driven (enqueueSlot q i b') (l ++ [i]) ∧ i ∉ l := by
  have howns : q.owns i = false := (owns_eq_of_slot hb).trans hidle.1
  have hnot : i ∉ l := fun h => by
    rw [(hq.owns i).mpr h] at howns
    cases howns
  refine ⟨?_, hnot⟩
  have hset := hq.setBuffer hb (b'.setFlags bufFlagQueued)
    (not_pending_of_slot hacc hb hidle.2) (l ++ [i])
    (by simp [MediaBuffer.onDevice, MediaBuffer.done]) (fun j hj => by simp [hj])
  exact hset.frame rfl rfl rfl

/-- The slot of a QBUF command that failed comes back. -/
theorem Driven.fail (hq : Driven q (l ++ [i])) (hnot : i ∉ l) (hacc : Accounted q)
    {fl : QbufInFlight} (hslot : fl.slot = i) (hfl : InFlightOk q fl) :
    Driven (failQbuf q fl) l ∧ (failQbuf q fl).pendingDqbufs = q.pendingDqbufs ∧
      (failQbuf q fl).buffers.length = q.buffers.length := by
  obtain ⟨⟨b, hb, -⟩, hold⟩ := hfl
  rw [hslot] at hb
  have hon : b.onDevice = true := by
    rw [← owns_eq_of_slot hb]
    exact (hq.owns i).mpr (by simp)
  have hdone := done_false_of_onDevice hon
  -- the device has never had the slot, so nothing completed it
  have hfail : failQbuf q fl =
      (({ q with importNeedsCancel := q.importNeedsCancel || q.memory == memoryDmabuf } :
        QueueState).setBuffer i ((releasedSlot q.memory b).setFlags fl.oldFlags)).decQueued := by
    simp [failQbuf, hslot, hb, hdone]
  have hset := hq.setBuffer hb ((releasedSlot q.memory b).setFlags fl.oldFlags)
    (not_pending_of_slot hacc hb hdone) l
    (by simp [MediaBuffer.onDevice, hold.1, hnot]) (fun j hj => by simp [hj])
  rw [hfail]
  exact ⟨hset.frame rfl rfl rfl, rfl, List.length_set⟩

/-- An event for a slot that was given away is accepted, and the slot becomes
pending. -/
theorem Driven.complete {v : DecoderV4l2Buffer} (hq : Driven q (slotOf v :: l))
    (hnot : slotOf v ∉ l) (hv : OfCapture v) (cfg : Driver.Config) (nowNs : Nat) :
    let ev := dqbufEvent v nowNs
    q.accepts ev.buffer.type ev = true ∧
      (q.processDqbuf cfg ev.buffer.type ev).pendingDqbufs = q.pendingDqbufs ++ [slotOf v] ∧
      Driven (q.processDqbuf cfg ev.buffer.type ev) l := by
  intro ev
  have hown : q.owns (slotOf v) = true := (hq.owns _).mpr List.mem_cons_self
  obtain ⟨b, hb, hon⟩ : ∃ b, q.buffers[slotOf v]? = some b ∧ b.onDevice = true := by
    simpa [QueueState.owns, Option.any_eq_true] using hown
  have htype : ev.buffer.type = 1 := congrArg queueCode hv.1
  have hmemory : ev.buffer.memory = q.memory :=
    (congrArg memoryCode hv.2).trans (hq.memory_of_slot hb).symm
  have hslot : q.buffers[ev.buffer.index.toNat]? = some b := hb
  have haccepts : q.accepts ev.buffer.type ev = true := by
    simp only [QueueState.accepts, hslot, hon, hmemory, htype, beq_self_eq_true, Bool.true_and]
    rfl
  have hprocess : q.processDqbuf cfg ev.buffer.type ev =
      ({ q.setBuffer (slotOf v) (completedSlot cfg ev b) with
        pendingDqbufs := q.pendingDqbufs ++ [slotOf v] } : QueueState).decQueued := by
    simp only [QueueState.processDqbuf, hslot, haccepts, if_true]
    rfl
  refine ⟨haccepts, by rw [hprocess]; rfl, ?_⟩
  rw [hprocess]
  have hlt := lt_length_of_slot hb
  refine ⟨fun _ => hq.memory_of_slot hb, fun j => ?_, fun j hj c hc => ?_⟩
  · rw [owns_decQueued]
    refine Iff.trans (Eq.congr_left (owns_setBuffer hb _ j)) ?_
    split
    · rename_i hj
      simp [hj, onDevice_false_of_done (completedSlot_done cfg ev b), hnot]
    · rename_i hj
      simp [hq.owns, hj]
  · change (q.buffers.set (slotOf v) (completedSlot cfg ev b))[j]? = some c at hc
    by_cases hne : slotOf v = j
    · subst hne
      rw [List.getElem?_set_self hlt] at hc
      obtain rfl := Option.some.inj hc
      rw [completedSlot_index]
      rfl
    · rw [List.getElem?_set_ne hne] at hc
      refine hq.indices j ?_ c hc
      rcases List.mem_append.mp hj with hj | hj
      · exact hj
      · exact absurd (List.mem_singleton.mp hj).symm hne

/-- What a successful STREAMOFF leaves. -/
theorem Driven.clear (hmemory : q.buffers ≠ [] → q.memory = memoryMmap) :
    Driven (clearQueue q) [] := by
  refine .of_idle (fun b hb => ?_) rfl fun h => hmemory fun hnil => h ?_
  · obtain ⟨c, -, rfl⟩ := List.mem_map.mp hb
    exact cleared_idle _
  · simp [clearQueue, hnil]

/-- What a successful REQBUFS leaves. -/
theorem Driven.realloc {reply : RequestBuffers} (hreply : reply.memory = memoryMmap)
    (ok : Bool) : Driven (reallocQueue q reply ok) [] := by
  refine .of_idle (fun b hb => ?_) rfl fun _ => hreply
  have hzero : b = MediaBuffer.zero := by
    cases ok with
    | true => exact List.eq_of_mem_replicate hb
    | false => exact absurd hb (by simp [reallocQueue])
  rw [hzero]
  exact ⟨by decide, by decide⟩

theorem processEvents_memory (cfg : Driver.Config) (s : Driver.Session) (evs : List DqbufEvent)
    (t : Fin numQueues) : ((processEvents cfg s evs).queues t).memory = (s.queues t).memory := by
  induction evs generalizing s with
  | nil => rfl
  | cons ev rest ih => exact (ih _).trans (deliver_memory cfg s ev t).1

end Driver

end VirtioMedia.Stack
