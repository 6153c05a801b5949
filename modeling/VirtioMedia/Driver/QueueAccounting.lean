import VirtioMedia.Driver.Queue
import VirtioMedia.Lib.Trace

/-!
# Flags, counter and pending list of a queue agree

A queue records who owns a slot three times: in the slot's flags, in
`queued_bufs` and in `pending_dqbufs`. Five ioctls and the event handler
update them. The queue invariant `Accounted` says that the three agree; a
slot changes hands in four ways (submission, completion, failed submission,
dequeue), and each of them is one lemma about replacing one slot.
-/

namespace VirtioMedia.Driver

open V4l2

/-- The three records of ownership agree, and the counter never wrapped. -/
structure Accounted (q : QueueState) : Prop where
  count : q.queuedBufs = q.buffers.countP MediaBuffer.onDevice
  pending : ∀ i, i ∈ q.pendingDqbufs ↔ ∃ b, q.buffers[i]? = some b ∧ b.done = true
  nodup : q.pendingDqbufs.Nodup
  noWrap : q.wrapped = false
  small : q.buffers.length < 2 ^ 32

/-- A slot of this kind can be given to the device. -/
def MediaBuffer.idle (b : MediaBuffer) : Prop := b.onDevice = false ∧ b.done = false

theorem accounted_init : Accounted QueueState.init where
  count := rfl
  pending := by simp [QueueState.init]
  nodup := by simp [QueueState.init]
  noWrap := rfl
  small := by simp [QueueState.init]

/-- A completed slot is not the device's. -/
theorem onDevice_false_of_done {b : MediaBuffer} (h : b.done = true) :
    b.onDevice = false := by
  simp [MediaBuffer.onDevice, h]

theorem done_false_of_onDevice {b : MediaBuffer} (h : b.onDevice = true) :
    b.done = false := by
  simp only [MediaBuffer.onDevice, Bool.and_eq_true, Bool.not_eq_true'] at h
  exact h.2

theorem done_congr {a b : MediaBuffer} (h : a.buffer.flags = b.buffer.flags) :
    a.done = b.done := by
  simp [MediaBuffer.done, h]

theorem onDevice_congr {a b : MediaBuffer} (h : a.buffer.flags = b.buffer.flags) :
    a.onDevice = b.onDevice := by
  simp [MediaBuffer.onDevice, done_congr h, h]

@[simp] theorem setFlags_flags (b : MediaBuffer) (f : UInt32) :
    (b.setFlags f).buffer.flags = f := rfl

theorem prepared_idle (b : MediaBuffer) : (b.setFlags bufFlagPrepared).idle := by
  constructor
  · simp only [MediaBuffer.onDevice, setFlags_flags, Bool.and_eq_false_iff]
    exact .inl (by decide)
  · simp only [MediaBuffer.done, setFlags_flags]
    decide

/-! ### Replacing one slot -/

section Replace

variable {q : QueueState} {i : Nat} {b b' : MediaBuffer}

/-- A slot that can be read is in the array. -/
theorem lt_length_of_slot (hb : q.buffers[i]? = some b) : i < q.buffers.length :=
  (List.getElem?_eq_some_iff.mp hb).1

/-- Writing one slot moves the number of slots with the device by what it does
to this slot. -/
theorem countP_set_slot (hb : q.buffers[i]? = some b) (b' : MediaBuffer) :
    (q.buffers.set i b').countP MediaBuffer.onDevice + (if b.onDevice then 1 else 0) =
      q.buffers.countP MediaBuffer.onDevice + (if b'.onDevice then 1 else 0) := by
  obtain ⟨hi, rfl⟩ := List.getElem?_eq_some_iff.mp hb
  have hpos : q.buffers[i].onDevice = true →
      0 < q.buffers.countP MediaBuffer.onDevice := fun h =>
    List.countP_pos_iff.mpr ⟨_, List.getElem_mem hi, h⟩
  rw [List.countP_set hi]
  by_cases h : q.buffers[i].onDevice = true
  · have := hpos h
    simp only [h, if_true]
    omega
  · simp [h]

/-- Which slots are done after replacing slot `i`. -/
theorem exists_done_set_iff (hb : q.buffers[i]? = some b) (j : Nat) :
    (∃ c, (q.buffers.set i b')[j]? = some c ∧ c.done = true) ↔
      if j = i then b'.done = true else ∃ c, q.buffers[j]? = some c ∧ c.done = true := by
  have hi := lt_length_of_slot hb
  by_cases hj : j = i
  · subst hj
    simp [hi]
  · simp [hj, List.getElem?_set_ne (Ne.symm hj)]

/-- A replacement that stays on its side of both marks keeps the accounts. -/
theorem Accounted.setBuffer (hq : Accounted q) (hb : q.buffers[i]? = some b)
    (hon : b'.onDevice = b.onDevice) (hd : b'.done = b.done) :
    Accounted (q.setBuffer i b') where
  count := by
    have h := countP_set_slot hb b'
    rw [hon] at h
    have := hq.count
    simp only [QueueState.setBuffer]
    omega
  pending := by
    intro j
    rw [QueueState.setBuffer, exists_done_set_iff hb]
    rw [hq.pending]
    by_cases hj : j = i
    · subst hj
      simp [hb, hd]
    · simp [hj]
  nodup := hq.nodup
  noWrap := hq.noWrap
  small := by simpa [QueueState.setBuffer] using hq.small

/-- A replacement that keeps both flags keeps the accounts. -/
theorem Accounted.setBuffer_same (hq : Accounted q) (hb : q.buffers[i]? = some b)
    (hf : b'.buffer.flags = b.buffer.flags) : Accounted (q.setBuffer i b') := by
  exact hq.setBuffer hb (onDevice_congr hf) (done_congr hf)

/-- Submission: an idle slot becomes the device's and is counted. -/
theorem Accounted.submit (hq : Accounted q) (hb : q.buffers[i]? = some b)
    (hidle : b.idle) (hon : b'.onDevice = true) :
    Accounted (q.setBuffer i b').incQueued where
  count := by
    have h := countP_set_slot hb b'
    have hle := List.countP_le_length (p := MediaBuffer.onDevice) (l := q.buffers)
    have hc := hq.count
    have hs := hq.small
    simp only [hidle.1, hon, if_true, Bool.false_eq_true, if_false] at h
    simp only [QueueState.incQueued, QueueState.setBuffer]
    omega
  pending := by
    intro j
    change j ∈ q.pendingDqbufs ↔ ∃ c, (q.buffers.set i b')[j]? = some c ∧ c.done = true
    rw [exists_done_set_iff hb, hq.pending]
    by_cases hj : j = i
    · subst hj
      simp [hb, hidle.2, done_false_of_onDevice hon]
    · simp [hj]
  nodup := hq.nodup
  noWrap := hq.noWrap
  small := by simpa [QueueState.incQueued, QueueState.setBuffer] using hq.small

/-- The counter is not zero while a slot is with the device. -/
theorem Accounted.queued_pos (hq : Accounted q) (hb : q.buffers[i]? = some b)
    (hon : b.onDevice = true) : 0 < q.queuedBufs := by
  rw [hq.count]
  exact List.countP_pos_iff.mpr ⟨b, List.mem_of_getElem? hb, hon⟩

/-- The counter after a slot of the device has been taken back. -/
theorem decQueued_count (hq : Accounted q) (hb : q.buffers[i]? = some b)
    (hon : b.onDevice = true) (hoff : b'.onDevice = false) :
    (q.queuedBufs + (2 ^ 64 - 1)) % 2 ^ 64 =
      (q.buffers.set i b').countP MediaBuffer.onDevice := by
  have h := countP_set_slot hb b'
  have hle := List.countP_le_length (p := MediaBuffer.onDevice) (l := q.buffers)
  have hc := hq.count
  have hs := hq.small
  have hpos := hq.queued_pos hb hon
  simp only [hon, hoff, if_true, Bool.false_eq_true, if_false] at h
  omega

/-- Completion: a slot of the device becomes DONE and joins the pending list. -/
theorem Accounted.complete (hq : Accounted q) (hb : q.buffers[i]? = some b)
    (hon : b.onDevice = true) (hdone : b'.done = true) :
    Accounted ({ q.setBuffer i b' with
      pendingDqbufs := q.pendingDqbufs ++ [i] } : QueueState).decQueued where
  count := decQueued_count hq hb hon (onDevice_false_of_done hdone)
  pending := by
    intro j
    change j ∈ q.pendingDqbufs ++ [i] ↔
      ∃ c, (q.buffers.set i b')[j]? = some c ∧ c.done = true
    rw [exists_done_set_iff hb, List.mem_append, hq.pending]
    by_cases hj : j = i
    · simp [hj, hdone]
    · simp [hj]
  nodup := by
    have hnot : i ∉ q.pendingDqbufs := by
      rw [hq.pending]
      simp [hb, done_false_of_onDevice hon]
    change (q.pendingDqbufs ++ [i]).Nodup
    have hne : ∀ a ∈ q.pendingDqbufs, a ≠ i := fun a ha => ne_of_mem_of_not_mem ha hnot
    exact List.nodup_append.mpr ⟨hq.nodup, by simp, by simpa using hne⟩
  noWrap := by
    have := hq.queued_pos hb hon
    simp [QueueState.decQueued, QueueState.setBuffer, hq.noWrap]
    omega
  small := by simpa [QueueState.decQueued, QueueState.setBuffer] using hq.small

/-- Failed submission: a slot of the device becomes idle again. -/
theorem Accounted.giveBack (hq : Accounted q) (hb : q.buffers[i]? = some b)
    (hon : b.onDevice = true) (hidle : b'.idle) :
    Accounted (q.setBuffer i b').decQueued where
  count := decQueued_count hq hb hon hidle.1
  pending := by
    intro j
    change j ∈ q.pendingDqbufs ↔ ∃ c, (q.buffers.set i b')[j]? = some c ∧ c.done = true
    rw [exists_done_set_iff hb, hq.pending]
    by_cases hj : j = i
    · subst hj
      simp [hb, hidle.2, done_false_of_onDevice hon]
    · simp [hj]
  nodup := hq.nodup
  noWrap := by
    have := hq.queued_pos hb hon
    simp [QueueState.decQueued, QueueState.setBuffer, hq.noWrap]
    omega
  small := by simpa [QueueState.decQueued, QueueState.setBuffer] using hq.small

/-- Dequeue: the first pending slot becomes idle and leaves the list. -/
theorem Accounted.dequeue {rest : List Nat} (hq : Accounted q)
    (hp : q.pendingDqbufs = i :: rest) (hb : q.buffers[i]? = some b) (hidle : b'.idle)
    (isLast : Bool) :
    Accounted { q.setBuffer i b' with pendingDqbufs := rest, isCaptureLast := isLast } where
  count := by
    have hdone : b.done = true := by
      have := (hq.pending i).mp (by simp [hp])
      simpa [hb] using this
    have h := countP_set_slot hb b'
    rw [hidle.1, onDevice_false_of_done hdone] at h
    have := hq.count
    simp only [QueueState.setBuffer]
    omega
  pending := by
    intro j
    have hnot : i ∉ rest := (List.nodup_cons.mp (hp ▸ hq.nodup)).1
    change j ∈ rest ↔ ∃ c, (q.buffers.set i b')[j]? = some c ∧ c.done = true
    rw [exists_done_set_iff hb]
    by_cases hj : j = i
    · subst hj
      simp [hidle.2, hnot]
    · rw [if_neg hj, ← hq.pending j, hp]
      simp [hj]
  nodup := (List.nodup_cons.mp (hp ▸ hq.nodup)).2
  noWrap := hq.noWrap
  small := by simpa [QueueState.setBuffer] using hq.small

end Replace

/-! ### The operations of one queue -/

theorem completedSlot_done (cfg : Config) (ev : DqbufEvent) (b : MediaBuffer) :
    (completedSlot cfg ev b).done = true := by
  simp [completedSlot, MediaBuffer.done]

/-- The flags that make an event acceptable belong to a slot of the device. -/
theorem onDevice_of_accepts {q : QueueState} {type : UInt32} {ev : DqbufEvent}
    {b : MediaBuffer} (h : q.accepts type ev = true)
    (hb : q.buffers[ev.buffer.index.toNat]? = some b) : b.onDevice = true := by
  simp only [QueueState.accepts, hb, Bool.and_eq_true] at h
  exact h.1.1

/-- An accepted completion moves one slot from the device to the list of pending
ones. -/
theorem Accounted.processDqbuf {q : QueueState} (hq : Accounted q) (cfg : Config)
    (type : UInt32) (ev : DqbufEvent) : Accounted (q.processDqbuf cfg type ev) := by
  unfold QueueState.processDqbuf
  cases hb : q.buffers[ev.buffer.index.toNat]? with
  | none => exact hq
  | some b =>
      dsimp only
      split
      · rename_i hacc
        exact hq.complete hb (onDevice_of_accepts hacc hb) (completedSlot_done cfg ev b)
      · exact hq

theorem cleared_idle (b : MediaBuffer) : (b.setFlags 0).idle := by
  simp [MediaBuffer.idle, MediaBuffer.onDevice, MediaBuffer.done]

/-- A queue none of whose slots is in use, with nothing pending. -/
theorem Accounted.ofIdle {q : QueueState} (hslots : ∀ b ∈ q.buffers, b.idle)
    (hp : q.pendingDqbufs = []) (hc : q.queuedBufs = 0) (hw : q.wrapped = false)
    (hs : q.buffers.length < 2 ^ 32) : Accounted q where
  count := by
    rw [hc, eq_comm, List.countP_eq_zero]
    exact fun b hb => by simp [(hslots b hb).1]
  pending := by
    intro i
    simp only [hp, List.not_mem_nil, false_iff, not_exists, not_and]
    intro b hb
    simp [(hslots b (List.mem_of_getElem? hb)).2]
  nodup := by simp [hp]
  noWrap := hw
  small := hs

/-- After a clear no slot is owned and the counter is zero. -/
theorem Accounted.clearQueue {q : QueueState} (hq : Accounted q) :
    Accounted (clearQueue q) := by
  apply Accounted.ofIdle
  · intro b hb
    obtain ⟨c, -, rfl⟩ := List.mem_map.mp hb
    exact cleared_idle _
  · rfl
  · rfl
  · exact hq.noWrap
  · simpa [Driver.clearQueue] using hq.small

/-- A new array starts with slots that nobody owns. -/
theorem Accounted.reallocQueue {q : QueueState} (hq : Accounted q)
    (reply : RequestBuffers) (ok : Bool) : Accounted (reallocQueue q reply ok) := by
  apply Accounted.ofIdle
  · intro b hb
    have hz : b = MediaBuffer.zero := by
      cases ok with
      | true => exact List.eq_of_mem_replicate hb
      | false => exact absurd hb (by simp [Driver.reallocQueue])
    subst hz
    exact ⟨by decide, by decide⟩
  · rfl
  · rfl
  · exact hq.noWrap
  · have := reply.count.toNat_lt
    cases ok <;> simp [Driver.reallocQueue, this]

/-- The slot a QBUF may submit: its check leaves it idle. -/
theorem idle_of_qbufCheck {s : Session} {req : BufferReq} {t : Fin numQueues}
    {b : MediaBuffer} (h : qbufCheck s req = .ok (t, b)) :
    (s.queues t).buffers[req.buffer.index.toNat]? = some b ∧ b.idle ∧
      (s.queues t).importNeedsCancel = false ∧ req.buffer.memory = (s.queues t).memory ∧
      queueIndex req.buffer.type = some t := by
  unfold qbufCheck at h
  split at h
  · cases h
  · rename_i u hu
    split at h
    · cases h
    · rename_i c hc
      split at h
      · cases h
      · rename_i hcancel
        split at h
        · cases h
        · rename_i hflags
          cases h
          simp only [hasFlag_mask_or, Bool.or_eq_true, bne_iff_ne, ne_eq, not_or,
            not_not, Bool.not_eq_true] at hflags
          refine ⟨hc, ⟨?_, ?_⟩, by simpa using hcancel, hflags.1, hu⟩
          · simp [MediaBuffer.onDevice, hflags.2.1]
          · simp [MediaBuffer.done, hflags.2.2]

/-- An idle slot goes to the device and is counted. -/
theorem Accounted.enqueueSlot {q : QueueState} {i : Nat} {b b' : MediaBuffer}
    (hq : Accounted q) (hb : q.buffers[i]? = some b) (hidle : b.idle) :
    Accounted (enqueueSlot q i b') := by
  apply hq.submit hb hidle
  simp [MediaBuffer.onDevice, MediaBuffer.done]

theorem releasedSlot_flags (memory : UInt32) (b : MediaBuffer) :
    (releasedSlot memory b).buffer.flags = b.buffer.flags := by
  unfold releasedSlot
  split <;> rfl

/-- A QBUF that fails takes its slot back from the device, and leaves one that
was completed to DQBUF. -/
theorem Accounted.failQbuf {q : QueueState} (hq : Accounted q) {fl : QbufInFlight}
    {b : MediaBuffer} (hb : q.buffers[fl.slot]? = some b)
    (hown : b.onDevice = true ∨ b.done = true)
    (hold : hasFlag fl.oldFlags bufFlagQueued = false ∧ hasFlag fl.oldFlags bufFlagDone = false) :
    Accounted (failQbuf q fl) := by
  -- the import path changes neither the flags nor the accounts
  have hq' : Accounted
      { q with importNeedsCancel := q.importNeedsCancel || q.memory == memoryDmabuf } :=
    ⟨hq.count, hq.pending, hq.nodup, hq.noWrap, hq.small⟩
  simp only [Driver.failQbuf, hb]
  split
  · exact hq'.setBuffer_same hb (releasedSlot_flags q.memory b)
  · rename_i hnd
    refine hq'.giveBack hb (hown.resolve_right hnd) ⟨?_, ?_⟩
    · simp [MediaBuffer.onDevice, hold.1]
    · simp [MediaBuffer.done, hold.2]

theorem dequeuedSlot_idle (b : MediaBuffer) : (dequeuedSlot b).idle := by
  have hq := hasFlag_and_not b.buffer.flags (bufFlagDone ||| bufFlagQueued) bufFlagQueued
    (by decide)
  have hd := hasFlag_and_not b.buffer.flags (bufFlagDone ||| bufFlagQueued) bufFlagDone
    (by decide)
  exact ⟨by simp [MediaBuffer.onDevice, dequeuedSlot, hq],
    by simp [MediaBuffer.done, dequeuedSlot, hd]⟩

/-- DQBUF takes the oldest pending slot. -/
theorem Accounted.dqbufPop {s s' : Session} {t : Fin numQueues} {req res : BufferReq}
    (hs : ∀ u, Accounted (s.queues u)) (h : dqbufPop s t req = some (res, s')) :
    ∀ u, Accounted (s'.queues u) := by
  simp only [Driver.dqbufPop] at h
  split at h
  · cases h
  · rename_i i rest hp
    split at h
    · cases h
    · rename_i b hb
      simp only [Option.some.injEq, Prod.mk.injEq] at h
      obtain ⟨-, rfl⟩ := h
      intro u
      rw [Session.setQueue_queues]
      split
      · exact (hs t).dequeue hp hb (dequeuedSlot_idle b) _
      · exact hs u

/-! ### What QBUF can do before its command -/

/-- Everything `qbufSubmit` can do: refuse without a change, refuse after
storing something in an idle slot, or enqueue an idle slot. -/
theorem qbufSubmit_cases (cfg : Config) (s : Session) (req : BufferReq)
    (ans : Nat → PlaneAnswers) :
    (∃ e, qbufSubmit cfg s req ans = (.error e, s)) ∨
    (∃ e t b b', qbufCheck s req = .ok (t, b) ∧ b'.buffer.flags = b.buffer.flags ∧
      qbufSubmit cfg s req ans = (.error e,
        s.setQueue t ((s.queues t).setBuffer req.buffer.index.toNat b'))) ∨
    (∃ t b b', qbufCheck s req = .ok (t, b) ∧
      qbufSubmit cfg s req ans = (.ok ⟨t, req.buffer.index.toNat, b.buffer.flags⟩,
        s.setQueue t (enqueueSlot (s.queues t) req.buffer.index.toNat b'))) := by
  cases hc : qbufCheck s req with
  | error e => exact .inl ⟨e, by simp [qbufSubmit, hc]⟩
  | ok tb =>
      obtain ⟨t, b⟩ := tb
      right
      set prep := if req.buffer.memory == memoryDmabuf then prepareImports cfg b req ans
        else (0, b) with hprep
      have hflags : prep.2.buffer = b.buffer := by
        rw [hprep]
        split <;> simp
      have hsub : qbufSubmit cfg s req ans =
          if prep.1 != 0 then
            (.error prep.1, s.setQueue t ((s.queues t).setBuffer req.buffer.index.toNat prep.2))
          else if hasFlag prep.2.buffer.flags bufFlagPrepared then
            (.ok ⟨t, req.buffer.index.toNat, prep.2.buffer.flags⟩,
              s.setQueue t (enqueueSlot (s.queues t) req.buffer.index.toNat prep.2))
          else if typeIsMultiplanar req.buffer.type &&
              req.buffer.length.toNat > videoMaxPlanes then
            (.error (-einval), s.setQueue t ((s.queues t).setBuffer req.buffer.index.toNat
              { prep.2 with buffer := { prep.2.buffer with m := req.buffer.m } }))
          else
            (.ok ⟨t, req.buffer.index.toNat, prep.2.buffer.flags⟩,
              s.setQueue t (enqueueSlot (s.queues t) req.buffer.index.toNat
                (storeM req prep.2))) := by
        simp [qbufSubmit, hc, hprep]
      rw [hsub]
      split
      · exact .inl ⟨_, t, b, _, rfl, by rw [hflags], rfl⟩
      · split
        · exact .inr ⟨t, b, _, rfl, by rw [hflags]⟩
        · split
          · exact .inl ⟨_, t, b, _, rfl, by rw [hflags], rfl⟩
          · exact .inr ⟨t, b, _, rfl, by rw [hflags]⟩

/-! ### The session -/

/-- The slot of an outstanding QBUF is the device's or already completed, and
the flags saved for it mark it as neither. -/
def InFlightOk (q : QueueState) (fl : QbufInFlight) : Prop :=
  (∃ b, q.buffers[fl.slot]? = some b ∧ (b.onDevice = true ∨ b.done = true)) ∧
    hasFlag fl.oldFlags bufFlagQueued = false ∧ hasFlag fl.oldFlags bufFlagDone = false

structure MachineInv (d : Machine) : Prop where
  queues : ∀ t, Accounted (d.session.queues t)
  inFlight : ∀ fl, d.inFlight = some fl → InFlightOk (d.session.queues fl.queue) fl

/-- An event may complete the slot of the QBUF that is in flight. -/
theorem InFlightOk.processDqbuf {q : QueueState} {fl : QbufInFlight} (h : InFlightOk q fl)
    (cfg : Config) (type : UInt32) (ev : DqbufEvent) :
    InFlightOk (q.processDqbuf cfg type ev) fl := by
  obtain ⟨⟨b, hb, hown⟩, hold⟩ := h
  refine ⟨?_, hold⟩
  unfold QueueState.processDqbuf
  cases hev : q.buffers[ev.buffer.index.toNat]? with
  | none => exact ⟨b, hb, hown⟩
  | some c =>
      dsimp only
      split
      · change ∃ b, (q.buffers.set ev.buffer.index.toNat
          (completedSlot cfg ev c))[fl.slot]? = some b ∧ _
        by_cases hslot : ev.buffer.index.toNat = fl.slot
        · exact ⟨completedSlot cfg ev c, by simp [hslot, lt_length_of_slot hb],
            .inr (completedSlot_done cfg ev c)⟩
        · exact ⟨b, by rw [List.getElem?_set_ne hslot, hb], hown⟩
      · exact ⟨b, hb, hown⟩

/-- An event changes one queue at most. -/
theorem processDqbufEvent_queues (cfg : Config) (s : Session) (ev : DqbufEvent)
    (t : Fin numQueues) :
    (processDqbufEvent cfg s ev).queues t = s.queues t ∨
      (processDqbufEvent cfg s ev).queues t =
        (s.queues t).processDqbuf cfg ev.buffer.type ev := by
  unfold processDqbufEvent
  split
  · exact .inl rfl
  · rename_i u hu
    rw [Session.setQueue_queues]
    split
    · rename_i h
      subst h
      exact .inr rfl
    · exact .inl rfl

/-- One event, with a QBUF in flight or without. -/
theorem MachineInv.event {d : Machine} (hd : MachineInv d) (cfg : Config)
    (ev : DqbufEvent) :
    MachineInv { d with session := processDqbufEvent cfg d.session ev } where
  queues := by
    intro t
    rcases processDqbufEvent_queues cfg d.session ev t with h | h <;> rw [h]
    · exact hd.queues t
    · exact (hd.queues t).processDqbuf cfg _ ev
  inFlight := by
    intro fl hfl
    change InFlightOk ((processDqbufEvent cfg d.session ev).queues fl.queue) fl
    rcases processDqbufEvent_queues cfg d.session ev fl.queue with h | h <;> rw [h]
    · exact hd.inFlight fl hfl
    · exact (hd.inFlight fl hfl).processDqbuf cfg _ ev

theorem accounted_processEvents {s : Session} (hs : ∀ t, Accounted (s.queues t))
    (cfg : Config) (evs : List DqbufEvent) :
    ∀ t, Accounted ((processEvents cfg s evs).queues t) := by
  induction evs generalizing s with
  | nil => exact hs
  | cons ev rest ih =>
      apply ih
      intro t
      rcases processDqbufEvent_queues cfg s ev t with h | h <;> rw [h]
      · exact hs t
      · exact (hs t).processDqbuf cfg _ ev

theorem accounted_setQueue {s : Session} (hs : ∀ t, Accounted (s.queues t))
    (t : Fin numQueues) {q : QueueState} (hq : Accounted q) :
    ∀ u, Accounted ((s.setQueue t q).queues u) := by
  intro u
  rw [Session.setQueue_queues]
  split
  · exact hq
  · exact hs u

theorem accounted_streamon {s : Session} (hs : ∀ t, Accounted (s.queues t))
    (type : UInt32) (ret : Int) : ∀ t, Accounted ((streamon s type ret).2.queues t) := by
  unfold streamon
  split
  · exact hs
  · rename_i u hu
    split
    · exact hs
    · split
      · exact hs
      · have h := hs u
        exact accounted_setQueue hs u ⟨h.count, h.pending, h.nodup, h.noWrap, h.small⟩

theorem accounted_streamoff {s : Session} (hs : ∀ t, Accounted (s.queues t))
    (cfg : Config) (type : UInt32) (ret : Int) (drained : List DqbufEvent) :
    ∀ t, Accounted ((streamoff cfg s type ret drained).2.queues t) := by
  unfold streamoff
  split
  · exact hs
  · rename_i u hu
    split
    · exact hs
    · have h := accounted_processEvents hs cfg drained
      exact accounted_setQueue h u (h u).clearQueue

/-- REQBUFS drains, then replaces the array of the queue in the reply. -/
theorem accounted_reqbufs {s : Session} (hs : ∀ t, Accounted (s.queues t))
    {cfg : Config} {b reply : RequestBuffers} {ret : Int} {drained : List DqbufEvent}
    {vzallocOk : Bool} {r : Int × RequestBuffers × Session}
    (h : reqbufs cfg s b ret reply drained vzallocOk = some r) :
    ∀ t, Accounted (r.2.2.queues t) := by
  rcases reqbufs_cases h with ⟨-, hr⟩ | ⟨-, t, m, -, hr⟩ <;> rw [hr]
  · exact hs
  · have he := accounted_processEvents hs cfg drained
    exact accounted_setQueue he t ((he t).reallocQueue reply _)

/-- QBUF up to its command, whether it fails or is in flight afterwards. -/
theorem MachineInv.qbufSubmit {d : Machine} (hd : MachineInv d) (cfg : Config)
    (req : BufferReq) (ans : Nat → PlaneAnswers) :
    MachineInv ⟨(qbufSubmit cfg d.session req ans).2,
      (qbufSubmit cfg d.session req ans).1.toOption⟩ := by
  rcases qbufSubmit_cases cfg d.session req ans with
    ⟨e, h⟩ | ⟨e, t, b, b', hc, hf, h⟩ | ⟨t, b, b', hc, h⟩
  · rw [h]
    exact ⟨hd.queues, by simp [Except.toOption]⟩
  · rw [h]
    obtain ⟨hb, -, -⟩ := idle_of_qbufCheck hc
    exact ⟨accounted_setQueue hd.queues t ((hd.queues t).setBuffer_same hb hf),
      by simp [Except.toOption]⟩
  · rw [h]
    obtain ⟨hb, hidle, hf, -⟩ := idle_of_qbufCheck hc
    refine ⟨accounted_setQueue hd.queues t ((hd.queues t).enqueueSlot hb hidle), ?_⟩
    intro fl hfl
    simp only [Except.toOption, Option.some.injEq] at hfl
    subst hfl
    have hdone : hasFlag b.buffer.flags bufFlagDone = false := hidle.2
    have hqueued : hasFlag b.buffer.flags bufFlagQueued = false := by
      have := hidle.1
      simpa [MediaBuffer.onDevice, hidle.2] using this
    refine ⟨⟨b'.setFlags bufFlagQueued, ?_, .inl ?_⟩, hqueued, hdone⟩
    · simp [Driver.enqueueSlot, QueueState.incQueued, QueueState.setBuffer,
        lt_length_of_slot hb]
    · simp [MediaBuffer.onDevice, MediaBuffer.done]

/-- The reply ends the flight. -/
theorem MachineInv.qbufReply {d : Machine} (hd : MachineInv d) {fl : QbufInFlight}
    (hfl : d.inFlight = some fl) (ret : Int) :
    MachineInv ⟨(qbufReply d.session fl ret).2, none⟩ := by
  refine ⟨?_, by simp⟩
  unfold Driver.qbufReply
  split
  · obtain ⟨⟨b, hb, hown⟩, hold⟩ := hd.inFlight fl hfl
    exact accounted_setQueue hd.queues fl.queue
      ((hd.queues fl.queue).failQbuf hb hown hold)
  · exact hd.queues

/-- An ioctl other than QBUF runs with no QBUF outstanding. -/
theorem MachineInv.ofIdle {s : Session} (hs : ∀ t, Accounted (s.queues t)) :
    MachineInv ⟨s, none⟩ := ⟨hs, by simp⟩

/-- One action of the machine; each case is the lemma of its function. -/
theorem MachineInv.step {cfg : Config} {d d' : Machine} {a : Action} (hd : MachineInv d)
    (h : d.step cfg a = some d') : MachineInv d' := by
  cases a with
  | event ev =>
      cases h
      exact hd.event cfg ev
  | qbufReply ret =>
      obtain ⟨fl, hfl, rfl⟩ := Machine.step_qbufReply h
      exact hd.qbufReply hfl ret
  | qbufSubmit req ans =>
      obtain ⟨-, rfl⟩ := Machine.step_qbufSubmit h
      exact hd.qbufSubmit cfg req ans
  | dqbuf req =>
      obtain ⟨-, rfl | ⟨t, res, s, hp, rfl⟩⟩ := Machine.step_dqbuf h
      · exact hd
      · exact .ofIdle (Accounted.dqbufPop hd.queues hp)
  | streamon type ret =>
      obtain ⟨-, rfl⟩ := Machine.step_streamon h
      exact .ofIdle (accounted_streamon hd.queues type ret)
  | streamoff type ret drained =>
      obtain ⟨-, rfl⟩ := Machine.step_streamoff h
      exact .ofIdle (accounted_streamoff hd.queues cfg type ret drained)
  | reqbufs b ret reply drained ok =>
      obtain ⟨-, r, hr, rfl⟩ := Machine.step_reqbufs h
      exact .ofIdle (accounted_reqbufs hd.queues hr)

theorem machineInv_init (nonblocking : Bool) : MachineInv (.init nonblocking) :=
  .ofIdle fun _ => accounted_init

/-- In every state reached by any run, on every queue of the session:
`queued_bufs` counts the slots with QUEUED set and DONE clear, `pending_dqbufs`
holds exactly the slots with DONE set and each of them once, and no decrement
of `queued_bufs` ever found it at zero. -/
theorem queue_accounts_agree (cfg : Config) (nonblocking : Bool) (acts : List Action)
    (d : Machine) (hrun : Trace.run (Machine.step cfg) (.init nonblocking) acts = some d)
    (t : Fin numQueues) :
    (d.session.queues t).queuedBufs = (d.session.queues t).buffers.countP (fun b =>
        hasFlag b.buffer.flags bufFlagQueued && !hasFlag b.buffer.flags bufFlagDone) ∧
      (∀ i, i ∈ (d.session.queues t).pendingDqbufs ↔
        ∃ b, (d.session.queues t).buffers[i]? = some b ∧
          hasFlag b.buffer.flags bufFlagDone = true) ∧
      (d.session.queues t).pendingDqbufs.Nodup ∧
      (d.session.queues t).wrapped = false := by
  have hinv : MachineInv d := Trace.run_invariant (P := MachineInv)
    (fun _ _ _ h hs => h.step hs) (machineInv_init nonblocking) hrun
  have hq := hinv.queues t
  exact ⟨hq.count, hq.pending, hq.nodup, hq.noWrap⟩

/-- A capture MMAP queue of two slots. The command of the first QBUF fails
after its completion was delivered; the second QBUF succeeds. -/
def earlyCompletionRun : List Action :=
  let rb : RequestBuffers := ⟨2, 1, memoryMmap, 0, 0⟩
  let buf (i : UInt32) : V4l2Buffer :=
    { (default : V4l2Buffer) with type := 1, memory := memoryMmap, index := i }
  let ans : PlaneAnswers := ⟨.error (-einval), .error (-einval), 0, 0⟩
  [.reqbufs rb 0 rb [] true, .streamon 1 0,
    .qbufSubmit ⟨buf 0, []⟩ (fun _ => ans), .event ⟨buf 0, [], 0⟩, .qbufReply (-einval),
    .qbufSubmit ⟨buf 1, []⟩ (fun _ => ans), .qbufReply 0]

theorem queue_accounts_agree_earlyCompletion :
    ∃ d, Trace.run (Machine.step ⟨false, false, false⟩) (.init false) earlyCompletionRun =
        some d ∧
      (d.session.queues 1).queuedBufs = 1 ∧ (d.session.queues 1).pendingDqbufs = [0] ∧
      (d.session.queues 1).pendingDqbufs.Nodup ∧ (d.session.queues 1).wrapped = false := by
  refine ⟨_, rfl, by decide, by decide, ?_⟩
  exact (queue_accounts_agree ⟨false, false, false⟩ false earlyCompletionRun _ rfl 1).2.2

/-! ### A state with a pending slot -/

/-- A capture MMAP queue of one slot that has been queued and completed, and
is waiting to be dequeued. -/
def completedSlotRun : List Action :=
  let rb : RequestBuffers := ⟨1, 1, memoryMmap, 0, 0⟩
  let buf : V4l2Buffer := { (default : V4l2Buffer) with type := 1, memory := memoryMmap }
  let ans : PlaneAnswers := ⟨.error (-einval), .error (-einval), 0, 0⟩
  [.reqbufs rb 0 rb [] true, .qbufSubmit ⟨buf, []⟩ (fun _ => ans), .qbufReply 0,
    .event ⟨buf, [], 0⟩]

/-- The machine after that run. -/
def completedSlotMachine : Machine :=
  (Trace.run (Machine.step ⟨false, false, false⟩) (.init false) completedSlotRun).getD
    (.init false)

def completedSlotState : Session := completedSlotMachine.session

theorem completedSlotState_accounted (t : Fin numQueues) :
    Accounted (completedSlotState.queues t) := by
  have hrun : Trace.run (Machine.step ⟨false, false, false⟩) (.init false)
      completedSlotRun = some completedSlotMachine := rfl
  have hinv : MachineInv completedSlotMachine := Trace.run_invariant (P := MachineInv)
    (fun _ _ _ h hs => h.step hs) (machineInv_init false) hrun
  exact hinv.queues t

end VirtioMedia.Driver
