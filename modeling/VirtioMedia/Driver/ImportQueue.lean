import VirtioMedia.Driver.CommandVerdict
import VirtioMedia.Driver.QueueAccounting

/-!
# No stale completion on an import queue

The driver together with the device and the event queue between them. Every
QBUF that reaches its command is a submission with its own number; a
completion event carries the number of the submission it completes. The
numbers are ghosts: the driver never sees them.

The device may take a submission whose command the driver sees fail. It
completes a submission it took at most once, and it keeps nothing of a queue
when it answers STREAMOFF or REQBUFS for it with success. The completions it
produced before such an answer are in the event queue when the driver sees the
answer, and the event queue is first-in first-out.

The driver goes by the value of its sender, which takes a status above 2³¹ for
a success, and by the queue that the reply to REQBUFS names. A run in which
this misleads it about a queue of which the device holds a submission can end
with a stale completion; in every other run there is none.
-/

namespace VirtioMedia.Driver

open V4l2 Wire Codec

/-! ### The commands that cancel a queue -/

/-- `struct v4l2_requestbuffers` as it is sent. -/
def requestBuffers : Codec RequestBuffers :=
  (pair u32 <| pair u32 <| pair u32 <| pair u32 u32).imap
    (fun (count, type, memory, capabilities, flags) => ⟨count, type, memory, capabilities, flags⟩)
    (fun b => (b.count, b.type, b.memory, b.capabilities, b.flags)) fun _ => rfl

/-- What a sender works with, and what comes back: the answer, and what the
device leaves in the shadow buffer. -/
structure Sending where
  env : Env
  vv : Device
  session : SessionData
  pool : List Desc
  placement : Placement
  answer : Answer
  shadow : Nat → UInt8

namespace Sending

/-- The value of `virtio_media_send_w_ioctl` for STREAMOFF. -/
def streamoffRet (c : Sending) (type : UInt32) : Int :=
  (sendWIoctl c.env c.vv c.session c.pool ⟨u32.enc type, c.placement⟩ c.answer).1

/-- The value of `virtio_media_send_wr_ioctl` for REQBUFS. -/
def reqbufsRet (c : Sending) (b : RequestBuffers) : Int :=
  (sendWrIoctl c.env c.vv c.session c.pool ⟨requestBuffers.enc b, c.placement⟩
    requestBuffers.size c.answer c.shadow).1

/-- STREAMOFF fails, or the device has answered it with success, or its status
was misread. -/
theorem streamoffRet_nonneg {c : Sending} {type : UInt32} (h : 0 ≤ c.streamoffRet type) :
    c.answer.Succeeded respIoctlSize ∨ c.answer.Misread respIoctlSize :=
  (sendChain_nonneg (.wIoctlChain _ _ _ _) (by decide) h).2

/-- REQBUFS returns zero only if the device has answered it with success, or its
status was misread. -/
theorem reqbufsRet_zero {c : Sending} {b : RequestBuffers} (h : c.reqbufsRet b = 0) :
    c.answer.Succeeded (respIoctlSize + requestBuffers.size) ∨
      c.answer.Misread (respIoctlSize + requestBuffers.size) :=
  (sendChain_nonneg (.wrIoctlChain _ _ _ _) (by decide) h.ge).2

end Sending

/-! ### The driver, the device and the event queue -/

/-- One QBUF command that was sent for a slot. -/
@[ext]
structure Submission where
  queue : Fin numQueues
  slot : Nat
  id : Nat
  deriving DecidableEq, Repr

/-- An event that `virtio_media_process_dqbuf_event` accepted: the memory type
of its queue at that time, the submission the device produced it for, and the
latest submission of the slot. -/
structure Acceptance where
  memory : UInt32
  event : Submission
  latest : Nat
  deriving DecidableEq, Repr

structure System where
  driver : Machine
  nextId : Nat
  /-- Number of the latest submission of each slot, zero if there is none. -/
  latest : Fin numQueues → Nat → Nat
  /-- The outstanding QBUF has not been taken by the device. -/
  offered : Bool
  /-- Submissions the device took and has not completed. -/
  held : List Submission
  eventq : List (Submission × DqbufEvent)
  accepted : List Acceptance

def System.init (nonblocking : Bool) : System where
  driver := .init nonblocking
  nextId := 1
  latest := fun _ _ => 0
  offered := false
  held := []
  eventq := []
  accepted := []

/-- The event names the slot of the submission it completes. -/
def names (σ : Submission) (ev : DqbufEvent) : Prop :=
  queueIndex ev.buffer.type = some σ.queue ∧ ev.buffer.index.toNat = σ.slot

instance (σ : Submission) (ev : DqbufEvent) : Decidable (names σ ev) :=
  inferInstanceAs (Decidable (_ ∧ _))

/-- Process one event, recording whether it is accepted and for whom. -/
def System.deliver (cfg : Config) (s : System) (e : Submission × DqbufEvent) : System :=
  let q := s.driver.session.queues e.1.queue
  { s with
    driver := { s.driver with session := processDqbufEvent cfg s.driver.session e.2 }
    accepted :=
      if q.accepts e.2.buffer.type e.2 then
        ⟨q.memory, e.1, s.latest e.1.queue e.1.slot⟩ :: s.accepted
      else s.accepted }

/-- `virtio_media_process_events`: the whole event queue, oldest first. -/
def System.drain (cfg : Config) (s : System) : System :=
  s.eventq.foldl (System.deliver cfg) { s with eventq := [] }

inductive SystemAction where
  | qbufSubmit (req : BufferReq) (ans : Nat → PlaneAnswers)
  /-- The device takes the outstanding submission. -/
  | take
  /-- The device completes a submission and queues the event. -/
  | complete (σ : Submission) (ev : DqbufEvent)
  /-- The event worker processes the oldest event. -/
  | deliver
  | qbufReply (ret : Int)
  | dqbuf (req : BufferReq)
  | streamon (type : UInt32) (ret : Int)
  /-- `keep` says which submissions of other queues, or of this one unless the
  device answers with success, the device still holds afterwards. -/
  | streamoff (type : UInt32) (c : Sending) (keep : Submission → Bool)
  | reqbufs (b : RequestBuffers) (c : Sending) (reply : RequestBuffers) (vzallocOk : Bool)
      (keep : Submission → Bool)

/-- Run a driver action that neither submits nor drains. -/
def System.drive (cfg : Config) (s : System) (a : Action) : Option System :=
  (s.driver.step cfg a).map fun d => { s with driver := d }

/-- What the device holds after a command for queue `t`. -/
def System.answered (s : System) (t : Fin numQueues) (success : Bool)
    (keep : Submission → Bool) : System :=
  { s with held := s.held.filter fun σ => !(success && σ.queue == t) && keep σ }

/-- Number the submission of the QBUF that is now outstanding. -/
def System.submit (s : System) (d : Machine) (fl : QbufInFlight) : System :=
  { s with
    driver := d
    nextId := s.nextId + 1
    latest := Function.update s.latest fl.queue
      (Function.update (s.latest fl.queue) fl.slot s.nextId)
    offered := true }

def System.step (cfg : Config) (s : System) : SystemAction → Option System
  | .qbufSubmit req ans =>
    (s.driver.step cfg (.qbufSubmit req ans)).map fun d =>
      match d.inFlight with
      | none => { s with driver := d }
      | some fl => s.submit d fl
  | .take =>
    if s.offered then
      s.driver.inFlight.map fun fl =>
        { s with
          offered := false
          held := ⟨fl.queue, fl.slot, s.latest fl.queue fl.slot⟩ :: s.held }
    else none
  | .complete σ ev =>
    if σ ∈ s.held ∧ names σ ev then
      some { s with held := s.held.erase σ, eventq := s.eventq ++ [(σ, ev)] }
    else none
  | .deliver =>
    match s.eventq with
    | [] => none
    | e :: rest => some (System.deliver cfg { s with eventq := rest } e)
  | .qbufReply ret =>
    (s.drive cfg (.qbufReply ret)).map fun s => { s with offered := false }
  | .dqbuf req => s.drive cfg (.dqbuf req)
  | .streamon type ret => s.drive cfg (.streamon type ret)
  | .streamoff type c keep =>
    (s.driver.step cfg (.streamoff type (c.streamoffRet type) (s.eventq.map Prod.snd))).map
      fun d =>
        match queueIndex type with
        | none => { s with driver := d }
        | some t =>
          let s := if c.streamoffRet type < 0 then s else s.drain cfg
          { s.answered t (c.answer.Succeeded respIoctlSize) keep with driver := d }
  | .reqbufs b c reply vzallocOk keep =>
    (s.driver.step cfg (.reqbufs b (c.reqbufsRet b) reply (s.eventq.map Prod.snd)
      vzallocOk)).map fun d =>
        match queueIndex b.type with
        | none => { s with driver := d }
        | some t =>
          if reqbufsCheck cfg s.driver.session b != 0 then { s with driver := d }
          else
            let s := if c.reqbufsRet b != 0 then s else s.drain cfg
            { s.answered t (c.answer.Succeeded (respIoctlSize + requestBuffers.size)) keep with
              driver := d }

/-- The device holds a submission of the queue. -/
def System.Holds (s : System) (t : Fin numQueues) : Prop := ∃ σ ∈ s.held, σ.queue = t

/-- Where the sender reports a success and the device holds a submission of the
DMABUF queue that the driver clears for it, the status has not been misread, and
the reply to REQBUFS names the queue that was asked for. -/
def AnswerRead (cfg : Config) (s : System) : SystemAction → Prop
  | .streamoff type c _ => ∀ t, queueIndex type = some t →
      (s.driver.session.queues t).memory = memoryDmabuf → s.Holds t →
      0 ≤ c.streamoffRet type → ¬ c.answer.Misread respIoctlSize
  | .reqbufs b c reply _ _ => ∀ t, queueIndex reply.type = some t →
      reply.memory = memoryDmabuf → s.Holds t →
      reqbufsCheck cfg s.driver.session b = 0 → c.reqbufsRet b = 0 →
      ¬ c.answer.Misread (respIoctlSize + requestBuffers.size) ∧ queueIndex b.type = some t
  | _ => True

instance (s : System) (t : Fin numQueues) : Decidable (s.Holds t) :=
  inferInstanceAs (Decidable (∃ σ ∈ s.held, σ.queue = t))

instance (cfg : Config) (s : System) : (a : SystemAction) → Decidable (AnswerRead cfg s a)
  | .streamoff type c _ => inferInstanceAs (Decidable (∀ t, queueIndex type = some t →
      (s.driver.session.queues t).memory = memoryDmabuf → s.Holds t →
      0 ≤ c.streamoffRet type → ¬ c.answer.Misread respIoctlSize))
  | .reqbufs b c reply _ _ => inferInstanceAs (Decidable (∀ t, queueIndex reply.type = some t →
      reply.memory = memoryDmabuf → s.Holds t →
      reqbufsCheck cfg s.driver.session b = 0 → c.reqbufsRet b = 0 →
      ¬ c.answer.Misread (respIoctlSize + requestBuffers.size) ∧ queueIndex b.type = some t))
  | .qbufSubmit _ _ | .take | .complete _ _ | .deliver | .qbufReply _ | .dqbuf _
  | .streamon _ _ => inferInstanceAs (Decidable True)

/-! ### What a queue keeps of its owners -/

/-- Slot `i` exists and is owned by the device. -/
def QueueState.owns (q : QueueState) (i : Nat) : Bool :=
  (q.buffers[i]?).any MediaBuffer.onDevice

/-- No slot becomes the device's, and on an import queue a slot stops being
the device's only when the queue must be cancelled before it is used again. -/
structure Keeps (q q' : QueueState) : Prop where
  memory : q'.memory = q.memory
  owns : ∀ i, q'.owns i = true → q.owns i = true
  cancel : q.importNeedsCancel = true → q'.importNeedsCancel = true
  lost : q.memory = memoryDmabuf → ∀ i, q.owns i = true → q'.owns i = false →
    q'.importNeedsCancel = true

theorem Keeps.refl (q : QueueState) : Keeps q q where
  memory := rfl
  owns := fun _ h => h
  cancel := id
  lost := by
    intro _ i h h'
    rw [h] at h'
    cases h'

/-- A change that leaves every owner as it was. -/
theorem Keeps.ofOwns {q q' : QueueState} (hm : q'.memory = q.memory)
    (hc : q'.importNeedsCancel = q.importNeedsCancel) (ho : ∀ i, q'.owns i = q.owns i) :
    Keeps q q' where
  memory := hm
  owns := fun i h => ho i ▸ h
  cancel := fun h => hc ▸ h
  lost := by
    intro _ i h h'
    rw [ho i, h] at h'
    cases h'

section Owns

variable {q : QueueState} {i : Nat} {b b' : MediaBuffer}

theorem owns_eq_of_slot (hb : q.buffers[i]? = some b) : q.owns i = b.onDevice := by
  simp [QueueState.owns, hb]

theorem owns_setBuffer (hb : q.buffers[i]? = some b) (b' : MediaBuffer) (j : Nat) :
    (q.setBuffer i b').owns j = if j = i then b'.onDevice else q.owns j := by
  have hi := lt_length_of_slot hb
  by_cases hj : j = i
  · subst hj
    simp [QueueState.owns, QueueState.setBuffer, hi]
  · simp [QueueState.owns, QueueState.setBuffer, hj, List.getElem?_set_ne (Ne.symm hj)]

/-- Owners depend on the slots alone. -/
theorem owns_congr {q' : QueueState} (h : q'.buffers = q.buffers) (j : Nat) :
    q'.owns j = q.owns j := by
  simp [QueueState.owns, h]

@[simp] theorem owns_decQueued (q : QueueState) (j : Nat) : q.decQueued.owns j = q.owns j := by
  rw [QueueState.owns, QueueState.owns, QueueState.decQueued_buffers]

/-- A slot is rewritten and its owner stays. -/
theorem keeps_setBuffer (hb : q.buffers[i]? = some b) (hf : b'.onDevice = b.onDevice) :
    Keeps q (q.setBuffer i b') := by
  refine .ofOwns rfl rfl fun j => ?_
  rw [owns_setBuffer hb]
  split
  · rename_i h
    rw [h, owns_eq_of_slot hb, hf]
  · rfl

/-- QBUF makes its slot the device's, and no other. -/
theorem owns_enqueueSlot (hb : q.buffers[i]? = some b) (j : Nat) :
    (enqueueSlot q i b').owns j = if j = i then true else q.owns j := by
  have h : (enqueueSlot q i b').owns j = (q.setBuffer i (b'.setFlags bufFlagQueued)).owns j :=
    owns_congr rfl j
  rw [h, owns_setBuffer hb]
  congr 1
  simp [MediaBuffer.onDevice, MediaBuffer.done]

/-- An accepted event takes its slot from the device; any other changes nothing. -/
theorem owns_processDqbuf (cfg : Config) (type : UInt32) (ev : DqbufEvent) (j : Nat) :
    (q.processDqbuf cfg type ev).owns j =
      if q.accepts type ev = true ∧ j = ev.buffer.index.toNat then false else q.owns j := by
  unfold QueueState.processDqbuf
  cases hb : q.buffers[ev.buffer.index.toNat]? with
  | none => simp [QueueState.accepts, hb]
  | some b =>
      dsimp only
      split
      · rename_i hacc
        have hset := owns_setBuffer hb (completedSlot cfg ev b) j
        rw [onDevice_false_of_done (completedSlot_done cfg ev b)] at hset
        simp only [hacc, true_and, owns_decQueued]
        exact hset
      · rename_i hacc
        simp [hacc]

theorem processDqbuf_memory (cfg : Config) (type : UInt32) (ev : DqbufEvent) :
    (q.processDqbuf cfg type ev).memory = q.memory ∧
      (q.processDqbuf cfg type ev).importNeedsCancel = q.importNeedsCancel := by
  unfold QueueState.processDqbuf
  split
  · exact ⟨rfl, rfl⟩
  · split <;> exact ⟨rfl, rfl⟩

end Owns

/-- A QBUF that fails marks an import queue, then takes its slot back. -/
theorem failQbuf_cases (q : QueueState) (fl : QbufInFlight) :
    ∃ q₁ : QueueState,
      q₁ = { q with importNeedsCancel := q.importNeedsCancel || q.memory == memoryDmabuf } ∧
      (failQbuf q fl = q₁ ∨ ∃ b, q.buffers[fl.slot]? = some b ∧
        (failQbuf q fl = q₁.setBuffer fl.slot (releasedSlot q.memory b) ∨
          failQbuf q fl = (q₁.setBuffer fl.slot
            ((releasedSlot q.memory b).setFlags fl.oldFlags)).decQueued)) := by
  refine ⟨_, rfl, ?_⟩
  unfold failQbuf
  simp only
  split
  · exact .inl rfl
  · next b hb =>
      refine .inr ⟨b, hb, ?_⟩
      split
      · exact .inl rfl
      · exact .inr rfl

/-- What a failed QBUF takes from the device has to be cancelled on an import
queue. -/
theorem keeps_failQbuf {q : QueueState} {fl : QbufInFlight}
    (hold : hasFlag fl.oldFlags bufFlagQueued = false) : Keeps q (failQbuf q fl) := by
  obtain ⟨q₁, hq₁, hfail⟩ := failQbuf_cases q fl
  have hslots : q₁.buffers = q.buffers := by rw [hq₁]
  have howns : ∀ i, q₁.owns i = q.owns i := by
    intro i
    rw [hq₁]
    rfl
  have hcancel : (failQbuf q fl).importNeedsCancel =
      (q.importNeedsCancel || q.memory == memoryDmabuf) := by
    rcases hfail with h | ⟨b, -, h | h⟩ <;> rw [h, hq₁] <;> rfl
  refine ⟨?_, ?_, by simp +contextual [hcancel], by simp +contextual [hcancel]⟩
  · rcases hfail with h | ⟨b, -, h | h⟩ <;> rw [h, hq₁] <;> rfl
  · intro i
    rcases hfail with h | ⟨b, hb, h | h⟩
    · rw [h, howns]
      exact fun h => h
    · rw [← hslots] at hb
      rw [h, owns_setBuffer hb, howns]
      split
      · next hi =>
          rw [hi, onDevice_congr (releasedSlot_flags q.memory b)]
          exact fun h => (howns _).symm.trans ((owns_eq_of_slot hb).trans h)
      · exact fun h => h
    · rw [← hslots] at hb
      rw [h, owns_decQueued, owns_setBuffer hb, howns]
      split
      · simp [MediaBuffer.onDevice, hold]
      · exact fun h => h

theorem keeps_setQueue {s : Session} {t : Fin numQueues} {q : QueueState}
    (h : Keeps (s.queues t) q) (u : Fin numQueues) :
    Keeps (s.queues u) ((s.setQueue t q).queues u) := by
  rw [Session.setQueue_queues]
  split
  · rename_i hu
    exact hu ▸ h
  · exact .refl _

/-- DQBUF takes slots that the device has given back. -/
theorem keeps_dqbufPop {s s' : Session} {t : Fin numQueues} {req res : BufferReq}
    (hs : Accounted (s.queues t)) (h : dqbufPop s t req = some (res, s')) (u : Fin numQueues) :
    Keeps (s.queues u) (s'.queues u) := by
  simp only [dqbufPop] at h
  split at h
  · cases h
  · rename_i i rest hp
    split at h
    · cases h
    · rename_i b hb
      simp only [Option.some.injEq, Prod.mk.injEq] at h
      obtain ⟨-, rfl⟩ := h
      apply keeps_setQueue
      -- a pending slot is DONE, so it was not the device's before either
      have hdone : b.done = true := by
        have := (hs.pending i).mp (by simp [hp])
        simpa [hb] using this
      have hidle : (dequeuedSlot b).onDevice = b.onDevice :=
        (dequeuedSlot_idle b).1.trans (onDevice_false_of_done hdone).symm
      have hk := keeps_setBuffer hb hidle
      exact ⟨hk.memory, hk.owns, hk.cancel, hk.lost⟩

/-- STREAMON gives no slot away. -/
theorem keeps_streamon (s : Session) (type : UInt32) (ret : Int) (u : Fin numQueues) :
    Keeps (s.queues u) ((streamon s type ret).2.queues u) := by
  unfold streamon
  split
  · exact .refl _
  · split
    · exact .refl _
    · split
      · exact .refl _
      · apply keeps_setQueue
        exact .ofOwns rfl rfl fun _ => rfl

/-! ### The invariant -/

/-- Submissions that may still reach the driver as an event. -/
def System.live (s : System) : List Submission := s.held ++ s.eventq.map Prod.fst

/-- A live submission of an import queue is the latest one of a slot the
device owns, or else the queue refuses to be used until it is cancelled. -/
def Current (q : QueueState) (σ : Submission) (latest : Nat) : Prop :=
  q.memory = memoryDmabuf →
    (q.owns σ.slot = true → σ.id = latest) ∧
      (q.owns σ.slot = false → q.importNeedsCancel = true)

structure SystemInv (s : System) : Prop where
  driver : MachineInv s.driver
  nodup : s.live.Nodup
  fresh : ∀ σ ∈ s.live, σ.id < s.nextId
  latestLt : ∀ t i, s.latest t i < s.nextId
  named : ∀ e ∈ s.eventq, names e.1 e.2
  current : ∀ σ ∈ s.live,
    Current (s.driver.session.queues σ.queue) σ (s.latest σ.queue σ.slot)
  offered : s.offered = true → ∀ fl, s.driver.inFlight = some fl →
    (∀ σ ∈ s.live, σ.id ≠ s.latest fl.queue fl.slot) ∧
      ((s.driver.session.queues fl.queue).memory = memoryDmabuf →
        (s.driver.session.queues fl.queue).owns fl.slot = true)
  log : ∀ a ∈ s.accepted, a.memory = memoryDmabuf → a.event.id = a.latest

theorem systemInv_init (nonblocking : Bool) : SystemInv (.init nonblocking) where
  driver := machineInv_init nonblocking
  nodup := List.nodup_nil
  fresh := by simp [System.init, System.live]
  latestLt := by simp [System.init]
  named := by simp [System.init]
  current := by simp [System.init, System.live]
  offered := by simp [System.init]
  log := by simp [System.init]

/-- A submission stays the latest one of its slot, or the queue must be cancelled.
-/
theorem Current.keeps {q q' : QueueState} {σ : Submission} {latest : Nat}
    (h : Current q σ latest) (hk : Keeps q q') : Current q' σ latest := by
  intro hm
  have hm' : q.memory = memoryDmabuf := hk.memory ▸ hm
  obtain ⟨hlatest, hcancel⟩ := h hm'
  refine ⟨fun ho' => hlatest (hk.owns _ ho'), fun ho' => ?_⟩
  cases ho : q.owns σ.slot with
  | true => exact hk.lost hm' _ ho ho'
  | false => exact hk.cancel (hcancel ho)

/-- A driver step that keeps every queue and leaves no submission on offer. -/
theorem SystemInv.ofKeeps {s : System} (hs : SystemInv s) {d : Machine} (hd : MachineInv d)
    (hk : ∀ t, Keeps (s.driver.session.queues t) (d.session.queues t)) {o : Bool}
    (ho : o = false ∨ d.inFlight = none) : SystemInv { s with driver := d, offered := o } where
  driver := hd
  nodup := hs.nodup
  fresh := hs.fresh
  latestLt := hs.latestLt
  named := hs.named
  current := fun σ hσ => (hs.current σ hσ).keeps (hk σ.queue)
  offered := by
    intro h fl hfl
    rcases ho with ho | ho
    · exact absurd h (by simp [ho])
    · exact absurd hfl (by simp [ho])
  log := hs.log

/-- The device may forget what it holds. -/
theorem SystemInv.forget {s : System} (hs : SystemInv s) {held : List Submission}
    (hsub : held.Sublist s.held) : SystemInv { s with held := held } := by
  have hlive : ({ s with held := held } : System).live.Sublist s.live :=
    hsub.append (.refl _)
  exact
    { driver := hs.driver
      nodup := hs.nodup.sublist hlive
      fresh := fun σ hσ => hs.fresh σ (hlive.subset hσ)
      latestLt := hs.latestLt
      named := hs.named
      current := fun σ hσ => hs.current σ (hlive.subset hσ)
      offered := fun h fl hfl =>
        ⟨fun σ hσ => (hs.offered h fl hfl).1 σ (hlive.subset hσ), (hs.offered h fl hfl).2⟩
      log := hs.log }

/-! ### Delivery -/

/-- Delivering an event of a live submission: where the event is accepted on
an import queue, the submission is the latest one of its slot. -/
theorem SystemInv.id_eq_latest {s : System} (hs : SystemInv s)
    {e : Submission × DqbufEvent} (he : e ∈ s.eventq)
    (hm : (s.driver.session.queues e.1.queue).memory = memoryDmabuf)
    (hacc : (s.driver.session.queues e.1.queue).accepts e.2.buffer.type e.2 = true) :
    e.1.id = s.latest e.1.queue e.1.slot := by
  have hlive : e.1 ∈ s.live := List.mem_append_right _ (List.mem_map_of_mem he)
  have hown : (s.driver.session.queues e.1.queue).owns e.1.slot = true := by
    rw [← (hs.named e he).2]
    cases hb : (s.driver.session.queues e.1.queue).buffers[e.2.buffer.index.toNat]? with
    | none => simp [QueueState.accepts, hb] at hacc
    | some b => rw [owns_eq_of_slot hb, onDevice_of_accepts hacc hb]
  exact (hs.current e.1 hlive hm).1 hown

/-- What delivery leaves of the owner of slot `i` of queue `t`. -/
theorem deliver_owns (cfg : Config) (s : Session) {e : Submission × DqbufEvent}
    (hn : names e.1 e.2) (t : Fin numQueues) (i : Nat) :
    ((processDqbufEvent cfg s e.2).queues t).owns i =
      if t = e.1.queue ∧ (s.queues t).accepts e.2.buffer.type e.2 = true ∧ i = e.1.slot
      then false else (s.queues t).owns i := by
  simp only [processDqbufEvent, hn.1, Session.setQueue_queues]
  by_cases ht : t = e.1.queue
  · subst ht
    simp only [if_true, owns_processDqbuf, hn.2, true_and]
  · simp [ht]

theorem deliver_memory (cfg : Config) (s : Session) (ev : DqbufEvent) (t : Fin numQueues) :
    ((processDqbufEvent cfg s ev).queues t).memory = (s.queues t).memory ∧
      ((processDqbufEvent cfg s ev).queues t).importNeedsCancel =
        (s.queues t).importNeedsCancel := by
  rcases processDqbufEvent_queues cfg s ev t with h | h <;> rw [h]
  · exact ⟨rfl, rfl⟩
  · exact processDqbuf_memory cfg _ ev

theorem SystemInv.deliver {cfg : Config} {s : System} {e : Submission × DqbufEvent}
    {rest : List (Submission × DqbufEvent)} (hs : SystemInv { s with eventq := e :: rest }) :
    SystemInv (System.deliver cfg { s with eventq := rest } e) := by
  have he : e ∈ ({ s with eventq := e :: rest } : System).eventq := List.mem_cons_self
  have hn : names e.1 e.2 := hs.named e he
  have hlive : (System.deliver cfg { s with eventq := rest } e).live.Sublist
      ({ s with eventq := e :: rest } : System).live :=
    (List.Sublist.refl _).append (List.sublist_cons_self _ _)
  -- no other live submission is the accepted one
  have hother : ∀ σ ∈ (System.deliver cfg { s with eventq := rest } e).live, σ ≠ e.1 := by
    intro σ hσ hσe
    have hnd : (s.held ++ e.1 :: rest.map Prod.fst).Nodup := hs.nodup
    exact (List.nodup_cons.mp (List.perm_middle.nodup_iff.mp hnd)).1 (hσe ▸ hσ)
  refine ⟨hs.driver.event cfg e.2, hs.nodup.sublist hlive,
    fun σ hσ => hs.fresh σ (hlive.subset hσ), hs.latestLt,
    fun e' he' => hs.named e' (List.mem_cons_of_mem _ he'), ?_, ?_, ?_⟩
  · intro σ hσ hm
    obtain ⟨hmem, hcan⟩ := deliver_memory cfg s.driver.session e.2 σ.queue
    have hm' : (s.driver.session.queues σ.queue).memory = memoryDmabuf := hmem ▸ hm
    obtain ⟨hlatest, hcancel⟩ := hs.current σ (hlive.subset hσ) hm'
    have howns := deliver_owns cfg s.driver.session hn σ.queue σ.slot
    refine ⟨fun ho => ?_, fun ho => hcan.trans ?_⟩
    · split at howns
      · exact absurd (howns.symm.trans ho) (by simp)
      · exact hlatest (howns.symm.trans ho)
    · split at howns
      · -- the accepted slot: a second live submission of it would be the same one
        rename_i hacc
        obtain ⟨hq, hacc, hslot⟩ := hacc
        have hid := hs.id_eq_latest he (hq ▸ hm') (hq ▸ hacc)
        cases howned : (s.driver.session.queues σ.queue).owns σ.slot with
        | true =>
            refine absurd ?_ (hother σ hσ)
            have hσid := hlatest howned
            rw [hq, hslot] at hσid
            exact Submission.ext hq hslot (hσid.trans hid.symm)
        | false => exact hcancel howned
      · exact hcancel (howns.symm.trans ho)
  · intro ho fl hfl
    obtain ⟨hids, hown⟩ := hs.offered ho fl hfl
    refine ⟨fun σ hσ => hids σ (hlive.subset hσ), fun hm => ?_⟩
    obtain ⟨hmem, -⟩ := deliver_memory cfg s.driver.session e.2 fl.queue
    have hm' : (s.driver.session.queues fl.queue).memory = memoryDmabuf := hmem ▸ hm
    refine (deliver_owns cfg s.driver.session hn fl.queue fl.slot).trans ?_
    split
    · rename_i hacc
      obtain ⟨hq, hacc, hslot⟩ := hacc
      have hid := hs.id_eq_latest he (hq ▸ hm') (hq ▸ hacc)
      refine absurd ?_ (hids e.1 (List.mem_append_right _ (List.mem_map_of_mem he)))
      rw [hq, hslot]
      exact hid
    · exact hown hm'
  · intro a ha
    simp only [System.deliver] at ha
    split at ha
    · rename_i hacc
      rcases List.mem_cons.mp ha with rfl | ha
      · exact fun hm => hs.id_eq_latest he hm hacc
      · exact hs.log a ha
    · exact hs.log a ha

/-- Draining is delivering every queued event, oldest first. -/
theorem SystemInv.foldl_deliver {cfg : Config} (es : List (Submission × DqbufEvent))
    {s : System} (hs : SystemInv { s with eventq := es }) :
    SystemInv (es.foldl (System.deliver cfg) { s with eventq := [] }) := by
  induction es generalizing s with
  | nil => exact hs
  | cons e rest ih => exact ih (s := System.deliver cfg s e) hs.deliver

/-- The whole event queue, one event after the other. -/
theorem SystemInv.drain {cfg : Config} {s : System} (hs : SystemInv s) :
    SystemInv (s.drain cfg) := hs.foldl_deliver s.eventq

/-- Events change the session of the driver and the log. -/
theorem foldl_deliver_frame (cfg : Config) (es : List (Submission × DqbufEvent))
    (s : System) :
    (es.foldl (System.deliver cfg) s).driver =
        ⟨processEvents cfg s.driver.session (es.map Prod.snd), s.driver.inFlight⟩ ∧
      (es.foldl (System.deliver cfg) s).eventq = s.eventq ∧
      (es.foldl (System.deliver cfg) s).held = s.held := by
  induction es generalizing s with
  | nil => exact ⟨rfl, rfl, rfl⟩
  | cons e rest ih => exact ih (System.deliver cfg s e)

/-- Draining runs `processEvents` on the session and empties the event queue. -/
theorem drain_frame (cfg : Config) (s : System) :
    (s.drain cfg).driver =
        ⟨processEvents cfg s.driver.session (s.eventq.map Prod.snd), s.driver.inFlight⟩ ∧
      (s.drain cfg).eventq = [] ∧ (s.drain cfg).held = s.held :=
  foldl_deliver_frame cfg s.eventq { s with eventq := [] }

/-! ### The ioctls -/

/-- A queue may be replaced if nothing of it is live, or if it does not import
afterwards. -/
theorem SystemInv.replaceQueue {s : System} (hs : SystemInv s) {t : Fin numQueues}
    {d : Machine} (hd : MachineInv d) (hidle : d.inFlight = none)
    (hnone : (d.session.queues t).memory = memoryDmabuf → ∀ σ ∈ s.live, σ.queue ≠ t)
    (hsame : ∀ u, u ≠ t → d.session.queues u = s.driver.session.queues u) :
    SystemInv { s with driver := d } where
  driver := hd
  nodup := hs.nodup
  fresh := hs.fresh
  latestLt := hs.latestLt
  named := hs.named
  current := by
    intro σ hσ
    change Current (d.session.queues σ.queue) σ _
    by_cases hq : σ.queue = t
    · intro hm
      exact absurd hq (hnone (hq ▸ hm) σ hσ)
    · rw [hsame _ hq]
      exact hs.current σ hσ
  offered := by
    intro _ fl hfl
    exact absurd hfl (by simp [hidle])
  log := hs.log

/-- The end of a STREAMOFF or REQBUFS that the sender reports as successful: the
events are drained and the driver replaces queue `t`, of which the device holds
nothing if it is to import. -/
theorem SystemInv.drainReplace {cfg : Config} {s : System} (hs : SystemInv s)
    {t : Fin numQueues} {q : QueueState} {d : Machine} (hd : MachineInv d)
    (hidle : d.inFlight = none) {keep : Submission → Bool}
    (hq : d.session.queues = ((processEvents cfg s.driver.session
      (s.eventq.map Prod.snd)).setQueue t q).queues)
    (hnone : q.memory = memoryDmabuf → ∀ σ ∈ s.held, σ.queue = t → keep σ = false) :
    SystemInv { s.drain cfg with held := (s.drain cfg).held.filter keep, driver := d } := by
  obtain ⟨hdrv, hevq, hheld⟩ := drain_frame cfg s
  apply SystemInv.replaceQueue (hs.drain.forget List.filter_sublist) hd hidle (t := t)
  · intro hm σ hσ hσt
    rw [hq, Session.setQueue_queues_self] at hm
    simp only [System.live, hevq, hheld, List.map_nil, List.append_nil, List.mem_filter] at hσ
    rw [hnone hm σ hσ.1 hσt] at hσ
    cases hσ.2
  · intro u hu
    rw [hq, Session.setQueue_queues_ne _ hu, hdrv]

/-- Events leave the memory type of every queue. -/
theorem processEvents_memory (cfg : Config) (s : Session) (evs : List DqbufEvent)
    (t : Fin numQueues) :
    ((processEvents cfg s evs).queues t).memory = (s.queues t).memory := by
  induction evs generalizing s with
  | nil => rfl
  | cons ev rest ih => exact (ih _).trans (deliver_memory cfg s ev t).1

/-- A new number, for a slot of which no completion is under way. -/
theorem SystemInv.qbufSubmit {cfg : Config} {s s' : System} {req : BufferReq}
    {ans : Nat → PlaneAnswers} (hs : SystemInv s)
    (h : s.step cfg (.qbufSubmit req ans) = some s') : SystemInv s' := by
  simp only [System.step, Option.map_eq_some_iff] at h
  obtain ⟨d, hstep, rfl⟩ := h
  have hd := hs.driver.step hstep
  obtain ⟨-, rfl⟩ := Machine.step_qbufSubmit hstep
  rcases qbufSubmit_cases cfg s.driver.session req ans with
    ⟨e, h⟩ | ⟨e, t, b, b', hc, hf, h⟩ | ⟨t, b, b', hc, h⟩ <;>
    simp only [h, Except.toOption] at hd ⊢
  · exact hs.ofKeeps hd (fun _ => .refl _) (.inr rfl)
  · have hb := (idle_of_qbufCheck hc).1
    exact hs.ofKeeps hd (fun u => keeps_setQueue (keeps_setBuffer hb (onDevice_congr hf)) u)
      (.inr rfl)
  · obtain ⟨hb, hidle, hcancel, -, -⟩ := idle_of_qbufCheck hc
    have hown : (s.driver.session.queues t).owns req.buffer.index.toNat = false :=
      (owns_eq_of_slot hb).trans hidle.1
    -- the slot is idle and the queue usable: nothing of it is live
    have hnone : ∀ σ ∈ s.live, σ.queue = t → σ.slot = req.buffer.index.toNat →
        (s.driver.session.queues t).memory ≠ memoryDmabuf := by
      rintro σ hσ rfl hslot hm
      have hcur := (hs.current σ hσ hm).2 (hslot ▸ hown)
      simp [hcancel] at hcur
    refine ⟨hd, hs.nodup, fun σ hσ => Nat.lt_succ_of_lt (hs.fresh σ hσ), ?_, hs.named, ?_, ?_,
      hs.log⟩
    · intro u i
      have h₁ := hs.latestLt u i
      have h₂ := hs.latestLt t i
      simp only [System.submit, Function.update_apply]
      split
      · rw [Function.update_apply]
        split <;> omega
      · omega
    · intro σ hσ
      change Current ((s.driver.session.setQueue t _).queues σ.queue) σ
        (Function.update s.latest t
          (Function.update (s.latest t) req.buffer.index.toNat s.nextId) σ.queue σ.slot)
      by_cases hq : σ.queue = t
      · subst hq
        rw [Session.setQueue_queues_self, Function.update_self]
        intro hm
        have hslot : σ.slot ≠ req.buffer.index.toNat := fun hslot => hnone σ hσ rfl hslot hm
        rw [owns_enqueueSlot hb, if_neg hslot, Function.update_of_ne hslot]
        exact hs.current σ hσ hm
      · rw [Session.setQueue_queues_ne _ hq, Function.update_of_ne hq]
        exact hs.current σ hσ
    · intro _ fl hfl
      obtain rfl := Option.some.inj hfl
      refine ⟨fun σ hσ => ?_, fun _ => ?_⟩
      · have := hs.fresh σ hσ
        simp only [System.submit, Function.update_self]
        omega
      · simp [System.submit, owns_enqueueSlot hb]

/-- The device takes the latest submission of the slot. -/
theorem SystemInv.take {cfg : Config} {s s' : System} (hs : SystemInv s)
    (h : s.step cfg .take = some s') : SystemInv s' := by
  simp only [System.step] at h
  split at h
  · rename_i ho
    simp only [Option.map_eq_some_iff] at h
    obtain ⟨fl, hfl, rfl⟩ := h
    obtain ⟨hids, hown⟩ := hs.offered ho fl hfl
    set σ₀ : Submission := ⟨fl.queue, fl.slot, s.latest fl.queue fl.slot⟩ with hσ₀
    refine ⟨hs.driver, ?_, ?_, hs.latestLt, hs.named, ?_, by simp, hs.log⟩
    · exact List.nodup_cons.mpr ⟨fun hmem => hids σ₀ hmem rfl, hs.nodup⟩
    · intro σ hσ
      rcases List.mem_cons.mp hσ with rfl | hσ
      · exact hs.latestLt fl.queue fl.slot
      · exact hs.fresh σ hσ
    · intro σ hσ
      rcases List.mem_cons.mp hσ with rfl | hσ
      · exact fun hm => ⟨fun _ => rfl, fun ho => absurd (hown hm) (by simpa using ho)⟩
      · exact hs.current σ hσ
  · cases h

/-- The event carries the number of the submission that the device took. -/
theorem SystemInv.complete {cfg : Config} {s s' : System} {σ : Submission} {ev : DqbufEvent}
    (hs : SystemInv s) (h : s.step cfg (.complete σ ev) = some s') : SystemInv s' := by
  simp only [System.step] at h
  split at h
  · rename_i hσ
    cases h
    -- the submission moves from the device to the event queue
    have hperm : (s.held.erase σ ++ (s.eventq ++ [(σ, ev)]).map Prod.fst).Perm s.live := by
      have hlast : ((s.eventq ++ [(σ, ev)]).map Prod.fst).Perm (σ :: s.eventq.map Prod.fst) := by
        rw [List.map_append]
        exact List.perm_append_singleton σ _
      have hmiddle : (s.held.erase σ ++ σ :: s.eventq.map Prod.fst).Perm
          (σ :: (s.held.erase σ ++ s.eventq.map Prod.fst)) := List.perm_middle
      exact (hlast.append_left _).trans
        (hmiddle.trans ((List.perm_cons_erase hσ.1).symm.append_right _))
    exact
      { driver := hs.driver
        nodup := hperm.nodup_iff.mpr hs.nodup
        fresh := fun τ hτ => hs.fresh τ (hperm.mem_iff.mp hτ)
        latestLt := hs.latestLt
        named := by
          intro e he
          rcases List.mem_append.mp he with he | he
          · exact hs.named e he
          · rw [List.mem_singleton.mp he]
            exact hσ.2
        current := fun τ hτ => hs.current τ (hperm.mem_iff.mp hτ)
        offered := fun ho fl hfl =>
          ⟨fun τ hτ => (hs.offered ho fl hfl).1 τ (hperm.mem_iff.mp hτ),
            (hs.offered ho fl hfl).2⟩
        log := hs.log }
  · cases h

/-- A command that failed may have been taken. -/
theorem SystemInv.qbufReply {cfg : Config} {s s' : System} {ret : Int} (hs : SystemInv s)
    (h : s.step cfg (.qbufReply ret) = some s') : SystemInv s' := by
  simp only [System.step, System.drive, Option.map_map, Option.map_eq_some_iff] at h
  obtain ⟨d, hstep, rfl⟩ := h
  have hd := hs.driver.step hstep
  obtain ⟨fl, hfl, rfl⟩ := Machine.step_qbufReply hstep
  refine hs.ofKeeps hd (fun u => ?_) (.inl rfl)
  simp only [Driver.qbufReply]
  split
  · exact keeps_setQueue (keeps_failQbuf (hs.driver.inFlight fl hfl).2.1) u
  · exact .refl _

theorem SystemInv.dqbuf {cfg : Config} {s s' : System} {req : BufferReq} (hs : SystemInv s)
    (h : s.step cfg (.dqbuf req) = some s') : SystemInv s' := by
  simp only [System.step, System.drive, Option.map_eq_some_iff] at h
  obtain ⟨d, hstep, rfl⟩ := h
  have hd := hs.driver.step hstep
  obtain ⟨hidle, rfl | ⟨t, res, sess, hpop, rfl⟩⟩ := Machine.step_dqbuf hstep
  · exact hs
  · exact hs.ofKeeps hd (keeps_dqbufPop (hs.driver.queues t) hpop) (.inr rfl)

theorem SystemInv.streamon {cfg : Config} {s s' : System} {type : UInt32} {ret : Int}
    (hs : SystemInv s) (h : s.step cfg (.streamon type ret) = some s') : SystemInv s' := by
  simp only [System.step, System.drive, Option.map_eq_some_iff] at h
  obtain ⟨d, hstep, rfl⟩ := h
  have hd := hs.driver.step hstep
  obtain ⟨-, rfl⟩ := Machine.step_streamon hstep
  exact hs.ofKeeps hd (keeps_streamon _ type ret) (.inr rfl)

/-- The queue is cleared after a drain. With the answer read rightly the device
holds nothing of it then. -/
theorem SystemInv.streamoff {cfg : Config} {s s' : System} {type : UInt32} {c : Sending}
    {keep : Submission → Bool} (hs : SystemInv s)
    (hread : AnswerRead cfg s (.streamoff type c keep))
    (h : s.step cfg (.streamoff type c keep) = some s') : SystemInv s' := by
  simp only [System.step, Option.map_eq_some_iff] at h
  obtain ⟨d, hstep, rfl⟩ := h
  have hd := hs.driver.step hstep
  obtain ⟨-, rfl⟩ := Machine.step_streamoff hstep
  cases ht : queueIndex type with
  | none =>
      refine hs.ofKeeps hd (fun u => ?_) (.inr rfl)
      simp only [Driver.streamoff, ht]
      exact .refl _
  | some t =>
      dsimp only
      split
      · rename_i hret
        refine (hs.forget List.filter_sublist).ofKeeps hd (fun u => ?_) (.inr rfl)
        simp only [Driver.streamoff, ht, hret, if_true]
        exact .refl _
      · rename_i hret
        -- the queue keeps its memory type, so the condition speaks of it
        refine hs.drainReplace hd rfl (t := t) (q := clearQueue
          ((processEvents cfg s.driver.session (s.eventq.map Prod.snd)).queues t)) ?_ ?_
        · simp only [Driver.streamoff, ht, hret, if_false]
        · intro hm σ hσ hσt
          have hm' : (s.driver.session.queues t).memory = memoryDmabuf :=
            (processEvents_memory cfg s.driver.session _ t).symm.trans hm
          have hnot := hread t ht hm' ⟨σ, hσ, hσt⟩ (not_lt.mp hret)
          have hsucc := (Sending.streamoffRet_nonneg (not_lt.mp hret)).resolve_right hnot
          simp [hsucc, hσt]

/-- A REQBUFS that is sent is for a queue of the session. -/
theorem queueIndex_of_reqbufsCheck {cfg : Config} {s : Session} {b : RequestBuffers}
    (h : reqbufsCheck cfg s b = 0) : ∃ t, queueIndex b.type = some t := by
  unfold reqbufsCheck at h
  cases ht : queueIndex b.type with
  | none => simp [ht, einval] at h
  | some t => exact ⟨t, rfl⟩

/-- As for STREAMOFF, for the queue that the reply names. -/
theorem SystemInv.reqbufs {cfg : Config} {s s' : System} {b reply : RequestBuffers}
    {c : Sending} {ok : Bool} {keep : Submission → Bool} (hs : SystemInv s)
    (hread : AnswerRead cfg s (.reqbufs b c reply ok keep))
    (h : s.step cfg (.reqbufs b c reply ok keep) = some s') : SystemInv s' := by
  simp only [System.step, Option.map_eq_some_iff] at h
  obtain ⟨d, hstep, rfl⟩ := h
  have hd := hs.driver.step hstep
  obtain ⟨hidle, r, hr, rfl⟩ := Machine.step_reqbufs hstep
  rcases reqbufs_cases hr with ⟨hrefused, hr⟩ | ⟨hrefused, t, m, ht, hr⟩
  · have hsame : (⟨r.2.2, none⟩ : Machine) = s.driver := by rw [hr, ← hidle]
    rw [hsame]
    split
    · exact hs
    · split
      · exact hs
      · rename_i hcheck
        rw [if_pos (by simpa [hcheck] using hrefused)]
        exact hs.forget List.filter_sublist
  · obtain ⟨hcheck, hret⟩ := Bool.or_eq_false_iff.mp hrefused
    simp only [bne_eq_false_iff_eq] at hcheck hret
    obtain ⟨u, hu⟩ := queueIndex_of_reqbufsCheck hcheck
    simp only [hu, hcheck, hret, bne_self_eq_false, Bool.false_eq_true, if_false]
    refine hs.drainReplace hd rfl (t := t) (by rw [hr]) fun hm σ hσ hσt => ?_
    obtain ⟨hnot, hasked⟩ := hread t ht hm ⟨σ, hσ, hσt⟩ hcheck hret
    have hsucc := (Sending.reqbufsRet_zero hret).resolve_right hnot
    have hut : u = t := Option.some.inj (hu.symm.trans hasked)
    simp [hsucc, hσt, hut]

/-- One step of anybody; each case is the lemma of its action. -/
theorem SystemInv.step {cfg : Config} {s s' : System} {a : SystemAction} (hs : SystemInv s)
    (hread : AnswerRead cfg s a) (h : s.step cfg a = some s') : SystemInv s' := by
  cases a with
  | qbufSubmit req ans => exact hs.qbufSubmit h
  | take => exact hs.take h
  | complete σ ev => exact hs.complete h
  | deliver =>
      simp only [System.step] at h
      split at h
      · cases h
      · rename_i e rest hq
        cases h
        apply SystemInv.deliver
        rw [← hq]
        exact hs
  | qbufReply ret => exact hs.qbufReply h
  | dqbuf req => exact hs.dqbuf h
  | streamon type ret => exact hs.streamon h
  | streamoff type c keep => exact hs.streamoff hread h
  | reqbufs b c reply ok keep => exact hs.reqbufs hread h

/-- In every run in which the driver is not misled about a queue of which the
device holds a submission, an event that is accepted on an import queue was
produced for the latest submission of its slot, never for an earlier one. -/
theorem accepted_for_latest_submission (cfg : Config) (nonblocking : Bool)
    (acts : List SystemAction) (s : System)
    (hread : Trace.Conforms (System.step cfg) (AnswerRead cfg) (.init nonblocking) acts)
    (hrun : Trace.run (System.step cfg) (.init nonblocking) acts = some s) :
    ∀ a ∈ s.accepted, a.memory = memoryDmabuf → a.event.id = a.latest :=
  (Trace.run_invariant_of_conforms (P := SystemInv) (fun _ _ _ h hread hs => h.step hread hs)
    (systemInv_init nonblocking) hread hrun).log

/-- A command that the device answers with the given status and a response of
this length. -/
def answeredSending (status : UInt32) (respLen : Nat) : Sending where
  env := ⟨false, 0x100000⟩
  vv := .init ⟨0, 0x10000⟩
  session := smallSession
  pool := .replicate 4 ⟨0, 0, 0, false⟩
  placement := .at 0x3000
  answer := .answered status respLen
  shadow := fun _ => 0

/-- The device takes a QBUF whose command fails. After a STREAMOFF, which the
device answers with the given status, the slot is submitted again. A completion
of the submission with this number is then delivered. -/
def retryRun (status : UInt32) (id : Nat) : List SystemAction :=
  let rb : RequestBuffers := ⟨1, 1, memoryDmabuf, 0, 0⟩
  let buf : V4l2Buffer :=
    { (default : V4l2Buffer) with type := 1, memory := memoryDmabuf, length := 4096 }
  let imp : Import := ⟨7, 4096, default, false⟩
  let ans : Nat → PlaneAnswers := fun _ => ⟨.ok 7, .ok imp, 0, 0⟩
  [.reqbufs rb (answeredSending 0 28) rb true (fun _ => true), .streamon 1 0,
    .qbufSubmit ⟨buf, []⟩ ans, .take, .qbufReply (-eio),
    .streamoff 1 (answeredSending status 8) (fun _ => true), .streamon 1 0,
    .qbufSubmit ⟨buf, []⟩ ans, .take, .qbufReply 0, .complete ⟨1, 0, id⟩ ⟨buf, [], 0⟩, .deliver]

/-- STREAMOFF is answered with success: the first submission is gone, and the
completion of the second one is accepted. -/
theorem accepted_for_latest_submission_retry :
    ∃ s, Trace.run (System.step ⟨false, false, true⟩) (.init false) (retryRun 0 2) = some s ∧
      s.accepted = [⟨memoryDmabuf, ⟨1, 0, 2⟩, 2⟩] ∧
      ∀ a ∈ s.accepted, a.memory = memoryDmabuf → a.event.id = a.latest := by
  refine ⟨_, rfl, by decide, ?_⟩
  exact accepted_for_latest_submission ⟨false, false, true⟩ false (retryRun 0 2) _ (by decide) rfl

/-- STREAMOFF is refused with the status of `-EINVAL` as a `u32`, which the
sender takes for a success: the completion of the first submission is accepted
for the second one. -/
theorem accepted_for_latest_submission_fails_refusedStreamoff :
    ¬ ∀ acts s, Trace.run (System.step ⟨false, false, true⟩) (.init false) acts = some s →
      ∀ a ∈ s.accepted, a.memory = memoryDmabuf → a.event.id = a.latest := by
  intro h
  have hstale := h (retryRun 0xffffffea 1) _ rfl ⟨memoryDmabuf, ⟨1, 0, 1⟩, 2⟩
    (List.mem_singleton.mpr rfl) rfl
  exact absurd hstale (by decide)

end VirtioMedia.Driver
