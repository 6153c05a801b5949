import VirtioMedia.Device.UserptrTranslation
import VirtioMedia.Lib.Trace
import Mathlib.Data.List.Perm.Basic

/-!
# The queue counters of the V4L2 proxy device

`capture_num_queued` and `output_num_queued` shadow the number of buffers that
the host driver holds. Three paths lose the correspondence: the OUTPUT buffers
that `dequeue_output_buffers` takes are not subtracted, a REQBUFS that allocates
buffers does not reset the counter of the buffers it frees, and a QBUF that the
host has accepted is not counted when its answer cannot be translated. Away
from these paths the counters agree with the host after every call. In every
run the CAPTURE queue is polled only while its counter is positive, so the
counter never underflows.
-/

namespace VirtioMedia.Device.ProxyQueues

open V4l2

/-! ### Polling -/

/-- CAPTURE is polled only when it should be. -/
def Session.Quiet (s : Session) : Prop := s.captureReady = true → s.shouldPollCapture = true

namespace Session

variable {s : Session}

/-- STREAMOFF disables CaptureReady if it was to be polled. -/
theorem Quiet.stop (h : s.Quiet) (queue : QueueType) : (s.stop queue).Quiet := by
  unfold Session.stop
  split_ifs
  · intro hr
    obtain ⟨hready, hpoll⟩ := Bool.and_eq_true_iff.mp hr
    rw [h hready] at hpoll
    cases hpoll
  · exact h
  · exact h

theorem Quiet.start (h : s.Quiet) (queue : QueueType) : (s.start queue).Quiet := by
  unfold Session.start
  split_ifs with hq hs
  · exact h
  · intro hr
    rcases Bool.or_eq_true_iff.mp hr with hready | hpoll
    · have := (Bool.and_eq_true_iff.mp (h hready)).1
      exact absurd this hs
    · exact hpoll
  · exact h
  · exact h

/-- A count that goes up does not end the polling. -/
theorem Quiet.countQueued (h : s.Quiet) (queue : QueueType) : (s.countQueued queue).Quiet := by
  unfold Session.countQueued
  split_ifs
  · intro hr
    rcases Bool.or_eq_true_iff.mp hr with hready | hpoll
    · have hs := (Bool.and_eq_true_iff.mp (h hready)).1
      exact Bool.and_eq_true_iff.mpr ⟨hs, decide_eq_true (Nat.succ_pos _)⟩
    · exact (Bool.and_eq_true_iff.mp hpoll).2
  · exact h
  · exact h

/-- CaptureReady is disabled with the last buffer. -/
theorem Quiet.countDequeued {flags : UInt32} {s' : Session} (h : s.Quiet)
    (hs' : s.countDequeued flags = some s') : s'.Quiet := by
  unfold Session.countDequeued at hs'
  split_ifs at hs' with h0
  obtain rfl := Option.some.inj hs'
  intro hr
  obtain ⟨hready, hkeep⟩ := Bool.and_eq_true_iff.mp hr
  have hpoll := h hready
  simp only [hpoll, Bool.true_and, Bool.not_or, Bool.and_eq_true_iff] at hkeep
  refine Bool.and_eq_true_iff.mpr ⟨(Bool.and_eq_true_iff.mp hpoll).1, decide_eq_true ?_⟩
  have hne : s.captureNumQueued - 1 ≠ 0 := by simpa using hkeep.1
  exact Nat.pos_of_ne_zero hne

theorem Quiet.rememberQueue (h : s.Quiet) (queue : QueueType) : (s.rememberQueue queue).Quiet := by
  unfold Session.rememberQueue
  split_ifs
  · exact h
  · exact h
  · exact h

end Session

/-- QUERYBUF is only answered. -/
theorem State.querybuf_unchanged (s : State) (answer : Except Int Buffer) :
    (s.querybuf answer).state = s ∧ (s.querybuf answer).events = [] := by
  unfold State.querybuf
  cases answer with
  | error e => exact ⟨rfl, rfl⟩
  | ok b =>
      cases hb : hostV4l2BufferToGuest (s.host.queried b) s.session.userptrBuffers with
      | none => simp only [hb, and_self]
      | some b' => simp only [hb, and_self]

theorem State.querybuf_state (s : State) (answer : Except Int Buffer) :
    (s.querybuf answer).state = s := (s.querybuf_unchanged answer).1

theorem State.querybuf_events (s : State) (answer : Except Int Buffer) :
    (s.querybuf answer).events = [] := (s.querybuf_unchanged answer).2

/-- A property of the session that every one of its operations keeps is kept by
every call. -/
theorem State.session_invariant {P : Session → Prop} (hnew : ∀ id, P (.new id))
    (hdrop : ∀ s queue index, P s → P (s.dropPlanes queue index))
    (hregister : ∀ s host guest resources, P s → P (s.register host guest resources))
    (hremember : ∀ s queue, P s → P (s.rememberQueue queue))
    (hstop : ∀ s queue, P s → P (s.stop queue))
    (hstart : ∀ s queue, P s → P (s.start queue))
    (hqueued : ∀ s queue, P s → P (s.countQueued queue))
    (hdequeued : ∀ s flags s', P s → s.countDequeued flags = some s' → P s')
    {s s' : State} {c : Call} (h : P s.session) (hstep : s.step c = some s') :
    P s'.session := by
  have hkeeps : State.Keeps fun t _ => P t.session := by
    refine ⟨⟨fun t _ queue pos held _ ht _ _ _ => hdrop _ queue held.buffer.index ht,
      fun _ _ _ ht _ => ht⟩, ?_⟩
    rintro t _ _ _ ht - ⟨queue, pos, held, st, session, -, -, -, hcount, rfl, -⟩
    exact hdequeued _ st.flags _ (hdrop _ queue held.buffer.index ht) hcount
  obtain ⟨r, hcall, rfl⟩ := Option.map_eq_some_iff.mp hstep
  cases c with
  | reqbufs queue answer =>
      cases hcall
      change P (s.reqbufs queue answer).state.session
      unfold State.reqbufs
      cases s.host.answer queue answer with
      | error e => exact h
      | ok n =>
          dsimp only
          split_ifs
          · exact hstop _ queue (hremember _ queue h)
          · exact hremember _ queue h
  | createBufs queue count answer =>
      cases hcall
      change P (s.createBufs queue count answer).state.session
      unfold State.createBufs
      cases s.host.answer queue answer with
      | error e => exact h
      | ok n =>
          dsimp only
          split_ifs
          · exact h
          · exact hremember _ queue h
  | querybuf answer =>
      cases hcall
      exact (State.querybuf_state s answer).symm ▸ h
  | streamon queue answer =>
      cases hcall
      change P (s.streamon queue answer).state.session
      unfold State.streamon
      cases s.host.answer queue answer with
      | error e => exact h
      | ok n => exact hstart _ queue h
  | streamoff queue answer =>
      cases hcall
      change P (s.streamoff queue answer).state.session
      unfold State.streamoff
      cases s.host.answer queue answer with
      | error e => exact h
      | ok n => exact hstop _ queue h
  | qbuf req outputs answer =>
      cases hcall
      have hout : P (s.dequeueOutputBuffers outputs).state.session :=
        hkeeps.dequeueOutputBuffers outputs [] h
      change P ((s.dequeueOutputBuffers outputs).state.qbufHost req answer).state.session
      obtain ⟨-, heq⟩ | ⟨host, resources, -, ⟨e, -, heq⟩ | ⟨st, -, ⟨-, heq⟩ | ⟨out, -, heq⟩⟩⟩ :=
        (s.dequeueOutputBuffers outputs).state.qbufHost_cases req answer
      · rw [heq]
        exact hout
      · rw [heq]
        exact hregister _ _ _ _ hout
      · rw [heq]
        exact hregister _ _ _ _ hout
      · rw [heq]
        exact hqueued _ _ (hregister _ _ _ _ hout)
  | prepareBuf req answer =>
      cases hcall
      change P (s.prepareBuf req answer).state.session
      obtain ⟨-, heq⟩ | ⟨host, resources, -, result, heq, -⟩ :=
        s.prepareBuf_cases req answer
      · rw [heq]
        exact h
      · rw [heq]
        exact hregister _ _ _ _ h
  | decoderCmd answer =>
      cases hcall
      exact h
  | processEvents events =>
      obtain ⟨r', hr', rfl⟩ := Option.map_eq_some_iff.mp hcall
      exact hkeeps.processEvents [] h hr'
  | close =>
      cases hcall
      exact hnew _

/-- CAPTURE is polled only when it should be, after every call. -/
theorem State.quiet_step {s s' : State} {c : Call} (h : s.session.Quiet)
    (hstep : s.step c = some s') : s'.session.Quiet :=
  State.session_invariant (P := Session.Quiet) (fun _ h => absurd h Bool.false_ne_true)
    (fun _ _ _ h => h) (fun _ _ _ _ h => h) (fun _ queue h => h.rememberQueue queue)
    (fun _ queue h => h.stop queue) (fun _ queue h => h.start queue)
    (fun _ queue h => h.countQueued queue) (fun _ _ _ h hs => h.countDequeued hs) h hstep

/-- The number of buffers that the host holds on some queues. -/
def Host.numHeld (host : Host) (p : QueueType → Bool) : Nat :=
  host.held.countP fun h => p h.buffer.queue

/-- The queues of the buffers that the host holds. -/
def Host.Typed (host : Host) : Prop := ∀ h ∈ host.held, host.has h.buffer.queue = true

/-- The queue types of one direction: the host device has one of them. -/
def OneQueue (p : QueueType → Bool) : Prop :=
  ∀ (host : Host) (a b : QueueType), host.has a = true → host.has b = true →
    p a = true → p b = true → a = b

theorem oneQueue_isVideoCapture : OneQueue isVideoCapture := by
  intro host a b
  cases hm : host.multiplanar <;> cases a <;> cases b <;> simp [Host.has, isVideoCapture, hm]

theorem oneQueue_isVideoOutput : OneQueue isVideoOutput := by
  intro host a b
  cases hm : host.multiplanar <;> cases a <;> cases b <;> simp [Host.has, isVideoOutput, hm]

namespace Host

variable {host : Host} {p : QueueType → Bool} {queue : QueueType}

theorem numHeld_empty (hon : OneQueue p) (ht : host.Typed) (hq : host.has queue = true) :
    (host.empty queue).numHeld p = if p queue then 0 else host.numHeld p := by
  unfold Host.numHeld Host.empty
  rw [List.countP_filter]
  split_ifs with h
  · rw [List.countP_eq_zero]
    intro held hheld hp
    obtain ⟨hkind, hne⟩ := Bool.and_eq_true_iff.mp hp
    have := hon host held.buffer.queue queue (ht held hheld) hq hkind h
    exact absurd this (by simpa using hne)
  · apply List.countP_congr
    intro held _
    by_cases heq : held.buffer.queue = queue
    · simp [heq, h]
    · simp [heq]

/-- The host counts the buffer that it is given. -/
theorem numHeld_add (h : Held) :
    (host.add h).numHeld p = host.numHeld p + if p h.buffer.queue then 1 else 0 := by
  simp [Host.numHeld, Host.add, List.countP_append, List.countP_cons]

/-- The host counts one buffer less when it hands one back. -/
theorem numHeld_eraseIdx {pos : Nat} {h : Held} (hpos : host.held[pos]? = some h) :
    host.numHeld p = ({ host with held := host.held.eraseIdx pos } : Host).numHeld p +
      if p h.buffer.queue then 1 else 0 := by
  obtain ⟨hlt, rfl⟩ := List.getElem?_eq_some_iff.mp hpos
  have hperm := (List.getElem_cons_eraseIdx_perm hlt).countP_eq fun h => p h.buffer.queue
  rw [List.countP_cons] at hperm
  exact hperm.symm

/-- The host forgets the buffers of a queue. -/
theorem Typed.empty (ht : host.Typed) (queue : QueueType) : (host.empty queue).Typed :=
  fun h hh => ht h (List.mem_of_mem_filter hh)

theorem Typed.eraseIdx (ht : host.Typed) (pos : Nat) :
    ({ host with held := host.held.eraseIdx pos } : Host).Typed :=
  fun h hh => ht h (List.mem_of_mem_eraseIdx hh)

theorem Typed.add (ht : host.Typed) {h : Held} (hq : host.has h.buffer.queue = true) :
    (host.add h).Typed := by
  intro held hheld
  rcases List.mem_append.mp hheld with hold | hnew
  · exact ht held hold
  · rw [List.mem_singleton.mp hnew]
    exact hq

/-- The host answers only for the queues of its kind. -/
theorem has_of_answer {α : Type} {a : Except Int α} {x : α} (h : host.answer queue a = .ok x) :
    host.has queue = true ∧ a = .ok x := by
  unfold Host.answer at h
  split_ifs at h with hq
  exact ⟨hq, h⟩

end Host

/-! ### The counters -/

theorem isVideoOutput_of_isVideoCapture {queue : QueueType} (h : isVideoCapture queue = true) :
    isVideoOutput queue = false := by
  cases queue <;> first | rfl | cases h

namespace Session

variable (s : Session) (queue : QueueType)

/-- STREAMOFF clears the counter of its queue and leaves the other one. -/
theorem numQueued_stop : (s.stop queue).captureNumQueued =
      (if isVideoCapture queue then 0 else s.captureNumQueued) ∧
    (s.stop queue).outputNumQueued = if isVideoOutput queue then 0 else s.outputNumQueued := by
  unfold Session.stop
  by_cases hc : isVideoCapture queue = true
  · simp [hc, isVideoOutput_of_isVideoCapture hc]
  · by_cases ho : isVideoOutput queue = true <;> simp [hc, ho]

/-- QBUF counts for its own queue. -/
theorem numQueued_countQueued : (s.countQueued queue).captureNumQueued =
      s.captureNumQueued + (if isVideoCapture queue then 1 else 0) ∧
    (s.countQueued queue).outputNumQueued =
      s.outputNumQueued + if isVideoOutput queue then 1 else 0 := by
  unfold Session.countQueued
  by_cases hc : isVideoCapture queue = true
  · simp [hc, isVideoOutput_of_isVideoCapture hc]
  · by_cases ho : isVideoOutput queue = true <;> simp [hc, ho]

theorem numQueued_rememberQueue :
    (s.rememberQueue queue).captureNumQueued = s.captureNumQueued ∧
      (s.rememberQueue queue).outputNumQueued = s.outputNumQueued := by
  unfold Session.rememberQueue
  split_ifs <;> exact ⟨rfl, rfl⟩

theorem numQueued_start : (s.start queue).captureNumQueued = s.captureNumQueued ∧
    (s.start queue).outputNumQueued = s.outputNumQueued := by
  unfold Session.start
  split_ifs <;> exact ⟨rfl, rfl⟩

/-- The types that the session remembers are those of video queues. -/
structure Typed (s : Session) : Prop where
  capture : ∀ queue, s.captureQueueType = some queue → isVideoCapture queue = true
  output : ∀ queue, s.outputQueueType = some queue → isVideoOutput queue = true

variable {s}

/-- A dequeue that does not panic counts one buffer down, and nothing else
changes. -/
theorem countDequeued_eq_some {flags : UInt32} {s' : Session}
    (h : s.countDequeued flags = some s') :
    s.captureNumQueued = s'.captureNumQueued + 1 ∧ s'.outputNumQueued = s.outputNumQueued ∧
      s'.captureStreaming = s.captureStreaming ∧ s'.captureQueueType = s.captureQueueType ∧
      s'.outputStreaming = s.outputStreaming ∧ s'.outputQueueType = s.outputQueueType ∧
      s'.userptrBuffers = s.userptrBuffers ∧ s'.id = s.id := by
  unfold Session.countDequeued at h
  split_ifs at h with h0
  obtain rfl := Option.some.inj h
  exact ⟨(Nat.succ_pred h0).symm, rfl, rfl, rfl, rfl, rfl, rfl, rfl⟩

theorem Typed.new (id : UInt32) : (Session.new id).Typed := by
  constructor <;>
  · intro queue hq
    cases hq

theorem Typed.dropPlanes (h : s.Typed) (queue : QueueType) (index : UInt32) :
    (s.dropPlanes queue index).Typed := ⟨h.capture, h.output⟩

theorem Typed.countDequeued {flags : UInt32} {s' : Session} (h : s.Typed)
    (hs' : s.countDequeued flags = some s') : s'.Typed := by
  obtain ⟨-, -, -, hc, -, ho, -⟩ := Session.countDequeued_eq_some hs'
  exact ⟨fun q hq => h.capture q (hc.symm.trans hq), fun q hq => h.output q (ho.symm.trans hq)⟩

end Session

/-- The session knows its queues by types of the right direction, after every
call. -/
theorem State.typed_step {s s' : State} {c : Call} (h : s.session.Typed)
    (hstep : s.step c = some s') : s'.session.Typed := by
  refine State.session_invariant (P := Session.Typed) .new (fun _ _ _ h => h.dropPlanes _ _)
    (fun _ _ _ _ h => ⟨h.capture, h.output⟩) ?_ ?_ ?_ ?_ ?_ h hstep
  · intro s queue h
    unfold Session.rememberQueue
    split_ifs with hc ho
    · refine ⟨fun q hq => ?_, h.output⟩
      rwa [← Option.some.inj hq]
    · refine ⟨h.capture, fun q hq => ?_⟩
      rwa [← Option.some.inj hq]
    · exact h
  · intro s queue h
    unfold Session.stop
    split_ifs <;> exact ⟨h.capture, h.output⟩
  · intro s queue h
    unfold Session.start
    split_ifs <;> exact ⟨h.capture, h.output⟩
  · intro s queue h
    unfold Session.countQueued
    split_ifs <;> exact ⟨h.capture, h.output⟩
  · intro s flags s' h hs'
    exact h.countDequeued hs'

/-- The counters of the session are the numbers of buffers that the host holds
on the video CAPTURE and OUTPUT queue. -/
structure State.CountersMatch (s : State) : Prop where
  capture : s.session.captureNumQueued = s.host.numHeld isVideoCapture
  output : s.session.outputNumQueued = s.host.numHeld isVideoOutput

/-- `dequeue_output_buffers` reaches its loop. -/
def Session.looksForOutput (s : Session) : Bool :=
  s.outputQueueType.isSome && s.outputStreaming && s.outputNumQueued != 0

/-- The host hands no OUTPUT buffer back: if the loop is reached, its first DQBUF
takes none. -/
def State.LeavesOutputs (s : State) (outputs : List DqAnswer) : Prop :=
  s.session.looksForOutput = true → ∀ queue ∈ s.session.outputQueueType,
    ∀ a ∈ outputs.head?, (s.host.dqbuf queue a).1.isOk = false

instance (s : State) (outputs : List DqAnswer) : Decidable (s.LeavesOutputs outputs) :=
  inferInstanceAs (Decidable (_ → ∀ queue ∈ s.session.outputQueueType,
    ∀ a ∈ outputs.head?, (s.host.dqbuf queue a).1.isOk = false))

/-- No OUTPUT buffer is handed back after the CAPTURE buffer of the event. -/
def State.LeavesOutputsAt (s : State) : PollEvent → Prop
  | .captureReady capture outputs => s.session.captureReady = true →
      ∀ r ∈ s.dequeueCaptureBuffer capture, r.result.isOk = true → r.state.LeavesOutputs outputs
  | .v4l2Event _ _ => True

instance (s : State) : (ev : PollEvent) → Decidable (s.LeavesOutputsAt ev)
  | .captureReady capture outputs => inferInstanceAs (Decidable (_ →
      ∀ r ∈ s.dequeueCaptureBuffer capture, r.result.isOk = true → r.state.LeavesOutputs outputs))
  | .v4l2Event _ _ => .isTrue trivial

/-- At each event of the loop of `process_events` that is reached. -/
def State.LeavesOutputsIn : List PollEvent → State → Prop
  | [], _ => True
  | ev :: rest, s => s.LeavesOutputsAt ev ∧
      ∀ r ∈ s.processEvent ev, r.result.isOk = true → State.LeavesOutputsIn rest r.state

instance instDecidableLeavesOutputsIn :
    (events : List PollEvent) → (s : State) → Decidable (State.LeavesOutputsIn events s)
  | [], _ => .isTrue trivial
  | ev :: rest, s =>
    have := instDecidableLeavesOutputsIn rest
    inferInstanceAs (Decidable (s.LeavesOutputsAt ev ∧
      ∀ r ∈ s.processEvent ev, r.result.isOk = true → State.LeavesOutputsIn rest r.state))

/-- The calls that leave the counters right: no OUTPUT buffer is dequeued, a
REQBUFS that allocates buffers finds none queued, and an accepted USERPTR buffer
has pointers only where it has planes of non-zero length. -/
def State.CountsKept (s : State) : Call → Prop
  | .reqbufs queue answer => (isVideoCapture queue || isVideoOutput queue) = true →
      (s.host.answer queue answer).toOption.any (· != 0) = true →
      ∀ h ∈ s.host.held, h.buffer.queue ≠ queue
  | .qbuf req outputs answer => s.LeavesOutputs outputs ∧
      ((isVideoCapture req.buffer.queue || isVideoOutput req.buffer.queue) = true →
        (s.host.answer req.buffer.queue answer).isOk = true → req.buffer.ZeroNull)
  | .processEvents events => State.LeavesOutputsIn events s
  | _ => True

instance instDecidableCountsKept (s : State) : (c : Call) → Decidable (s.CountsKept c)
  | .reqbufs queue answer => inferInstanceAs (Decidable
      ((isVideoCapture queue || isVideoOutput queue) = true →
        (s.host.answer queue answer).toOption.any (· != 0) = true →
        ∀ h ∈ s.host.held, h.buffer.queue ≠ queue))
  | .qbuf req outputs answer => inferInstanceAs (Decidable
      (s.LeavesOutputs outputs ∧
      ((isVideoCapture req.buffer.queue || isVideoOutput req.buffer.queue) = true →
        (s.host.answer req.buffer.queue answer).isOk = true → req.buffer.ZeroNull)))
  | .processEvents events => inferInstanceAs (Decidable (State.LeavesOutputsIn events s))
  | .createBufs _ _ _ | .querybuf _ | .streamon _ _ | .streamoff _ _ | .prepareBuf _ _
  | .decoderCmd _ | .close => .isTrue trivial

/-- A loop whose first DQBUF fails takes nothing. -/
theorem State.outputLoop_leaves {queue : QueueType} {answers : List DqAnswer} {s : State}
    (h : ∀ a ∈ answers.head?, (s.host.dqbuf queue a).1.isOk = false) :
    (State.outputLoop queue answers s).state = s := by
  cases answers with
  | nil => rfl
  | cons a rest =>
      have hfails := h a rfl
      rw [State.outputLoop]
      rcases s.host.dqbuf_cases queue a with ⟨pos, held, st, -, -, -, hdq⟩ | ⟨e, hdq⟩
      · rw [hdq] at hfails
        cases hfails
      · rw [hdq]
        cases e <;> rfl

/-- Where no buffer is handed back, or the guard stops it, nothing changes. -/
theorem State.dequeueOutputBuffers_leaves {s : State} {outputs : List DqAnswer}
    (h : s.LeavesOutputs outputs) : (s.dequeueOutputBuffers outputs).state = s := by
  unfold State.dequeueOutputBuffers
  cases hq : s.session.outputQueueType with
  | none => rfl
  | some queue =>
      dsimp only
      split_ifs with hguard
      · rfl
      · refine State.outputLoop_leaves (h ?_ queue hq)
        simpa [Session.looksForOutput, hq] using hguard

/-- What holds between the calls of such a run. -/
structure State.Reconciled (s : State) : Prop where
  quiet : s.session.Quiet
  types : s.session.Typed
  typed : s.host.Typed
  counters : s.CountersMatch

theorem State.reconciled_init (id : UInt32) (multiplanar : Bool) :
    (State.init id multiplanar).Reconciled where
  quiet h := absurd h Bool.false_ne_true
  types := .new id
  typed _ h := by cases h
  counters := ⟨rfl, rfl⟩

/-- The host part of the invariant. -/
structure State.HostMatches (s : State) : Prop where
  typed : s.host.Typed
  counters : s.CountersMatch

namespace State.HostMatches

variable {s : State} {queue : QueueType}

theorem of_eq {s' : State} (h : s.HostMatches) (hhost : s'.host = s.host)
    (hc : s'.session.captureNumQueued = s.session.captureNumQueued)
    (ho : s'.session.outputNumQueued = s.session.outputNumQueued) : s'.HostMatches where
  typed := hhost ▸ h.typed
  counters := ⟨by rw [hc, hhost, h.counters.capture], by rw [ho, hhost, h.counters.output]⟩

/-- The host no longer holds buffers of the queue. -/
theorem emptied {s' : State} (h : s.HostMatches) (queue : QueueType)
    (hheld : s'.host.held = (s.host.empty queue).held)
    (hmulti : s'.host.multiplanar = s.host.multiplanar)
    (hc : s'.session.captureNumQueued = (s.host.empty queue).numHeld isVideoCapture)
    (ho : s'.session.outputNumQueued = (s.host.empty queue).numHeld isVideoOutput) :
    s'.HostMatches where
  typed := by
    intro held hmem
    rw [hheld] at hmem
    have := h.typed.empty queue held hmem
    simpa only [Host.has, Host.empty, hmulti] using this
  counters := by
    constructor
    · rw [hc, Host.numHeld, Host.numHeld, hheld]
    · rw [ho, Host.numHeld, Host.numHeld, hheld]

/-- A queue that is stopped holds nothing. -/
theorem numQueued_stop (h : s.HostMatches) (hq : s.host.has queue = true) :
    (s.session.stop queue).captureNumQueued = (s.host.empty queue).numHeld isVideoCapture ∧
      (s.session.stop queue).outputNumQueued = (s.host.empty queue).numHeld isVideoOutput := by
  rw [(s.session.numQueued_stop queue).1, (s.session.numQueued_stop queue).2,
    Host.numHeld_empty oneQueue_isVideoCapture h.typed hq,
    Host.numHeld_empty oneQueue_isVideoOutput h.typed hq, h.counters.capture, h.counters.output]
  exact ⟨rfl, rfl⟩

theorem reqbufs (h : s.HostMatches) {answer : Except Int UInt32}
    (hok : s.CountsKept (.reqbufs queue answer)) : (s.reqbufs queue answer).state.HostMatches := by
  unfold State.reqbufs
  cases hans : s.host.answer queue answer with
  | error e => exact h
  | ok n =>
      obtain ⟨hq, -⟩ := Host.has_of_answer hans
      have hrem : HostMatches { s with session := s.session.rememberQueue queue } :=
        h.of_eq rfl (s.session.numQueued_rememberQueue queue).1
          (s.session.numQueued_rememberQueue queue).2
      dsimp only
      split_ifs with h0
      · obtain ⟨hc, ho⟩ := hrem.numQueued_stop hq
        exact hrem.emptied queue rfl rfl hc ho
      · have hkind : ∀ p, OneQueue p → (p queue = true → isVideoCapture queue = true ∨
            isVideoOutput queue = true) → s.host.numHeld p = (s.host.empty queue).numHeld p := by
          intro p hon hvideo
          rw [Host.numHeld_empty hon h.typed hq]
          split_ifs with hon'
          · apply List.countP_eq_zero.mpr
            intro held hmem hp
            have hone := hon s.host _ queue (h.typed held hmem) hq hp hon'
            have hfresh := hok (Bool.or_eq_true_iff.mpr (hvideo hon')) (by
              simpa [hans, Except.toOption] using h0)
            exact hfresh held hmem hone
          · rfl
        refine hrem.emptied queue rfl rfl ?_ ?_
        · exact hrem.counters.capture.trans (hkind _ oneQueue_isVideoCapture .inl)
        · exact hrem.counters.output.trans (hkind _ oneQueue_isVideoOutput .inr)

theorem streamoff (h : s.HostMatches) (answer : Except Int Unit) :
    (s.streamoff queue answer).state.HostMatches := by
  unfold State.streamoff
  cases hans : s.host.answer queue answer with
  | error e => exact h
  | ok u =>
      obtain ⟨hq, -⟩ := Host.has_of_answer hans
      obtain ⟨hc, ho⟩ := h.numQueued_stop hq
      exact h.emptied queue rfl rfl hc ho

/-- An accepted buffer that is counted. -/
theorem counted (h : s.HostMatches) {host : Buffer} {resources : List Mapping}
    (hq : s.host.has host.queue = true) :
    ((s.accepted host resources).counted host.queue).HostMatches where
  typed := h.typed.add hq
  counters := by
    obtain ⟨hc, ho⟩ := s.session.numQueued_countQueued host.queue
    constructor
    · exact hc.trans (by rw [h.counters.capture]; exact (Host.numHeld_add ⟨host, resources⟩).symm)
    · exact ho.trans (by rw [h.counters.output]; exact (Host.numHeld_add ⟨host, resources⟩).symm)

/-- An accepted buffer of a queue that is not counted. -/
theorem uncounted (h : s.HostMatches) {host : Buffer} {resources : List Mapping}
    (hq : s.host.has host.queue = true)
    (hvideo : (isVideoCapture host.queue || isVideoOutput host.queue) = false) :
    (s.accepted host resources).HostMatches where
  typed := h.typed.add hq
  counters := by
    obtain ⟨hc, ho⟩ := Bool.or_eq_false_iff.mp hvideo
    constructor
    · refine h.counters.capture.trans ((Host.numHeld_add ⟨host, resources⟩).trans ?_).symm
      rw [if_neg (by simp [hc]), Nat.add_zero]
    · refine h.counters.output.trans ((Host.numHeld_add ⟨host, resources⟩).trans ?_).symm
      rw [if_neg (by simp [ho]), Nat.add_zero]

/-- QBUF counts the buffer that the host keeps, if nothing was handed back
before it. -/
theorem qbuf (h : s.HostMatches) {req : Request} {outputs : List DqAnswer}
    {answer : Except Int Status} (hok : s.CountsKept (.qbuf req outputs answer)) :
    (s.qbuf req outputs answer).state.HostMatches := by
  obtain ⟨hleaves, hnull⟩ := hok
  change ((s.dequeueOutputBuffers outputs).state.qbufHost req answer).state.HostMatches
  rw [State.dequeueOutputBuffers_leaves hleaves]
  have hsub : ∀ host resources, (s.submitted host req.buffer resources).HostMatches :=
    fun _ _ => h.of_eq rfl rfl rfl
  obtain ⟨-, heq⟩ | ⟨host, resources, hmap, ⟨e, -, heq⟩ | ⟨st, hans, ⟨hout, heq⟩ |
    ⟨out, -, heq⟩⟩⟩ := s.qbufHost_cases req answer
  · rw [heq]
    exact h
  · rw [heq]
    exact hsub host resources
  · rw [heq]
    obtain ⟨hq, -⟩ := Host.has_of_answer hans
    refine (hsub host resources).uncounted hq ?_
    by_contra hvideo
    obtain ⟨hqueue, -⟩ := queue_of_guestV4l2BufferToHost hmap
    rw [hqueue, Bool.not_eq_false] at hvideo
    have hsome := hostV4l2BufferToGuest_registered hmap
      (hnull hvideo (by rw [← hqueue, hans]; rfl)) s.session.userptrBuffers st
    rw [show registerUserptrAddresses s.session.userptrBuffers host req.buffer resources =
      (s.submitted host req.buffer resources).session.userptrBuffers from rfl, hout] at hsome
    cases hsome
  · rw [heq]
    exact (hsub host resources).counted (Host.has_of_answer hans).1

/-- A CAPTURE buffer is dequeued and counted. -/
theorem takesCapture {s' : State} {ev : Event} (h : s.HostMatches)
    (hty : s.session.Typed) (htake : s.TakesCapture s' ev) : s'.HostMatches := by
  obtain ⟨queue, pos, held, st, session, hq, hheld, hhq, hcount, rfl, -⟩ := htake
  obtain ⟨hc, ho, -⟩ := Session.countDequeued_eq_some hcount
  have hkind : isVideoCapture held.buffer.queue = true := hhq ▸ hty.capture queue hq
  refine ⟨h.typed.eraseIdx pos, ?_, ?_⟩
  · have hsum := Host.numHeld_eraseIdx (p := isVideoCapture) hheld
    rw [if_pos hkind, ← h.counters.capture] at hsum
    exact Nat.add_right_cancel (hc.symm.trans hsum)
  · have hsum := Host.numHeld_eraseIdx (p := isVideoOutput) hheld
    rw [if_neg (by simp [isVideoOutput_of_isVideoCapture hkind]), ← h.counters.output] at hsum
    exact ho.trans hsum

/-- A dequeued CAPTURE buffer is counted down on both sides. -/
theorem dequeueCaptureBuffer (h : s.HostMatches) (hty : s.session.Typed) {a : DqAnswer}
    {r : Outcome Unit} (hr : s.dequeueCaptureBuffer a = some r) :
    r.state.HostMatches ∧ r.state.session.Typed := by
  obtain ⟨hsame, -⟩ | ⟨ev, htake, -⟩ := State.dequeueCaptureBuffer_cases hr
  · rw [hsame]
    exact ⟨h, hty⟩
  · refine ⟨h.takesCapture hty htake, ?_⟩
    obtain ⟨queue, pos, held, st, session, -, -, -, hcount, hstate, -⟩ := htake
    rw [hstate]
    exact (hty.dropPlanes queue held.buffer.index).countDequeued hcount

theorem processEvent (h : s.HostMatches) (hty : s.session.Typed) {ev : PollEvent}
    (hok : s.LeavesOutputsAt ev) {r : Outcome Unit} (hr : s.processEvent ev = some r) :
    r.state.HostMatches ∧ r.state.session.Typed := by
  cases ev with
  | v4l2Event pending error =>
      cases hr
      unfold State.dequeueEvents
      cases error <;> exact ⟨h, hty⟩
  | captureReady capture outputs =>
      simp only [State.processEvent] at hr
      split_ifs at hr with hready
      · obtain ⟨r₁, h₁, rfl⟩ := Option.map_eq_some_iff.mp hr
        have hcapture := h.dequeueCaptureBuffer hty h₁
        have hleaves := hok hready r₁ h₁
        cases hres : r₁.result with
        | error e => exact hcapture
        | ok u =>
            rw [hres] at hleaves
            simp only [State.dequeueOutputBuffers_leaves (hleaves rfl)]
            exact hcapture
      · cases hr
        exact ⟨h, hty⟩

/-- By induction on the events; the condition is taken in the state that each
one finds. -/
theorem processEvents (h : s.HostMatches) (hty : s.session.Typed)
    {events : List PollEvent} (hok : s.CountsKept (.processEvents events)) {r : Outcome Unit}
    (hr : State.processEvents events s = some r) : r.state.HostMatches := by
  induction events generalizing s r with
  | nil =>
      cases hr
      exact h
  | cons ev rest ih =>
      obtain ⟨hat, hrest⟩ := hok
      obtain ⟨r₁, h₁, hr⟩ := Option.bind_eq_some_iff.mp hr
      obtain ⟨hmatch, htyped⟩ := h.processEvent hty hat h₁
      have hleaves := hrest r₁ h₁
      cases hres : r₁.result with
      | error e =>
          rw [hres] at hr
          cases hr
          exact hmatch
      | ok u =>
          rw [hres] at hr hleaves
          obtain ⟨r₂, h₂, rfl⟩ := Option.map_eq_some_iff.mp hr
          have hmatch₂ : r₂.state.HostMatches := ih hmatch htyped (hleaves rfl) h₂
          exact hmatch₂

end State.HostMatches

/-- Every call that meets the condition keeps the counters of the session at
what the host holds. -/
theorem State.Reconciled.step {s s' : State} {c : Call} (h : s.Reconciled)
    (hok : s.CountsKept c) (hstep : s.step c = some s') : s'.Reconciled := by
  have hquiet := State.quiet_step h.quiet hstep
  have htyped := State.typed_step h.types hstep
  have hmatch : s.HostMatches := ⟨h.typed, h.counters⟩
  suffices hmatch' : s'.HostMatches from ⟨hquiet, htyped, hmatch'.typed, hmatch'.counters⟩
  obtain ⟨r, hcall, rfl⟩ := Option.map_eq_some_iff.mp hstep
  cases c with
  | reqbufs queue answer =>
      cases hcall
      exact hmatch.reqbufs hok
  | createBufs queue count answer =>
      cases hcall
      change (s.createBufs queue count answer).state.HostMatches
      unfold State.createBufs
      cases s.host.answer queue answer with
      | error e => exact hmatch
      | ok u =>
          dsimp only
          split_ifs
          · exact hmatch
          · exact hmatch.of_eq rfl (s.session.numQueued_rememberQueue queue).1
              (s.session.numQueued_rememberQueue queue).2
  | querybuf answer =>
      cases hcall
      exact (State.querybuf_state s answer).symm ▸ hmatch
  | streamon queue answer =>
      cases hcall
      change (s.streamon queue answer).state.HostMatches
      unfold State.streamon
      cases s.host.answer queue answer with
      | error e => exact hmatch
      | ok u =>
          exact hmatch.of_eq rfl (s.session.numQueued_start queue).1
            (s.session.numQueued_start queue).2
  | streamoff queue answer =>
      cases hcall
      exact hmatch.streamoff answer
  | qbuf req outputs answer =>
      cases hcall
      exact hmatch.qbuf hok
  | prepareBuf req answer =>
      cases hcall
      change (s.prepareBuf req answer).state.HostMatches
      obtain ⟨-, heq⟩ | ⟨host, resources, -, result, heq, -⟩ :=
        s.prepareBuf_cases req answer
      · rw [heq]
        exact hmatch
      · rw [heq]
        exact hmatch.of_eq rfl rfl rfl
  | decoderCmd answer =>
      cases hcall
      exact hmatch
  | processEvents events =>
      obtain ⟨r', hr', rfl⟩ := Option.map_eq_some_iff.mp hcall
      exact hmatch.processEvents h.types hok hr'
  | close =>
      cases hcall
      exact ⟨(State.reconciled_init _ _).typed, (State.reconciled_init _ _).counters⟩

/-- After the call the counters are the numbers of buffers on the host. -/
def State.KeepsCounters (s : State) (c : Call) : Prop :=
  ∃ s', s.step c = some s' ∧ s'.CountersMatch

instance instDecidableCountersMatch (s : State) : Decidable s.CountersMatch :=
  decidable_of_iff (s.session.captureNumQueued = s.host.numHeld isVideoCapture ∧
    s.session.outputNumQueued = s.host.numHeld isVideoOutput)
    ⟨fun h => ⟨h.1, h.2⟩, fun h => ⟨h.1, h.2⟩⟩

instance instDecidableKeepsCounters (s : State) (c : Call) : Decidable (s.KeepsCounters c) :=
  decidable_of_iff ((s.step c).any (fun s' => decide s'.CountersMatch) = true)
    (by simp [State.KeepsCounters, Option.any_eq_true_iff_get, Option.eq_some_iff_get_eq])

/-- A USERPTR buffer of one plane. -/
def userptrBuffer (queue : QueueType) (index : UInt32) (userptr : UInt64) : Buffer where
  queue := queue
  index := index
  memory := .userPtr
  flags := 0
  field := 1
  tvSec := 0
  tvUsec := 0
  sequence := 0
  planes := [⟨userptr, 4096, 0, 0⟩]

/-- A request whose plane is mapped at an address. -/
def userptrRequest (queue : QueueType) (index : UInt32) (userptr addr : UInt64) : Request where
  buffer := userptrBuffer queue index userptr
  mapped := [some addr]
  regions := rfl

/-- The answer of a host that has filled a buffer, with the given flags. -/
def filled (flags : UInt32) : Status := ⟨flags, 1, 0, 0, 0, [4096]⟩

/-- Two CAPTURE buffers, of which one is filled before the queue is stopped. -/
def captureRun : List Call :=
  [.reqbufs .videoCapture (.ok 2),
    .qbuf (userptrRequest .videoCapture 0 0x1000 0x7f00) [] (.ok (filled 0)),
    .qbuf (userptrRequest .videoCapture 1 0x2000 0x7f01) [] (.ok (filled 0)),
    .streamon .videoCapture (.ok ()),
    .processEvents [.captureReady (.buffer 0 (filled 0)) []],
    .streamoff .videoCapture (.ok ())]

end VirtioMedia.Device.ProxyQueues
