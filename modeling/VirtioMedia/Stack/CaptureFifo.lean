import VirtioMedia.Stack.CaptureLine

/-!
# The driver and the capture device are one queue

A buffer that the device has accepted is in one of three places: in the queue of
the device, on the event queue, or on the pending list of the driver. It goes
from each of them to the next, and in each of them the buffers keep their order.
Taken together the three are a queue without duplicates: an accepted QBUF pushes
its buffer, a DQBUF pops the oldest one, and STREAMOFF and REQBUFS clear it.
-/

namespace VirtioMedia.Stack

open V4l2 Driver Device Device.Simple Fallible

/-! ### Where the buffers are -/

/-- The slot of a QBUF command that the device has not accepted. -/
def QbufCommand.offered : QbufCommand → List Nat
  | .sent index => [index.toNat]
  | .answered index ret => if ret = 0 then [] else [index.toNat]

def QbufCommand.index : QbufCommand → UInt32
  | .sent index => index
  | .answered index _ => index

/-- The buffers that are on the event queue or wait in the device, oldest
first. -/
def line (id : UInt32) (c : Capture) (taken : Nat) : List Nat :=
  ((dequeued id c.device.sent).drop taken).map slotOf ++
    (c.sessions id).elim [] (·.queuedBuffers)

namespace CaptureStack

/-- The capture queue of the driver. -/
def queue (st : CaptureStack) : QueueState := st.driver.session.queues 1

@[simp] theorem queue_setQueue (s : Driver.Session) (q : QueueState)
    (inFlight : Option QbufInFlight) (capture : Capture) (taken : Nat)
    (command : Option QbufCommand) :
    queue ⟨⟨s.setQueue 1 q, inFlight⟩, capture, taken, command⟩ = q :=
  Session.setQueue_queues_self s 1 q

@[simp] theorem queue_mk (st : CaptureStack) (inFlight : Option QbufInFlight) (capture : Capture)
    (taken : Nat) (command : Option QbufCommand) :
    queue ⟨⟨st.driver.session, inFlight⟩, capture, taken, command⟩ = st.queue := rfl

/-- The buffers that the device has accepted and DQBUF has not returned. -/
def outstanding (st : CaptureStack) (id : UInt32) : List Nat :=
  st.queue.pendingDqbufs ++ line id st.capture st.taken

/-- The slots that the driver has given away. -/
def away (st : CaptureStack) (id : UInt32) : List Nat :=
  line id st.capture st.taken ++ st.command.elim [] QbufCommand.offered

/-- What a step does to the outstanding buffers. The buffer that DQBUF returns
is the one that its caller is told of. -/
def label (cfg : Driver.Config) (checks : Bool) (id : UInt32) (st : CaptureStack)
    (a : StackAction) : List (Fifo.Op Nat) :=
  match a with
  | .serve _ =>
    match st.command, st.served checks id a with
    | some (.sent i), some (.ok _, _) => [.push i.toNat]
    | _, _ => []
  | .dqbuf req =>
    match dqbufCheck st.driver.session req.buffer.type with
    | .error _ => []
    | .ok t =>
      (dqbufPop st.driver.session t req).elim [] fun r => [.pop r.1.buffer.index.toNat]
  | .streamoff .. | .reqbufs .. =>
    if st.refuses cfg a then []
    else
      match st.served checks id a with
      | some (.ok _, _) => [.clear]
      | _ => []
  | _ => []

/-- A REQBUFS that the device admits gets its buffers. -/
def allocates (checks : Bool) (id : UInt32) (st : CaptureStack) : StackAction → Bool
  | .reqbufs b flagsOk memfd .. =>
    match st.capture.sessions id, reqbufsRequest b flagsOk memfd with
    | some s, some (.reqbufs queue memory count memfd) =>
      !st.capture.device.admits s queue memory ||
        ((st.capture.device.reqbufs checks s queue memory count memfd).toOption.all
          (·.result.isOk))
    | _, _ => true
  | _ => true

end CaptureStack

/-- The frames of the device can be written to its files. -/
def StackAction.WritesFrames : StackAction → Prop
  | .serve (some io) => ∀ fd, io fd = true
  | .streamon _ io => ∀ fd, io fd = true
  | _ => True

/-! ### The device's side -/

/-- The session of the device, of whose events `taken` have been taken. -/
structure Connected (id : UInt32) (c : Capture) (taken : Nat) (s : Simple.Session) : Prop where
  mmap : c.MmapInv
  session : c.sessions id = some s
  ready : Ready s
  taken_le : taken ≤ (dequeued id c.device.sent).length
  events : ∀ v ∈ (dequeued id c.device.sent).drop taken, OfCapture v

section Device

variable {checks : Bool} {id : UInt32} {c : Capture} {taken : Nat} {s : Simple.Session}

/-- The line: the events that were not taken, and the buffers that wait in the
device. -/
theorem line_of_session (h : c.sessions id = some s) (taken : Nat) :
    line id c taken =
      ((dequeued id c.device.sent).drop taken).map slotOf ++ s.queuedBuffers := by
  rw [line, h]
  rfl

theorem Connected.session_id (h : Connected id c taken s) : s.id = id := h.mmap.ids id s h.session

/-- A call that passes buffers on. -/
theorem Connected.passes (h : Connected id c taken s) {d' : CaptureDevice} {s' : Simple.Session}
    {extra : List Nat} (hp : Passes c.device s d' s' extra)
    (hmmap : ({ c with device := d' }.setSession id (some s')).MmapInv) :
    Connected id ({ c with device := d' }.setSession id (some s')) taken s' ∧
      line id ({ c with device := d' }.setSession id (some s')) taken =
        line id c taken ++ extra := by
  obtain ⟨vs, hsent, hline, hvs⟩ := hp.line
  rw [h.session_id] at hsent
  have hnew : ({ c with device := d' }.setSession id (some s')).sessions id = some s' := if_pos rfl
  have hdrop : (dequeued id d'.sent).drop taken = (dequeued id c.device.sent).drop taken ++ vs := by
    rw [hsent, List.drop_append_of_le_length h.taken_le]
  refine ⟨⟨hmmap, hnew, hp.ready, ?_, ?_⟩, ?_⟩
  · change taken ≤ (dequeued id d'.sent).length
    rw [hsent, List.length_append]
    have := h.taken_le
    omega
  · intro v hv
    change v ∈ (dequeued id d'.sent).drop taken at hv
    rw [hdrop] at hv
    rcases List.mem_append.mp hv with hv | hv
    · exact h.events v hv
    · exact hvs v hv
  · rw [line_of_session hnew, line_of_session h.session]
    change ((dequeued id d'.sent).drop taken).map slotOf ++ s'.queuedBuffers = _
    rw [hdrop, List.map_append, List.append_assoc, hline, List.append_assoc]

/-- The queue was cleared, and the event queue is drained. -/
theorem Cleared.connected {d' : CaptureDevice} {s' : Simple.Session} (hp : Cleared c.device s d' s')
    (hmmap : ({ c with device := d' }.setSession id (some s')).MmapInv) :
    let c' := { c with device := d' }.setSession id (some s')
    Connected id c' (dequeued id c'.device.sent).length s' ∧
      line id c' (dequeued id c'.device.sent).length = [] := by
  intro c'
  have hnew : c'.sessions id = some s' := if_pos rfl
  refine ⟨⟨hmmap, hnew, hp.ready, le_rfl, ?_⟩, ?_⟩
  · simp
  · rw [line_of_session hnew, List.drop_length, hp.queue]
    rfl

/-- What happens apart from the session. -/
theorem Connected.apart (h : Connected id c taken s) {a : Simple.Action} {c' : Capture}
    (ha : apart id a = true) (hstep : c.next checks a = some c') :
    Connected id c' taken s ∧ line id c' taken = line id c taken := by
  have hmmap := h.mmap.step hstep
  suffices hsame : c'.sessions id = some s ∧
      dequeued id c'.device.sent = dequeued id c.device.sent by
    obtain ⟨hsession, hsent⟩ := hsame
    refine ⟨⟨hmmap, hsession, h.ready, hsent ▸ h.taken_le, hsent ▸ h.events⟩, ?_⟩
    rw [line_of_session hsession, line_of_session h.session, hsent]
  rcases Capture.step_cases (toOption_eq_some.mp hstep) with rfl | ⟨guestAddr, -, rfl⟩ |
    ⟨i, rfl, hi, rfl⟩ | ⟨i, session, rfl, hi, rfl⟩ | ⟨i, call, session, p, rfl, hi, hp, rfl⟩
  · exact ⟨h.session, rfl⟩
  · exact ⟨h.session, rfl⟩
  · have hne : id ≠ i := fun he => by
      rw [← he, h.session] at hi
      cases hi
    exact ⟨(if_neg hne).trans h.session, rfl⟩
  · have hne : id ≠ i := fun he => by simp [Stack.apart, he] at ha
    exact ⟨(if_neg hne).trans h.session, by
      change dequeued id (c.device.closeSession session).sent = _
      rw [closeSession_sent]⟩
  · by_cases hne : i = id
    · subst hne
      obtain rfl := Option.some.inj (h.session.symm.trans hi)
      cases call with
      | mmap flags offset answer =>
          cases hp
          have hcases := doMmap_cases c.device s flags offset answer
          refine ⟨(if_pos rfl).trans ?_, ?_⟩
          · rcases hcases with hd | ⟨b, -, -, rw, hd⟩ <;> rw [Simple.Called.after, hd]
          · change dequeued i (c.device.doMmap s flags offset answer).device.sent = _
            rcases hcases with hd | ⟨b, -, -, rw, hd⟩ <;> rw [hd]
      | _ => simp [Stack.apart] at ha
    · refine ⟨(if_neg (Ne.symm hne)).trans h.session, ?_⟩
      have hsent := call_sentBy hp
      rw [h.mmap.ids i session hi] at hsent
      exact dequeued_of_sentBy hsent (Ne.symm hne)

/-- The dispatcher refuses a command, or the method is called. -/
theorem serve_cases (h : c.sessions id = some s) {request : Option Simple.Call}
    {r : Except Int UInt32 × Capture} (hserve : Capture.serve checks c id request = some r) :
    (request = none ∧ r = (.error einval, c)) ∨
    ∃ call res d' s', request = some call ∧
      CaptureDevice.perform checks c.device s call = .ok (res, d', s') ∧
      r = (res, { c with device := d' }.setSession id (some s')) := by
  unfold Capture.serve at hserve
  rw [h] at hserve
  cases request with
  | none =>
      cases hserve
      exact .inl ⟨rfl, rfl⟩
  | some call =>
      obtain ⟨⟨res, d', s'⟩, hp, rfl⟩ := Option.map_eq_some_iff.mp hserve
      exact .inr ⟨call, res, d', s', rfl, toOption_eq_some.mp hp, rfl⟩

theorem call_of_perform {d d' : CaptureDevice} {s s' : Simple.Session} {call : Simple.Call}
    {res : Except Int UInt32} (h : CaptureDevice.perform checks d s call = .ok (res, d', s')) :
    d.call checks s call = .ok (d', s') := by
  cases call with
  | reqbufs queue memory count memfd =>
      obtain ⟨c, hc, heq⟩ := map_eq_ok.mp h
      cases heq
      exact map_eq_ok.mpr ⟨c, hc, rfl⟩
  | qbuf index io =>
      obtain ⟨c, hc, heq⟩ := map_eq_ok.mp h
      cases heq
      exact map_eq_ok.mpr ⟨c, hc, rfl⟩
  | streamon queue io =>
      obtain ⟨c, hc, heq⟩ := map_eq_ok.mp h
      cases heq
      exact map_eq_ok.mpr ⟨c, hc, rfl⟩
  | streamoff queue =>
      cases h
      rfl
  | mmap flags offset answer =>
      cases h
      rfl

/-- The device keeps the holders of its offsets through a call. -/
theorem Connected.mmap_of_perform (h : Connected id c taken s) {call : Simple.Call}
    {res : Except Int UInt32} {d' : CaptureDevice} {s' : Simple.Session}
    (hp : CaptureDevice.perform checks c.device s call = .ok (res, d', s')) :
    ({ c with device := d' }.setSession id (some s')).MmapInv :=
  h.mmap.call h.session (call_of_perform hp)

/-- A call that changes neither the device nor the session. -/
theorem setSession_same (h : c.sessions id = some s) :
    ({ c with device := c.device }.setSession id (some s) : Capture) = c := by
  cases c with
  | mk device sessions =>
      simp only [Capture.setSession, Capture.mk.injEq, true_and]
      funext i
      split
      · rename_i hi
        rw [hi]
        exact h.symm
      · rfl

/-- STREAMOFF is refused, or it clears the queue. -/
theorem Connected.streamoff (h : Connected id c taken s) {type : UInt32}
    {r : Except Int UInt32 × Capture}
    (hr : Capture.serve checks c id ((QueueType.n type).map .streamoff) = some r) :
    (∃ e, r = (.error e, c) ∧ 0 < e) ∨
    ∃ d' s', r = (.ok 0, { c with device := d' }.setSession id (some s')) ∧ type = 1 ∧
      s'.buffers.length = s.buffers.length ∧ Cleared c.device s d' s' ∧
      ({ c with device := d' }.setSession id (some s')).MmapInv := by
  rcases serve_cases h.session hr with ⟨-, rfl⟩ | ⟨call, res, d', s', hcall, hp, rfl⟩
  · exact .inl ⟨_, rfl, by decide⟩
  · obtain ⟨queue, hqueue, rfl⟩ := Option.map_eq_some_iff.mp hcall
    have hmmap := h.mmap_of_perform hp
    cases hp
    by_cases hne : queue ≠ .videoCapture
    · left
      have hoff : c.device.streamoff s queue = ⟨.error einval, c.device, s⟩ := if_pos hne
      refine ⟨einval, ?_, by decide⟩
      rw [hoff]
      exact congrArg _ (setSession_same h.session)
    · right
      have hoff : c.device.streamoff s queue = ⟨.ok (), c.device, s.stop⟩ := if_neg hne
      obtain ⟨rfl, hcleared⟩ := streamoff_cleared (d := c.device) h.ready
        (by rw [hoff]; rfl : (c.device.streamoff s queue).result.isOk = true)
      rw [hoff] at hcleared hmmap ⊢
      exact ⟨_, _, rfl, (queueCode_of_n hqueue).symm, by simp [Simple.Session.stop], hcleared,
        hmmap⟩

/-- A REQBUFS that the device does not admit is answered with an error and
changes nothing. -/
theorem reqbufs_refused {d : CaptureDevice} {queue : QueueType} {memory : MemoryType}
    {count : UInt32} {memfd : Nat → Option Nat} {a : Simple.Called UInt32}
    (h : d.reqbufs checks s queue memory count memfd = .ok a)
    (hadmits : d.admits s queue memory = false) :
    ∃ e, a = ⟨.error e, d, s⟩ ∧ e ≠ 0 := by
  unfold CaptureDevice.reqbufs at h
  split_ifs at h
  · cases h
    exact ⟨_, rfl, by decide⟩
  · cases h
    exact ⟨_, rfl, by decide⟩
  · cases h
    exact ⟨_, rfl, by decide⟩
  · cases h
    exact ⟨_, rfl, by decide⟩
  all_goals
    cases hactive : d.activeSession <;> simp_all [CaptureDevice.admits]

/-- REQBUFS is refused, or it clears the queue. -/
theorem Connected.reqbufs (h : Connected id c taken s) {b : RequestBuffers} {flagsOk : Bool}
    {memfd : Nat → Option Nat} {r : Except Int UInt32 × Capture}
    (hallocates : ∀ queue memory count memfd',
      reqbufsRequest b flagsOk memfd = some (.reqbufs queue memory count memfd') →
      c.device.admits s queue memory = true →
      ∀ a, c.device.reqbufs checks s queue memory count memfd' = .ok a → a.result.isOk = true)
    (hr : Capture.serve checks c id (reqbufsRequest b flagsOk memfd) = some r) :
    (∃ e, r = (.error e, c) ∧ e ≠ 0) ∨
    ∃ n d' s', r = (.ok n, { c with device := d' }.setSession id (some s')) ∧
      s'.buffers.length = n.toNat ∧ Cleared c.device s d' s' ∧
      ({ c with device := d' }.setSession id (some s')).MmapInv := by
  rcases serve_cases h.session hr with ⟨-, rfl⟩ | ⟨call, res, d', s', hcall, hp, rfl⟩
  · exact .inl ⟨_, rfl, by decide⟩
  · obtain ⟨queue, memory, count, memfd', rfl⟩ : ∃ queue memory count memfd',
        call = .reqbufs queue memory count memfd' := by
      unfold reqbufsRequest at hcall
      split_ifs at hcall
      split at hcall
      · exact ⟨_, _, _, _, (Option.some.inj hcall).symm⟩
      · exact ⟨_, _, _, _, (Option.some.inj hcall).symm⟩
      · cases hcall
    have hmmap := h.mmap_of_perform hp
    obtain ⟨a, ha, heq⟩ := map_eq_ok.mp hp
    cases heq
    cases hadmits : c.device.admits s queue memory with
    | false =>
        obtain ⟨e, rfl, he⟩ := reqbufs_refused ha hadmits
        exact .inl ⟨e, congrArg _ (setSession_same h.session), he⟩
    | true =>
        right
        have hok := hallocates queue memory count memfd' hcall hadmits a ha
        cases hres : a.result with
        | error e =>
            rw [hres] at hok
            cases hok
        | ok n =>
            obtain ⟨-, hlength, hcleared⟩ := reqbufs_cleared ha hres
            exact ⟨n, a.device, a.session, rfl, hlength, hcleared, hmmap⟩

end Device

/-! ### Both sides -/

namespace CaptureStack

/-- The two sides agree on where the buffers are. -/
structure Inv (id : UInt32) (st : CaptureStack) (s : Simple.Session) : Prop where
  driver : MachineInv st.driver
  others : ∀ t, t ≠ 1 → (st.driver.session.queues t).buffers = []
  connected : Connected id st.capture st.taken s
  length : st.queue.buffers.length ≤ s.buffers.length
  driven : Driven st.queue (st.away id)
  nodup : (st.away id).Nodup
  command : (st.driver.inFlight.map fun fl => (fl.queue, fl.slot)) =
    st.command.map fun c => (1, c.index.toNat)

/-- The step does to the outstanding buffers what its label says. -/
def Matched (cfg : Driver.Config) (checks : Bool) (id : UInt32) (st : CaptureStack)
    (a : StackAction) (st' : CaptureStack) : Prop :=
  Trace.run Fifo.step (st.outstanding id) (st.label cfg checks id a) =
      some (st'.outstanding id) ∧
    ∃ s', Inv id st' s'

section Step

variable {cfg : Driver.Config} {checks : Bool} {id : UInt32} {st st' : CaptureStack}
  {s : Simple.Session}

theorem Inv.accounted (h : Inv id st s) : Accounted st.queue := h.driver.queues 1

/-- Only the capture queue has slots. -/
theorem Inv.eq_one_of_slot (h : Inv id st s) {t : Fin numQueues} {i : Nat} {b : MediaBuffer}
    (hb : (st.driver.session.queues t).buffers[i]? = some b) : t = 1 := by
  by_contra ht
  rw [h.others t ht] at hb
  cases hb

/-- A slot that was given away is the device's in the driver, too. -/
theorem Inv.slot_of_away (h : Inv id st s) {i : Nat} (hi : i ∈ st.away id) :
    ∃ b, st.queue.buffers[i]? = some b ∧ b.onDevice = true := by
  simpa [QueueState.owns, Option.any_eq_true] using (h.driven.owns i).mpr hi

/-- What was given away is not pending. -/
theorem Inv.not_pending (h : Inv id st s) {i : Nat} (hi : i ∈ st.away id) :
    i ∉ st.queue.pendingDqbufs := by
  obtain ⟨b, hb, hon⟩ := h.slot_of_away hi
  exact not_pending_of_slot h.accounted hb (done_false_of_onDevice hon)

/-- No QBUF is in flight where no command is outstanding. -/
theorem Inv.idle_of_command (h : Inv id st s) (hc : st.command = none) :
    st.driver.inFlight = none := by
  have := h.command
  rw [hc] at this
  exact Option.map_eq_none_iff.mp this

theorem Inv.command_of_idle (h : Inv id st s) (hc : st.driver.inFlight = none) :
    st.command = none := by
  have := h.command
  rw [hc] at this
  exact Option.map_eq_none_iff.mp this.symm

/-- The queue of the driver changes, and no buffer changes hands. -/
theorem Inv.of_driver (h : Inv id st s) {d : Machine} (command : Option QbufCommand)
    (hd : MachineInv d) (hothers : ∀ t, t ≠ 1 → (d.session.queues t).buffers = [])
    (hlength : (d.session.queues 1).buffers.length = st.queue.buffers.length)
    (haway : line id st.capture st.taken ++ command.elim [] QbufCommand.offered = st.away id)
    (hdriven : Driven (d.session.queues 1) (st.away id))
    (hcommand : (d.inFlight.map fun fl => (fl.queue, fl.slot)) =
      command.map fun c => (1, c.index.toNat)) :
    Inv id { st with driver := d, command } s where
  driver := hd
  others := hothers
  connected := h.connected
  length := hlength.trans_le h.length
  driven := by
    change Driven _ (line id st.capture st.taken ++ command.elim [] QbufCommand.offered)
    rw [haway]
    exact hdriven
  nodup := by
    change (line id st.capture st.taken ++ command.elim [] QbufCommand.offered).Nodup
    rw [haway]
    exact h.nodup
  command := hcommand

/-- QBUF up to its command: the slot is pushed on the line when the device takes
it. -/
theorem Inv.qbufSubmit (h : Inv id st s) {req : BufferReq} {ans : Nat → PlaneAnswers}
    (hstep : st.step cfg checks id (.qbufSubmit req ans) = some st') :
    Matched cfg checks id st (.qbufSubmit req ans) st' := by
  obtain ⟨d, hd, rfl⟩ := Option.map_eq_some_iff.mp hstep
  have hinv := h.driver.step hd
  obtain ⟨hidle, rfl⟩ := Machine.step_qbufSubmit hd
  have hcommand := h.command_of_idle hidle
  have haway : st.away id = line id st.capture st.taken := by
    rw [away, hcommand]
    exact List.append_nil _
  rcases qbufSubmit_cases cfg st.driver.session req ans with
    ⟨e, hq⟩ | ⟨e, t, b, b', hc, hf, hq⟩ | ⟨t, b, b', hc, hq⟩ <;>
    simp only [hq, Except.toOption, Option.map_none, Option.map_some] at hinv ⊢
  · exact ⟨rfl, s, h.of_driver none hinv h.others rfl (by simp [haway]) h.driven rfl⟩
  · obtain ⟨hb, hidle, -⟩ := idle_of_qbufCheck hc
    obtain rfl := h.eq_one_of_slot hb
    have hnot := not_pending_of_slot h.accounted hb hidle.2
    have hidle' : b'.onDevice = false := (onDevice_congr hf).trans hidle.1
    have hlent : req.buffer.index.toNat ∉ st.away id := fun hi => by
      obtain ⟨c, hc, hon⟩ := h.slot_of_away hi
      obtain rfl := Option.some.inj (hb.symm.trans hc)
      rw [hidle.1] at hon
      cases hon
    have hdriven := h.driven.setBuffer hb b' hnot (st.away id)
      (by simp [hidle', hlent]) (fun _ _ => Iff.rfl)
    refine ⟨?_, s, h.of_driver none hinv (fun t ht => ?_) ?_ (by simp [haway]) ?_ rfl⟩
    · simp [label, Trace.run, outstanding, queue, QueueState.setBuffer]
    · simp only [Session.setQueue_queues_ne _ ht]
      exact h.others t ht
    · simp [queue, QueueState.setBuffer]
    · simpa [queue] using hdriven
  · obtain ⟨hb, hidle, -⟩ := idle_of_qbufCheck hc
    obtain rfl := h.eq_one_of_slot hb
    obtain ⟨hdriven, hnot⟩ := h.driven.enqueue h.accounted hb hidle b'
    rw [haway] at hdriven hnot
    refine ⟨?_, s, hinv, fun t ht => ?_, h.connected, ?_, ?_, ?_, rfl⟩
    · simp [label, Trace.run, outstanding, queue, enqueueSlot, QueueState.setBuffer,
        QueueState.incQueued]
    · simp only [Session.setQueue_queues_ne _ ht]
      exact h.others t ht
    · simpa [queue, enqueueSlot, QueueState.setBuffer, QueueState.incQueued] using h.length
    · simpa [queue, away, QbufCommand.offered] using hdriven
    · have hnodup := haway ▸ h.nodup
      simpa [away, QbufCommand.offered, List.nodup_append] using
        ⟨hnodup, fun a ha he => hnot (he ▸ ha)⟩

/-- The slot of a command that was sent. -/
theorem Inv.sent (h : Inv id st s) {i : UInt32} (hc : st.command = some (.sent i)) :
    st.away id = line id st.capture st.taken ++ [i.toNat] ∧
      i.toNat ∉ line id st.capture st.taken ∧ i.toNat < s.buffers.length := by
  have haway : st.away id = line id st.capture st.taken ++ [i.toNat] := by rw [away, hc]; rfl
  refine ⟨haway, ?_, ?_⟩
  · have hnodup := haway ▸ h.nodup
    exact fun hi => (List.nodup_append.mp hnodup).2.2 _ hi _ (List.mem_singleton_self _) rfl
  · obtain ⟨b, hb, -⟩ := h.slot_of_away (i := i.toNat) (by simp [haway])
    exact (lt_length_of_slot hb).trans_le h.length

/-- The checks of the driver are enough for those of the device. -/
theorem Inv.accepts (h : Inv id st s) {i : UInt32} (hc : st.command = some (.sent i))
    {io : Nat → Bool} (hio : ∀ fd, io fd = true) {r : Except Int UInt32 × Capture}
    (hr : Capture.serve checks st.capture id (some (.qbuf i io)) = some r) :
    r.1 = .ok 0 ∧ ∃ s', Connected id r.2 st.taken s' ∧
      line id r.2 st.taken = line id st.capture st.taken ++ [i.toNat] ∧
      s'.buffers.length = s.buffers.length := by
  obtain ⟨-, hnot, hlt⟩ := h.sent hc
  rcases serve_cases h.connected.session hr with ⟨hnone, -⟩ | ⟨call, res, d', s', hcall, hp, rfl⟩
  · cases hnone
  · cases hcall
    have hmmap := h.connected.mmap_of_perform hp
    obtain ⟨c, hq, heq⟩ := map_eq_ok.mp hp
    cases heq
    have hfree : i.toNat ∉ s.queuedBuffers := fun hi => hnot (by
      rw [line_of_session h.connected.session]
      exact List.mem_append_right _ hi)
    obtain ⟨hok, hpasses⟩ := qbuf_passes hio h.connected.ready hlt hfree hq
    obtain ⟨hconnected, hline⟩ := h.connected.passes hpasses hmmap
    refine ⟨?_, c.session, hconnected, hline, hpasses.length⟩
    cases hres : c.result with
    | error e =>
        rw [hres] at hok
        cases hok
    | ok v => rfl

/-- The device takes the outstanding buffer. -/
theorem Inv.serve (h : Inv id st s) {io : Option (Nat → Bool)}
    (hio : (StackAction.serve io).WritesFrames)
    (hstep : st.step cfg checks id (.serve io) = some st') :
    Matched cfg checks id st (.serve io) st' := by
  simp only [CaptureStack.step] at hstep
  split at hstep
  · rename_i i hc
    obtain ⟨r, hr, rfl⟩ := Option.map_eq_some_iff.mp hstep
    have hserved := hr
    simp only [served, hc] at hserved
    obtain ⟨haway, hnot, -⟩ := h.sent hc
    have hcommand : (st.driver.inFlight.map fun fl => (fl.queue, fl.slot)) =
        some (1, i.toNat) := by rw [h.command, hc]; rfl
    cases io with
    | none =>
        rcases serve_cases h.connected.session hserved with ⟨-, rfl⟩ | ⟨_, _, _, _, hcall, -⟩
        · refine ⟨by simp [label, hc, hr, Trace.run, outstanding, queue], s, h.driver, h.others,
            h.connected, h.length, ?_, ?_, hcommand⟩
          · simpa [away, hc, queue, QbufCommand.offered, returned, einval] using h.driven
          · simpa [away, hc, QbufCommand.offered, returned, einval] using h.nodup
        · cases hcall
    | some io =>
        obtain ⟨hok, s', hconnected, hline, hlength⟩ := h.accepts hc hio hserved
        have hpush : i.toNat ∉ st.outstanding id := by
          intro hi
          rcases List.mem_append.mp hi with hi | hi
          · exact h.not_pending (i := i.toNat) (by simp [haway]) hi
          · exact hnot hi
        have haway' : line id r.2 st.taken ++
            (some (QbufCommand.answered i (returned r.1))).elim [] QbufCommand.offered =
              st.away id := by
          rw [hline, haway, hok]
          simp [QbufCommand.offered, returned]
        refine ⟨?_, s', h.driver, h.others, hconnected, h.length.trans hlength.ge, ?_, ?_,
          hcommand⟩
        · obtain ⟨res, c⟩ := r
          cases hok
          simp only [label, hc, hr, Trace.run, Fifo.step_push hpush, Option.bind_some,
            Option.some.injEq]
          simp [outstanding, queue, hline]
        · change Driven st.queue (line id r.2 st.taken ++ _)
          rw [haway']
          exact h.driven
        · change (line id r.2 st.taken ++ _).Nodup
          rw [haway']
          exact h.nodup
  · cases hstep

/-- The driver reads what the device answered. -/
theorem Inv.qbufReply (h : Inv id st s)
    (hstep : st.step cfg checks id .qbufReply = some st') :
    Matched cfg checks id st .qbufReply st' := by
  simp only [CaptureStack.step] at hstep
  split at hstep
  · rename_i i ret hc
    simp only [drive, Option.map_map, Option.map_eq_some_iff] at hstep
    obtain ⟨d, hd, rfl⟩ := hstep
    have hinv := h.driver.step hd
    obtain ⟨fl, hfl, rfl⟩ := Machine.step_qbufReply hd
    have hcommand := h.command
    rw [hfl, hc, Option.map_some, Option.map_some, Option.some.injEq, Prod.mk.injEq] at hcommand
    obtain ⟨hqueue, hslot⟩ := hcommand
    change fl.slot = i.toNat at hslot
    by_cases hret : ret = 0
    · have hreply : Driver.qbufReply st.driver.session fl ret = (0, st.driver.session) := by
        simp [Driver.qbufReply, hret]
      have haway : st.away id = line id st.capture st.taken ++ [] := by
        rw [away, hc]
        simp [QbufCommand.offered, hret]
      rw [hreply] at hinv
      refine ⟨by simp [label, Trace.run, outstanding, queue, hreply], s, ?_⟩
      simp only [Function.comp_apply, hreply]
      exact h.of_driver none hinv h.others rfl haway.symm h.driven rfl
    · have hreply : Driver.qbufReply st.driver.session fl ret =
          (ret, st.driver.session.setQueue 1 (failQbuf st.queue fl)) := by
        simp [Driver.qbufReply, hret, hqueue, queue]
      have haway : st.away id = line id st.capture st.taken ++ [i.toNat] := by
        rw [away, hc]
        simp [QbufCommand.offered, hret]
      have hnodup := haway ▸ h.nodup
      have hnot : i.toNat ∉ line id st.capture st.taken := fun hi =>
        (List.nodup_append.mp hnodup).2.2 _ hi _ (List.mem_singleton_self _) rfl
      obtain ⟨hdriven, hpending, hlength⟩ := Driven.fail (haway ▸ h.driven) hnot h.accounted hslot
        (by simpa [queue, hqueue] using h.driver.inFlight fl hfl)
      rw [hreply] at hinv
      refine ⟨by simp [label, Trace.run, outstanding, hreply, hpending], s, ?_⟩
      simp only [Function.comp_apply, hreply]
      refine ⟨hinv, fun t ht => ?_, h.connected, ?_, ?_, ?_, rfl⟩
      · simp only [Session.setQueue_queues_ne _ ht]
        exact h.others t ht
      · simpa [hlength] using h.length
      · simpa [away] using hdriven
      · simpa [away] using (List.nodup_append.mp hnodup).1
  · cases hstep

/-- The oldest event is accepted, and its slot goes on the pending list. -/
theorem Inv.head (h : Inv id st s) {v : DecoderV4l2Buffer} {rest : List DecoderV4l2Buffer}
    (hv : st.inFlight id = v :: rest) (cfg : Driver.Config) (nowNs : Nat) :
    let ev := dqbufEvent v nowNs
    let l := rest.map slotOf ++ s.queuedBuffers ++ st.command.elim [] QbufCommand.offered
    OfCapture v ∧ st.away id = slotOf v :: l ∧
    st.queue.accepts ev.buffer.type ev = true ∧
      (st.queue.processDqbuf cfg ev.buffer.type ev).pendingDqbufs =
        st.queue.pendingDqbufs ++ [slotOf v] ∧
      Driven (st.queue.processDqbuf cfg ev.buffer.type ev) l := by
  intro ev l
  have hdrop : (dequeued id st.capture.device.sent).drop st.taken = v :: rest := hv
  have hof : OfCapture v := h.connected.events v (by simp [hdrop])
  have haway : st.away id = slotOf v :: l := by
    rw [away, line_of_session h.connected.session, hdrop]
    simp [l]
  have hnot : slotOf v ∉ l := (List.nodup_cons.mp (haway ▸ h.nodup)).1
  exact ⟨hof, haway, Driven.complete (haway ▸ h.driven) hnot hof cfg nowNs⟩

/-- The oldest event is taken: its buffer leaves the line. -/
theorem Inv.deliver (h : Inv id st s) {nowNs : Nat}
    (hstep : st.step cfg checks id (.deliver nowNs) = some st') :
    Matched cfg checks id st (.deliver nowNs) st' := by
  simp only [CaptureStack.step] at hstep
  split at hstep
  · cases hstep
  · rename_i v rest hv
    simp only [drive, Option.map_map, Option.map_eq_some_iff] at hstep
    obtain ⟨d, hd, rfl⟩ := hstep
    have hinv := h.driver.step hd
    cases hd
    obtain ⟨hof, haway, -, hpending, hdriven⟩ := h.head hv cfg nowNs
    have hdrop : (dequeued id st.capture.device.sent).drop st.taken = v :: rest := hv
    have hrest : (dequeued id st.capture.device.sent).drop (st.taken + 1) = rest := by
      rw [← List.tail_drop, hdrop]
      rfl
    have hline : line id st.capture (st.taken + 1) = rest.map slotOf ++ s.queuedBuffers := by
      rw [line_of_session h.connected.session, hrest]
    have hprocess : processDqbufEvent cfg st.driver.session (dqbufEvent v nowNs) =
        st.driver.session.setQueue 1
          (st.queue.processDqbuf cfg (dqbufEvent v nowNs).buffer.type (dqbufEvent v nowNs)) := by
      have hindex : queueIndex (dqbufEvent v nowNs).buffer.type = some 1 := by
        change queueIndex (queueCode v.queue) = some 1
        rw [hof.1]
        rfl
      simp only [processDqbufEvent, hindex]
      rfl
    have hlength := processDqbufEvent_length cfg st.driver.session (dqbufEvent v nowNs) 1
    refine ⟨?_, s, hinv, fun t ht => ?_, ⟨h.connected.mmap, h.connected.session,
      h.connected.ready, ?_, ?_⟩, ?_, ?_, ?_, h.command⟩
    · simp only [label, Trace.run, outstanding, Function.comp_apply, hline, hprocess,
        queue_setQueue, hpending, Option.some.injEq]
      rw [line_of_session h.connected.session, hdrop]
      simp
    · simp only [Function.comp_apply, hprocess, Session.setQueue_queues_ne _ ht]
      exact h.others t ht
    · have hlt : st.taken < (dequeued id st.capture.device.sent).length := by
        by_contra hge
        rw [List.drop_eq_nil_of_le (by omega)] at hdrop
        cases hdrop
      exact hlt
    · intro w hw
      refine h.connected.events w ?_
      change w ∈ (dequeued id st.capture.device.sent).drop (st.taken + 1) at hw
      rw [hrest] at hw
      rw [hdrop]
      exact List.mem_cons_of_mem _ hw
    · exact hlength.trans_le h.length
    · simp only [Function.comp_apply, hprocess, queue_setQueue, away, hline]
      exact hdriven
    · simp only [away, Function.comp_apply, hline]
      exact (List.nodup_cons.mp (haway ▸ h.nodup)).2

theorem dqbufResult_index (req : BufferReq) (b : MediaBuffer) :
    (dqbufResult req b).buffer.index = b.buffer.index := by
  unfold dqbufResult
  split <;> rfl

/-- DQBUF tells its caller of the oldest outstanding buffer. -/
theorem Inv.pop (h : Inv id st s) {t : Fin numQueues} {req res : BufferReq}
    {session : Driver.Session} (hpop : dqbufPop st.driver.session t req = some (res, session)) :
    ∃ i rest q, st.queue.pendingDqbufs = i :: rest ∧ res.buffer.index.toNat = i ∧
      session = st.driver.session.setQueue 1 q ∧ q.pendingDqbufs = rest ∧
      q.buffers.length = st.queue.buffers.length ∧ Driven q (st.away id) := by
  simp only [dqbufPop] at hpop
  split at hpop
  · cases hpop
  · rename_i i rest hp
    split at hpop
    · cases hpop
    · rename_i b hb
      cases hpop
      obtain rfl := h.eq_one_of_slot hb
      have hmem : i ∈ st.queue.pendingDqbufs := by
        rw [queue, hp]
        exact List.mem_cons_self
      have hindex : b.buffer.index.toNat = i := h.driven.indices i hmem b hb
      refine ⟨i, rest, _, hp, ?_, rfl, rfl, by simp [QueueState.setBuffer, queue], ?_⟩
      · rw [dqbufResult_index]
        exact hindex
      · have hnot : i ∉ rest := (List.nodup_cons.mp (hp ▸ h.accounted.nodup)).1
        have haway : i ∉ st.away id := fun hi => h.not_pending hi hmem
        refine ⟨fun _ => h.driven.memory_of_slot hb, fun j => ?_, fun j hj c hc => ?_⟩
        · refine Iff.trans (Eq.congr_left (owns_setBuffer hb _ j)) ?_
          split
          · rename_i hj
            simp [hj, (dequeuedSlot_idle b).1, haway]
          · exact h.driven.owns j
        · have hne : i ≠ j := fun he => hnot (he ▸ hj)
          refine h.driven.indices j ?_ c ?_
          · rw [queue, hp]
            exact List.mem_cons_of_mem _ hj
          · change (List.set _ i _)[j]? = some c at hc
            rwa [List.getElem?_set_ne hne] at hc

/-- DQBUF gives the caller what came off the line first. -/
theorem Inv.dqbuf (h : Inv id st s) {req : BufferReq}
    (hstep : st.step cfg checks id (.dqbuf req) = some st') :
    Matched cfg checks id st (.dqbuf req) st' := by
  simp only [CaptureStack.step, drive, Option.map_eq_some_iff] at hstep
  obtain ⟨d, hd, rfl⟩ := hstep
  have hinv := h.driver.step hd
  obtain ⟨hidle, hd⟩ := idle_of_guard hd
  have hcommand := h.command_of_idle hidle
  cases hc : dqbufCheck st.driver.session req.buffer.type with
  | error e =>
      rw [hc] at hd
      cases hd
      exact ⟨by simp [label, hc, Trace.run], s, h⟩
  | ok t =>
      rw [hc] at hd
      obtain ⟨⟨res, session⟩, hpop, rfl⟩ := Option.map_eq_some_iff.mp hd
      obtain ⟨i, rest, q, hpending, hindex, rfl, hrest, hlength, hdriven⟩ := h.pop hpop
      refine ⟨?_, s, ?_⟩
      · simp only [label, hc, hpop, Option.elim_some, hindex, Trace.run, outstanding, hpending,
          List.cons_append, Fifo.step_pop, Option.bind_some, queue_setQueue, hrest]
      · have haway : st.away id = line id st.capture st.taken := by
          rw [away, hcommand]
          exact List.append_nil _
        have hnew := h.of_driver st.command hinv (fun t ht => ?_) ?_ rfl ?_ h.command
        · exact hnew
        · simp only [Session.setQueue_queues_ne _ ht]
          exact h.others t ht
        · simp [hlength]
        · simpa using hdriven

/-- The driver refuses an ioctl, or it handles what the device answered. -/
theorem ioctl_cases {a : StackAction}
    {handle : Except Int UInt32 → CaptureStack → Option CaptureStack}
    (h : st.ioctl cfg checks id a handle = some st') :
    st.command = none ∧
      ((st.refuses cfg a = true ∧ st' = st) ∨
        (st.refuses cfg a = false ∧ ∃ r, st.served checks id a = some r ∧
          handle r.1 { st with capture := r.2 } = some st')) := by
  obtain ⟨hcommand, h⟩ := idle_of_guard h
  refine ⟨hcommand, ?_⟩
  split at h
  · rename_i hrefuses
    cases h
    exact .inl ⟨hrefuses, rfl⟩
  · rename_i hrefuses
    obtain ⟨r, hr, hhandle⟩ := Option.bind_eq_some_iff.mp h
    exact .inr ⟨by simpa using hrefuses, r, hr, hhandle⟩

/-- STREAMON sets a flag of the queue. -/
theorem streamon_queues (session : Driver.Session) (type : UInt32) (ret : Int)
    (t : Fin numQueues) :
    ∃ streaming, (Driver.streamon session type ret).2.queues t =
      { session.queues t with streaming } := by
  unfold Driver.streamon
  split
  · exact ⟨_, rfl⟩
  · split
    · exact ⟨_, rfl⟩
    · split
      · exact ⟨_, rfl⟩
      · rename_i u _ _ _
        by_cases ht : t = u
        · subst ht
          exact ⟨true, Session.setQueue_queues_self _ _ _⟩
        · exact ⟨(session.queues t).streaming, by rw [Session.setQueue_queues_ne _ ht]⟩

/-- STREAMON on both sides. -/
theorem Inv.streamon (h : Inv id st s) {type : UInt32} {io : Nat → Bool}
    (hio : (StackAction.streamon type io).WritesFrames)
    (hstep : st.step cfg checks id (.streamon type io) = some st') :
    Matched cfg checks id st (.streamon type io) st' := by
  simp only [CaptureStack.step] at hstep
  obtain ⟨hcommand, ⟨hrefuses, rfl⟩ | ⟨hrefuses, r, hr, hhandle⟩⟩ := ioctl_cases hstep
  · exact ⟨rfl, s, h⟩
  · obtain ⟨d, hd, rfl⟩ := Option.map_eq_some_iff.mp hhandle
    have hinv := h.driver.step hd
    obtain ⟨hidle, rfl⟩ := Machine.step_streamon hd
    obtain ⟨s', hconnected, hline, hlength⟩ : ∃ s', Connected id r.2 st.taken s' ∧
        line id r.2 st.taken = line id st.capture st.taken ∧
        s'.buffers.length = s.buffers.length := by
      rcases serve_cases h.connected.session hr with
        ⟨-, rfl⟩ | ⟨call, res, d', s', hcall, hp, rfl⟩
      · exact ⟨s, h.connected, rfl, rfl⟩
      · have hmmap := h.connected.mmap_of_perform hp
        obtain ⟨queue, -, rfl⟩ := Option.map_eq_some_iff.mp hcall
        obtain ⟨c, hon, heq⟩ := map_eq_ok.mp hp
        cases heq
        have hpasses := streamon_passes hio h.connected.ready hon
        obtain ⟨hconnected, hline⟩ := h.connected.passes hpasses hmmap
        exact ⟨c.session, hconnected, by rw [hline, List.append_nil], hpasses.length⟩
    obtain ⟨streaming, hqueue⟩ :=
      streamon_queues st.driver.session type (returned r.1) 1
    have haway : st.away id = line id st.capture st.taken := by
      rw [away, hcommand]
      exact List.append_nil _
    refine ⟨?_, s', hinv, fun t ht => ?_, hconnected, ?_, ?_, ?_, ?_⟩
    · simp only [label, Trace.run, outstanding, queue, hqueue, hline]
    · obtain ⟨_, hother⟩ := streamon_queues st.driver.session type (returned r.1) t
      simp only [hother]
      exact h.others t ht
    · simp only [queue, hqueue]
      exact h.length.trans hlength.ge
    · simp only [queue, hqueue, away, hline]
      exact h.driven.frame rfl rfl rfl
    · simp only [away, hline]
      exact h.nodup
    · simp [hcommand]

/-- A command for another session does not touch the line of this one. -/
theorem Inv.device (h : Inv id st s) {a : Simple.Action}
    (hstep : st.step cfg checks id (.device a) = some st') :
    Matched cfg checks id st (.device a) st' := by
  simp only [CaptureStack.step] at hstep
  split at hstep
  · rename_i ha
    obtain ⟨c, hc, rfl⟩ := Option.map_eq_some_iff.mp hstep
    obtain ⟨hconnected, hline⟩ := h.connected.apart ha hc
    refine ⟨?_, s, h.driver, h.others, hconnected, h.length, ?_, ?_, h.command⟩
    · simp only [label, Trace.run, outstanding, hline]
      rfl
    · simp only [away, hline]
      exact h.driven
    · simp only [away, hline]
      exact h.nodup
  · cases hstep

/-- The queues other than the capture queue stay empty. -/
theorem Inv.others_processEvents (h : Inv id st s) (evs : List DqbufEvent) {t : Fin numQueues}
    (ht : t ≠ 1) : ((processEvents cfg st.driver.session evs).queues t).buffers = [] := by
  apply List.eq_nil_of_length_eq_zero
  rw [processEvents_length, h.others t ht]
  rfl

/-- The answer to an ioctl is an error, and neither side has changed. -/
theorem Inv.refused (h : Inv id st s) {a : StackAction} {d : Machine}
    (hd : d = ⟨st.driver.session, none⟩) (hcommand : st.command = none)
    (hlabel : st.label cfg checks id a = []) :
    Matched cfg checks id st a { st with driver := d } := by
  have hdriver : d = st.driver := by
    rw [hd, ← h.idle_of_command hcommand]
  rw [hdriver]
  exact ⟨by rw [hlabel]; rfl, s, h⟩

/-- Both sides have cleared the queue. -/
theorem cleared {a : StackAction} {d' : CaptureDevice} {s' : Simple.Session}
    (hcleared : Cleared st.capture.device s d' s')
    (hmmap : ({ st.capture with device := d' }.setSession id (some s')).MmapInv)
    {session : Driver.Session} (hinv : MachineInv ⟨session, none⟩)
    (hothers : ∀ t, t ≠ 1 → (session.queues t).buffers = [])
    (hlength : (session.queues 1).buffers.length ≤ s'.buffers.length)
    (hpending : (session.queues 1).pendingDqbufs = []) (hdriven : Driven (session.queues 1) [])
    (hcommand : st.command = none) (hlabel : st.label cfg checks id a = [.clear]) :
    Matched cfg checks id st a
      (drain { st with
        capture := { st.capture with device := d' }.setSession id (some s')
        driver := ⟨session, none⟩ } id) := by
  obtain ⟨hconnected, hline⟩ := hcleared.connected hmmap
  refine ⟨?_, s', hinv, hothers, hconnected, hlength, ?_, ?_, ?_⟩
  · rw [hlabel]
    simp only [Trace.run, Fifo.step_clear, Option.bind_some, drain, outstanding, queue, hpending,
      hline]
    rfl
  · simp only [drain, away, hline, hcommand]
    exact hdriven
  · simp only [drain, away, hline, hcommand]
    exact List.nodup_nil
  · simp [drain, hcommand]

/-- What is left after an ioctl that drains the event queue. -/
theorem drainAfter_cases {r : Except Int UInt32} {a : Driver.Action}
    (h : st.drainAfter cfg id r a = some st') :
    ∃ d, st.driver.step cfg a = some d ∧
      st' =
        if returned r = 0 then drain { st with driver := d } id else { st with driver := d } := by
  obtain ⟨st₁, hdrive, rfl⟩ := Option.map_eq_some_iff.mp h
  obtain ⟨d, hd, rfl⟩ := Option.map_eq_some_iff.mp hdrive
  exact ⟨d, hd, rfl⟩

/-- STREAMOFF empties the line on both sides. -/
theorem Inv.streamoff (h : Inv id st s) {type : UInt32} {now : Nat → Nat}
    (hstep : st.step cfg checks id (.streamoff type now) = some st') :
    Matched cfg checks id st (.streamoff type now) st' := by
  simp only [CaptureStack.step] at hstep
  obtain ⟨hcommand, ⟨hrefuses, rfl⟩ | ⟨hrefuses, r, hr, hhandle⟩⟩ := ioctl_cases hstep
  · refine ⟨?_, s, h⟩
    simp only [label, hrefuses, if_true]
    rfl
  · obtain ⟨d, hd, rfl⟩ := drainAfter_cases hhandle
    have hinv := h.driver.step hd
    obtain ⟨-, rfl⟩ := Machine.step_streamoff hd
    obtain ⟨t, ht⟩ : ∃ t, queueIndex type = some t := by
      refine Option.ne_none_iff_exists'.mp fun hnone => ?_
      simp [refuses, hnone] at hrefuses
    rcases h.connected.streamoff hr with
      ⟨e, rfl, he⟩ | ⟨d', s', rfl, htype, hlength, hcleared, hmmap⟩
    · have hneg : returned (.error e : Except Int UInt32) < 0 := by simp [returned, he]
      rw [if_neg (ne_of_lt hneg)]
      refine h.refused ?_ hcommand (by simp [label, hrefuses, hr])
      simp [Driver.streamoff, ht, hneg]
    · obtain rfl : t = 1 := by
        rw [htype] at ht
        exact (Option.some.inj ht).symm
      have hzero : returned (.ok 0 : Except Int UInt32) = 0 := rfl
      rw [if_pos hzero]
      set evs := drained { st with
        capture := { st.capture with device := d' }.setSession id (some s') } id now
      have hoff : (Driver.streamoff cfg st.driver.session type
          (returned (.ok 0 : Except Int UInt32)) evs).2 =
          (processEvents cfg st.driver.session evs).setQueue 1
            (clearQueue ((processEvents cfg st.driver.session evs).queues 1)) := by
        simp [Driver.streamoff, ht, returned]
      have hslots := processEvents_length cfg st.driver.session evs 1
      rw [hoff] at hinv ⊢
      refine cleared hcleared hmmap hinv (fun t ht => ?_) ?_ ?_ ?_ hcommand
        (by simp [label, hrefuses, hr])
      · rw [Session.setQueue_queues_ne _ ht]
        exact h.others_processEvents evs ht
      · rw [Session.setQueue_queues_self, clearQueue, List.length_map, hslots, hlength]
        exact h.length
      · rw [Session.setQueue_queues_self]
        rfl
      · rw [Session.setQueue_queues_self]
        refine Driven.clear fun hne => ?_
        rw [processEvents_memory]
        exact h.driven.memory fun hnil => hne (List.eq_nil_of_length_eq_zero (by
          rw [hslots]
          exact List.length_eq_zero_iff.mpr hnil))

/-- REQBUFS starts an empty line with new buffers. -/
theorem Inv.reqbufs (h : Inv id st s) {b : RequestBuffers} {flagsOk : Bool}
    {memfd : Nat → Option Nat} {vzallocOk : Bool} {now : Nat → Nat}
    (hallocates : st.allocates checks id (.reqbufs b flagsOk memfd vzallocOk now) = true)
    (hstep : st.step cfg checks id (.reqbufs b flagsOk memfd vzallocOk now) = some st') :
    Matched cfg checks id st (.reqbufs b flagsOk memfd vzallocOk now) st' := by
  simp only [CaptureStack.step] at hstep
  obtain ⟨hcommand, ⟨hrefuses, rfl⟩ | ⟨hrefuses, r, hr, hhandle⟩⟩ := ioctl_cases hstep
  · refine ⟨?_, s, h⟩
    simp only [label, hrefuses, if_true]
    rfl
  · obtain ⟨d, hd, rfl⟩ := drainAfter_cases hhandle
    have hinv := h.driver.step hd
    obtain ⟨-, p, hp, rfl⟩ := Machine.step_reqbufs hd
    have hcases := reqbufs_cases hp
    have hcheck : (reqbufsCheck cfg st.driver.session b != 0) = false := hrefuses
    have hdevice := h.connected.reqbufs (fun queue memory count memfd' hreq hadmits a ha => by
      simpa [allocates, h.connected.session, hreq, hadmits, ha, Except.toOption] using
        hallocates) hr
    rcases hdevice with ⟨e, rfl, he⟩ | ⟨n, d', s', rfl, hlength, hcleared, hmmap⟩
    · have hret : returned (.error e : Except Int UInt32) ≠ 0 := by simpa [returned] using he
      rw [if_neg hret]
      refine h.refused ?_ hcommand (by simp [label, hrefuses, hr])
      rcases hcases with ⟨-, hsame⟩ | ⟨hfalse, -⟩
      · exact congrArg (Machine.mk · none) hsame
      · simp [hret] at hfalse
    · have hzero : returned (.ok n : Except Int UInt32) = 0 := rfl
      rw [if_pos hzero]
      rcases hcases with ⟨htrue, -⟩ | ⟨-, t, m, ht, hsession⟩
      · simp [hcheck, returned] at htrue
      · obtain rfl : t = 1 := (Option.some.inj ht).symm
        have hqueues := congrArg Driver.Session.queues hsession
        change p.2.2.queues = (Session.setQueue _ 1 _).queues at hqueues
        refine cleared hcleared hmmap hinv (fun t ht => ?_) ?_ ?_ ?_ hcommand
          (by simp [label, hrefuses, hr])
        · rw [hqueues, Session.setQueue_queues_ne _ ht]
          exact h.others_processEvents _ ht
        · rw [hqueues, Session.setQueue_queues_self, hlength]
          simp only [reallocQueue]
          split
          · exact (List.length_replicate).le
          · exact Nat.zero_le _
        · rw [hqueues, Session.setQueue_queues_self]
          rfl
        · rw [hqueues, Session.setQueue_queues_self]
          exact Driven.realloc rfl _

/-- Every action moves the FIFO by its label. -/
theorem Inv.step (h : Inv id st s) {a : StackAction} (hwrites : a.WritesFrames)
    (hallocates : st.allocates checks id a = true) (hstep : st.step cfg checks id a = some st') :
    Matched cfg checks id st a st' := by
  cases a with
  | qbufSubmit req ans => exact h.qbufSubmit hstep
  | serve io => exact h.serve hwrites hstep
  | qbufReply => exact h.qbufReply hstep
  | deliver nowNs => exact h.deliver hstep
  | dqbuf req => exact h.dqbuf hstep
  | streamon type io => exact h.streamon hwrites hstep
  | streamoff type now => exact h.streamoff hstep
  | reqbufs b flagsOk memfd vzallocOk now => exact h.reqbufs hallocates hstep
  | device a => exact h.device hstep

theorem line_opened (id : UInt32) (c : Capture) (nonblocking : Bool) :
    line id (opened nonblocking c id).capture (opened nonblocking c id).taken = [] := by
  have hsession : (c.setSession id (some (.open id))).sessions id = some (.open id) := if_pos rfl
  change line id (c.setSession id (some (.open id))) (dequeued id c.device.sent).length = []
  rw [line_of_session hsession]
  change ((dequeued id c.device.sent).drop _).map slotOf ++ [] = []
  rw [List.drop_length]
  rfl

/-- Both sides begin with nothing. -/
theorem inv_opened {c : Capture} (hc : c.MmapInv) (hclosed : c.sessions id = none)
    (nonblocking : Bool) : Inv id (opened nonblocking c id) (.open id) := by
  have hsession : (c.setSession id (some (.open id))).sessions id = some (.open id) := if_pos rfl
  have haway : away (opened nonblocking c id) id = [] := by
    rw [away, line_opened]
    rfl
  refine ⟨machineInv_init nonblocking, fun _ _ => rfl, ⟨hc.openSession hclosed, hsession, ?_,
    le_rfl, ?_⟩, le_rfl, ?_, ?_, rfl⟩
  · refine ⟨.of_idle rfl fun i b hb => ?_, by simp [Simple.Session.open], Nat.zero_le _⟩
    cases hb
  · intro v hv
    change v ∈ (dequeued id c.device.sent).drop (dequeued id c.device.sent).length at hv
    simp at hv
  · rw [haway]
    exact .of_idle (fun b hb => absurd hb List.not_mem_nil) rfl fun h => absurd rfl h
  · rw [haway]
    exact List.nodup_nil

end Step

variable {cfg : Driver.Config} {checks nonblocking : Bool} {id : UInt32}
  {before : List Simple.Action} {c : Capture} {acts : List StackAction} {st : CaptureStack}

/-- The frames can be written and the buffers be allocated. -/
def Healthy (checks : Bool) (id : UInt32) (st : CaptureStack) (a : StackAction) : Prop :=
  a.WritesFrames ∧ st.allocates checks id a = true

/-- The stack simulates the queue. -/
theorem simulates (cfg : Driver.Config) (checks : Bool) (id : UInt32) :
    Trace.Simulates (step cfg checks id) (Healthy checks id) Fifo.step (label cfg checks id)
      fun st q => (∃ s, Inv id st s) ∧ st.outstanding id = q :=
  .of_abs fun _ _ _ ⟨_, h⟩ ha hstep => h.step ha.1 ha.2 hstep

theorem inv_of_before (hbefore : Trace.run (Capture.next checks) .init before = some c)
    (hclosed : c.sessions id = none) (nonblocking : Bool) :
    Inv id (opened nonblocking c id) (.open id) :=
  inv_opened (Trace.run_invariant (fun _ _ _ hs h => hs.step h) Capture.mmapInv_init hbefore)
    hclosed nonblocking

/-- Two buffers are queued before STREAMON and sent by it. The one that comes
back first is queued again; when the event for the other one arrives, its
command has not been answered. -/
def requeuedRun : List StackAction :=
  let buf (i : UInt32) : BufferReq :=
    ⟨{ (default : V4l2Buffer) with type := 1, memory := memoryMmap, index := i }, []⟩
  let ans : Nat → PlaneAnswers := fun _ => ⟨.error (-22), .error (-22), 0, 0⟩
  [.reqbufs ⟨2, 1, memoryMmap, 0, 0⟩ true some true fun _ => 0,
    .qbufSubmit (buf 1) ans, .serve (some fun _ => true), .qbufReply,
    .qbufSubmit (buf 0) ans, .serve (some fun _ => true), .qbufReply,
    .streamon 1 fun _ => true, .deliver 0, .dqbuf (buf 0),
    .qbufSubmit (buf 1) ans, .serve (some fun _ => true), .deliver 0]

/-- The stack after that run. -/
def requeuedStack : CaptureStack :=
  (Trace.run (step ⟨false, false, false⟩ true 7) (opened false .init 7) requeuedRun).getD
    (opened false .init 7)

theorem requeued_run : Trace.run (step ⟨false, false, false⟩ true 7) (opened false .init 7)
    requeuedRun = some requeuedStack := rfl

theorem requeued_healthy : Trace.Conforms (step ⟨false, false, false⟩ true 7) (Healthy true 7)
    (opened false .init 7) requeuedRun := by
  have hwrites : Trace.Conforms (step ⟨false, false, false⟩ true 7)
      (fun _ a => a.WritesFrames) (opened false .init 7) requeuedRun := by
    refine Trace.conforms_of_forall (fun a ha _ => ?_) _
    simp only [requeuedRun, List.mem_cons, List.not_mem_nil, or_false] at ha
    rcases ha with rfl | rfl | rfl | rfl | rfl | rfl | rfl | rfl | rfl | rfl | rfl | rfl | rfl <;>
      simp [StackAction.WritesFrames]
  have hallocates : Trace.Conforms (step ⟨false, false, false⟩ true 7)
      (fun st a => st.allocates true 7 a = true) (opened false .init 7) requeuedRun := by
    decide +kernel
  exact Trace.conforms_and hwrites hallocates

/-- What the two sides agree on. -/
structure Agreement (checks : Bool) (id : UInt32) (st : CaptureStack) : Prop where
  /-- The slots marked as the device's are those it has accepted and not given
  back, and that of a QBUF under way. -/
  away : ∀ i, st.queue.owns i = true ↔ i ∈ st.away id
  /-- The oldest event is not dropped. -/
  delivered : ∀ v rest nowNs, st.inFlight id = v :: rest →
    st.queue.accepts (queueCode v.queue) (dqbufEvent v nowNs) = true
  /-- The device accepts a QBUF that the driver has accepted. -/
  accepted : ∀ i io r, st.command = some (.sent i) → (∀ fd, io fd = true) →
    Capture.serve checks st.capture id (some (.qbuf i io)) = some r → r.1 = .ok 0

/-- In every such run the marks of the driver are right, no event is dropped,
and a QBUF that the driver sends is only refused by the dispatcher. -/
theorem capture_stack_agrees
    (hbefore : Trace.run (Capture.next checks) .init before = some c)
    (hclosed : c.sessions id = none)
    (hhealthy : Trace.Conforms (step cfg checks id) (Healthy checks id)
      (opened nonblocking c id) acts)
    (hrun : Trace.run (step cfg checks id) (opened nonblocking c id) acts = some st) :
    Agreement checks id st := by
  have hinv := inv_of_before hbefore hclosed nonblocking
  obtain ⟨q, -, ⟨s, h⟩, -⟩ := (simulates cfg checks id).run ⟨⟨_, hinv⟩, rfl⟩ hhealthy hrun
  refine ⟨h.driven.owns, fun v rest nowNs hv => ?_, fun i io r hc hio hr => ?_⟩
  · obtain ⟨-, -, haccepts, -⟩ := h.head hv cfg nowNs
    exact haccepts
  · exact (h.accepts hc hio hr).1

theorem capture_stack_agrees_requeued :
    requeuedStack.away 7 = [1] ∧ Agreement true 7 requeuedStack := by
  have hbefore : Trace.run (Capture.next true) .init [] = some .init := rfl
  exact ⟨by decide +kernel, capture_stack_agrees hbefore rfl requeued_healthy requeued_run⟩

end CaptureStack

end VirtioMedia.Stack
