import VirtioMedia.Device.ProxyCounters

/-!
# Polling of the CAPTURE queue by the V4L2 proxy device

The session switches the CaptureReady event of its poller on and off at the
edges of `should_poll_capture`. A dequeued CAPTURE buffer with the LAST flag
switches it off as well, also when other buffers are still queued. No edge
follows while the queue keeps streaming with buffers on it, so a QBUF or a
STREAMON after such a drain leaves the event off. The ledger below remembers
the drain; the polling is right after a call exactly if the drain is not
pending.
-/

namespace VirtioMedia.Device.ProxyQueues

open V4l2

/-- The event of a CAPTURE buffer with the LAST flag. -/
def Event.isLastCapture : Event → Bool
  | .dequeueBuffer _ b => isVideoCapture b.queue && hasFlag b.flags bufFlagLast
  | .error _ _ | .event _ _ => false

/-- STREAMOFF and REQBUFS(0) of the CAPTURE queue, and the end of the session. -/
def Call.stopsCapture (s : State) : Call → Bool
  | .streamoff queue answer => isVideoCapture queue && (s.host.answer queue answer).isOk
  | .reqbufs queue answer =>
    isVideoCapture queue && (s.host.answer queue answer).toOption.any (· == 0)
  | .close => true
  | _ => false

/-- A session with the record of its drains. -/
structure Drained where
  state : State
  /-- A CAPTURE buffer with the LAST flag was dequeued while others were queued,
  and the queue was not stopped since. -/
  drained : Bool

namespace Drained

def init (id : UInt32) (multiplanar : Bool) : Drained := ⟨.init id multiplanar, false⟩

def next (l : Drained) (c : Call) : Option Drained :=
  (l.state.call c).map fun r => ⟨r.state, !c.stopsCapture l.state &&
    (l.drained || (r.events.any Event.isLastCapture && r.state.session.captureNumQueued != 0))⟩

end Drained

/-! ### The edges -/

/-- CaptureReady is enabled when it should be, but for a drain. -/
structure Session.Polls (s : Session) (drained : Bool) : Prop where
  ready : s.captureReady = (s.shouldPollCapture && !drained)
  pending : drained = true → s.shouldPollCapture = true

namespace Session.Polls

variable {s : Session} {d : Bool}

theorem not_pending (h : s.Polls d) (hpoll : s.shouldPollCapture = false) : d = false := by
  cases d with
  | false => rfl
  | true =>
      rw [h.pending rfl] at hpoll
      cases hpoll

theorem stop (h : s.Polls d) (queue : QueueType) :
    (s.stop queue).Polls (!isVideoCapture queue && d) := by
  unfold Session.stop
  by_cases hc : isVideoCapture queue = true
  · rw [if_pos hc, hc]
    refine ⟨?_, fun hd => by cases hd⟩
    change (s.captureReady && !s.shouldPollCapture) = false
    rw [h.ready]
    cases s.shouldPollCapture <;> simp
  · rw [if_neg hc, Bool.not_eq_true] at *
    rw [hc]
    split_ifs
    · exact ⟨h.ready, h.pending⟩
    · exact h

theorem start (h : s.Polls d) (queue : QueueType) : (s.start queue).Polls d := by
  unfold Session.start
  split_ifs with hc hs
  · exact h
  · have hpoll : s.shouldPollCapture = false := by
      simp [Session.shouldPollCapture, hs]
    obtain rfl := h.not_pending hpoll
    refine ⟨?_, fun hd => by cases hd⟩
    change (s.captureReady || _) = _
    rw [h.ready, hpoll, Bool.false_and, Bool.false_or, Bool.not_false, Bool.and_true]
    rfl
  · exact ⟨h.ready, h.pending⟩
  · exact h

theorem countQueued (h : s.Polls d) (queue : QueueType) : (s.countQueued queue).Polls d := by
  unfold Session.countQueued
  split_ifs with hc
  · have hpos : decide (0 < s.captureNumQueued + 1) = true := decide_eq_true (Nat.succ_pos _)
    have hwas : d = true → s.captureStreaming = true := fun hd =>
      (Bool.and_eq_true_iff.mp (h.pending hd)).1
    constructor
    · change (s.captureReady || (!s.shouldPollCapture && (s.captureStreaming &&
        decide (0 < s.captureNumQueued + 1)))) =
          ((s.captureStreaming && decide (0 < s.captureNumQueued + 1)) && !d)
      rw [h.ready, hpos, Bool.and_true]
      cases hpoll : s.shouldPollCapture with
      | true =>
          have hs : s.captureStreaming = true := (Bool.and_eq_true_iff.mp hpoll).1
          simp [hs]
      | false => simp [h.not_pending hpoll]
    · intro hd
      exact Bool.and_eq_true_iff.mpr ⟨hwas hd, hpos⟩
  · exact ⟨h.ready, h.pending⟩
  · exact h

theorem not_drained (h : s.Polls d) (hr : s.captureReady = true) :
    s.shouldPollCapture = true ∧ d = false := by
  rw [h.ready, Bool.and_eq_true_iff, Bool.not_eq_true'] at hr
  exact hr

theorem countDequeued {flags : UInt32} {s' : Session} (h : s.Polls d) (hr : s.captureReady = true)
    (hs' : s.countDequeued flags = some s') :
    s'.Polls (hasFlag flags bufFlagLast && s'.captureNumQueued != 0) := by
  obtain ⟨hpoll, -⟩ := h.not_drained hr
  have hs : s.captureStreaming = true := (Bool.and_eq_true_iff.mp hpoll).1
  unfold Session.countDequeued at hs'
  split_ifs at hs' with h0
  obtain rfl := Option.some.inj hs'
  have hpoll' : ∀ n ready, ({ s with captureNumQueued := n, captureReady := ready } :
      Session).shouldPollCapture = (n != 0) := by
    intro n ready
    rw [Session.shouldPollCapture, hs, Bool.true_and]
    cases n <;> rfl
  constructor
  · rw [hr, hpoll, hpoll']
    dsimp only
    cases hn : s.captureNumQueued - 1 <;> cases hasFlag flags bufFlagLast <;> rfl
  · intro hd
    rw [hpoll']
    exact (Bool.and_eq_true_iff.mp hd).2

theorem of_eq {s' : Session} (h : s.Polls d) (hr : s'.captureReady = s.captureReady)
    (hs : s'.captureStreaming = s.captureStreaming)
    (hn : s'.captureNumQueued = s.captureNumQueued) : s'.Polls d := by
  have hpoll : s'.shouldPollCapture = s.shouldPollCapture := by
    rw [Session.shouldPollCapture, Session.shouldPollCapture, hs, hn]
  exact ⟨by rw [hr, hpoll, h.ready], fun hd => by rw [hpoll, h.pending hd]⟩

theorem rememberQueue (h : s.Polls d) (queue : QueueType) : (s.rememberQueue queue).Polls d := by
  unfold Session.rememberQueue
  split_ifs
  · exact h.of_eq rfl rfl rfl
  · exact h.of_eq rfl rfl rfl
  · exact h

/-- The event is right exactly if no drain is pending. -/
theorem ready_iff (h : s.Polls d) :
    (s.captureReady = true ↔ s.shouldPollCapture = true) ↔ d = false := by
  cases d with
  | false => simp [h.ready]
  | true => simp [h.ready, h.pending rfl]

end Session.Polls

theorem Event.not_isLastCapture {ev : Event} (h : ev.isDequeue = false) :
    ev.isLastCapture = false := by
  cases ev with
  | dequeueBuffer id b => cases h
  | error id errno => rfl
  | event id e => rfl

theorem any_append_isLastCapture {sent new : List Event}
    (h : ∀ ev ∈ new, ev.isDequeue = false) :
    (sent ++ new).any Event.isLastCapture = sent.any Event.isLastCapture := by
  have hnew : new.any Event.isLastCapture = false :=
    List.any_eq_false.mpr fun ev hev => by simp [Event.not_isLastCapture (h ev hev)]
  rw [List.any_append, hnew, Bool.or_false]

/-- No OUTPUT buffer is taken for the last CAPTURE buffer. -/
theorem not_isLastCapture_of_output {s : State} (hty : s.session.Typed) {queue : QueueType}
    (hq : s.session.outputQueueType = some queue) {h : Held} (hh : h.buffer.queue = queue)
    (st : Status) :
    (Event.dequeueBuffer s.session.id (h.buffer.withStatus st)).isLastCapture = false := by
  have hnot : isVideoCapture h.buffer.queue = false := by
    by_contra hc
    have := isVideoOutput_of_isVideoCapture (Bool.not_eq_false _ ▸ hc)
    rw [hh, hty.output queue hq] at this
    cases this
  exact Bool.and_eq_false_iff.mpr (.inl hnot)

/-- The dequeueing of OUTPUT buffers changes nothing that is polled. -/
theorem State.polls_keepsOutput (d : Bool) :
    State.KeepsOutput fun t sent => t.session.Polls d ∧ t.session.Typed ∧
      sent.any Event.isLastCapture = false where
  output := by
    rintro s sent queue pos h st ⟨hp, hty, hany⟩ hq - hh
    refine ⟨hp.of_eq rfl rfl rfl, hty.dropPlanes queue h.buffer.index, ?_⟩
    rw [List.any_append, hany, List.any_cons, not_isLastCapture_of_output hty hq hh st]
    rfl
  other := by
    rintro s sent new ⟨hp, hty, hany⟩ hnew
    exact ⟨hp, hty, (any_append_isLastCapture hnew).trans hany⟩

/-- Whether a drain is pending after some events of a batch. -/
def Drained.after (d : Bool) (s : State) (sent : List Event) : Bool :=
  d || (sent.any Event.isLastCapture && s.session.captureNumQueued != 0)

theorem State.polls_keeps (d : Bool) :
    State.Keeps fun t sent => t.session.Polls (Drained.after d t sent) ∧ t.session.Typed where
  output := by
    rintro s sent queue pos h st ⟨hp, hty⟩ hq - hh
    refine ⟨?_, hty.dropPlanes queue h.buffer.index⟩
    have hafter : Drained.after d (s.take queue pos h)
        (sent ++ [.dequeueBuffer s.session.id (h.buffer.withStatus st)]) =
        Drained.after d s sent := by
      rw [Drained.after, List.any_append, List.any_cons, not_isLastCapture_of_output hty hq hh st]
      simp only [List.any_nil, Bool.or_false]
      rfl
    rw [hafter]
    exact hp.of_eq rfl rfl rfl
  other := by
    rintro s sent new ⟨hp, hty⟩ hnew
    rw [Drained.after, any_append_isLastCapture hnew]
    exact ⟨hp, hty⟩
  capture := by
    rintro s sent s' ev ⟨hp, hty⟩ hr ⟨queue, pos, h, st, session, hq, -, hh, hcount, rfl, rfl⟩
    refine ⟨?_, (hty.dropPlanes queue h.buffer.index).countDequeued hcount⟩
    obtain ⟨hpoll, hafter⟩ := hp.not_drained hr
    obtain ⟨rfl, hany⟩ := Bool.or_eq_false_iff.mp hafter
    have hnum : (s.session.captureNumQueued != 0) = true := by
      have := of_decide_eq_true (Bool.and_eq_true_iff.mp hpoll).2
      simpa using this.ne'
    rw [hnum, Bool.and_true] at hany
    have hlast : Drained.after false { s.take queue pos h with session := session }
        (sent ++ [.dequeueBuffer s.session.id (h.buffer.withStatus st)]) =
        (hasFlag st.flags bufFlagLast && session.captureNumQueued != 0) := by
      have hkind : isVideoCapture h.buffer.queue = true := hh ▸ hty.capture queue hq
      have hev : (Event.dequeueBuffer s.session.id (h.buffer.withStatus st)).isLastCapture =
          hasFlag st.flags bufFlagLast := by
        change (isVideoCapture h.buffer.queue && hasFlag st.flags bufFlagLast) = _
        rw [hkind, Bool.true_and]
      rw [Drained.after, List.any_append, hany, List.any_cons, hev]
      simp only [List.any_nil, Bool.or_false, Bool.false_or]
    rw [hlast]
    have hdrop : (s.session.dropPlanes queue h.buffer.index).Polls (Drained.after false s sent) :=
      hp.of_eq rfl rfl rfl
    exact hdrop.countDequeued hr hcount

/-! ### Runs -/

/-- What holds of the ledger in every run. -/
structure Drained.Inv (l : Drained) : Prop where
  polls : l.state.session.Polls l.drained
  types : l.state.session.Typed

theorem Drained.inv_init (id : UInt32) (multiplanar : Bool) :
    (Drained.init id multiplanar).Inv where
  polls := ⟨rfl, fun h => by cases h⟩
  types := .new id

/-- A call without a LAST frame that does not stop the queue. -/
theorem Session.Polls.quiet {s : State} {d : Bool} {events : List Event} (hp : s.session.Polls d)
    (hev : events.any Event.isLastCapture = false) :
    s.session.Polls (!false && Drained.after d s events) := by
  rwa [Drained.after, hev, Bool.false_and, Bool.or_false, Bool.not_false, Bool.true_and]

/-- QBUF first dequeues OUTPUT buffers, none of which is a LAST frame. -/
theorem State.polls_qbuf {s : State} {d : Bool} (hp : s.session.Polls d) (hty : s.session.Typed)
    (req : Request) (outputs : List DqAnswer) (answer : Except Int Status) :
    (s.qbuf req outputs answer).state.session.Polls (!false &&
      Drained.after d (s.qbuf req outputs answer).state (s.qbuf req outputs answer).events) := by
  obtain ⟨hout, -, hany⟩ := (State.polls_keepsOutput d).dequeueOutputBuffers outputs []
    ⟨hp, hty, rfl⟩
  rw [List.nil_append] at hany
  have hev : ((s.dequeueOutputBuffers outputs).events ++ []).any Event.isLastCapture = false := by
    rwa [List.append_nil]
  change ((s.dequeueOutputBuffers outputs).state.qbufHost req answer).state.session.Polls
    (!false && Drained.after d ((s.dequeueOutputBuffers outputs).state.qbufHost req answer).state
      ((s.dequeueOutputBuffers outputs).events ++
        ((s.dequeueOutputBuffers outputs).state.qbufHost req answer).events))
  obtain ⟨-, heq⟩ | ⟨host, resources, -, ⟨e, -, heq⟩ | ⟨st, -, ⟨-, heq⟩ | ⟨out, -, heq⟩⟩⟩ :=
    (s.dequeueOutputBuffers outputs).state.qbufHost_cases req answer
  · rw [heq]
    exact hout.quiet hev
  · rw [heq]
    exact Session.Polls.quiet (hout.of_eq rfl rfl rfl) hev
  · rw [heq]
    exact Session.Polls.quiet (hout.of_eq rfl rfl rfl) hev
  · rw [heq]
    have hsub : ((s.dequeueOutputBuffers outputs).state.submitted host req.buffer
        resources).session.Polls d := hout.of_eq rfl rfl rfl
    exact Session.Polls.quiet (hsub.countQueued host.queue) hev

/-- What one call does to the polling. -/
theorem State.polls_call {s : State} {d : Bool} (hp : s.session.Polls d) (hty : s.session.Typed)
    {c : Call} {r : Outcome Reply} (h : s.call c = some r) :
    r.state.session.Polls (!c.stopsCapture s && Drained.after d r.state r.events) := by
  have hstop : ∀ {t : State} {queue : QueueType}, t.session.Polls (!isVideoCapture queue && d) →
      t.session.Polls (!(isVideoCapture queue && true) && Drained.after d t []) := by
    intro t queue ht
    rwa [Drained.after, List.any_nil, Bool.false_and, Bool.or_false, Bool.and_true]
  cases c with
  | reqbufs queue answer =>
      cases h
      cases hans : s.host.answer queue answer with
      | error e =>
          simp only [Call.stopsCapture, State.reqbufs, hans, Except.toOption, Option.any_none,
            Bool.and_false]
          exact hp.quiet rfl
      | ok n =>
          simp only [Call.stopsCapture, State.reqbufs, hans, Except.toOption, Option.any_some]
          by_cases h0 : n = 0
          · subst h0
            exact hstop ((hp.rememberQueue queue).stop queue)
          · rw [if_neg h0, beq_false_of_ne h0, Bool.and_false]
            exact (hp.rememberQueue queue).quiet rfl
  | createBufs queue count answer =>
      cases h
      cases hans : s.host.answer queue answer with
      | error e =>
          simp only [Call.stopsCapture, State.createBufs, hans]
          exact hp.quiet rfl
      | ok u =>
          simp only [Call.stopsCapture, State.createBufs, hans]
          refine Session.Polls.quiet ?_ rfl
          split_ifs
          · exact hp
          · exact hp.rememberQueue queue
  | querybuf answer =>
      cases h
      have hevents : (s.querybuf answer).events = [] := s.querybuf_events answer
      change (s.querybuf answer).state.session.Polls (!false &&
        Drained.after d (s.querybuf answer).state (s.querybuf answer).events)
      rw [hevents, State.querybuf_state]
      exact hp.quiet rfl
  | streamon queue answer =>
      cases h
      cases hans : s.host.answer queue answer with
      | error e =>
          simp only [Call.stopsCapture, State.streamon, hans]
          exact hp.quiet rfl
      | ok u =>
          simp only [Call.stopsCapture, State.streamon, hans]
          exact (hp.start queue).quiet rfl
  | streamoff queue answer =>
      cases h
      cases hans : s.host.answer queue answer with
      | error e =>
          simp only [Call.stopsCapture, State.streamoff, hans, Except.isOk, Except.toBool,
            Bool.and_false]
          exact hp.quiet rfl
      | ok u =>
          simp only [Call.stopsCapture, State.streamoff, hans, Except.isOk, Except.toBool]
          exact hstop (hp.stop queue)
  | qbuf req outputs answer =>
      cases h
      exact State.polls_qbuf hp hty req outputs answer
  | prepareBuf req answer =>
      cases h
      change (s.prepareBuf req answer).state.session.Polls (!false &&
        Drained.after d (s.prepareBuf req answer).state (s.prepareBuf req answer).events)
      obtain ⟨-, heq⟩ | ⟨host, resources, -, result, heq, -⟩ :=
        s.prepareBuf_cases req answer
      · rw [heq]
        exact hp.quiet rfl
      · rw [heq]
        exact Session.Polls.quiet (hp.of_eq rfl rfl rfl) rfl
  | decoderCmd answer =>
      cases h
      exact hp.quiet rfl
  | processEvents events =>
      obtain ⟨r', hr', rfl⟩ := Option.map_eq_some_iff.mp h
      have hstart : s.session.Polls (Drained.after d s []) := hp.quiet rfl
      exact ((State.polls_keeps d).processEvents [] ⟨hstart, hty⟩ hr').1
  | close =>
      cases h
      exact ⟨rfl, fun hd => by cases hd⟩

theorem Drained.Inv.next {l l' : Drained} {c : Call} (h : l.Inv) (hn : l.next c = some l') :
    l'.Inv := by
  obtain ⟨r, hcall, rfl⟩ := Option.map_eq_some_iff.mp hn
  refine ⟨State.polls_call h.polls h.types hcall, ?_⟩
  apply State.typed_step (c := c) h.types
  rw [State.step, hcall]
  rfl

/-- A QBUF or STREAMON of the CAPTURE queue that succeeded. -/
def Call.feedsCapture (r : Outcome Reply) : Call → Bool
  | .qbuf req _ _ => isVideoCapture req.buffer.queue && r.result.isOk
  | .streamon queue _ => isVideoCapture queue && r.result.isOk
  | _ => false

/-- A QBUF, STREAMON, STREAMOFF or REQBUFS(0) of the CAPTURE queue that
succeeded. -/
def Call.switchesCapture (r : Outcome Reply) : Call → Bool
  | .qbuf req _ _ => isVideoCapture req.buffer.queue && r.result.isOk
  | .streamon queue _ => isVideoCapture queue && r.result.isOk
  | .streamoff queue _ => isVideoCapture queue && r.result.isOk
  | .reqbufs queue _ => isVideoCapture queue && r.result.toOption.any (· == .count 0)
  | _ => false

/-- After such a call, CaptureReady is enabled if and only if
`should_poll_capture` holds. -/
def Drained.Armed (l : Drained) (c : Call) : Prop :=
  ∀ r, l.state.call c = some r → c.switchesCapture r = true →
    (r.state.session.captureReady = true ↔ r.state.session.shouldPollCapture = true)

instance instDecidableArmed (l : Drained) (c : Call) : Decidable (l.Armed c) :=
  match h : l.state.call c with
  | none => .isTrue fun r hr => by rw [h] at hr; cases hr
  | some r => decidable_of_iff (c.switchesCapture r = true →
      (r.state.session.captureReady = true ↔ r.state.session.shouldPollCapture = true))
      (by simp [Drained.Armed, h])

/-- The queue is not fed while a drain is pending. -/
def Drained.Undrained (l : Drained) (c : Call) : Prop :=
  ∀ r, l.state.call c = some r → c.feedsCapture r = true → l.drained = false

/-- A call that feeds the queue leaves a pending drain pending. -/
theorem State.after_of_feedsCapture {s : State} (hty : s.session.Typed) {d : Bool}
    (hp : s.session.Polls d) {c : Call} {r : Outcome Reply} (h : s.call c = some r)
    (hfeeds : c.feedsCapture r = true) :
    (!c.stopsCapture s && Drained.after d r.state r.events) = d := by
  cases c with
  | qbuf req outputs answer =>
      cases h
      obtain ⟨-, -, hany⟩ := (State.polls_keepsOutput d).dequeueOutputBuffers outputs []
        ⟨hp, hty, rfl⟩
      have hevents : (s.qbuf req outputs answer).events =
          (s.dequeueOutputBuffers outputs).events := by
        change _ ++ ((s.dequeueOutputBuffers outputs).state.qbufHost req answer).events = _
        rw [State.qbufHost_events, List.append_nil]
      change (!false && Drained.after d (s.qbuf req outputs answer).state
        (s.qbuf req outputs answer).events) = d
      rw [Drained.after, hevents, ← List.nil_append (s.dequeueOutputBuffers outputs).events, hany]
      simp
  | streamon queue answer =>
      cases h
      cases hans : s.host.answer queue answer with
      | error e => simp [Call.stopsCapture, Drained.after, State.streamon, hans, Outcome.map]
      | ok u => simp [Call.stopsCapture, Drained.after, State.streamon, hans, Outcome.map]
  | _ => cases hfeeds

/-- STREAMOFF and REQBUFS(0) end a drain. -/
theorem State.stopsCapture_of_switches {s : State} {c : Call} {r : Outcome Reply}
    (h : s.call c = some r) (hswitch : c.switchesCapture r = true) :
    c.feedsCapture r = true ∨ c.stopsCapture s = true := by
  cases c with
  | qbuf req outputs answer => exact .inl hswitch
  | streamon queue answer => exact .inl hswitch
  | streamoff queue answer =>
      right
      cases h
      obtain ⟨hq, hok⟩ := Bool.and_eq_true_iff.mp hswitch
      refine Bool.and_eq_true_iff.mpr ⟨hq, ?_⟩
      cases hans : s.host.answer queue answer with
      | error e =>
          simp only [State.streamoff, hans] at hok
          cases hok
      | ok u => rfl
  | reqbufs queue answer =>
      right
      cases h
      obtain ⟨hq, hok⟩ := Bool.and_eq_true_iff.mp hswitch
      refine Bool.and_eq_true_iff.mpr ⟨hq, ?_⟩
      cases hans : s.host.answer queue answer with
      | error e =>
          simp only [State.reqbufs, hans] at hok
          cases hok
      | ok n =>
          simp only [State.reqbufs, hans, Outcome.map, Except.map, Except.toOption,
            Option.any_some] at hok
          simpa [Except.toOption] using hok
  | _ => cases hswitch

theorem Drained.Inv.armed_iff {l : Drained} (h : l.Inv) (c : Call) :
    l.Armed c ↔ l.Undrained c := by
  refine forall_congr' fun r => forall_congr' fun hcall => ?_
  have hpolls := State.polls_call h.polls h.types hcall
  constructor
  · intro harmed hfeeds
    have hswitch : c.switchesCapture r = true := by
      cases c with
      | qbuf req outputs answer => exact hfeeds
      | streamon queue answer => exact hfeeds
      | _ => cases hfeeds
    have := hpolls.ready_iff.mp (harmed hswitch)
    rwa [State.after_of_feedsCapture h.types h.polls hcall hfeeds] at this
  · intro hundrained hswitch
    apply hpolls.ready_iff.mpr
    rcases State.stopsCapture_of_switches hcall hswitch with hfeeds | hstops
    · rw [State.after_of_feedsCapture h.types h.polls hcall hfeeds]
      exact hundrained hfeeds
    · rw [hstops]
      rfl

/-- After every successful QBUF, STREAMON, STREAMOFF and REQBUFS(0) of the
CAPTURE queue the event is enabled if and only if the queue should be polled,
exactly in the runs that do not feed the queue between a drain that left buffers
queued and the stop that ends it. -/
theorem capture_polling_armed (id : UInt32) (multiplanar : Bool) (calls : List Call) :
    Trace.Conforms Drained.next Drained.Armed (.init id multiplanar) calls ↔
      Trace.Conforms Drained.next Drained.Undrained (.init id multiplanar) calls :=
  Trace.conforms_congr (P := Drained.Inv) (fun _ _ _ h _ hn => h.next hn)
    (fun _ c h _ => h.armed_iff c) (Drained.inv_init id multiplanar)
    (Trace.conforms_true _ calls)

/-- One of two CAPTURE buffers is returned with the LAST flag, and queued again. -/
def drainRun : List Call :=
  [.reqbufs .videoCapture (.ok 2),
    .qbuf (userptrRequest .videoCapture 0 0x1000 0x7f00) [] (.ok (filled 0)),
    .qbuf (userptrRequest .videoCapture 1 0x2000 0x7f01) [] (.ok (filled 0)),
    .streamon .videoCapture (.ok ()),
    .processEvents [.captureReady (.buffer 0 (filled bufFlagLast)) []],
    .decoderCmd (.ok ()),
    .qbuf (userptrRequest .videoCapture 0 0x1000 0x7f02) [] (.ok (filled 0))]

theorem capture_polling_lost :
    (Trace.run State.step (.init 0 false) drainRun).map (fun s =>
      (s.session.captureReady, s.session.shouldPollCapture)) = some (false, true) ∧
    ¬Trace.Conforms Drained.next Drained.Armed (.init 0 false) drainRun := by
  decide

end VirtioMedia.Device.ProxyQueues
