import VirtioMedia.Driver.PrepareOwnership

/-!
# poll

`virtio_media_device_poll` of `driver/virtio_media_driver.c`. It looks at one
capture and one output queue, chosen by `session->uses_mplane`; of the ioctls
only REQBUFS sets this flag. Runs of a session therefore have CREATE_BUFS next
to the ioctls and the events of `Driver.Queue`, PREPARE_BUF in its two halves,
and the error event after which ioctls are refused.
-/

namespace VirtioMedia.Driver

open V4l2

/-! ### The function -/

def epollIn : UInt32 := 0x001
def epollPri : UInt32 := 0x002
def epollOut : UInt32 := 0x004
def epollErr : UInt32 := 0x008
def epollHup : UInt32 := 0x010
def epollRdnorm : UInt32 := 0x040
def epollWrnorm : UInt32 := 0x100

/-- The events of the capture queue. -/
def captureEvents (q : QueueState) (requested : UInt32) : UInt32 :=
  if hasFlag requested (epollIn ||| epollRdnorm) then
    if !q.streaming || (q.queuedBufs == 0 && q.pendingDqbufs.isEmpty) then epollErr
    else if !q.pendingDqbufs.isEmpty then epollIn ||| epollRdnorm
    else 0
  else 0

/-- The events of the output queue. -/
def outputEvents (q : QueueState) (requested : UInt32) : UInt32 :=
  if hasFlag requested (epollOut ||| epollWrnorm) then
    if !q.streaming then epollErr
    else if q.queuedBufs < q.buffers.length then epollOut ||| epollWrnorm
    else 0
  else 0

/-- `capture_type` and `output_type`. -/
def captureType (s : Session) : Fin numQueues := if s.usesMplane then 9 else 1
def outputType (s : Session) : Fin numQueues := if s.usesMplane then 10 else 2

/-- `virtio_media_device_poll`: `disconnected` is a flag of the device,
`eventPending` the answer of `v4l2_event_pending`. -/
def poll (s : Session) (disconnected eventPending : Bool) (requested : UInt32) : UInt32 :=
  if disconnected || s.error then epollErr ||| epollHup
  else
    captureEvents (s.queues (captureType s)) requested |||
      outputEvents (s.queues (outputType s)) requested |||
      (if eventPending then epollPri else 0)

/-! ### Runs -/

/-- A session, and the PREPARE_BUF command that is outstanding, if any. -/
structure PolledSession where
  machine : Machine
  preparing : Option PrepareInFlight

def PolledSession.init (nonblocking : Bool) : PolledSession := ⟨.init nonblocking, none⟩

inductive SessionAction where
  /-- A queue ioctl or an event. -/
  | queue (a : Action)
  | prepareBufSubmit (req : BufferReq)
  | prepareBufReply (ret : Int)
  | createBufs (b : CreateBuffers) (ret : Int) (reply : CreateBuffers) (vzallocOk : Bool)
  /-- An error event. -/
  | error

/-- The action takes `vlock`; events and replies do not. -/
def Action.isIoctl : Action → Bool
  | .event _ => false
  | .qbufReply _ => false
  | _ => true

namespace PolledSession

/-- `vlock` is held, or the session is in error. -/
def refuses (d : PolledSession) : Bool :=
  d.machine.inFlight.isSome || d.preparing.isSome || d.machine.session.error

def withSession (d : PolledSession) (s : Session) : PolledSession :=
  { d with machine := { d.machine with session := s } }

def step (cfg : Config) (d : PolledSession) : SessionAction → Option PolledSession
  | .queue a =>
    if a.isIoctl && d.refuses then none
    else (d.machine.step cfg a).map fun m => { d with machine := m }
  | .prepareBufSubmit req =>
    if d.refuses then none
    else
      let r := prepareBufSubmit d.machine.session req
      some { d.withSession r.2 with preparing := r.1.toOption }
  | .prepareBufReply ret =>
    d.preparing.map fun fl =>
      { d.withSession (prepareBufReply d.machine.session fl ret).2 with preparing := none }
  | .createBufs b ret reply vzallocOk =>
    if d.refuses then none
    else (createBufs d.machine.session b ret reply vzallocOk).map fun r => d.withSession r.2.2
  | .error => some (d.withSession { d.machine.session with error := true })

end PolledSession

/-- What the device accepts allocates buffers on the multiplanar queues only,
and starts these queues only. A queue without buffers refuses QBUF. -/
def SessionAction.OnMplane : SessionAction → Prop
  | .queue (.reqbufs _ ret reply _ _) =>
    ret = 0 → reply.count ≠ 0 → typeIsMultiplanar reply.type = true
  | .createBufs b ret reply _ =>
    ret = 0 → reply.count ≠ 0 → typeIsMultiplanar b.formatType = true
  | .queue (.streamon type ret) => 0 ≤ ret → typeIsMultiplanar type = true
  | _ => True

/-- A REQBUFS of a multiplanar queue that succeeds. -/
def PolledSession.Marks (cfg : Config) (d : PolledSession) : SessionAction → Prop
  | .queue (.reqbufs b ret reply _ vzallocOk) =>
    reqbufsCheck cfg d.machine.session b = 0 ∧ ret = 0 ∧
      (vzallocOk = true ∨ reply.count = 0) ∧ typeIsMultiplanar reply.type = true
  | _ => False

/-! ### The property -/

/-- The queue streams and has buffers queued on the device or waiting. -/
def QueueState.Busy (q : QueueState) : Prop :=
  q.streaming = true ∧ (q.queuedBufs ≠ 0 ∨ q.pendingDqbufs ≠ [])

/-- A poll for reading watches the queue `q`: it reports EPOLLIN exactly for a
buffer that waits on the streaming queue, and no EPOLLERR while the queue is
busy. An error of the output queue is left out by not asking for writing. -/
def Watches (s : Session) (disconnected : Bool) (q : QueueState) : Prop :=
  ∀ eventPending requested, hasFlag requested (epollIn ||| epollRdnorm) = true →
    (hasFlag (poll s disconnected eventPending requested) epollIn = true ↔
      q.streaming = true ∧ q.pendingDqbufs ≠ []) ∧
    (q.Busy → hasFlag (poll s disconnected eventPending
      (requested &&& ~~~(epollOut ||| epollWrnorm))) epollErr = false)

/-! ### One poll -/

section Flags

variable {q : QueueState} {requested : UInt32}

/-- A queue with nothing to wait for is an error. -/
theorem captureEvents_of_not_busy (hread : hasFlag requested (epollIn ||| epollRdnorm) = true)
    (hbusy : ¬ q.Busy) : captureEvents q requested = epollErr := by
  rw [captureEvents, if_pos hread, if_pos]
  by_cases hstreaming : q.streaming = true
  · obtain ⟨hqueued, hpending⟩ := not_or.mp (not_and.mp hbusy hstreaming)
    simp [not_not.mp hqueued, not_not.mp hpending]
  · simp [hstreaming]

/-- A queue with something to wait for has data once a buffer is pending. -/
theorem captureEvents_of_busy (hread : hasFlag requested (epollIn ||| epollRdnorm) = true)
    (hbusy : q.Busy) : captureEvents q requested =
      if q.pendingDqbufs ≠ [] then epollIn ||| epollRdnorm else 0 := by
  obtain ⟨hstreaming, hown⟩ := hbusy
  have hquiet : ¬ (!q.streaming || (q.queuedBufs == 0 && q.pendingDqbufs.isEmpty)) = true := by
    simpa [hstreaming, or_iff_not_imp_left] using hown
  rw [captureEvents, if_pos hread, if_neg hquiet]
  by_cases hpending : q.pendingDqbufs = []
  · simp [hpending]
  · simp [hpending]

theorem captureEvents_in (hread : hasFlag requested (epollIn ||| epollRdnorm) = true) :
    hasFlag (captureEvents q requested) epollIn = true ↔
      q.streaming = true ∧ q.pendingDqbufs ≠ [] := by
  by_cases hbusy : q.Busy
  · rw [captureEvents_of_busy hread hbusy, and_iff_right hbusy.1]
    by_cases hpending : q.pendingDqbufs ≠ []
    · rw [if_pos hpending]
      exact iff_of_true (by decide) hpending
    · rw [if_neg hpending]
      exact iff_of_false (by decide) hpending
  · rw [captureEvents_of_not_busy hread hbusy]
    exact iff_of_false (by decide) fun h => hbusy ⟨h.1, .inr h.2⟩

theorem captureEvents_err (hread : hasFlag requested (epollIn ||| epollRdnorm) = true) :
    hasFlag (captureEvents q requested) epollErr = false ↔ q.Busy := by
  by_cases hbusy : q.Busy
  · rw [captureEvents_of_busy hread hbusy]
    refine iff_of_true ?_ hbusy
    by_cases hpending : q.pendingDqbufs ≠ []
    · rw [if_pos hpending]
      decide
    · rw [if_neg hpending]
      decide
  · rw [captureEvents_of_not_busy hread hbusy]
    exact iff_of_false (by decide) hbusy

/-- The output queue does not add an EPOLLIN. -/
theorem outputEvents_in : hasFlag (outputEvents q requested) epollIn = false := by
  unfold outputEvents
  split_ifs <;> decide

theorem outputEvents_of_not_write
    (hwrite : hasFlag requested (epollOut ||| epollWrnorm) = false) :
    outputEvents q requested = 0 := by
  rw [outputEvents, hwrite, if_neg (by decide)]

/-- Asking for reading only. -/
theorem reads_without_write (hread : hasFlag requested (epollIn ||| epollRdnorm) = true) :
    hasFlag (requested &&& ~~~(epollOut ||| epollWrnorm)) (epollIn ||| epollRdnorm) = true ∧
      hasFlag (requested &&& ~~~(epollOut ||| epollWrnorm)) (epollOut ||| epollWrnorm) =
        false := by
  refine ⟨?_, hasFlag_and_not _ _ _ (by decide)⟩
  have hmask : ~~~(epollOut ||| epollWrnorm) &&& (epollIn ||| epollRdnorm) =
      epollIn ||| epollRdnorm := by decide
  rw [hasFlag, UInt32.and_assoc, hmask]
  exact hread

end Flags

section Watching

variable {s : Session} {disconnected eventPending : Bool} {requested : UInt32}

/-- A session that has failed answers every poll alike. -/
theorem poll_of_failed (h : (disconnected || s.error) = true) :
    poll s disconnected eventPending requested = epollErr ||| epollHup := if_pos h

/-- Reading is possible exactly when a buffer of the watched queue can be
dequeued. -/
theorem poll_in (h : (disconnected || s.error) = false)
    (hread : hasFlag requested (epollIn ||| epollRdnorm) = true) :
    hasFlag (poll s disconnected eventPending requested) epollIn = true ↔
      (s.queues (captureType s)).streaming = true ∧
        (s.queues (captureType s)).pendingDqbufs ≠ [] := by
  have hpri : hasFlag (if eventPending = true then epollPri else 0) epollIn = false := by
    cases eventPending <;> decide
  rw [poll, h, if_neg (by decide), hasFlag_or, hasFlag_or, outputEvents_in, hpri, Bool.or_false,
    Bool.or_false]
  exact captureEvents_in hread

/-- Without writing, the error bit is that of the watched queue. -/
theorem poll_err (h : (disconnected || s.error) = false)
    (hread : hasFlag requested (epollIn ||| epollRdnorm) = true) :
    hasFlag (poll s disconnected eventPending
      (requested &&& ~~~(epollOut ||| epollWrnorm))) epollErr = false ↔
        (s.queues (captureType s)).Busy := by
  obtain ⟨hread', hwrite⟩ := reads_without_write hread
  have hpri : hasFlag (if eventPending = true then epollPri else 0) epollErr = false := by
    cases eventPending <;> decide
  rw [poll, h, if_neg (by decide), outputEvents_of_not_write hwrite, hasFlag_or, hasFlag_or,
    hasFlag_zero, hpri, Bool.or_false, Bool.or_false]
  exact captureEvents_err hread'

/-- A queue that is not busy must not be reported, and a busy one only is if
it is the queue that is looked at. -/
theorem watches_iff (hquiet : (s.queues 1).streaming = false) :
    Watches s disconnected (s.queues 9) ↔
      ¬ (s.queues 9).Busy ∨ (disconnected || s.error) = false ∧ s.usesMplane = true := by
  have hread : hasFlag epollIn (epollIn ||| epollRdnorm) = true := by decide
  by_cases hfailed : (disconnected || s.error) = true
  · rw [hfailed, or_iff_left (by simp)]
    constructor
    · intro h hbusy
      have herr := (h false epollIn hread).2 hbusy
      rw [poll_of_failed hfailed] at herr
      exact absurd herr (by decide)
    · intro hbusy eventPending requested hread
      rw [poll_of_failed hfailed]
      exact ⟨iff_of_false (by decide) fun h => hbusy ⟨h.1, .inr h.2⟩, fun h => absurd h hbusy⟩
  · have halive : (disconnected || s.error) = false := Bool.eq_false_iff.mpr hfailed
    rw [halive, and_iff_right rfl]
    cases hmplane : s.usesMplane with
    | true =>
        have htype : captureType s = 9 := by rw [captureType, hmplane, if_pos rfl]
        refine iff_of_true (fun eventPending requested hread => ?_) (.inr rfl)
        rw [poll_in halive hread, htype]
        exact ⟨Iff.rfl, fun hbusy => (poll_err halive hread).mpr (htype ▸ hbusy)⟩
    | false =>
        have htype : captureType s = 1 := by rw [captureType, hmplane, if_neg (by decide)]
        have hidle : ¬ (s.queues (captureType s)).Busy := by
          rw [htype]
          intro hbusy
          exact absurd hbusy.1 (by simp [hquiet])
        rw [or_iff_left (by decide)]
        constructor
        · intro h hbusy
          exact hidle ((poll_err halive hread).mp ((h false epollIn hread).2 hbusy))
        · intro hbusy eventPending requested hread
          rw [poll_in halive hread]
          exact ⟨iff_of_false (fun h => hidle ⟨h.1, .inr h.2⟩) fun h => hbusy ⟨h.1, .inr h.2⟩,
            fun h => absurd h hbusy⟩

end Watching

/-! ### What the operations do to the flag and to streaming -/

/-- No queue starts to stream, and the flag stays as it is. -/
structure Quiet (s s' : Session) : Prop where
  streaming : ∀ u, (s'.queues u).streaming = true → (s.queues u).streaming = true
  usesMplane : s'.usesMplane = s.usesMplane

namespace Quiet

variable {s s' s'' : Session}

theorem refl (s : Session) : Quiet s s := ⟨fun _ => id, rfl⟩

theorem trans (h : Quiet s s') (h' : Quiet s' s'') : Quiet s s'' :=
  ⟨fun u hu => h.streaming u (h'.streaming u hu), h'.usesMplane.trans h.usesMplane⟩

theorem setQueue {t : Fin numQueues} {q : QueueState}
    (h : q.streaming = true → (s.queues t).streaming = true) : Quiet s (s.setQueue t q) := by
  refine ⟨fun u hu => ?_, rfl⟩
  rw [Session.setQueue_queues] at hu
  by_cases hut : u = t
  · rw [if_pos hut] at hu
    exact hut ▸ h hu
  · rwa [if_neg hut] at hu

end Quiet

theorem processDqbuf_streaming (cfg : Config) (type : UInt32) (q : QueueState) (ev : DqbufEvent) :
    (q.processDqbuf cfg type ev).streaming = q.streaming := by
  unfold QueueState.processDqbuf
  split
  · rfl
  · dsimp only
    split_ifs
    · rfl
    · rfl

/-- A completion does not start a queue. -/
theorem quiet_event (cfg : Config) (s : Session) (ev : DqbufEvent) :
    Quiet s (processDqbufEvent cfg s ev) := by
  unfold processDqbufEvent
  cases queueIndex ev.buffer.type with
  | none => exact .refl s
  | some t =>
      refine .setQueue fun h => ?_
      rwa [processDqbuf_streaming] at h

/-- Nor do several of them. -/
theorem quiet_events (cfg : Config) (s : Session) (evs : List DqbufEvent) :
    Quiet s (processEvents cfg s evs) := by
  induction evs generalizing s with
  | nil => exact .refl s
  | cons ev evs ih => exact (quiet_event cfg s ev).trans (ih _)

/-- QBUF sends a command for a queue that streams or not, and leaves that as it
is. -/
theorem quiet_qbufSubmit (cfg : Config) (s : Session) (req : BufferReq)
    (ans : Nat → PlaneAnswers) : Quiet s (qbufSubmit cfg s req ans).2 := by
  obtain ⟨e, h⟩ | ⟨e, t, b, b', -, -, h⟩ | ⟨t, b, b', -, h⟩ := qbufSubmit_cases cfg s req ans
  · rw [h]
    exact .refl s
  · rw [h]
    exact .setQueue id
  · rw [h]
    exact .setQueue id

theorem failQbuf_streaming (q : QueueState) (fl : QbufInFlight) :
    (failQbuf q fl).streaming = q.streaming := by
  unfold failQbuf
  dsimp only
  split
  · rfl
  · split_ifs
    · rfl
    · rfl

theorem quiet_qbufReply (s : Session) (fl : QbufInFlight) (ret : Int) :
    Quiet s (qbufReply s fl ret).2 := by
  unfold qbufReply
  split_ifs
  · refine .setQueue fun h => ?_
    rwa [failQbuf_streaming] at h
  · exact .refl s

theorem quiet_dqbufPop {s s' : Session} {t : Fin numQueues} {req res : BufferReq}
    (h : dqbufPop s t req = some (res, s')) : Quiet s s' := by
  unfold dqbufPop at h
  dsimp only at h
  split at h
  · cases h
  · split at h
    · cases h
    · cases h
      exact .setQueue id

/-- STREAMOFF ends streaming. -/
theorem quiet_streamoff (cfg : Config) (s : Session) (type : UInt32) (ret : Int)
    (drained : List DqbufEvent) : Quiet s (streamoff cfg s type ret drained).2 := by
  unfold streamoff
  split
  · exact .refl s
  · split_ifs
    · exact .refl s
    · exact (quiet_events cfg s drained).trans (.setQueue fun h => nomatch h)

theorem quiet_prepareBufSubmit (s : Session) (req : BufferReq) :
    Quiet s (prepareBufSubmit s req).2 := by
  obtain ⟨e, -, h⟩ | ⟨t, b, b', -, -, h⟩ := prepareBufSubmit_cases s req
  · rw [h]
    exact .refl s
  · rw [h]
    exact .setQueue id

theorem quiet_prepareBufReply (s : Session) (fl : PrepareInFlight) (ret : Int) :
    Quiet s (prepareBufReply s fl ret).2 := by
  unfold prepareBufReply
  split_ifs
  · exact .refl s
  · split
    · exact .refl s
    · exact .setQueue id

/-- CREATE_BUFS replaces an array of buffers and nothing else. -/
theorem quiet_createBufs {s : Session} {b reply : CreateBuffers} {ret : Int} {vzallocOk : Bool}
    {r : Int × CreateBuffers × Session} (h : createBufs s b ret reply vzallocOk = some r) :
    Quiet s r.2.2 := by
  unfold createBufs at h
  cases hcheck : createBufsCheck b with
  | error e =>
      rw [hcheck] at h
      cases h
      exact .refl s
  | ok t =>
      rw [hcheck] at h
      dsimp only at h
      split_ifs at h
      all_goals cases h
      · exact .refl s
      · exact .refl s
      · exact .refl s
      · exact .setQueue id

/-- STREAMON starts the queue it names, if the device accepts it. -/
theorem streamon_streaming {s : Session} {type : UInt32} {ret : Int} {u : Fin numQueues}
    (h : ((streamon s type ret).2.queues u).streaming = true) :
    (s.queues u).streaming = true ∨ (0 ≤ ret ∧ queueIndex type = some u) := by
  unfold streamon at h
  split at h
  · exact .inl h
  · rename_i t ht
    split_ifs at h with hcancel hret
    · exact .inl h
    · exact .inl h
    · rw [Session.setQueue_queues] at h
      by_cases hu : u = t
      · exact .inr ⟨not_lt.mp hret, hu ▸ ht⟩
      · rw [if_neg hu] at h
        exact .inl h

/-- STREAMON does not decide which queues are watched. -/
theorem streamon_usesMplane (s : Session) (type : UInt32) (ret : Int) :
    (streamon s type ret).2.usesMplane = s.usesMplane := by
  unfold streamon
  split
  · rfl
  · split_ifs
    · rfl
    · rfl
    · rfl

/-- REQBUFS sets the flag if it succeeds on a multiplanar queue. -/
theorem reqbufs_quiet {cfg : Config} {s : Session} {b reply : RequestBuffers} {ret : Int}
    {drained : List DqbufEvent} {vzallocOk : Bool} {r : Int × RequestBuffers × Session}
    (h : reqbufs cfg s b ret reply drained vzallocOk = some r) :
    (∀ u, (r.2.2.queues u).streaming = true → (s.queues u).streaming = true) ∧
      (r.2.2.usesMplane = true ↔ s.usesMplane = true ∨
        reqbufsCheck cfg s b = 0 ∧ ret = 0 ∧ (vzallocOk = true ∨ reply.count = 0) ∧
          typeIsMultiplanar reply.type = true) := by
  unfold reqbufs at h
  by_cases hcheck : reqbufsCheck cfg s b = 0
  · rw [if_neg (by simpa using hcheck)] at h
    by_cases hret : ret = 0
    · rw [if_neg (by simpa using hret)] at h
      cases ht : queueIndex reply.type with
      | none =>
          rw [ht] at h
          cases h
      | some t =>
          rw [ht] at h
          dsimp only at h
          have hquiet : Quiet s ((processEvents cfg s drained).setQueue t
              (reallocQueue ((processEvents cfg s drained).queues t) reply
                (vzallocOk || reply.count == 0))) :=
            (quiet_events cfg s drained).trans (.setQueue fun h => nomatch h)
          by_cases hok : (vzallocOk || reply.count == 0) = true
          · rw [if_pos hok] at h
            cases h
            refine ⟨hquiet.streaming, ?_⟩
            have hok' : vzallocOk = true ∨ reply.count = 0 := by simpa using hok
            dsimp only
            rw [hquiet.usesMplane, Bool.or_eq_true, and_iff_right hcheck, and_iff_right hret,
              and_iff_right hok']
          · rw [if_neg hok] at h
            cases h
            refine ⟨hquiet.streaming, ?_⟩
            have hok' : ¬ (vzallocOk = true ∨ reply.count = 0) := by simpa using hok
            dsimp only
            rw [hquiet.usesMplane, or_iff_left fun h => hok' h.2.2.1]
    · rw [if_pos (by simpa using hret)] at h
      cases h
      exact ⟨fun u => id, (or_iff_left fun h => hret h.2.1).symm⟩
  · rw [if_pos (by simpa using hcheck)] at h
    cases h
    exact ⟨fun u => id, (or_iff_left fun h => hcheck h.1).symm⟩

/-! ### Runs -/

/-- What a step does to the flag and to streaming. -/
structure StepEffect (cfg : Config) (d : PolledSession) (a : SessionAction)
    (d' : PolledSession) : Prop where
  streaming : ∀ u, (d'.machine.session.queues u).streaming = true →
    (d.machine.session.queues u).streaming = true ∨
      ∃ type ret, a = .queue (.streamon type ret) ∧ 0 ≤ ret ∧ queueIndex type = some u
  usesMplane : d'.machine.session.usesMplane = true ↔
    d.machine.session.usesMplane = true ∨ d.Marks cfg a

/-- A step that starts no queue and marks nothing. -/
theorem Quiet.stepEffect {cfg : Config} {d d' : PolledSession} {a : SessionAction}
    (h : Quiet d.machine.session d'.machine.session) (ha : ¬ d.Marks cfg a) :
    StepEffect cfg d a d' := by
  refine ⟨fun u hu => .inl (h.streaming u hu), ?_⟩
  rw [h.usesMplane, or_iff_left ha]

/-- The actions of the machine. -/
theorem stepEffect_queue {cfg : Config} {d : PolledSession} {a : Action} {m : Machine}
    (h : d.machine.step cfg a = some m) :
    StepEffect cfg d (.queue a) { d with machine := m } := by
  cases a with
  | event ev =>
      obtain rfl := Option.some.inj h
      exact (quiet_event cfg _ ev).stepEffect id
  | qbufSubmit req ans =>
      obtain ⟨-, rfl⟩ := Machine.step_qbufSubmit h
      exact (quiet_qbufSubmit cfg _ req ans).stepEffect id
  | qbufReply ret =>
      obtain ⟨fl, -, rfl⟩ := Machine.step_qbufReply h
      exact (quiet_qbufReply _ fl ret).stepEffect id
  | dqbuf req =>
      obtain ⟨-, rfl | ⟨t, res, s, hpop, rfl⟩⟩ := Machine.step_dqbuf h
      · exact (Quiet.refl _).stepEffect id
      · exact (quiet_dqbufPop hpop).stepEffect id
  | streamon type ret =>
      obtain ⟨-, rfl⟩ := Machine.step_streamon h
      refine ⟨fun u hu => ?_, ?_⟩
      · obtain hu | ⟨hret, ht⟩ := streamon_streaming hu
        · exact .inl hu
        · exact .inr ⟨type, ret, rfl, hret, ht⟩
      · exact (congrArg (· = true) (streamon_usesMplane _ type ret)).to_iff.trans
          (or_iff_left id).symm
  | streamoff type ret drained =>
      obtain ⟨-, rfl⟩ := Machine.step_streamoff h
      exact (quiet_streamoff cfg _ type ret drained).stepEffect id
  | reqbufs b ret reply drained vzallocOk =>
      obtain ⟨-, r, hr, rfl⟩ := Machine.step_reqbufs h
      obtain ⟨hstreaming, hmplane⟩ := reqbufs_quiet hr
      exact ⟨fun u hu => .inl (hstreaming u hu), hmplane⟩

/-- Every action of a session. -/
theorem PolledSession.step_effect {cfg : Config} {d d' : PolledSession} {a : SessionAction}
    (h : d.step cfg a = some d') : StepEffect cfg d a d' := by
  cases a with
  | queue a =>
      obtain ⟨-, h⟩ := Option.ite_none_left_eq_some.mp h
      obtain ⟨m, hm, rfl⟩ := Option.map_eq_some_iff.mp h
      exact stepEffect_queue hm
  | prepareBufSubmit req =>
      obtain ⟨-, h⟩ := Option.ite_none_left_eq_some.mp h
      obtain rfl := Option.some.inj h
      exact (quiet_prepareBufSubmit _ req).stepEffect id
  | prepareBufReply ret =>
      obtain ⟨fl, -, rfl⟩ := Option.map_eq_some_iff.mp h
      exact (quiet_prepareBufReply _ fl ret).stepEffect id
  | createBufs b ret reply vzallocOk =>
      obtain ⟨-, h⟩ := Option.ite_none_left_eq_some.mp h
      obtain ⟨r, hr, rfl⟩ := Option.map_eq_some_iff.mp h
      exact (quiet_createBufs hr).stepEffect id
  | error =>
      obtain rfl := Option.some.inj h
      exact Quiet.stepEffect ⟨fun u => id, rfl⟩ id

theorem mplane_ne_videoCapture {type : UInt32} (h : typeIsMultiplanar type = true) :
    queueIndex type ≠ some 1 := by
  have htype : type = bufTypeVideoCaptureMplane ∨ type = bufTypeVideoOutputMplane := by
    simpa [typeIsMultiplanar] using h
  obtain rfl | rfl := htype
  · decide
  · decide

/-- The queue that is looked at while the flag is clear does not stream. -/
theorem videoCapture_streaming {cfg : Config} {nonblocking : Bool} {acts : List SessionAction}
    {d : PolledSession} (hmplane : ∀ a ∈ acts, a.OnMplane)
    (hrun : Trace.run (PolledSession.step cfg) (.init nonblocking) acts = some d) :
    (d.machine.session.queues 1).streaming = false := by
  have hconforms : Trace.Conforms (PolledSession.step cfg) (fun _ a => a.OnMplane)
      (.init nonblocking) acts :=
    Trace.conforms_of_forall (fun a ha _ => hmplane a ha) _
  refine Trace.run_invariant_of_conforms
    (P := fun d => (d.machine.session.queues 1).streaming = false) ?_ rfl hconforms hrun
  intro d a d' hd ha h
  refine Bool.eq_false_iff.mpr fun hd' => ?_
  obtain hold | ⟨type, ret, rfl, hret, ht⟩ := (PolledSession.step_effect h).streaming 1 hd'
  · exact absurd hd (by simp [hold])
  · exact mplane_ne_videoCapture (ha hret) ht

/-- The flag remembers a REQBUFS of a multiplanar queue, and nothing else. -/
theorem usesMplane_iff {cfg : Config} {nonblocking : Bool} {acts : List SessionAction}
    {d : PolledSession}
    (hrun : Trace.run (PolledSession.step cfg) (.init nonblocking) acts = some d) :
    d.machine.session.usesMplane = true ↔
      Trace.Occurs (PolledSession.step cfg) (PolledSession.Marks cfg) (.init nonblocking) acts := by
  rw [Trace.sticky_iff_occurs (fun _ _ _ h => (PolledSession.step_effect h).usesMplane) hrun]
  exact or_iff_right Bool.false_ne_true

/-- In a run on the multiplanar queues, poll watches VIDEO_CAPTURE_MPLANE while
that queue is not busy, or if a REQBUFS of a multiplanar queue succeeded before
and the session has not failed. CREATE_BUFS does not count. -/
theorem poll_watches_iff (cfg : Config) (nonblocking : Bool) (acts : List SessionAction)
    (d : PolledSession) (hmplane : ∀ a ∈ acts, a.OnMplane)
    (hrun : Trace.run (PolledSession.step cfg) (.init nonblocking) acts = some d)
    (disconnected : Bool) :
    Watches d.machine.session disconnected (d.machine.session.queues 9) ↔
      ¬ (d.machine.session.queues 9).Busy ∨
        (disconnected || d.machine.session.error) = false ∧
          Trace.Occurs (PolledSession.step cfg) (PolledSession.Marks cfg) (.init nonblocking)
            acts := by
  rw [watches_iff (videoCapture_streaming hmplane hrun), usesMplane_iff hrun]

/-- A buffer of VIDEO_CAPTURE_MPLANE is allocated, queued and completed. -/
def captureRun (allocate : SessionAction) : List SessionAction :=
  let buf : V4l2Buffer :=
    { (default : V4l2Buffer) with type := bufTypeVideoCaptureMplane, memory := memoryMmap }
  let ans : PlaneAnswers := ⟨.error (-einval), .error (-einval), 0, 0⟩
  [allocate, .queue (.qbufSubmit ⟨buf, []⟩ fun _ => ans), .queue (.qbufReply 0),
    .queue (.streamon bufTypeVideoCaptureMplane 0), .queue (.event ⟨buf, [], 0⟩)]

def allocateByReqbufs : SessionAction :=
  let b : RequestBuffers := ⟨1, bufTypeVideoCaptureMplane, memoryMmap, 0, 0⟩
  .queue (.reqbufs b 0 b [] true)

def allocateByCreateBufs : SessionAction :=
  let b : CreateBuffers := ⟨0, 1, memoryMmap, bufTypeVideoCaptureMplane⟩
  .createBufs b 0 b true

/-- After REQBUFS the buffer that waits is watched. -/
theorem poll_watches_iff_reqbufs :
    ∃ d, Trace.run (PolledSession.step ⟨false, false, false⟩) (.init false)
        (captureRun allocateByReqbufs) = some d ∧
      (d.machine.session.queues 9).Busy ∧
      Watches d.machine.session false (d.machine.session.queues 9) := by
  have hmplane : ∀ a ∈ captureRun allocateByReqbufs, a.OnMplane := by
    simp [captureRun, allocateByReqbufs, SessionAction.OnMplane, typeIsMultiplanar]
  refine ⟨_, rfl, ⟨rfl, .inr (by decide)⟩, ?_⟩
  refine (poll_watches_iff ⟨false, false, false⟩ false (captureRun allocateByReqbufs) _ hmplane
    rfl false).mpr (.inr ⟨rfl, ?_⟩)
  exact (usesMplane_iff rfl).mp rfl

/-- With CREATE_BUFS a poll for reading reports an error for the buffer that
waits. -/
theorem poll_watches_fails_createBufs :
    ¬ ∀ (cfg : Config) (nonblocking : Bool) (acts : List SessionAction) (d : PolledSession),
      (∀ a ∈ acts, a.OnMplane) →
      Trace.run (PolledSession.step cfg) (.init nonblocking) acts = some d →
        Watches d.machine.session false (d.machine.session.queues 9) := by
  intro h
  have hbad := h ⟨false, false, false⟩ false (captureRun allocateByCreateBufs) _
    (by simp [captureRun, allocateByCreateBufs, SessionAction.OnMplane, typeIsMultiplanar]) rfl
  exact absurd ((hbad false epollIn (by decide)).1.mpr (by decide)) (by decide)

end VirtioMedia.Driver
