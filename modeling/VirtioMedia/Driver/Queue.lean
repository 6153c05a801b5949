import VirtioMedia.Driver.Imports

/-!
# Queue ioctls and dequeue events of the driver

The handlers of `virtio_media_ioctls.c` that own queue state, and
`virtio_media_process_dqbuf_event`. A command sent to the device is an input:
`ret` is the value returned by the `virtio_media_send_*_ioctl` helper, and a
reply buffer is what the device left in the structure. `drained` is the list
of events found by the `virtio_media_process_events` call of the handler.

QBUF is cut at the point where its command is outstanding, because events
are processed there: `qbufSubmit` is the part before the command, `qbufReply`
the part after it. `vlock` is held across both.
-/

namespace VirtioMedia.Driver

open V4l2

/-! ### Dequeue events -/

/-- `struct virtio_media_event_dqbuf`, with the reading of `ktime_get_ns()`
at the moment it is processed. -/
structure DqbufEvent where
  buffer : V4l2Buffer
  planes : List V4l2Plane
  nowNs : Nat
  deriving DecidableEq, Repr

/-- The event passes the checks made on the slot it names. -/
def QueueState.accepts (q : QueueState) (type : UInt32) (ev : DqbufEvent) : Bool :=
  match q.buffers[ev.buffer.index.toNat]? with
  | none => false
  | some b =>
    b.onDevice && ev.buffer.memory == q.memory &&
      !(typeIsMultiplanar type && ev.buffer.length.toNat > videoMaxPlanes)

/-- Override a monotonic timestamp by the local clock, if so configured. -/
def overrideTimestamp (cfg : Config) (nowNs : Nat) (b : V4l2Buffer) : V4l2Buffer :=
  if cfg.overrideTimestamp &&
      b.flags &&& bufFlagTimestampMask == bufFlagTimestampMonotonic then
    { b with
      tvSec := UInt64.ofNat (nowNs / 1000000000)
      tvUsec := UInt64.ofNat (nowNs % 1000000000 / 1000) }
  else b

/-- The device's planes replace the stored ones below `n`, but for their `m`. -/
def mergePlanes (n : Nat) (stored received : List V4l2Plane) : List V4l2Plane :=
  stored.mapIdx fun i p => if i < n then { received.getD i default with m := p.m } else p

/-- The slot after an accepted event: the `m` unions given at QBUF are kept,
everything else is the device's, and DONE is set. -/
def completedSlot (cfg : Config) (ev : DqbufEvent) (b : MediaBuffer) : MediaBuffer :=
  let buf := overrideTimestamp cfg ev.nowNs { ev.buffer with m := b.buffer.m }
  { completeImports b with
    buffer := { buf with flags := buf.flags ||| bufFlagDone }
    planes :=
      if typeIsMultiplanar ev.buffer.type then
        mergePlanes ev.buffer.length.toNat b.planes ev.planes
      else b.planes }

/-- The effect of an event on the queue it names. -/
def QueueState.processDqbuf (cfg : Config) (type : UInt32) (q : QueueState)
    (ev : DqbufEvent) : QueueState :=
  match q.buffers[ev.buffer.index.toNat]? with
  | none => q
  | some b =>
    if q.accepts type ev then
      let q := q.setBuffer ev.buffer.index.toNat (completedSlot cfg ev b)
      { q with pendingDqbufs := q.pendingDqbufs ++ [ev.buffer.index.toNat] }.decQueued
    else q

/-- `virtio_media_process_dqbuf_event`. -/
def processDqbufEvent (cfg : Config) (s : Session) (ev : DqbufEvent) : Session :=
  match queueIndex ev.buffer.type with
  | none => s
  | some t => s.setQueue t ((s.queues t).processDqbuf cfg ev.buffer.type ev)

/-- The dqbuf events of one `virtio_media_process_events` call. -/
def processEvents (cfg : Config) (s : Session) (evs : List DqbufEvent) : Session :=
  evs.foldl (processDqbufEvent cfg) s

/-! ### STREAMON, STREAMOFF and REQBUFS -/

/-- `virtio_media_clear_queue`. -/
def clearQueue (q : QueueState) : QueueState :=
  { q with
    pendingDqbufs := []
    buffers := q.buffers.map fun b => (completeImports b).setFlags 0
    queuedBufs := 0
    streaming := false
    importNeedsCancel := false
    isCaptureLast := false }

/-- `virtio_media_streamon`. -/
def streamon (s : Session) (type : UInt32) (ret : Int) : Int × Session :=
  match queueIndex type with
  | none => (-einval, s)
  | some t =>
    if (s.queues t).importNeedsCancel then (-eio, s)
    else if ret < 0 then (ret, s)
    else (0, s.setQueue t { s.queues t with streaming := true })

/-- `virtio_media_streamoff`. -/
def streamoff (cfg : Config) (s : Session) (type : UInt32) (ret : Int)
    (drained : List DqbufEvent) : Int × Session :=
  match queueIndex type with
  | none => (-einval, s)
  | some t =>
    if ret < 0 then (ret, s)
    else
      let s := processEvents cfg s drained
      (0, s.setQueue t (clearQueue (s.queues t)))

/-- `struct v4l2_requestbuffers`. -/
structure RequestBuffers where
  count : UInt32
  type : UInt32
  memory : UInt32
  capabilities : UInt32
  flags : UInt32
  deriving DecidableEq, Repr

/-- The checks of `virtio_media_reqbufs` before the command is sent. -/
def reqbufsCheck (cfg : Config) (s : Session) (b : RequestBuffers) : Int :=
  match queueIndex b.type with
  | none => -einval
  | some t =>
    if b.memory == memoryUserptr && !cfg.allowUserptr then -einval
    else if (s.queues t).streaming && b.count != 0 then -ebusy
    else if b.memory == memoryDmabuf && (!typeIsCapture b.type || !cfg.canImport) then
      -eopnotsupp
    else 0

/-- The queue after a successful REQBUFS reply: the old generation is
released and cleared, and the new array is zeroed. -/
def reallocQueue (q : QueueState) (reply : RequestBuffers) (vzallocOk : Bool) : QueueState :=
  let q := { q with buffers := q.buffers.map releaseImports, memory := reply.memory }
  let q := clearQueue q
  { q with
    buffers := if vzallocOk then List.replicate reply.count.toNat MediaBuffer.zero else [] }

/-- The capabilities reported to the caller of a successful REQBUFS. -/
def maskCapabilities (cfg : Config) (caps : UInt32) : UInt32 :=
  let caps := if cfg.allowUserptr then caps else caps &&& ~~~bufCapSupportsUserptr
  if cfg.canImport then caps else caps &&& ~~~bufCapSupportsDmabuf

/-- `virtio_media_reqbufs`. The reply is stored in the caller's structure, so
the queue and the sizes below are the device's; `none` stands for an index
outside `session->queues`. -/
def reqbufs (cfg : Config) (s : Session) (b : RequestBuffers) (ret : Int)
    (reply : RequestBuffers) (drained : List DqbufEvent) (vzallocOk : Bool) :
    Option (Int × RequestBuffers × Session) :=
  if reqbufsCheck cfg s b != 0 then some (reqbufsCheck cfg s b, b, s)
  else if ret != 0 then some (ret, reply, s)
  else
    match queueIndex reply.type with
    | none => none
    | some t =>
      let s := processEvents cfg s drained
      let ok := vzallocOk || reply.count == 0
      let s := s.setQueue t (reallocQueue (s.queues t) reply ok)
      if ok then
        some (0, { reply with capabilities := maskCapabilities cfg reply.capabilities },
          { s with usesMplane := s.usesMplane || typeIsMultiplanar reply.type })
      else some (-enomem, reply, s)

/-- A REQBUFS that is refused leaves the session alone. One that is answered
takes in the events, and then allocates the queue of the reply anew. -/
theorem reqbufs_cases {cfg : Config} {s : Session} {b reply : RequestBuffers} {ret : Int}
    {drained : List DqbufEvent} {vzallocOk : Bool} {r : Int × RequestBuffers × Session}
    (h : reqbufs cfg s b ret reply drained vzallocOk = some r) :
    ((reqbufsCheck cfg s b != 0 || ret != 0) = true ∧ r.2.2 = s) ∨
    ((reqbufsCheck cfg s b != 0 || ret != 0) = false ∧ ∃ t m,
      queueIndex reply.type = some t ∧
      r.2.2 = { (processEvents cfg s drained).setQueue t
        (reallocQueue ((processEvents cfg s drained).queues t) reply
          (vzallocOk || reply.count == 0)) with usesMplane := m }) := by
  unfold reqbufs at h
  by_cases hcheck : (reqbufsCheck cfg s b != 0) = true
  · rw [if_pos hcheck] at h
    cases h
    exact .inl ⟨by rw [hcheck, Bool.true_or], rfl⟩
  · rw [if_neg hcheck] at h
    by_cases hret : (ret != 0) = true
    · rw [if_pos hret] at h
      cases h
      exact .inl ⟨by rw [hret, Bool.or_true], rfl⟩
    · rw [if_neg hret] at h
      refine .inr ⟨by simp [Bool.eq_false_iff.mpr hcheck, Bool.eq_false_iff.mpr hret], ?_⟩
      cases ht : queueIndex reply.type with
      | none =>
          rw [ht] at h
          cases h
      | some t =>
          rw [ht] at h
          simp only at h
          split_ifs at h <;> cases h
          · exact ⟨t, _, rfl, rfl⟩
          · exact ⟨t, _, rfl, rfl⟩

/-! ### QBUF and DQBUF -/

/-- A QBUF command that has been sent and not answered. -/
structure QbufInFlight where
  queue : Fin numQueues
  slot : Nat
  oldFlags : UInt32
  deriving DecidableEq, Repr

/-- Keep the `m` unions passed with the buffer, for the DQBUF that returns it. -/
def storeM (req : BufferReq) (b : MediaBuffer) : MediaBuffer :=
  { b with
    buffer := { b.buffer with m := req.buffer.m }
    planes :=
      if typeIsMultiplanar req.buffer.type then
        b.planes.mapIdx fun i p =>
          if i < req.buffer.length.toNat then { p with m := (req.plane i).m } else p
      else b.planes }

/-- The first checks of `virtio_media_qbuf`: the queue and the slot, or the
error. -/
def qbufCheck (s : Session) (req : BufferReq) : Except Int (Fin numQueues × MediaBuffer) :=
  match queueIndex req.buffer.type with
  | none => .error (-einval)
  | some t =>
    match (s.queues t).buffers[req.buffer.index.toNat]? with
    | none => .error (-einval)
    | some b =>
      if (s.queues t).importNeedsCancel then .error (-eio)
      else if req.buffer.memory != (s.queues t).memory ||
          hasFlag b.buffer.flags (bufFlagQueued ||| bufFlagDone) then .error (-einval)
      else .ok (t, b)

/-- Mark the slot queued and count it. -/
def enqueueSlot (q : QueueState) (i : Nat) (b : MediaBuffer) : QueueState :=
  (q.setBuffer i (b.setFlags bufFlagQueued)).incQueued

/-- `virtio_media_qbuf` up to the command. -/
def qbufSubmit (cfg : Config) (s : Session) (req : BufferReq) (ans : Nat → PlaneAnswers) :
    Except Int QbufInFlight × Session :=
  match qbufCheck s req with
  | .error e => (.error e, s)
  | .ok (t, b) =>
    let i := req.buffer.index.toNat
    let q := s.queues t
    let prep := if req.buffer.memory == memoryDmabuf then prepareImports cfg b req ans
      else (0, b)
    if prep.1 != 0 then (.error prep.1, s.setQueue t (q.setBuffer i prep.2))
    else if hasFlag prep.2.buffer.flags bufFlagPrepared then
      (.ok ⟨t, i, prep.2.buffer.flags⟩, s.setQueue t (enqueueSlot q i prep.2))
    else if typeIsMultiplanar req.buffer.type && req.buffer.length.toNat > videoMaxPlanes then
      -- `buffer.m` has been stored when the plane count is found too large
      (.error (-einval), s.setQueue t (q.setBuffer i
        { prep.2 with buffer := { prep.2.buffer with m := req.buffer.m } }))
    else
      (.ok ⟨t, i, prep.2.buffer.flags⟩, s.setQueue t (enqueueSlot q i (storeM req prep.2)))

/-- A failed QBUF on an import queue releases the imports of its slot. -/
def releasedSlot (memory : UInt32) (b : MediaBuffer) : MediaBuffer :=
  if memory == memoryDmabuf then releaseImports b else b

/-- The queue after a failed QBUF command. A completion that arrived before
the reply leaves the slot DONE, and then neither counter nor flags change. -/
def failQbuf (q : QueueState) (fl : QbufInFlight) : QueueState :=
  let q := { q with importNeedsCancel := q.importNeedsCancel || q.memory == memoryDmabuf }
  match q.buffers[fl.slot]? with
  | none => q
  | some b =>
    if b.done then q.setBuffer fl.slot (releasedSlot q.memory b)
    else (q.setBuffer fl.slot ((releasedSlot q.memory b).setFlags fl.oldFlags)).decQueued

/-- `virtio_media_qbuf` from the reply on. -/
def qbufReply (s : Session) (fl : QbufInFlight) (ret : Int) : Int × Session :=
  if ret != 0 then (ret, s.setQueue fl.queue (failQbuf (s.queues fl.queue) fl))
  else (0, s)

/-- The checks of `virtio_media_dqbuf` made before `vlock` is released. -/
def dqbufCheck (s : Session) (type : UInt32) : Except Int (Fin numQueues) :=
  match queueIndex type with
  | none => .error (-einval)
  | some t =>
    let q := s.queues t
    if q.isCaptureLast then .error (-epipe)
    else if s.nonblockingDequeue then
      if q.pendingDqbufs.isEmpty then .error (-eagain) else .ok t
    else if q.buffers.isEmpty then .error (-einval)
    else if !q.streaming then .error (-einval)
    else .ok t

/-- What DQBUF copies back to its caller for the slot it removed. -/
def dqbufResult (req : BufferReq) (b : MediaBuffer) : BufferReq :=
  if typeIsMultiplanar req.buffer.type then
    let n := min req.buffer.length.toNat videoMaxPlanes
    { buffer := { b.buffer with m := req.buffer.m }
      planes := b.planes.take n ++ req.planes.drop n }
  else { buffer := b.buffer, planes := req.planes }

/-- Clear the DONE flag, as the buffer is now being dequeued. -/
def dequeuedSlot (b : MediaBuffer) : MediaBuffer :=
  b.setFlags (b.buffer.flags &&& ~~~(bufFlagDone ||| bufFlagQueued))

/-- The pop of `virtio_media_dqbuf`: unlink the first pending slot and clear
its DONE and QUEUED flags. The C code does not look whether there is one;
`none` stands for the pop of an empty list. -/
def dqbufPop (s : Session) (t : Fin numQueues) (req : BufferReq) :
    Option (BufferReq × Session) :=
  let q := s.queues t
  match q.pendingDqbufs with
  | [] => none
  | i :: rest =>
    match q.buffers[i]? with
    | none => none
    | some b =>
      let res := dqbufResult req (dequeuedSlot b)
      let q := { q.setBuffer i (dequeuedSlot b) with
        pendingDqbufs := rest
        isCaptureLast := q.isCaptureLast ||
          (typeIsCapture res.buffer.type && hasFlag res.buffer.flags bufFlagLast) }
      some (res, s.setQueue t q)

/-! ### Runs -/

/-- A session together with the QBUF command that is outstanding, if any. -/
structure Machine where
  session : Session
  inFlight : Option QbufInFlight

def Machine.init (nonblocking : Bool) : Machine := ⟨.init nonblocking, none⟩

/-- One ioctl, one half of a QBUF, or one delivered event. -/
inductive Action where
  | event (ev : DqbufEvent)
  | qbufSubmit (req : BufferReq) (ans : Nat → PlaneAnswers)
  | qbufReply (ret : Int)
  | dqbuf (req : BufferReq)
  | streamon (type : UInt32) (ret : Int)
  | streamoff (type : UInt32) (ret : Int) (drained : List DqbufEvent)
  | reqbufs (b : RequestBuffers) (ret : Int) (reply : RequestBuffers)
      (drained : List DqbufEvent) (vzallocOk : Bool)

/-- An ioctl runs only while no QBUF command is outstanding: `vlock` is held
until its reply. Events take `events_lock` and may come at any time. -/
def Machine.step (cfg : Config) (d : Machine) : Action → Option Machine
  | .event ev => some { d with session := processDqbufEvent cfg d.session ev }
  | .qbufReply ret =>
    d.inFlight.map fun fl => ⟨(qbufReply d.session fl ret).2, none⟩
  | .qbufSubmit req ans =>
    if d.inFlight.isSome then none
    else
      let r := qbufSubmit cfg d.session req ans
      some ⟨r.2, r.1.toOption⟩
  | .dqbuf req =>
    if d.inFlight.isSome then none
    else
      match dqbufCheck d.session req.buffer.type with
      | .error _ => some d
      | .ok t => (dqbufPop d.session t req).map fun r => { d with session := r.2 }
  | .streamon type ret =>
    if d.inFlight.isSome then none
    else some { d with session := (streamon d.session type ret).2 }
  | .streamoff type ret drained =>
    if d.inFlight.isSome then none
    else some { d with session := (streamoff cfg d.session type ret drained).2 }
  | .reqbufs b ret reply drained vzallocOk =>
    if d.inFlight.isSome then none
    else (reqbufs cfg d.session b ret reply drained vzallocOk).map fun r =>
      { d with session := r.2.2 }

section Step

variable {cfg : Config} {d d' : Machine}

theorem Machine.step_qbufReply {ret : Int} (h : d.step cfg (.qbufReply ret) = some d') :
    ∃ fl, d.inFlight = some fl ∧ d' = ⟨(qbufReply d.session fl ret).2, none⟩ := by
  obtain ⟨fl, hfl, rfl⟩ := Option.map_eq_some_iff.mp h
  exact ⟨fl, hfl, rfl⟩

/-- An ioctl that runs finds no QBUF outstanding. -/
theorem idle_of_guard {α β : Type*} {o : Option α} {x : Option β} {y : β}
    (h : (if o.isSome then none else x) = some y) : o = none ∧ x = some y := by
  cases o with
  | none => exact ⟨rfl, h⟩
  | some a => cases h

theorem Machine.step_qbufSubmit {req : BufferReq} {ans : Nat → PlaneAnswers}
    (h : d.step cfg (.qbufSubmit req ans) = some d') :
    d.inFlight = none ∧ d' = ⟨(qbufSubmit cfg d.session req ans).2,
      (qbufSubmit cfg d.session req ans).1.toOption⟩ := by
  obtain ⟨hidle, h⟩ := idle_of_guard h
  exact ⟨hidle, (Option.some.inj h).symm⟩

/-- DQBUF is refused, or it pops a pending slot. -/
theorem Machine.step_dqbuf {req : BufferReq} (h : d.step cfg (.dqbuf req) = some d') :
    d.inFlight = none ∧ (d' = d ∨ ∃ t res s,
      dqbufPop d.session t req = some (res, s) ∧ d' = ⟨s, none⟩) := by
  obtain ⟨hidle, h⟩ := idle_of_guard h
  refine ⟨hidle, ?_⟩
  cases hc : dqbufCheck d.session req.buffer.type with
  | error e =>
      rw [hc] at h
      exact .inl (Option.some.inj h).symm
  | ok t =>
      rw [hc] at h
      obtain ⟨⟨res, s⟩, hp, rfl⟩ := Option.map_eq_some_iff.mp h
      exact .inr ⟨t, res, s, hp, by rw [hidle]⟩

theorem Machine.step_streamon {type : UInt32} {ret : Int}
    (h : d.step cfg (.streamon type ret) = some d') :
    d.inFlight = none ∧ d' = ⟨(streamon d.session type ret).2, none⟩ := by
  obtain ⟨hidle, h⟩ := idle_of_guard h
  exact ⟨hidle, by rw [← Option.some.inj h, hidle]⟩

theorem Machine.step_streamoff {type : UInt32} {ret : Int} {drained : List DqbufEvent}
    (h : d.step cfg (.streamoff type ret drained) = some d') :
    d.inFlight = none ∧ d' = ⟨(streamoff cfg d.session type ret drained).2, none⟩ := by
  obtain ⟨hidle, h⟩ := idle_of_guard h
  exact ⟨hidle, by rw [← Option.some.inj h, hidle]⟩

theorem Machine.step_reqbufs {b reply : RequestBuffers} {ret : Int} {drained : List DqbufEvent}
    {vzallocOk : Bool} (h : d.step cfg (.reqbufs b ret reply drained vzallocOk) = some d') :
    d.inFlight = none ∧ ∃ r, reqbufs cfg d.session b ret reply drained vzallocOk = some r ∧
      d' = ⟨r.2.2, none⟩ := by
  obtain ⟨hidle, h⟩ := idle_of_guard h
  obtain ⟨r, hr, rfl⟩ := Option.map_eq_some_iff.mp h
  exact ⟨hidle, r, hr, by rw [hidle]⟩

end Step

end VirtioMedia.Driver
