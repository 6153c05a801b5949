import VirtioMedia.Device.V4l2r
import VirtioMedia.Lib.SortedList

/-!
# Queues and USERPTR buffers of the V4L2 proxy device

The part of `device/src/devices/v4l2_device_proxy.rs` that queues buffers on
the host device and takes them back: the queue counters, the polling of the
CAPTURE queue, and the table of USERPTR planes. The host driver is outside the
repository. It keeps the buffers that were queued on it and the user pointers
last queued for each buffer, and it hands pointers back as it was given them;
everything else it answers is an input, and so are the addresses at which the
guest-memory mapper maps the planes.

The host device implements the single-planar or the multi-planar API and
refuses the queue types of the other, so it has one video CAPTURE and one
video OUTPUT queue.
-/

namespace VirtioMedia.Device.ProxyQueues

open V4l2

/-! ### Buffers -/

/-- A plane as `planes_with_backing_iter` gives it. -/
structure Plane where
  userptr : UInt64
  length : UInt32
  bytesused : UInt32
  dataOffset : UInt32
  deriving DecidableEq, Repr

/-- `v4l2r::ioctl::V4l2Buffer` with the planes that are in use. -/
structure Buffer where
  queue : QueueType
  index : UInt32
  memory : MemoryType
  flags : UInt32
  field : UInt32
  tvSec : UInt64
  tvUsec : UInt64
  sequence : UInt32
  planes : List Plane
  deriving DecidableEq, Repr

/-- What the host driver fills in when it returns a buffer. -/
structure Status where
  flags : UInt32
  field : UInt32
  tvSec : UInt64
  tvUsec : UInt64
  sequence : UInt32
  bytesused : List UInt32
  deriving DecidableEq, Repr

/-- The buffer as the host driver returns it; its pointers are those it was
given. -/
def Buffer.withStatus (b : Buffer) (st : Status) : Buffer :=
  { b with
    flags := st.flags
    field := st.field
    tvSec := st.tvSec
    tvUsec := st.tvUsec
    sequence := st.sequence
    planes := b.planes.mapIdx fun i p => { p with bytesused := st.bytesused.getD i 0 } }

/-- The user pointers of a buffer. -/
def Buffer.userptrs (b : Buffer) : List UInt64 :=
  if b.memory = .userPtr then b.planes.map Plane.userptr else []

/-- The buffer with these user pointers, which are null where the list has none. -/
def Buffer.withUserptrs (b : Buffer) (ptrs : List UInt64) : Buffer :=
  { b with planes := b.planes.mapIdx fun i p => { p with userptr := ptrs.getD i 0 } }

/-- A `GuestMemoryMapping` and its address. Each one has a number of its own. -/
structure Mapping where
  id : Nat
  addr : UInt64
  deriving DecidableEq, Repr

/-- The number of SG lists that come with a buffer. -/
def Buffer.regionCount (b : Buffer) : Nat :=
  if b.memory = .userPtr then (b.planes.filter fun p => p.length ≠ 0).length else 0

/-- A buffer sent by the guest. There is an SG list for each USERPTR plane of
non-zero length; `mapped` is what `new_mapping` answers for each of them. -/
structure Request where
  buffer : Buffer
  mapped : List (Option UInt64)
  regions : mapped.length = buffer.regionCount
  deriving DecidableEq, Repr

/-! ### Translation of addresses -/

/-- The loop of `guest_v4l2_buffer_to_host`: map the planes of non-zero length
and replace their pointers. `none` stands for a mapping that failed. -/
def mapPlanes : Nat → List Plane → List (Option UInt64) → Option (List Plane × List Mapping)
  | _, [], _ => some ([], [])
  | id, p :: rest, mapped =>
    if p.length = 0 then (mapPlanes id rest mapped).map fun r => (p :: r.1, r.2)
    else
      match mapped with
      | [] => some (p :: rest, [])
      | none :: _ => none
      | some addr :: mapped => (mapPlanes (id + 1) rest mapped).map fun r =>
          ({ p with userptr := addr } :: r.1, ⟨id, addr⟩ :: r.2)

/-- `guest_v4l2_buffer_to_host`. New mappings are numbered from `id`. -/
def guestV4l2BufferToHost (id : Nat) (req : Request) : Option (Buffer × List Mapping) :=
  if req.buffer.memory = .userPtr then
    (mapPlanes id req.buffer.planes req.mapped).map fun r =>
      ({ req.buffer with planes := r.1 }, r.2)
  else some (req.buffer, [])

/-- `V4l2UserPlaneInfo`, with the address it is stored under. -/
structure UserPlaneInfo where
  hostAddr : UInt64
  queue : QueueType
  index : UInt8
  guestAddr : UInt64
  guestResource : Mapping
  deriving DecidableEq, Repr

def UserPlaneInfo.key (p : UserPlaneInfo) : Nat := p.hostAddr.toNat

abbrev UserptrTable : Type := SortedMap UserPlaneInfo.key

/-- One plane of `host_v4l2_buffer_to_guest`. -/
def restorePlane (table : UserptrTable) (p : Plane) : Option Plane :=
  if p.userptr = 0 then some p
  else (table.get? p.userptr.toNat).map fun info => { p with userptr := info.guestAddr }

/-- `host_v4l2_buffer_to_guest`. -/
def hostV4l2BufferToGuest (b : Buffer) (table : UserptrTable) : Option Buffer :=
  if b.memory = .userPtr then
    (b.planes.mapM (restorePlane table)).map fun planes => { b with planes := planes }
  else some b

/-- The planes `register_userptr_addresses` records, each with the resource
that its iterators put beside it. -/
def registrations (host guest : Buffer) (resources : List Mapping) : List UserPlaneInfo :=
  ((((host.planes.map Plane.userptr).zip guest.planes).filter fun p => p.1 ≠ 0).zip resources).map
    fun r => ⟨r.1.1, guest.queue, guest.index.toUInt8, r.1.2.userptr, r.2⟩

/-- `register_userptr_addresses`. -/
def registerUserptrAddresses (table : UserptrTable) (host guest : Buffer)
    (resources : List Mapping) : UserptrTable :=
  if guest.memory = .userPtr then
    (registrations host guest resources).foldl SortedMap.insert table
  else table

/-! ### The host device -/

/-- A buffer that the host driver holds, with the mappings of its planes. -/
structure Held where
  buffer : Buffer
  resources : List Mapping
  deriving DecidableEq, Repr

structure Host where
  multiplanar : Bool
  held : List Held
  /-- The user pointers last queued for a buffer. -/
  queuedPtrs : QueueType → UInt32 → List UInt64

def Host.init (multiplanar : Bool) : Host := ⟨multiplanar, [], fun _ _ => []⟩

/-- The host device has this queue. -/
def Host.has (host : Host) : QueueType → Bool
  | .videoCapture | .videoOutput => !host.multiplanar
  | .videoCaptureMplane | .videoOutputMplane => host.multiplanar
  | _ => true

/-- What the host answers, or `EINVAL` for a queue it does not have. -/
def Host.answer {α : Type} (host : Host) (queue : QueueType) (a : Except Int α) : Except Int α :=
  if host.has queue then a else .error einval

/-- The host no longer holds buffers of the queue. -/
def Host.empty (host : Host) (queue : QueueType) : Host :=
  { host with held := host.held.filter fun h => h.buffer.queue ≠ queue }

/-- The buffers of the queue are freed. -/
def Host.free (host : Host) (queue : QueueType) : Host :=
  { host.empty queue with
    queuedPtrs := fun q i => if q = queue then [] else host.queuedPtrs q i }

def Host.add (host : Host) (h : Held) : Host :=
  { host with
    held := host.held ++ [h]
    queuedPtrs := fun q i =>
      if q = h.buffer.queue ∧ i = h.buffer.index then h.buffer.userptrs
      else host.queuedPtrs q i }

/-- What the host driver answers to DQBUF: the buffer at a position of those it
holds, or an error. -/
inductive DqAnswer where
  | buffer (pos : Nat) (st : Status)
  | eos
  | notReady
  | error (errno : Int)
  deriving DecidableEq, Repr

/-- `DqBufError`. -/
inductive DqError where
  | eos
  | notReady
  | other (errno : Int)
  deriving DecidableEq, Repr

/-- `v4l2r::ioctl::dqbuf`. Only a buffer of the queue can be dequeued. -/
def Host.dqbuf (host : Host) (queue : QueueType) : DqAnswer → Except DqError Buffer × Host
  | .buffer pos st =>
    match host.held[pos]? with
    | none => (.error .notReady, host)
    | some h =>
      if h.buffer.queue = queue then
        (.ok (h.buffer.withStatus st), { host with held := host.held.eraseIdx pos })
      else (.error .notReady, host)
  | .eos => (.error .eos, host)
  | .notReady => (.error .notReady, host)
  | .error errno => (.error (.other errno), host)

/-- The answer to QUERYBUF: a buffer with the user pointers last queued for
it. -/
def Host.queried (host : Host) (b : Buffer) : Buffer :=
  if b.memory = .userPtr then b.withUserptrs (host.queuedPtrs b.queue b.index) else b

/-! ### The session -/

/-- `V4l2Session`. `captureReady` says whether this event is enabled in the
poller of the session. -/
structure Session where
  id : UInt32
  captureReady : Bool
  captureQueueType : Option QueueType
  outputQueueType : Option QueueType
  captureStreaming : Bool
  captureNumQueued : Nat
  outputStreaming : Bool
  outputNumQueued : Nat
  userptrBuffers : UserptrTable

def Session.new (id : UInt32) : Session where
  id := id
  captureReady := false
  captureQueueType := none
  outputQueueType := none
  captureStreaming := false
  captureNumQueued := 0
  outputStreaming := false
  outputNumQueued := 0
  userptrBuffers := .empty

/-- A video CAPTURE queue of either API. -/
def isVideoCapture : QueueType → Bool
  | .videoCapture | .videoCaptureMplane => true
  | _ => false

/-- A video OUTPUT queue of either API. -/
def isVideoOutput : QueueType → Bool
  | .videoOutput | .videoOutputMplane => true
  | _ => false

/-- `should_poll_capture`. -/
def Session.shouldPollCapture (s : Session) : Bool :=
  s.captureStreaming && decide (0 < s.captureNumQueued)

/-- `register_userptr_addresses`, on the session. -/
def Session.register (s : Session) (host guest : Buffer) (resources : List Mapping) : Session :=
  { s with userptrBuffers := registerUserptrAddresses s.userptrBuffers host guest resources }

/-- Drop the information about a buffer that was dequeued. -/
def Session.dropPlanes (s : Session) (queue : QueueType) (index : UInt32) : Session :=
  { s with userptrBuffers :=
      s.userptrBuffers.retain fun v => !(v.queue == queue && v.index == index.toUInt8) }

/-- The end of `update_mmap_offsets`: remember the type of the queue. -/
def Session.rememberQueue (s : Session) (queue : QueueType) : Session :=
  if isVideoCapture queue then { s with captureQueueType := some queue }
  else if isVideoOutput queue then { s with outputQueueType := some queue }
  else s

/-- What STREAMOFF and REQBUFS(0) do to the session. -/
def Session.stop (s : Session) (queue : QueueType) : Session :=
  if isVideoCapture queue then
    { s with
      captureStreaming := false
      captureNumQueued := 0
      captureReady := s.captureReady && !s.shouldPollCapture }
  else if isVideoOutput queue then { s with outputStreaming := false, outputNumQueued := 0 }
  else s

/-- What STREAMON does to the session. -/
def Session.start (s : Session) (queue : QueueType) : Session :=
  if isVideoCapture queue then
    if s.captureStreaming then s
    else
      let s := { s with captureStreaming := true }
      { s with captureReady := s.captureReady || s.shouldPollCapture }
  else if isVideoOutput queue then { s with outputStreaming := true }
  else s

/-- What QBUF does to the counters. -/
def Session.countQueued (s : Session) (queue : QueueType) : Session :=
  if isVideoCapture queue then
    let wasPolling := s.shouldPollCapture
    let s := { s with captureNumQueued := s.captureNumQueued + 1 }
    { s with captureReady := s.captureReady || (!wasPolling && s.shouldPollCapture) }
  else if isVideoOutput queue then { s with outputNumQueued := s.outputNumQueued + 1 }
  else s

/-- What a dequeued CAPTURE buffer does to the counters. `none` is the
subtraction that underflows. -/
def Session.countDequeued (s : Session) (flags : UInt32) : Option Session :=
  if s.captureNumQueued = 0 then none
  else
    let n := s.captureNumQueued - 1
    let disable := (s.shouldPollCapture && n == 0) || hasFlag flags bufFlagLast
    some { s with captureNumQueued := n, captureReady := s.captureReady && !disable }

/-! ### Dequeueing -/

/-- An event for the guest. -/
inductive Event where
  | dequeueBuffer (sessionId : UInt32) (buffer : Buffer)
  | error (sessionId : UInt32) (errno : Int)
  | event (sessionId : UInt32) (v4l2Event : Vector UInt8 136)
  deriving DecidableEq, Repr

/-- A session with the host device it has opened. -/
structure State where
  session : Session
  host : Host
  nextMapping : Nat

def State.init (id : UInt32) (multiplanar : Bool) : State := ⟨.new id, .init multiplanar, 0⟩

/-- What a function returns, the state it leaves and the events it sent. -/
structure Outcome (α : Type) where
  result : Except Int α
  state : State
  events : List Event

/-- The loop of `dequeue_output_buffers`. The list ends where no buffer is
ready any more. -/
def State.outputLoop (queue : QueueType) : List DqAnswer → State → Outcome Unit
  | [], s => ⟨.ok (), s, []⟩
  | a :: rest, s =>
    match s.host.dqbuf queue a with
    | (.ok buffer, host) =>
      let r := State.outputLoop queue rest
        { s with session := s.session.dropPlanes queue buffer.index, host := host }
      { r with events := .dequeueBuffer s.session.id buffer :: r.events }
    | (.error .eos, _) | (.error .notReady, _) => ⟨.ok (), s, []⟩
    | (.error (.other errno), _) => ⟨.error errno, s, [.error s.session.id errno]⟩

/-- `dequeue_output_buffers`. -/
def State.dequeueOutputBuffers (s : State) (answers : List DqAnswer) : Outcome Unit :=
  match s.session.outputQueueType with
  | none => ⟨.ok (), s, []⟩
  | some queue =>
    if !s.session.outputStreaming || s.session.outputNumQueued == 0 then ⟨.ok (), s, []⟩
    else State.outputLoop queue answers s

/-- `dequeue_capture_buffer`. -/
def State.dequeueCaptureBuffer (s : State) (answer : DqAnswer) : Option (Outcome Unit) :=
  match s.session.captureQueueType with
  | none => some ⟨.ok (), s, []⟩
  | some queue =>
    match s.host.dqbuf queue answer with
    | (.ok buffer, host) =>
      ((s.session.dropPlanes queue buffer.index).countDequeued buffer.flags).map fun session =>
        ⟨.ok (), { s with session := session, host := host },
          [.dequeueBuffer s.session.id buffer]⟩
    | (.error .eos, _) | (.error .notReady, _) => some ⟨.ok (), s, []⟩
    | (.error (.other errno), _) => some ⟨.error errno, s, [.error s.session.id errno]⟩

/-- An event of the poller, with what the host answers while it is handled.
`v4l2Event` has the events that are pending and the error that ends the loop
of `dequeue_events`, if it is not that there are no more. -/
inductive PollEvent where
  | captureReady (capture : DqAnswer) (outputs : List DqAnswer)
  | v4l2Event (pending : List (Vector UInt8 136)) (error : Option Int)
  deriving DecidableEq, Repr

/-- `dequeue_events`. -/
def State.dequeueEvents (s : State) (pending : List (Vector UInt8 136)) (error : Option Int) :
    Outcome Unit :=
  let sent := pending.map (Event.event s.session.id)
  match error with
  | none => ⟨.ok (), s, sent⟩
  | some errno => ⟨.error errno, s, sent ++ [.error s.session.id errno]⟩

/-- One event of the loop of `process_events`. The poller reports no event that
is not enabled. -/
def State.processEvent (s : State) : PollEvent → Option (Outcome Unit)
  | .captureReady capture outputs =>
    if s.session.captureReady then
      (s.dequeueCaptureBuffer capture).map fun r =>
        match r.result with
        | .error _ => r
        | .ok () =>
          -- try to release OUTPUT buffers as well
          let r' := r.state.dequeueOutputBuffers outputs
          { r' with events := r.events ++ r'.events }
    else some ⟨.ok (), s, []⟩
  | .v4l2Event pending error => some (s.dequeueEvents pending error)

/-- `process_events`. -/
def State.processEvents : List PollEvent → State → Option (Outcome Unit)
  | [], s => some ⟨.ok (), s, []⟩
  | ev :: rest, s =>
    (s.processEvent ev).bind fun r =>
      match r.result with
      | .error _ => some r
      | .ok () => (State.processEvents rest r.state).map fun r' =>
          { r' with events := r.events ++ r'.events }

/-! ### The ioctls -/

/-- `reqbufs`, for a host that answers the number of buffers it allocated. The
MMAP offsets are not part of this state. -/
def State.reqbufs (s : State) (queue : QueueType) (answer : Except Int UInt32) : Outcome UInt32 :=
  match s.host.answer queue answer with
  | .error e => ⟨.error e, s, []⟩
  | .ok count =>
    let session := s.session.rememberQueue queue
    ⟨.ok count, { s with
      session := if count = 0 then session.stop queue else session
      host := s.host.free queue }, []⟩

/-- `create_bufs`. -/
def State.createBufs (s : State) (queue : QueueType) (count : UInt32)
    (answer : Except Int Unit) : Outcome Unit :=
  match s.host.answer queue answer with
  | .error e => ⟨.error e, s, []⟩
  | .ok () =>
    ⟨.ok (), { s with
      session := if count = 0 then s.session else s.session.rememberQueue queue }, []⟩

/-- `querybuf`. `answer` is the buffer as the host has it, but for the user
pointers. -/
def State.querybuf (s : State) (answer : Except Int Buffer) : Outcome Buffer :=
  match answer with
  | .error e => ⟨.error e, s, []⟩
  | .ok b =>
    match hostV4l2BufferToGuest (s.host.queried b) s.session.userptrBuffers with
    | none => ⟨.error einval, s, []⟩
    | some b => ⟨.ok b, s, []⟩

/-- `streamon`. -/
def State.streamon (s : State) (queue : QueueType) (answer : Except Int Unit) : Outcome Unit :=
  match s.host.answer queue answer with
  | .error e => ⟨.error e, s, []⟩
  | .ok () => ⟨.ok (), { s with session := s.session.start queue }, []⟩

/-- `streamoff`. -/
def State.streamoff (s : State) (queue : QueueType) (answer : Except Int Unit) : Outcome Unit :=
  match s.host.answer queue answer with
  | .error e => ⟨.error e, s, []⟩
  | .ok () =>
    ⟨.ok (), { s with session := s.session.stop queue, host := s.host.empty queue }, []⟩

/-- The start of QBUF and PREPARE_BUF: the planes are mapped and registered
before the host sees the buffer. -/
def State.submit (s : State) (req : Request) : Option (Buffer × List Mapping × State) :=
  (guestV4l2BufferToHost s.nextMapping req).map fun r =>
    (r.1, r.2, { s with
      session := s.session.register r.1 req.buffer r.2
      nextMapping := s.nextMapping + r.2.length })

/-- QBUF after the OUTPUT buffers have been dequeued. -/
def State.qbufHost (s : State) (req : Request) (answer : Except Int Status) : Outcome Buffer :=
  match s.submit req with
  | none => ⟨.error einval, s, []⟩
  | some (host, resources, s) =>
    match s.host.answer host.queue answer with
    | .error e => ⟨.error e, s, []⟩
    | .ok st =>
      let s := { s with host := s.host.add ⟨host, resources⟩ }
      match hostV4l2BufferToGuest (host.withStatus st) s.session.userptrBuffers with
      | none => ⟨.error einval, s, []⟩
      | some out => ⟨.ok out, { s with session := s.session.countQueued host.queue }, []⟩

/-- `qbuf`. Errors of the dequeueing are ignored. -/
def State.qbuf (s : State) (req : Request) (outputs : List DqAnswer)
    (answer : Except Int Status) : Outcome Buffer :=
  let r := s.dequeueOutputBuffers outputs
  let r' := r.state.qbufHost req answer
  { r' with events := r.events ++ r'.events }

/-- `prepare_buf`. -/
def State.prepareBuf (s : State) (req : Request) (answer : Except Int Status) : Outcome Buffer :=
  match s.submit req with
  | none => ⟨.error einval, s, []⟩
  | some (host, _, s) =>
    match s.host.answer host.queue answer with
    | .error e => ⟨.error e, s, []⟩
    | .ok st =>
      match hostV4l2BufferToGuest (host.withStatus st) s.session.userptrBuffers with
      | none => ⟨.error einval, s, []⟩
      | some out => ⟨.ok out, s, []⟩

/-! ### Runs -/

/-- A call on a session, with the answers of the host driver and the mapper.
After CLOSE the next session of the run is a new one. -/
inductive Call where
  | reqbufs (queue : QueueType) (answer : Except Int UInt32)
  | createBufs (queue : QueueType) (count : UInt32) (answer : Except Int Unit)
  | querybuf (answer : Except Int Buffer)
  | streamon (queue : QueueType) (answer : Except Int Unit)
  | streamoff (queue : QueueType) (answer : Except Int Unit)
  | qbuf (req : Request) (outputs : List DqAnswer) (answer : Except Int Status)
  | prepareBuf (req : Request) (answer : Except Int Status)
  | decoderCmd (answer : Except Int Unit)
  | processEvents (events : List PollEvent)
  | close

/-- What a call answers. -/
inductive Reply where
  | done
  | count (n : UInt32)
  | buffer (b : Buffer)
  deriving DecidableEq, Repr

def Outcome.map {α : Type} (f : α → Reply) (r : Outcome α) : Outcome Reply :=
  ⟨r.result.map f, r.state, r.events⟩

/-- A call; `none` is a panic. -/
def State.call (s : State) : Call → Option (Outcome Reply)
  | .reqbufs queue answer => some ((s.reqbufs queue answer).map .count)
  | .createBufs queue count answer => some ((s.createBufs queue count answer).map fun _ => .done)
  | .querybuf answer => some ((s.querybuf answer).map .buffer)
  | .streamon queue answer => some ((s.streamon queue answer).map fun _ => .done)
  | .streamoff queue answer => some ((s.streamoff queue answer).map fun _ => .done)
  | .qbuf req outputs answer => some ((s.qbuf req outputs answer).map .buffer)
  | .prepareBuf req answer => some ((s.prepareBuf req answer).map .buffer)
  | .decoderCmd answer => some ⟨answer.map fun _ => .done, s, []⟩
  | .processEvents events => (State.processEvents events s).map fun r => r.map fun _ => .done
  | .close => some ⟨.ok .done, .init s.session.id s.host.multiplanar, []⟩

def State.step (s : State) (c : Call) : Option State := (s.call c).map Outcome.state

/-! ### What a dequeueing can do -/

/-- The state after a held buffer was dequeued and its planes were dropped. -/
def State.take (s : State) (queue : QueueType) (pos : Nat) (h : Held) : State :=
  { s with
    session := s.session.dropPlanes queue h.buffer.index
    host := { s.host with held := s.host.held.eraseIdx pos } }

theorem Host.dqbuf_cases (host : Host) (queue : QueueType) (a : DqAnswer) :
    (∃ pos h st, a = .buffer pos st ∧ host.held[pos]? = some h ∧ h.buffer.queue = queue ∧
      host.dqbuf queue a =
        (.ok (h.buffer.withStatus st), { host with held := host.held.eraseIdx pos })) ∨
    ∃ e, host.dqbuf queue a = (.error e, host) := by
  cases a with
  | buffer pos st =>
      cases hh : host.held[pos]? with
      | none => exact .inr ⟨.notReady, by simp only [Host.dqbuf, hh]⟩
      | some h =>
          by_cases hq : h.buffer.queue = queue
          · exact .inl ⟨pos, h, st, rfl, hh, hq, by simp only [Host.dqbuf, hh, if_pos hq]⟩
          · exact .inr ⟨.notReady, by simp only [Host.dqbuf, hh, if_neg hq]⟩
  | eos => exact .inr ⟨.eos, rfl⟩
  | notReady => exact .inr ⟨.notReady, rfl⟩
  | error errno => exact .inr ⟨.other errno, rfl⟩

/-- The event that a buffer has been dequeued. -/
def Event.isDequeue : Event → Bool
  | .dequeueBuffer _ _ => true
  | .error _ _ | .event _ _ => false

/-- One round of the loop: a buffer is taken and the loop goes on, or it ends. -/
theorem State.outputLoop_cons (queue : QueueType) (a : DqAnswer) (rest : List DqAnswer)
    (s : State) :
    (∃ pos h st, a = .buffer pos st ∧ s.host.held[pos]? = some h ∧ h.buffer.queue = queue ∧
      State.outputLoop queue (a :: rest) s =
        { State.outputLoop queue rest (s.take queue pos h) with
          events := .dequeueBuffer s.session.id (h.buffer.withStatus st) ::
            (State.outputLoop queue rest (s.take queue pos h)).events }) ∨
    ∃ r events, State.outputLoop queue (a :: rest) s = ⟨r, s, events⟩ ∧
      ∀ ev ∈ events, ev.isDequeue = false := by
  rcases s.host.dqbuf_cases queue a with ⟨pos, h, st, ha, hh, hq, hdq⟩ | ⟨e, hdq⟩
  · refine .inl ⟨pos, h, st, ha, hh, hq, ?_⟩
    conv_lhs => unfold State.outputLoop
    rw [hdq]
    rfl
  · right
    unfold State.outputLoop
    rw [hdq]
    cases e with
    | eos => exact ⟨.ok (), [], rfl, fun _ h => by cases h⟩
    | notReady => exact ⟨.ok (), [], rfl, fun _ h => by cases h⟩
    | other errno =>
        refine ⟨.error errno, _, rfl, fun ev h => ?_⟩
        rw [List.mem_singleton.mp h]
        rfl

/-- A CAPTURE buffer was dequeued and counted, and `ev` tells the guest. -/
def State.TakesCapture (s s' : State) (ev : Event) : Prop :=
  ∃ queue pos h st session, s.session.captureQueueType = some queue ∧
    s.host.held[pos]? = some h ∧ h.buffer.queue = queue ∧
    (s.session.dropPlanes queue h.buffer.index).countDequeued st.flags = some session ∧
    s' = { s.take queue pos h with session := session } ∧
    ev = .dequeueBuffer s.session.id (h.buffer.withStatus st)

theorem State.dequeueCaptureBuffer_cases {s : State} {a : DqAnswer} {r : Outcome Unit}
    (h : s.dequeueCaptureBuffer a = some r) :
    (r.state = s ∧ ∀ ev ∈ r.events, ev.isDequeue = false) ∨
      ∃ ev, s.TakesCapture r.state ev ∧ r.events = [ev] := by
  unfold State.dequeueCaptureBuffer at h
  cases hq : s.session.captureQueueType with
  | none =>
      rw [hq] at h
      cases h
      exact .inl ⟨rfl, fun _ h => by cases h⟩
  | some queue =>
      rw [hq] at h
      dsimp only at h
      rcases s.host.dqbuf_cases queue a with ⟨pos, held, st, -, hh, hhq, hdq⟩ | ⟨e, hdq⟩
      · rw [hdq] at h
        obtain ⟨session, hcount, rfl⟩ := Option.map_eq_some_iff.mp h
        exact .inr ⟨_, ⟨queue, pos, held, st, session, hq, hh, hhq, hcount, rfl, rfl⟩, rfl⟩
      · rw [hdq] at h
        left
        cases e with
        | eos =>
            cases h
            exact ⟨rfl, fun _ h => by cases h⟩
        | notReady =>
            cases h
            exact ⟨rfl, fun _ h => by cases h⟩
        | other errno =>
            cases h
            refine ⟨rfl, fun ev hev => ?_⟩
            rw [List.mem_singleton.mp hev]
            rfl

/-- One event takes no buffer, or it takes a CAPTURE buffer while polling is
enabled and then OUTPUT buffers. -/
theorem State.processEvent_cases {s : State} {ev : PollEvent} {r : Outcome Unit}
    (h : s.processEvent ev = some r) :
    (r.state = s ∧ ∀ ev ∈ r.events, ev.isDequeue = false) ∨
      ∃ capture outputs s₁ sent, ev = .captureReady capture outputs ∧
        s.session.captureReady = true ∧
        ((s₁ = s ∧ ∀ ev ∈ sent, ev.isDequeue = false) ∨
          ∃ ev, s.TakesCapture s₁ ev ∧ sent = [ev]) ∧
        ((r.state = s₁ ∧ r.events = sent) ∨
          (r.state = (s₁.dequeueOutputBuffers outputs).state ∧
            r.events = sent ++ (s₁.dequeueOutputBuffers outputs).events)) := by
  cases ev with
  | v4l2Event pending error =>
      left
      cases h
      unfold State.dequeueEvents
      cases error with
      | none =>
          refine ⟨rfl, fun ev hev => ?_⟩
          obtain ⟨x, -, rfl⟩ := List.mem_map.mp hev
          rfl
      | some errno =>
          refine ⟨rfl, fun ev hev => ?_⟩
          rcases List.mem_append.mp hev with hev | hev
          · obtain ⟨x, -, rfl⟩ := List.mem_map.mp hev
            rfl
          · rw [List.mem_singleton.mp hev]
            rfl
  | captureReady capture outputs =>
      simp only [State.processEvent] at h
      split_ifs at h with hready
      · obtain ⟨r₁, h₁, rfl⟩ := Option.map_eq_some_iff.mp h
        refine .inr ⟨capture, outputs, r₁.state, r₁.events, rfl, hready,
          State.dequeueCaptureBuffer_cases h₁, ?_⟩
        cases r₁.result with
        | error e => exact .inl ⟨rfl, rfl⟩
        | ok u => exact .inr ⟨rfl, rfl⟩
      · cases h
        exact .inl ⟨rfl, fun _ h => by cases h⟩

section Invariants

/- The property may speak of the events that have been sent. -/
variable {P : State → List Event → Prop}

theorem State.outputLoop_invariant {queue : QueueType}
    (htake : ∀ s sent pos h st, P s sent → s.host.held[pos]? = some h → h.buffer.queue = queue →
      P (s.take queue pos h) (sent ++ [.dequeueBuffer s.session.id (h.buffer.withStatus st)]))
    (hother : ∀ s sent new, P s sent → (∀ ev ∈ new, ev.isDequeue = false) → P s (sent ++ new))
    (answers : List DqAnswer) {s : State} {sent : List Event} (hs : P s sent) :
    P (State.outputLoop queue answers s).state
      (sent ++ (State.outputLoop queue answers s).events) := by
  induction answers generalizing s sent with
  | nil => exact hother s sent [] hs fun _ h => by cases h
  | cons a rest ih =>
      obtain ⟨pos, h, st, -, hh, hq, heq⟩ | ⟨r, events, heq, hevents⟩ :=
        State.outputLoop_cons queue a rest s
      · rw [heq]
        have hrest := ih (htake s sent pos h st hs hh hq)
        rwa [List.append_assoc] at hrest
      · rw [heq]
        exact hother s sent events hs hevents

theorem State.processEvents_invariant {events : List PollEvent}
    (hev : ∀ ev ∈ events, ∀ s sent r, P s sent → s.processEvent ev = some r →
      P r.state (sent ++ r.events))
    (hother : ∀ s sent new, P s sent → (∀ ev ∈ new, ev.isDequeue = false) → P s (sent ++ new))
    {s : State} (sent : List Event) {r : Outcome Unit} (hs : P s sent)
    (h : State.processEvents events s = some r) : P r.state (sent ++ r.events) := by
  induction events generalizing s sent r with
  | nil =>
      cases h
      exact hother s sent [] hs fun _ h => by cases h
  | cons ev rest ih =>
      obtain ⟨r₁, h₁, h⟩ := Option.bind_eq_some_iff.mp h
      have hs₁ := hev ev List.mem_cons_self s sent r₁ hs h₁
      cases hres : r₁.result with
      | error e =>
          rw [hres] at h
          cases h
          exact hs₁
      | ok u =>
          rw [hres] at h
          obtain ⟨r₂, h₂, rfl⟩ := Option.map_eq_some_iff.mp h
          have hs₂ := ih (fun ev hmem => hev ev (List.mem_cons_of_mem _ hmem)) _ hs₁ h₂
          rwa [List.append_assoc] at hs₂

/-- A property that the dequeueing of OUTPUT buffers keeps. -/
structure State.KeepsOutput (P : State → List Event → Prop) : Prop where
  output : ∀ s sent queue pos h st, P s sent → s.session.outputQueueType = some queue →
    s.host.held[pos]? = some h → h.buffer.queue = queue →
    P (s.take queue pos h) (sent ++ [.dequeueBuffer s.session.id (h.buffer.withStatus st)])
  other : ∀ s sent new, P s sent → (∀ ev ∈ new, ev.isDequeue = false) → P s (sent ++ new)

/-- A property that every dequeueing keeps. -/
structure State.Keeps (P : State → List Event → Prop) : Prop extends State.KeepsOutput P where
  capture : ∀ s sent s' ev, P s sent → s.session.captureReady = true → s.TakesCapture s' ev →
    P s' (sent ++ [ev])

theorem State.KeepsOutput.dequeueOutputBuffers (hP : State.KeepsOutput P)
    (answers : List DqAnswer) {s : State} (sent : List Event) (hs : P s sent) :
    P (s.dequeueOutputBuffers answers).state
      (sent ++ (s.dequeueOutputBuffers answers).events) := by
  have hnone : P s (sent ++ []) := hP.other s sent [] hs fun _ h => by cases h
  unfold State.dequeueOutputBuffers
  cases hq : s.session.outputQueueType with
  | none => exact hnone
  | some queue =>
      dsimp only
      split_ifs
      · exact hnone
      · refine (State.outputLoop_invariant (P := fun t sent => P t sent ∧
          t.session.outputQueueType = some queue) ?_ ?_ answers ⟨hs, hq⟩).1
        · rintro t sent pos h st ⟨ht, htq⟩ hh hhq
          exact ⟨hP.output t sent queue pos h st ht htq hh hhq, htq⟩
        · rintro t sent new ⟨ht, htq⟩ hnew
          exact ⟨hP.other t sent new ht hnew, htq⟩

namespace State.Keeps

theorem processEvent (hP : State.Keeps P) {ev : PollEvent} {s : State} {sent : List Event}
    {r : Outcome Unit} (hs : P s sent) (h : s.processEvent ev = some r) :
    P r.state (sent ++ r.events) := by
  obtain ⟨hsame, hnone⟩ | ⟨capture, outputs, s₁, new, -, hready, htake, hr⟩ :=
    State.processEvent_cases h
  · rw [hsame]
    exact hP.other s sent r.events hs hnone
  · have h₁ : P s₁ (sent ++ new) := by
      obtain ⟨rfl, hnone⟩ | ⟨ev, htake, rfl⟩ := htake
      · exact hP.other s₁ sent new hs hnone
      · exact hP.capture s sent s₁ ev hs hready htake
    obtain ⟨hstate, hevents⟩ | ⟨hstate, hevents⟩ := hr
    · rw [hstate, hevents]
      exact h₁
    · rw [hstate, hevents, ← List.append_assoc]
      exact hP.dequeueOutputBuffers outputs _ h₁

theorem processEvents (hP : State.Keeps P) {events : List PollEvent} {s : State}
    (sent : List Event) {r : Outcome Unit} (hs : P s sent)
    (h : State.processEvents events s = some r) : P r.state (sent ++ r.events) :=
  State.processEvents_invariant (fun _ _ _ _ _ ht hr => hP.processEvent ht hr) hP.other sent hs h

end State.Keeps

end Invariants

/-! ### What a QBUF can do -/

/-- The state in which the host sees a buffer whose planes have been mapped. -/
def State.submitted (s : State) (host guest : Buffer) (resources : List Mapping) : State :=
  { s with
    session := s.session.register host guest resources
    nextMapping := s.nextMapping + resources.length }

/-- The host has accepted a buffer. -/
def State.accepted (s : State) (host : Buffer) (resources : List Mapping) : State :=
  { s with host := s.host.add ⟨host, resources⟩ }

/-- The accepted buffer has been counted. -/
def State.counted (s : State) (queue : QueueType) : State :=
  { s with session := s.session.countQueued queue }

theorem State.submit_eq_some {s s' : State} {req : Request} {host : Buffer}
    {resources : List Mapping} :
    s.submit req = some (host, resources, s') ↔
      guestV4l2BufferToHost s.nextMapping req = some (host, resources) ∧
        s' = s.submitted host req.buffer resources := by
  unfold State.submit
  constructor
  · intro h
    obtain ⟨⟨b, r⟩, hmap, heq⟩ := Option.map_eq_some_iff.mp h
    obtain ⟨rfl, rfl, rfl⟩ : b = host ∧ r = resources ∧ _ = s' := by simpa using heq
    exact ⟨hmap, rfl⟩
  · rintro ⟨hmap, rfl⟩
    rw [hmap]
    rfl

/-- QBUF fails before the host sees the buffer, the host refuses it, or the
host accepts it and the answer can or cannot be translated back. -/
theorem State.qbufHost_cases (s : State) (req : Request) (answer : Except Int Status) :
    (guestV4l2BufferToHost s.nextMapping req = none ∧
      s.qbufHost req answer = ⟨.error einval, s, []⟩) ∨
    ∃ host resources, guestV4l2BufferToHost s.nextMapping req = some (host, resources) ∧
      ((∃ e, s.host.answer host.queue answer = .error e ∧
          s.qbufHost req answer = ⟨.error e, s.submitted host req.buffer resources, []⟩) ∨
        ∃ st, s.host.answer host.queue answer = .ok st ∧
          ((hostV4l2BufferToGuest (host.withStatus st)
                (s.submitted host req.buffer resources).session.userptrBuffers = none ∧
              s.qbufHost req answer = ⟨.error einval,
                (s.submitted host req.buffer resources).accepted host resources, []⟩) ∨
            ∃ out, hostV4l2BufferToGuest (host.withStatus st)
                (s.submitted host req.buffer resources).session.userptrBuffers = some out ∧
              s.qbufHost req answer = ⟨.ok out,
                ((s.submitted host req.buffer resources).accepted host resources).counted
                  host.queue, []⟩)) := by
  cases hmap : guestV4l2BufferToHost s.nextMapping req with
  | none =>
      refine .inl ⟨rfl, ?_⟩
      simp only [State.qbufHost, State.submit, hmap, Option.map_none]
  | some r =>
      obtain ⟨host, resources⟩ := r
      refine .inr ⟨host, resources, rfl, ?_⟩
      have hsub := State.submit_eq_some.mpr ⟨hmap, rfl⟩
      have hhost : (s.submitted host req.buffer resources).host = s.host := rfl
      cases hans : s.host.answer host.queue answer with
      | error e =>
          refine .inl ⟨e, rfl, ?_⟩
          simp only [State.qbufHost, hsub, hhost, hans]
      | ok st =>
          refine .inr ⟨st, rfl, ?_⟩
          cases hout : hostV4l2BufferToGuest (host.withStatus st)
              (s.submitted host req.buffer resources).session.userptrBuffers with
          | none =>
              refine .inl ⟨rfl, ?_⟩
              simp only [State.qbufHost, hsub, hhost, hans, hout]
              rfl
          | some out =>
              refine .inr ⟨out, rfl, ?_⟩
              simp only [State.qbufHost, hsub, hhost, hans, hout]
              rfl

theorem State.qbufHost_events (s : State) (req : Request) (answer : Except Int Status) :
    (s.qbufHost req answer).events = [] := by
  obtain ⟨-, heq⟩ | ⟨host, resources, -, ⟨e, -, heq⟩ | ⟨st, -, ⟨-, heq⟩ | ⟨out, -, heq⟩⟩⟩ :=
    s.qbufHost_cases req answer <;>
  rw [heq]

/-- QBUF sends the events of the OUTPUT buffers it dequeues first. -/
theorem State.qbuf_eq (s : State) (req : Request) (outputs : List DqAnswer)
    (answer : Except Int Status) :
    s.qbuf req outputs answer =
      ⟨((s.dequeueOutputBuffers outputs).state.qbufHost req answer).result,
        ((s.dequeueOutputBuffers outputs).state.qbufHost req answer).state,
        (s.dequeueOutputBuffers outputs).events⟩ := by
  unfold State.qbuf
  dsimp only
  rw [State.qbufHost_events, List.append_nil]

/-- PREPARE_BUF fails before the host sees the buffer, or it leaves the planes
registered whatever the host answers. -/
theorem State.prepareBuf_cases (s : State) (req : Request) (answer : Except Int Status) :
    (guestV4l2BufferToHost s.nextMapping req = none ∧
      s.prepareBuf req answer = ⟨.error einval, s, []⟩) ∨
    ∃ host resources, guestV4l2BufferToHost s.nextMapping req = some (host, resources) ∧
      ∃ result, s.prepareBuf req answer =
          ⟨result, s.submitted host req.buffer resources, []⟩ ∧
        ((∃ e, s.host.answer host.queue answer = .error e ∧ result = .error e) ∨
          ∃ st, s.host.answer host.queue answer = .ok st ∧
            result = (hostV4l2BufferToGuest (host.withStatus st)
              (s.submitted host req.buffer resources).session.userptrBuffers).elim
                (.error einval) .ok) := by
  cases hmap : guestV4l2BufferToHost s.nextMapping req with
  | none =>
      refine .inl ⟨rfl, ?_⟩
      simp only [State.prepareBuf, State.submit, hmap, Option.map_none]
  | some r =>
      obtain ⟨host, resources⟩ := r
      refine .inr ⟨host, resources, rfl, ?_⟩
      have hsub := State.submit_eq_some.mpr ⟨hmap, rfl⟩
      have hhost : (s.submitted host req.buffer resources).host = s.host := rfl
      cases hans : s.host.answer host.queue answer with
      | error e =>
          exact ⟨.error e, by simp only [State.prepareBuf, hsub, hhost, hans], .inl ⟨e, rfl, rfl⟩⟩
      | ok st =>
          cases hout : hostV4l2BufferToGuest (host.withStatus st)
              (s.submitted host req.buffer resources).session.userptrBuffers with
          | none =>
              exact ⟨.error einval, by simp only [State.prepareBuf, hsub, hhost, hans, hout],
                .inr ⟨st, rfl, by rw [hout]; rfl⟩⟩
          | some out =>
              exact ⟨.ok out, by simp only [State.prepareBuf, hsub, hhost, hans, hout],
                .inr ⟨st, rfl, by rw [hout]; rfl⟩⟩

end VirtioMedia.Device.ProxyQueues
