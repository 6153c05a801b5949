import VirtioMedia.Device.Decoder

/-!
# The simple capture device

`device/src/devices/simple_device.rs` without its format and input ioctls,
which answer constants. The memfd that backs a buffer is what
`MemFdBuffer::new` answers for it, a number that stands for the file, and
whether a frame can be written to the files is an input of the calls that
write.
-/

namespace VirtioMedia.Device

open V4l2

namespace Simple

/-- `BUFFER_SIZE`, for 640 by 480 pixels of three bytes. -/
def bufferSize : UInt32 := 921600

inductive BufferState where
  | new
  | incoming
  | outgoing (sequence : UInt32)
  deriving DecidableEq, Repr

structure Buffer where
  state : BufferState
  v4l2Buffer : DecoderV4l2Buffer
  fd : Nat
  offset : UInt32
  deriving DecidableEq, Repr

/-- `SimpleCaptureDeviceSession`. -/
structure Session where
  id : UInt32
  iteration : Nat
  buffers : List Buffer
  queuedBuffers : List Nat
  streaming : Bool
  deriving DecidableEq, Repr

/-- `SimpleCaptureDevice`; the mapping manager comes with its log, and the
event queue is the list of what was sent on it, newest first. -/
structure CaptureDevice where
  mmapManager : Tracked
  activeSession : Option UInt32
  sent : List DecoderEvent

/-- What a method returns, with the state it leaves. -/
structure Called (α : Type) where
  result : Except Int α
  device : CaptureDevice
  session : Session

def setBytesused (v : DecoderV4l2Buffer) (n : UInt32) : DecoderV4l2Buffer :=
  { v with plane := { v.plane with bytesused := n } }

/-- `Buffer::set_state` to `New`. -/
def Buffer.reset (b : Buffer) : Buffer :=
  { b with state := .new, v4l2Buffer := (setBytesused b.v4l2Buffer 0).clearFlags bufFlagQueued }

/-- `Buffer::set_state` to `Incoming`. -/
def Buffer.enqueue (b : Buffer) : Buffer :=
  { b with
    state := .incoming
    v4l2Buffer := (setBytesused b.v4l2Buffer 0).addFlags bufFlagQueued }

/-- `Buffer::set_state` to `Outgoing`. The time stamp is computed from the
sequence number by an addition that may be checked. -/
def Buffer.finish (checks : Bool) (b : Buffer) (sequence : UInt32) : Except Panic Buffer :=
  match addU32 checks sequence.toNat 1 with
  | none => .error .arithmetic
  | some t =>
    let v := { setBytesused b.v4l2Buffer bufferSize with
      sequence
      timestamp := ⟨t / 1000, t % 1000⟩ }
    .ok { b with state := .outgoing sequence, v4l2Buffer := v.clearFlags bufFlagQueued }

/-- The loop of `process_queued_buffers` over the queued buffers; `io` says
whether the frame of a buffer can be written to its file. -/
def processQueued (checks : Bool) (io : Nat → Bool) :
    List Nat → CaptureDevice → Session → Except Panic (Called Unit)
  | [], d, s => .ok ⟨.ok (), d, { s with queuedBuffers := [] }⟩
  | i :: rest, d, s =>
    let s := { s with queuedBuffers := rest }
    match s.buffers[i]? with
    | none => .ok ⟨.error eio, d, s⟩
    | some b =>
      if !io b.fd then .ok ⟨.error eio, d, s⟩
      else
        (b.finish checks (.ofNat s.iteration)).bind fun b =>
          processQueued checks io rest
            { d with sent := .dequeueBuffer s.id b.v4l2Buffer :: d.sent }
            { s with buffers := s.buffers.set i b, iteration := (s.iteration + 1) % 2 ^ 64 }

/-- `process_queued_buffers`. -/
def processQueuedBuffers (checks : Bool) (io : Nat → Bool) (d : CaptureDevice) (s : Session) :
    Except Panic (Called Unit) :=
  processQueued checks io s.queuedBuffers d s

/-- The buffer that `reqbufs` creates with index `i`. -/
def Buffer.create (i : Nat) (fd : Nat) (offset : UInt32) : Buffer where
  state := .new
  v4l2Buffer :=
    { queue := .videoCapture, index := .ofNat i, memory := .mmap
      flags := bufFlagTimestampMonotonic, field := fieldNone, timestamp := ⟨0, 0⟩
      sequence := 0, plane := ⟨0, bufferSize, 0, offset⟩ }
  fd := fd
  offset := offset

/-- The loop of `reqbufs`; `memfd` is what `MemFdBuffer::new` answers. An error
leaves the buffers that were registered before it. -/
def allocateBuffers (checks : Bool) (memfd : Nat → Option Nat) :
    List Nat → Tracked → Except Panic (Except Int (List Buffer) × Tracked)
  | [], t => .ok (.ok [], t)
  | i :: rest, t =>
    match memfd i with
    | none => .ok (.error enomem, t)
    | some fd =>
      match t.manager.registerBuffer checks none bufferSize with
      | none => .error .arithmetic
      | some (.error _, m) => .ok (.error einval, { t with manager := m })
      | some (.ok offset, m) =>
        (allocateBuffers checks memfd rest { t with manager := m }).map fun r =>
          (r.1.map (Buffer.create i fd offset :: ·), r.2)

/-- The offsets of the buffers of a session. -/
def Session.offsets (s : Session) : List UInt32 := s.buffers.map (·.offset)

def CaptureDevice.unregister (d : CaptureDevice) (s : Session) : CaptureDevice :=
  { d with mmapManager := { d.mmapManager with
      manager := d.mmapManager.manager.unregisterAll s.offsets } }

/-- `streamoff` of the capture queue. -/
def Session.stop (s : Session) : Session :=
  { s with streaming := false, queuedBuffers := [], buffers := s.buffers.map Buffer.reset }

/-- `reqbufs`; it returns the count. The old buffers are unregistered before
the new ones are allocated. -/
def CaptureDevice.reqbufs (checks : Bool) (d : CaptureDevice) (s : Session) (queue : QueueType)
    (memory : MemoryType) (count : UInt32) (memfd : Nat → Option Nat) :
    Except Panic (Called UInt32) :=
  if queue ≠ .videoCapture then .ok ⟨.error einval, d, s⟩
  else if memory ≠ .mmap then .ok ⟨.error einval, d, s⟩
  else if s.streaming then .ok ⟨.error ebusy, d, s⟩
  else if d.activeSession.any (· ≠ s.id) then .ok ⟨.error ebusy, d, s⟩
  else
    let (active, s) :=
      if count = 0 then (none, s.stop)
      else (some s.id, { s with queuedBuffers := [], buffers := s.buffers.map Buffer.reset })
    let d := { d with activeSession := active }.unregister s
    let n := min count.toNat 32
    (allocateBuffers checks memfd (List.range n) d.mmapManager).map fun r =>
      let d := { d with mmapManager := r.2 }
      match r.1 with
      | .error e => ⟨.error e, d, s⟩
      | .ok buffers => ⟨.ok (.ofNat n), d, { s with buffers }⟩

/-- `querybuf`. -/
def Session.querybuf (s : Session) (queue : QueueType) (index : UInt32) :
    Except Int DecoderV4l2Buffer :=
  if queue ≠ .videoCapture then .error einval
  else
    match s.buffers[index.toNat]? with
    | none => .error einval
    | some b => .ok b.v4l2Buffer

/-- `qbuf`. Only the index of the guest's buffer is used. -/
def CaptureDevice.qbuf (checks : Bool) (io : Nat → Bool) (d : CaptureDevice) (s : Session)
    (index : UInt32) : Except Panic (Called DecoderV4l2Buffer) :=
  match s.buffers[index.toNat]? with
  | none => .ok ⟨.error einval, d, s⟩
  | some b =>
    if b.state = .incoming then .ok ⟨.error einval, d, s⟩
    else
      let b := b.enqueue
      let s := { s with
        buffers := s.buffers.set index.toNat b
        queuedBuffers := s.queuedBuffers ++ [index.toNat] }
      if s.streaming then
        (processQueuedBuffers checks io d s).map fun r =>
          ⟨r.result.map fun _ => b.v4l2Buffer, r.device, r.session⟩
      else .ok ⟨.ok b.v4l2Buffer, d, s⟩

/-- `streamon`. -/
def CaptureDevice.streamon (checks : Bool) (io : Nat → Bool) (d : CaptureDevice) (s : Session)
    (queue : QueueType) : Except Panic (Called Unit) :=
  if queue ≠ .videoCapture ∨ s.buffers.isEmpty then .ok ⟨.error einval, d, s⟩
  else processQueuedBuffers checks io d { s with streaming := true }

/-- `streamoff`. -/
def CaptureDevice.streamoff (d : CaptureDevice) (s : Session) (queue : QueueType) : Called Unit :=
  if queue ≠ .videoCapture then ⟨.error einval, d, s⟩ else ⟨.ok (), d, s.stop⟩

/-- `do_mmap`. -/
def CaptureDevice.doMmap (d : CaptureDevice) (s : Session) (flags offset : UInt32)
    (answer : Except Int UInt64) : Called (UInt64 × UInt64) :=
  match s.buffers.find? fun b => b.offset == offset with
  | none => ⟨.error einval, d, s⟩
  | some b =>
    let r := d.mmapManager.create offset b.fd (flags &&& mmapFlagRw != 0) answer
    ⟨r.1.mapError fun _ => einval, { d with mmapManager := r.2 }, s⟩

/-- `do_munmap`. -/
def CaptureDevice.doMunmap (d : CaptureDevice) (guestAddr : UInt64) :
    Except Int Unit × CaptureDevice :=
  let r := d.mmapManager.remove guestAddr
  ((r.1.map fun _ => ()).mapError fun _ => einval, { d with mmapManager := r.2 })

/-- `close_session`. -/
def CaptureDevice.closeSession (d : CaptureDevice) (s : Session) : CaptureDevice :=
  let d := if d.activeSession = some s.id then { d with activeSession := none } else d
  d.unregister s

/-! ### Commands -/

/-- The device and its open sessions. -/
structure Capture where
  device : CaptureDevice
  sessions : UInt32 → Option Session

def Capture.init : Capture := ⟨⟨.init, none, []⟩, fun _ => none⟩

/-- `new_session`. -/
def Session.open (id : UInt32) : Session := ⟨id, 0, [], [], false⟩

/-- A call on a session. -/
inductive Call where
  | reqbufs (queue : QueueType) (memory : MemoryType) (count : UInt32)
      (memfd : Nat → Option Nat)
  | qbuf (index : UInt32) (io : Nat → Bool)
  | streamon (queue : QueueType) (io : Nat → Bool)
  | streamoff (queue : QueueType)
  | mmap (flags offset : UInt32) (answer : Except Int UInt64)

inductive Action where
  | openSession (sessionId : UInt32)
  | closeSession (sessionId : UInt32)
  | munmap (guestAddr : UInt64)
  | call (sessionId : UInt32) (c : Call)

def Called.after {α : Type} (c : Called α) : CaptureDevice × Session := (c.device, c.session)

def CaptureDevice.call (checks : Bool) (d : CaptureDevice) (s : Session) :
    Call → Except Panic (CaptureDevice × Session)
  | .reqbufs queue memory count memfd =>
    (d.reqbufs checks s queue memory count memfd).map (·.after)
  | .qbuf index io => (d.qbuf checks io s index).map (·.after)
  | .streamon queue io => (d.streamon checks io s queue).map (·.after)
  | .streamoff queue => .ok (d.streamoff s queue).after
  | .mmap flags offset answer => .ok (d.doMmap s flags offset answer).after

def Capture.setSession (s : Capture) (sessionId : UInt32) (v : Option Session) : Capture :=
  { s with sessions := fun i => if i = sessionId then v else s.sessions i }

/-- One action on the device. What concerns a session that is not open is
answered with an error. -/
def Capture.step (checks : Bool) (s : Capture) : Action → Except Panic Capture
  | .openSession sessionId =>
    match s.sessions sessionId with
    | none => .ok (s.setSession sessionId (some (.open sessionId)))
    | some _ => .ok s
  | .closeSession sessionId =>
    match s.sessions sessionId with
    | none => .ok s
    | some session =>
      .ok ({ s with device := s.device.closeSession session }.setSession sessionId none)
  | .munmap guestAddr => .ok { s with device := (s.device.doMunmap guestAddr).2 }
  | .call sessionId c =>
    match s.sessions sessionId with
    | none => .ok s
    | some session => (s.device.call checks session c).map fun r =>
        { s with device := r.1 }.setSession sessionId (some r.2)

end Simple

end VirtioMedia.Device
