import VirtioMedia.Driver.ImportQueue
import VirtioMedia.Device.SimpleDelivery
import VirtioMedia.Lib.Fifo
import VirtioMedia.Lib.Refinement

/-!
# The driver on the capture device

A session of the driver together with the session of the simple capture device
that it is connected to, and the event queue between them. What the other
modules leave open is closed here: the answer to a command is what the device
answers, and the events that the driver processes are those that the device
sent, in order.

A QBUF takes three steps, since events arrive while its command is
outstanding: the driver sends the command, the device serves it, and the driver
sees the answer. The commands of the other ioctls touch no state that an event
touches before the driver has seen their answer, and they are one step. The
device sends its events before it answers, so those of STREAMOFF and REQBUFS are
in the event queue when the driver drains it.
-/

namespace VirtioMedia.Stack

open V4l2 Driver Device Device.Simple

/-! ### The event queue -/

/-- `QueueType as u32`. -/
def queueCode : QueueType → UInt32
  | .videoCapture => 1
  | .videoOutput => 2
  | .videoOverlay => 3
  | .vbiCapture => 4
  | .vbiOutput => 5
  | .slicedVbiCapture => 6
  | .slicedVbiOutput => 7
  | .videoOutputOverlay => 8
  | .videoCaptureMplane => 9
  | .videoOutputMplane => 10
  | .sdrCapture => 11
  | .sdrOutput => 12
  | .metaCapture => 13
  | .metaOutput => 14

/-- `MemoryType as u32`. -/
def memoryCode : MemoryType → UInt32
  | .mmap => 1
  | .userPtr => 2
  | .overlay => 3
  | .dmaBuf => 4

theorem queueCode_of_n {type : UInt32} {queue : QueueType} (h : QueueType.n type = some queue) :
    queueCode queue = type := by
  unfold QueueType.n at h
  split at h <;> cases h <;> rfl

/-- The `v4l2_buffer` of a single-planar buffer. -/
def v4l2BufferOf (v : DecoderV4l2Buffer) : V4l2Buffer :=
  { (default : V4l2Buffer) with
    index := v.index
    type := queueCode v.queue
    bytesused := v.plane.bytesused
    flags := v.flags
    field := v.field
    tvSec := .ofInt v.timestamp.sec
    tvUsec := .ofInt v.timestamp.usec
    sequence := v.sequence
    memory := memoryCode v.memory
    m := v.plane.memOffset.toUInt64
    length := v.plane.length }

/-- The event that the driver finds. The planes are those of a multi-planar
buffer. -/
def dqbufEvent (v : DecoderV4l2Buffer) (nowNs : Nat) : DqbufEvent where
  buffer := v4l2BufferOf v
  planes := List.replicate videoMaxPlanes default
  nowNs := nowNs

/-- The buffer of an event for a session. -/
def dequeued? (id : UInt32) : DecoderEvent → Option DecoderV4l2Buffer
  | .dequeueBuffer i v => if i = id then some v else none
  | _ => none

/-- The buffers that were sent to a session, oldest first. -/
def dequeued (id : UInt32) (sent : List DecoderEvent) : List DecoderV4l2Buffer :=
  sent.reverse.filterMap (dequeued? id)

/-! ### The device's answers -/

/-- What a method returns to the dispatcher; zero where it returns nothing that
the driver looks at. -/
def CaptureDevice.perform (checks : Bool) (d : CaptureDevice) (s : Simple.Session) :
    Simple.Call → Except Panic (Except Int UInt32 × CaptureDevice × Simple.Session)
  | .reqbufs queue memory count memfd =>
    (d.reqbufs checks s queue memory count memfd).map fun c => (c.result, c.after)
  | .qbuf index io =>
    (d.qbuf checks io s index).map fun c => (c.result.map fun _ => 0, c.after)
  | .streamon queue io =>
    (d.streamon checks io s queue).map fun c => (c.result.map fun _ => 0, c.after)
  | .streamoff queue =>
    let c := d.streamoff s queue
    .ok (c.result.map fun _ => 0, c.after)
  | .mmap flags offset answer =>
    let c := d.doMmap s flags offset answer
    .ok (c.result.map fun _ => 0, c.after)

/-- The command of an ioctl; `none` is one that the dispatcher refuses. -/
def Capture.serve (checks : Bool) (c : Capture) (id : UInt32) (request : Option Simple.Call) :
    Option (Except Int UInt32 × Capture) :=
  match request, c.sessions id with
  | some call, some session =>
    (CaptureDevice.perform checks c.device session call).toOption.map fun r =>
      (r.1, { c with device := r.2.1 }.setSession id (some r.2.2))
  | _, _ => some (.error einval, c)

/-- The value of the functions that send a command. -/
def returned {α : Type} : Except Int α → Int
  | .ok _ => 0
  | .error e => -e

/-- The dispatcher reads the queue and the memory type. It refuses some of the
flags. -/
def reqbufsRequest (b : RequestBuffers) (flagsOk : Bool) (memfd : Nat → Option Nat) :
    Option Simple.Call :=
  if flagsOk then
    match QueueType.n b.type, MemoryType.n b.memory with
    | some queue, some .mmap => some (.reqbufs queue .mmap b.count memfd)
    | some queue, some .userPtr => some (.reqbufs queue .userPtr b.count memfd)
    | _, _ => none
  else none

/-- `V4L2_BUF_CAP_SUPPORTS_MMAP | V4L2_BUF_CAP_SUPPORTS_ORPHANED_BUFS`. -/
def captureCapabilities : UInt32 := 0x11

/-- The structure that answers REQBUFS. -/
def reqbufsReply (b : RequestBuffers) : Except Int UInt32 → RequestBuffers
  | .ok count => ⟨count, queueCode .videoCapture, memoryCode .mmap, captureCapabilities, 0⟩
  | .error _ => b

/-! ### The whole -/

/-- The QBUF command that is outstanding. -/
inductive QbufCommand where
  | sent (index : UInt32)
  | answered (index : UInt32) (ret : Int)
  deriving DecidableEq, Repr

/-- `taken` is the number of events of the session that the driver has taken
off the event queue. -/
structure CaptureStack where
  driver : Machine
  capture : Capture
  taken : Nat
  command : Option QbufCommand

namespace CaptureStack

/-- The session has just been opened on both sides. -/
def opened (nonblocking : Bool) (capture : Capture) (id : UInt32) : CaptureStack where
  driver := .init nonblocking
  capture := capture.setSession id (some (.open id))
  taken := (dequeued id capture.device.sent).length
  command := none

/-- The events on the event queue, oldest first. -/
def inFlight (st : CaptureStack) (id : UInt32) : List DecoderV4l2Buffer :=
  (dequeued id st.capture.device.sent).drop st.taken

/-- What `virtio_media_process_events` finds, with the time at which it gets to
each event. -/
def drained (st : CaptureStack) (id : UInt32) (now : Nat → Nat) : List DqbufEvent :=
  (st.inFlight id).mapIdx fun k v => dqbufEvent v (now k)

/-- The event queue is empty. -/
def drain (st : CaptureStack) (id : UInt32) : CaptureStack :=
  { st with taken := (dequeued id st.capture.device.sent).length }

end CaptureStack

/-- What happens to the two sessions. `device` is a command that is not for the
buffers of this session. -/
inductive StackAction where
  | qbufSubmit (req : BufferReq) (ans : Nat → PlaneAnswers)
  | serve (io : Option (Nat → Bool))
  | qbufReply
  | deliver (nowNs : Nat)
  | dqbuf (req : BufferReq)
  | streamon (type : UInt32) (io : Nat → Bool)
  | streamoff (type : UInt32) (now : Nat → Nat)
  | reqbufs (b : RequestBuffers) (flagsOk : Bool) (memfd : Nat → Option Nat) (vzallocOk : Bool)
      (now : Nat → Nat)
  | device (a : Simple.Action)

/-- The action is neither an ioctl on this session nor its end. -/
def apart (id : UInt32) : Simple.Action → Bool
  | .openSession i | .closeSession i => i != id
  | .munmap _ => true
  | .call _ (.mmap ..) => true
  | .call i _ => i != id

namespace CaptureStack

variable (cfg : Driver.Config) (checks : Bool) (id : UInt32)

/-- The driver refuses an ioctl on its own. -/
def refuses (st : CaptureStack) : StackAction → Bool
  | .streamon type _ => (Driver.streamon st.driver.session type 0).1 != 0
  | .streamoff type _ => queueIndex type == none
  | .reqbufs b .. => reqbufsCheck cfg st.driver.session b != 0
  | _ => false

/-- What the device makes of the command of an action. -/
def served (st : CaptureStack) : StackAction → Option (Except Int UInt32 × Capture)
  | .serve io =>
    match st.command with
    | some (.sent i) => Capture.serve checks st.capture id (io.map fun io => .qbuf i io)
    | _ => none
  | .streamon type io =>
    Capture.serve checks st.capture id ((QueueType.n type).map fun queue => .streamon queue io)
  | .streamoff type _ => Capture.serve checks st.capture id ((QueueType.n type).map .streamoff)
  | .reqbufs b flagsOk memfd .. =>
    Capture.serve checks st.capture id (reqbufsRequest b flagsOk memfd)
  | _ => none

/-- The driver takes a step. -/
def drive (st : CaptureStack) (a : Driver.Action) : Option CaptureStack :=
  (st.driver.step cfg a).map fun d => { st with driver := d }

/-- The ioctls other than QBUF and DQBUF, up to the answer `r` to their command. -/
def ioctl (st : CaptureStack) (a : StackAction)
    (handle : Except Int UInt32 → CaptureStack → Option CaptureStack) : Option CaptureStack :=
  if st.command.isSome then none
  else if st.refuses cfg a then some st
  else (st.served checks id a).bind fun r => handle r.1 { st with capture := r.2 }

/-- The driver handles the answer to an ioctl after which it drains the event
queue, if it was successful. -/
def drainAfter (st : CaptureStack) (r : Except Int UInt32) (a : Driver.Action) :
    Option CaptureStack :=
  (st.drive cfg a).map fun st => if returned r = 0 then st.drain id else st

/-- No ioctl is called while a QBUF command is outstanding. -/
def step (st : CaptureStack) (a : StackAction) : Option CaptureStack :=
  match a with
  | .qbufSubmit req ans =>
    (st.driver.step cfg (.qbufSubmit req ans)).map fun d =>
      { st with driver := d, command := d.inFlight.map fun _ => .sent req.buffer.index }
  | .serve io =>
    match st.command with
    | some (.sent i) =>
      (st.served checks id (.serve io)).map fun r =>
        { st with capture := r.2, command := some (.answered i (returned r.1)) }
    | _ => none
  | .qbufReply =>
    match st.command with
    | some (.answered _ ret) =>
      (st.drive cfg (.qbufReply ret)).map fun st => { st with command := none }
    | _ => none
  | .deliver nowNs =>
    match st.inFlight id with
    | [] => none
    | v :: _ =>
      (st.drive cfg (.event (dqbufEvent v nowNs))).map fun st =>
        { st with taken := st.taken + 1 }
  | .dqbuf req => st.drive cfg (.dqbuf req)
  | .streamon type _ =>
    st.ioctl cfg checks id a fun r st => st.drive cfg (.streamon type (returned r))
  | .streamoff type now =>
    st.ioctl cfg checks id a fun r st =>
      st.drainAfter cfg id r (.streamoff type (returned r) (st.drained id now))
  | .reqbufs b _ _ vzallocOk now =>
    st.ioctl cfg checks id a fun r st =>
      st.drainAfter cfg id r
        (.reqbufs b (returned r) (reqbufsReply b r) (st.drained id now) vzallocOk)
  | .device a =>
    if apart id a then (st.capture.next checks a).map fun c => { st with capture := c }
    else none

end CaptureStack

end VirtioMedia.Stack
