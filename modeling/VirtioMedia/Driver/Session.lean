import VirtioMedia.V4l2

/-!
# Driver state

The structures of `driver/session.h`, as far as the queue ioctls and the
event handler read or write them. A queue's `buffers` array and its
`allocated_bufs` are one list; `pending_dqbufs` is the list of the slots
linked on it, oldest first. `queued_bufs` is a `size_t`: it is kept below
`2 ^ 64` and wraps as the C counter does, and `wrapped` records that a
decrement found it at zero.
-/

namespace VirtioMedia.Driver

open V4l2

/-- `VIRTIO_MEDIA_LAST_QUEUE + 1`, the length of `session->queues`. -/
abbrev numQueues : Nat := 15

instance instNeZeroNumQueues : NeZero numQueues := ⟨by decide⟩

/-- The part of a `struct virtio_shm_import` the driver sees, with the state
the provider keeps for it: whether its fences are currently prepared. -/
structure Import where
  dbuf : Nat
  length : UInt64
  uuid : Vector UInt8 16
  prepared : Bool
  deriving DecidableEq, Repr

/-- `struct virtio_media_buffer` without its list link. -/
structure MediaBuffer where
  imports : List (Option Import)
  uuids : List (Vector UInt8 16)
  buffer : V4l2Buffer
  planes : List V4l2Plane
  deriving DecidableEq, Repr

/-- A slot as `vzalloc` leaves it. -/
def MediaBuffer.zero : MediaBuffer where
  imports := List.replicate videoMaxPlanes none
  uuids := List.replicate videoMaxPlanes default
  buffer := default
  planes := List.replicate videoMaxPlanes default

/-- `struct virtio_media_queue_state`. -/
structure QueueState where
  memory : UInt32
  streaming : Bool
  importNeedsCancel : Bool
  isCaptureLast : Bool
  buffers : List MediaBuffer
  queuedBufs : Nat
  wrapped : Bool
  pendingDqbufs : List Nat
  deriving DecidableEq, Repr

/-- A queue of a session that has just been allocated. -/
def QueueState.init : QueueState where
  memory := 0
  streaming := false
  importNeedsCancel := false
  isCaptureLast := false
  buffers := []
  queuedBufs := 0
  wrapped := false
  pendingDqbufs := []

/-- `struct virtio_media_session`, the fields the queue code uses. -/
structure Session where
  queues : Fin numQueues → QueueState
  nonblockingDequeue : Bool
  usesMplane : Bool
  error : Bool

/-- The module parameters and the provider's capability. -/
structure Config where
  allowUserptr : Bool
  overrideTimestamp : Bool
  canImport : Bool
  deriving DecidableEq, Repr

def Session.init (nonblocking : Bool) : Session where
  queues := fun _ => .init
  nonblockingDequeue := nonblocking
  usesMplane := false
  error := false

/-- The index into `session->queues` of a queue type, after the range check. -/
def queueIndex (type : UInt32) : Option (Fin numQueues) :=
  if h : type.toNat < numQueues then some ⟨type.toNat, h⟩ else none

def Session.setQueue (s : Session) (t : Fin numQueues) (q : QueueState) : Session :=
  { s with queues := Function.update s.queues t q }

@[simp] theorem Session.setQueue_queues_self (s : Session) (t : Fin numQueues)
    (q : QueueState) : (s.setQueue t q).queues t = q := by
  simp [Session.setQueue]

theorem Session.setQueue_queues (s : Session) (t u : Fin numQueues) (q : QueueState) :
    (s.setQueue t q).queues u = if u = t then q else s.queues u := by
  simp [Session.setQueue, Function.update_apply]

theorem Session.setQueue_queues_ne (s : Session) {t u : Fin numQueues} (h : u ≠ t)
    (q : QueueState) : (s.setQueue t q).queues u = s.queues u := by
  simp [Session.setQueue, h]

@[simp] theorem Session.setQueue_error (s : Session) (t : Fin numQueues) (q : QueueState) :
    (s.setQueue t q).error = s.error := rfl

/-! ### The slots of a queue -/

/-- The slot has its DONE flag set. -/
def MediaBuffer.done (b : MediaBuffer) : Bool := hasFlag b.buffer.flags bufFlagDone

/-- The slot is owned by the device: QUEUED set and DONE clear. -/
def MediaBuffer.onDevice (b : MediaBuffer) : Bool :=
  hasFlag b.buffer.flags bufFlagQueued && !b.done

def QueueState.setBuffer (q : QueueState) (i : Nat) (b : MediaBuffer) : QueueState :=
  { q with buffers := q.buffers.set i b }

def MediaBuffer.setFlags (b : MediaBuffer) (f : UInt32) : MediaBuffer :=
  { b with buffer := { b.buffer with flags := f } }

/-- `queued_bufs++`. -/
def QueueState.incQueued (q : QueueState) : QueueState :=
  { q with queuedBufs := (q.queuedBufs + 1) % 2 ^ 64 }

/-- `queued_bufs--`, with a record of a decrement at zero. -/
def QueueState.decQueued (q : QueueState) : QueueState :=
  { q with
    queuedBufs := (q.queuedBufs + (2 ^ 64 - 1)) % 2 ^ 64
    wrapped := q.wrapped || q.queuedBufs == 0 }

@[simp] theorem QueueState.decQueued_buffers (q : QueueState) :
    q.decQueued.buffers = q.buffers := by
  unfold QueueState.decQueued
  rfl

end VirtioMedia.Driver
