import VirtioMedia.Driver.Queue

/-!
# PREPARE_BUF, QUERYBUF and CREATE_BUFS of the driver

The handlers of `virtio_media_ioctls.c` for single buffers that are neither
QBUF nor DQBUF. As for QBUF, `ret` is the value returned by the helper that
sends the command and `reply` is what the device left in the structure.

PREPARE_BUF is cut where its command is outstanding: `prepareBufSubmit` is the
part before the command, `prepareBufReply` the part after it. `vlock` is held
across both, but completions may be processed in between.
-/

namespace VirtioMedia.Driver

open V4l2

/-! ### PREPARE_BUF -/

/-- A PREPARE_BUF command that has been sent and not answered. -/
structure PrepareInFlight where
  queue : Fin numQueues
  slot : Nat
  deriving DecidableEq, Repr

/-- The checks of `virtio_media_prepare_buf`: the queue and the slot, or the
error. The flags of the slot are not among them. -/
def prepareBufCheck (s : Session) (req : BufferReq) :
    Except Int (Fin numQueues × MediaBuffer) :=
  if req.buffer.memory == memoryDmabuf then .error (-eopnotsupp)
  else
    match queueIndex req.buffer.type with
    | none => .error (-einval)
    | some t =>
      match (s.queues t).buffers[req.buffer.index.toNat]? with
      | none => .error (-einval)
      | some b => .ok (t, b)

/-- `virtio_media_prepare_buf` up to the command. -/
def prepareBufSubmit (s : Session) (req : BufferReq) :
    Except Int PrepareInFlight × Session :=
  match prepareBufCheck s req with
  | .error e => (.error e, s)
  | .ok (t, b) =>
    let i := req.buffer.index.toNat
    let q := s.queues t
    if typeIsMultiplanar req.buffer.type && req.buffer.length.toNat > videoMaxPlanes then
      -- `buffer.m` has been stored when the plane count is found too large
      (.error (-einval), s.setQueue t (q.setBuffer i
        { b with buffer := { b.buffer with m := req.buffer.m } }))
    else (.ok ⟨t, i⟩, s.setQueue t (q.setBuffer i (storeM req b)))

/-- `virtio_media_prepare_buf` from the reply on. -/
def prepareBufReply (s : Session) (fl : PrepareInFlight) (ret : Int) : Int × Session :=
  if ret != 0 then (ret, s)
  else
    match (s.queues fl.queue).buffers[fl.slot]? with
    | none => (0, s)
    | some b =>
      (0, s.setQueue fl.queue
        ((s.queues fl.queue).setBuffer fl.slot (b.setFlags bufFlagPrepared)))

/-! ### QUERYBUF and CREATE_BUFS -/

/-- `virtio_media_querybuf`. The command is sent first; queue and slot are
those of the device's reply. -/
def querybuf (s : Session) (ret : Int) (reply : V4l2Buffer) : Int × V4l2Buffer :=
  if ret != 0 then (ret, reply)
  else
    match queueIndex reply.type with
    | none => (-einval, reply)
    | some t =>
      match (s.queues t).buffers[reply.index.toNat]? with
      | none => (-einval, reply)
      | some b =>
        (0, { reply with flags := reply.flags ||| (b.buffer.flags &&& bufFlagDone) })

/-- `struct v4l2_create_buffers`, the fields the driver reads. -/
structure CreateBuffers where
  index : UInt32
  count : UInt32
  memory : UInt32
  formatType : UInt32
  deriving DecidableEq, Repr

/-- The checks of `virtio_media_create_bufs` before the command is sent. -/
def createBufsCheck (b : CreateBuffers) : Except Int (Fin numQueues) :=
  if b.memory == memoryDmabuf then .error (-eopnotsupp)
  else
    match queueIndex b.formatType with
    | none => .error (-einval)
    | some t => .ok t

/-- The length of the array `virtio_media_create_bufs` allocates: the sum of
two `u32` fields of the reply, as a `u32`. -/
def CreateBuffers.newLength (reply : CreateBuffers) : Nat := (reply.index + reply.count).toNat

/-- `virtio_media_create_bufs`. The queue is the one that was checked, the
sizes are the device's; `vzalloc` of no bytes fails. `none` stands for the
copy of more slots than the new array has. Slots on `pending_dqbufs` are
indices here, so the list links into the freed array are not seen. -/
def createBufs (s : Session) (b : CreateBuffers) (ret : Int) (reply : CreateBuffers)
    (vzallocOk : Bool) : Option (Int × CreateBuffers × Session) :=
  match createBufsCheck b with
  | .error e => some (e, b, s)
  | .ok t =>
    if ret != 0 then some (ret, reply, s)
    else if reply.count == 0 then some (0, reply, s)
    else if !vzallocOk || reply.newLength == 0 then some (-enomem, reply, s)
    else if reply.newLength < (s.queues t).buffers.length then none
    else
      let q := s.queues t
      some (0, reply, s.setQueue t { q with
        buffers := q.buffers ++
          List.replicate (reply.newLength - q.buffers.length) MediaBuffer.zero
        memory := reply.memory })

end VirtioMedia.Driver
