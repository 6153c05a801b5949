import VirtioMedia.Device.Proxy

/-!
# The video decoder device

`device/src/devices/video_decoder.rs` without its format and selection ioctls.
The backend that decodes is a parameter: the methods of the
`VideoDecoderBackendSession` trait are functions on a state of their own, so
what they answer may depend on anything that happened before. The buffers are
those of the two multiplanar queues and have one plane, as the device
allocates them.

A panic of the host program is an error that says which check failed.
-/

namespace VirtioMedia.Device

open V4l2

/-! ### Types of `v4l2r` -/

structure Timeval where
  sec : Int
  usec : Int
  deriving DecidableEq, Repr

structure Rect where
  left : Int
  top : Int
  width : UInt32
  height : UInt32
  deriving DecidableEq, Repr

/-- The plane of a buffer. -/
structure BufferPlane where
  bytesused : UInt32
  length : UInt32
  dataOffset : UInt32
  memOffset : UInt32
  deriving DecidableEq, Repr

/-- `V4l2Buffer` with its first plane. -/
structure DecoderV4l2Buffer where
  queue : QueueType
  index : UInt32
  memory : MemoryType
  flags : UInt32
  field : UInt32
  timestamp : Timeval
  sequence : UInt32
  plane : BufferPlane
  deriving DecidableEq, Repr

namespace DecoderV4l2Buffer

def setFlags (b : DecoderV4l2Buffer) (flags : UInt32) : DecoderV4l2Buffer :=
  { b with flags := flags }

def addFlags (b : DecoderV4l2Buffer) (flags : UInt32) : DecoderV4l2Buffer :=
  { b with flags := b.flags ||| flags }

def clearFlags (b : DecoderV4l2Buffer) (flags : UInt32) : DecoderV4l2Buffer :=
  { b with flags := b.flags &&& ~~~flags }

end DecoderV4l2Buffer

/-- `V4L2_BUF_FLAG_TIMESTAMP_COPY`. -/
def bufFlagTimestampCopy : UInt32 := 0x00004000

/-- `V4L2_FIELD_NONE`. -/
def fieldNone : UInt32 := 1

/-- `DecoderCmd`, without the flags and speeds that the device ignores. -/
inductive DecoderCmd where
  | stop
  | start
  | pause
  | resume
  deriving DecidableEq, Repr

/-- `EventType`, the two types the device knows and the others. -/
inductive EventType where
  | sourceChange (id : UInt32)
  | eos
  | other
  deriving DecidableEq, Repr

/-! ### The backend -/

/-- `VideoDecoderBackendEvent`. -/
inductive BackendEvent where
  | streamFormatChanged
  | inputBufferDone (bufferId : UInt32) (error : Int)
  | frameCompleted (bufferId : UInt32) (timestamp : Timeval) (bytesUsed : List UInt32)
      (isLast : Bool)
  deriving DecidableEq, Repr

/-- `VideoDecoderBackendSession` with its buffer storage. `new` and
`fdForPlane` are the methods of `VideoDecoderBufferBacking`; `sizeimages` are
the plane sizes of `current_format`, and `visibleRect` is that of
`stream_params`. -/
structure DecoderBackend (β S : Type) where
  new : β → QueueType → UInt32 → UInt32 → Except Int S × β
  fdForPlane : S → Nat → Option Nat
  decode : β → S → UInt32 → Timeval → UInt32 → Except Int Unit × β
  useAsOutput : β → UInt32 → S → Except Int Unit × S × β
  drain : β → Except Int Unit × β
  clearOutputBuffers : β → Except Int Unit × β
  nextEvent : β → Option BackendEvent × β
  sizeimages : β → QueueDirection → List UInt32
  visibleRect : β → Rect
  buffersAllocated : β → QueueDirection → UInt32 → β
  streamingState : β → QueueDirection → Bool → β

/-! ### Session state -/

/-- `VideoDecoderStreamingState`. -/
inductive StreamingState where
  | stopped (inputStreaming outputStreaming : Bool)
  | running
  | paused
  deriving DecidableEq, Repr

namespace StreamingState

def inputStreamon : StreamingState → StreamingState
  | .stopped false outputStreaming =>
    if outputStreaming then .running else .stopped true outputStreaming
  | s => s

def inputStreamoff : StreamingState → StreamingState
  | .stopped _ outputStreaming => .stopped false outputStreaming
  | .running | .paused => .stopped false true

def outputStreamon : StreamingState → StreamingState
  | .stopped inputStreaming false =>
    if inputStreaming then .running else .stopped inputStreaming true
  | s => s

def outputStreamoff : StreamingState → StreamingState
  | .stopped inputStreaming _ => .stopped inputStreaming false
  | .running | .paused => .stopped true false

def isOutputStreaming : StreamingState → Bool
  | .running | .stopped _ true => true
  | _ => false

end StreamingState

inductive CropRectangle where
  | settable (rect : Rect)
  | fromStream (rect : Rect)
  deriving DecidableEq, Repr

/-- `VideoDecoderBuffer`. -/
structure DecoderBuffer (S : Type) where
  v4l2Buffer : DecoderV4l2Buffer
  backing : S
  deriving DecidableEq, Repr

/-- `VideoDecoderSession`, without the colorspace of its format. -/
structure DecoderSession (β S : Type) where
  id : UInt32
  state : StreamingState
  inputBuffers : List (DecoderBuffer S)
  outputBuffers : List (DecoderBuffer S)
  pendingOutputBuffers : List UInt32
  sequenceCpt : UInt32
  srcChangeSubscribed : Bool
  eosSubscribed : Bool
  cropRectangle : CropRectangle
  backendSession : β
  formatChangePending : Bool

/-- What the device sends to the driver. -/
inductive DecoderEvent where
  | dequeueBuffer (sessionId : UInt32) (buffer : DecoderV4l2Buffer)
  | sourceChange (sessionId : UInt32)
  | eos (sessionId : UInt32)
  deriving DecidableEq, Repr

/-- `VideoDecoder`; the mapping manager comes with its log, and the event queue
is the list of what was sent on it, newest first. -/
structure VideoDecoder where
  hostMapper : Tracked
  sent : List DecoderEvent

/-- The checks of the host program that can fail. -/
inductive Panic where
  | missingOutputBuffer
  | missingFd
  | arithmetic
  deriving DecidableEq, Repr

/-- What a method of the device returns, with the state it leaves. -/
structure Called (β S α : Type) where
  result : Except Int α
  device : VideoDecoder
  session : DecoderSession β S

variable {β S : Type}

/-- `new_session`, for a backend session that was created. -/
def DecoderSession.new (id : UInt32) (backend : β) : DecoderSession β S where
  id := id
  state := .stopped false false
  inputBuffers := []
  outputBuffers := []
  pendingOutputBuffers := []
  sequenceCpt := 0
  srcChangeSubscribed := false
  eosSubscribed := false
  cropRectangle := .settable ⟨0, 0, 0, 0⟩
  backendSession := backend
  formatChangePending := false

/-- The buffers of one of the two queues of the device. -/
def DecoderSession.buffers (s : DecoderSession β S) : QueueType → Option (List (DecoderBuffer S))
  | .videoOutputMplane => some s.inputBuffers
  | .videoCaptureMplane => some s.outputBuffers
  | _ => none

def DecoderSession.setBuffers (s : DecoderSession β S) (queue : QueueType)
    (bufs : List (DecoderBuffer S)) : DecoderSession β S :=
  match queue.direction with
  | .output => { s with inputBuffers := bufs }
  | .capture => { s with outputBuffers := bufs }

def VideoDecoder.send (d : VideoDecoder) (e : DecoderEvent) : VideoDecoder :=
  { d with sent := e :: d.sent }

def VideoDecoder.unregister (d : VideoDecoder) (bufs : List (DecoderBuffer S)) : VideoDecoder :=
  { d with hostMapper := { d.hostMapper with
      manager := d.hostMapper.manager.unregisterAll (bufs.map (·.v4l2Buffer.plane.memOffset)) } }

section Handlers

variable (B : DecoderBackend β S)

/-- The loop that hands pending buffers to the backend. -/
def sendPending : List UInt32 → List (DecoderBuffer S) → β →
    Except Panic (Except Int Unit × List (DecoderBuffer S) × β)
  | [], bufs, b => .ok (.ok (), bufs, b)
  | i :: rest, bufs, b =>
    match bufs[i.toNat]? with
    | none => .error .missingOutputBuffer
    | some buffer =>
      let r := B.useAsOutput b buffer.v4l2Buffer.index buffer.backing
      let bufs := bufs.set i.toNat { buffer with backing := r.2.1 }
      match r.1 with
      | .error e => .ok (.error e, bufs, r.2.2)
      | .ok () => sendPending rest bufs r.2.2

/-- `try_send_pending_output_buffers`. The list is drained even when the
backend refuses a buffer. -/
def DecoderSession.trySendPendingOutputBuffers (s : DecoderSession β S) :
    Except Panic (Except Int Unit × DecoderSession β S) :=
  if s.state.isOutputStreaming then
    (sendPending B s.pendingOutputBuffers s.outputBuffers s.backendSession).map fun r =>
      (r.1, { s with
        outputBuffers := r.2.1
        pendingOutputBuffers := []
        backendSession := r.2.2 })
  else .ok (.ok (), s)

/-- `VideoDecoderBuffer::new`. -/
def DecoderBuffer.new (queue : QueueType) (index size mmapOffset : UInt32) (backing : S) :
    DecoderBuffer S where
  v4l2Buffer :=
    { queue, index, memory := .mmap, flags := bufFlagTimestampMonotonic, field := fieldNone
      timestamp := ⟨0, 0⟩, sequence := 0, plane := ⟨0, size, 0, mmapOffset⟩ }
  backing := backing

/-- The loop of `reqbufs` over the indices to allocate. An error leaves the
buffers that were registered before it. -/
def allocateBuffers (checks : Bool) (queue : QueueType) (size : UInt32) :
    List Nat → VideoDecoder → β →
      Except Panic (Except Int (List (DecoderBuffer S)) × VideoDecoder × β)
  | [], d, b => .ok (.ok [], d, b)
  | i :: rest, d, b =>
    match d.hostMapper.manager.registerBuffer checks none size with
    | none => .error .arithmetic
    | some (.error _, m) =>
      .ok (.error einval, { d with hostMapper := { d.hostMapper with manager := m } }, b)
    | some (.ok offset, m) =>
      match B.new b queue (.ofNat i) size with
      | (.error e, b) =>
        .ok (.error e, { d with hostMapper :=
          { d.hostMapper with manager := (m.unregisterBuffer offset).2 } }, b)
      | (.ok backing, b) =>
        (allocateBuffers checks queue size rest
          { d with hostMapper := { d.hostMapper with manager := m } } b).map fun r =>
            (r.1.map (DecoderBuffer.new queue (.ofNat i) size offset backing :: ·), r.2)

/-- `reqbufs`; it returns the count. -/
def VideoDecoder.reqbufs (checks : Bool) (d : VideoDecoder) (s : DecoderSession β S)
    (queue : QueueType) (memory : MemoryType) (count : UInt32) :
    Except Panic (Called β S UInt32) :=
  if memory ≠ .mmap then .ok ⟨.error einval, d, s⟩
  else
    match s.buffers queue with
    | none => .ok ⟨.error einval, d, s⟩
    | some buffers =>
      let allocated (s : DecoderSession β S) : DecoderSession β S :=
        { s with backendSession := B.buffersAllocated s.backendSession queue.direction count }
      if count.toNat < buffers.length then
        .ok ⟨.ok count, d.unregister (buffers.drop count.toNat),
          allocated (s.setBuffers queue (buffers.take count.toNat))⟩
      else
        match B.sizeimages s.backendSession queue.direction with
        | [] => .ok ⟨.error einval, d, s⟩
        | sizeimage :: _ =>
          (allocateBuffers B checks queue sizeimage
            (List.range' buffers.length (count.toNat - buffers.length)) d s.backendSession).map
            fun r =>
              let s := { s with backendSession := r.2.2 }
              match r.1 with
              | .error e => ⟨.error e, r.2.1, s⟩
              | .ok news => ⟨.ok count, r.2.1, allocated (s.setBuffers queue (buffers ++ news))⟩

/-- `streamon`. -/
def VideoDecoder.streamon (d : VideoDecoder) (s : DecoderSession β S) (queue : QueueType) :
    Except Panic (Called β S Unit) :=
  match s.buffers queue with
  | none => .ok ⟨.error einval, d, s⟩
  | some [] => .ok ⟨.error einval, d, s⟩
  | some (_ :: _) =>
    let state := match queue.direction with
      | .output => s.state.inputStreamon
      | .capture => s.state.outputStreamon
    let s := { s with
      state
      backendSession := B.streamingState s.backendSession queue.direction true }
    (s.trySendPendingOutputBuffers B).map fun r => ⟨r.1, d, r.2⟩

/-- The buffers of a queue that is switched off are not queued any more. -/
def clearQueued (bufs : List (DecoderBuffer S)) : List (DecoderBuffer S) :=
  bufs.map fun b => { b with v4l2Buffer := b.v4l2Buffer.clearFlags bufFlagQueued }

/-- `streamoff`. The queue type is not checked, only its direction. -/
def VideoDecoder.streamoff (d : VideoDecoder) (s : DecoderSession β S) (queue : QueueType) :
    Called β S Unit :=
  match queue.direction with
  | .output =>
    ⟨.ok (), d, { s with
      state := s.state.inputStreamoff
      inputBuffers := clearQueued s.inputBuffers
      backendSession := B.streamingState s.backendSession .output false }⟩
  | .capture =>
    match B.clearOutputBuffers s.backendSession with
    | (.error e, b) => ⟨.error e, d, { s with backendSession := b }⟩
    | (.ok (), b) =>
      ⟨.ok (), d, { s with
        state := s.state.outputStreamoff
        pendingOutputBuffers := []
        outputBuffers := clearQueued s.outputBuffers
        backendSession := B.streamingState b .capture false }⟩

/-- What `qbuf` takes over from the plane of the guest. -/
def BufferPlane.update (host guest : BufferPlane) : BufferPlane :=
  { host with bytesused := guest.bytesused, length := guest.length, dataOffset := guest.dataOffset }

/-- `qbuf`. -/
def VideoDecoder.qbuf (d : VideoDecoder) (s : DecoderSession β S) (buffer : DecoderV4l2Buffer) :
    Except Panic (Called β S DecoderV4l2Buffer) :=
  match s.buffers buffer.queue with
  | none => .ok ⟨.error einval, d, s⟩
  | some buffers =>
    match buffers[buffer.index.toNat]? with
    | none => .ok ⟨.error einval, d, s⟩
    | some host =>
      if buffer.memory ≠ host.v4l2Buffer.memory then .ok ⟨.error einval, d, s⟩
      else
        let store (v : DecoderV4l2Buffer) : DecoderSession β S :=
          s.setBuffers buffer.queue (buffers.set buffer.index.toNat { host with v4l2Buffer := v })
        match buffer.queue.direction with
        | .output =>
          let v := { host.v4l2Buffer with
            field := fieldNone
            timestamp := buffer.timestamp
            plane := host.v4l2Buffer.plane.update buffer.plane }
          let bytesUsed := if v.plane.bytesused = 0 then v.plane.length else v.plane.bytesused
          match B.decode s.backendSession host.backing v.index v.timestamp bytesUsed with
          | (.error e, b) => .ok ⟨.error e, d, { store v with backendSession := b }⟩
          | (.ok (), b) =>
            let v := v.addFlags bufFlagQueued
            .ok ⟨.ok v, d, { store v with backendSession := b }⟩
        | .capture =>
          let v := (host.v4l2Buffer.addFlags bufFlagQueued).clearFlags bufFlagLast
          let v := { v with plane := v.plane.update buffer.plane }
          let s := { store v with
            pendingOutputBuffers := s.pendingOutputBuffers ++ [buffer.index] }
          (s.trySendPendingOutputBuffers B).map fun r => ⟨r.1.map fun _ => v, d, r.2⟩

/-- `querybuf`. -/
def DecoderSession.querybuf (s : DecoderSession β S) (queue : QueueType) (index : UInt32) :
    Except Int DecoderV4l2Buffer :=
  match s.buffers queue with
  | none => .error einval
  | some buffers =>
    match buffers[index.toNat]? with
    | none => .error einval
    | some buffer => .ok buffer.v4l2Buffer

/-- `try_decoder_cmd` of the session. -/
def DecoderSession.tryDecoderCmd (s : DecoderSession β S) (cmd : DecoderCmd) :
    Except Int DecoderCmd :=
  match cmd, s.state with
  | .pause, .stopped _ _ => .error einval
  | .resume, .stopped _ _ => .error einval
  | _, _ => .ok cmd

/-- `decoder_cmd`. A command that `v4l2r` does not know is `none`. -/
def VideoDecoder.decoderCmd (d : VideoDecoder) (s : DecoderSession β S) (cmd : Option DecoderCmd) :
    Except Panic (Called β S DecoderCmd) :=
  match cmd with
  | none => .ok ⟨.error einval, d, s⟩
  | some cmd =>
    match s.tryDecoderCmd cmd with
    | .error e => .ok ⟨.error e, d, s⟩
    | .ok .stop =>
      match s.state with
      | .stopped _ _ => .ok ⟨.ok .stop, d, s⟩
      | _ =>
        let r := B.drain s.backendSession
        .ok ⟨r.1.map fun _ => .stop, d,
          { s with state := .stopped true true, backendSession := r.2 }⟩
    | .ok .start =>
      match s.state with
      | .stopped inputStreaming outputStreaming =>
        let s := if inputStreaming && outputStreaming then
            { s with
              state := .running
              backendSession := B.streamingState s.backendSession .capture true }
          else s
        (s.trySendPendingOutputBuffers B).map fun r => ⟨r.1.map fun _ => .start, d, r.2⟩
      | _ => .ok ⟨.ok .start, d, s⟩
    | .ok .pause =>
      .ok ⟨.ok .pause, d, if s.state = .running then { s with state := .paused } else s⟩
    | .ok .resume =>
      .ok ⟨.ok .resume, d, if s.state = .paused then { s with state := .running } else s⟩

/-- `subscribe_event`. -/
def VideoDecoder.subscribeEvent (d : VideoDecoder) (s : DecoderSession β S) (event : EventType) :
    Called β S Unit :=
  match event with
  | .sourceChange 0 => ⟨.ok (), d, { s with srcChangeSubscribed := true }⟩
  | .eos => ⟨.ok (), d, { s with eosSubscribed := true }⟩
  | _ => ⟨.error einval, d, s⟩

/-- `unsubscribe_event`; `none` stands for the type zero, which is all events. -/
def VideoDecoder.unsubscribeEvent (d : VideoDecoder) (s : DecoderSession β S)
    (event : Option EventType) : Called β S Unit :=
  match event with
  | none => ⟨.ok (), d, { s with srcChangeSubscribed := false, eosSubscribed := false }⟩
  | some (.sourceChange 0) => ⟨.ok (), d, { s with srcChangeSubscribed := false }⟩
  | some .eos => ⟨.ok (), d, { s with eosSubscribed := false }⟩
  | _ => ⟨.error einval, d, s⟩

/-- `process_events` on a completed OUTPUT buffer. -/
def VideoDecoder.inputBufferDone (d : VideoDecoder) (s : DecoderSession β S) (bufferId : UInt32)
    (error : Int) : Called β S Unit :=
  match s.inputBuffers[bufferId.toNat]? with
  | none => ⟨.ok (), d, s⟩
  | some buffer =>
    let v := buffer.v4l2Buffer.clearFlags bufFlagQueued
    let v := if error ≠ 0 then v.setFlags bufFlagError else v
    ⟨.ok (), d.send (.dequeueBuffer s.id v), { s with
      inputBuffers := s.inputBuffers.set bufferId.toNat { buffer with v4l2Buffer := v } }⟩

/-- `process_events` on a decoded frame. The sequence number is a checked
addition. -/
def VideoDecoder.frameCompleted (checks : Bool) (d : VideoDecoder) (s : DecoderSession β S)
    (bufferId : UInt32) (timestamp : Timeval) (bytesUsed : List UInt32) (isLast : Bool) :
    Except Panic (Called β S Unit) :=
  match s.outputBuffers[bufferId.toNat]? with
  | none => .ok ⟨.ok (), d, s⟩
  | some buffer =>
    if checks ∧ s.sequenceCpt.toNat + 1 = 2 ^ 32 then .error .arithmetic
    else
      let v := (buffer.v4l2Buffer.clearFlags bufFlagQueued).setFlags bufFlagTimestampCopy
      let v := if isLast then v.setFlags bufFlagLast else v
      let v := { v with
        sequence := s.sequenceCpt
        timestamp
        plane := { v.plane with bytesused := bytesUsed.head?.getD 0 } }
      let d := d.send (.dequeueBuffer s.id v)
      let s := { s with
        outputBuffers := s.outputBuffers.set bufferId.toNat { buffer with v4l2Buffer := v }
        sequenceCpt := s.sequenceCpt + 1 }
      if !isLast then .ok ⟨.ok (), d, s⟩
      else if s.formatChangePending then .ok ⟨.ok (), d, { s with formatChangePending := false }⟩
      else .ok ⟨.ok (), if s.eosSubscribed then d.send (.eos s.id) else d, s⟩

/-- `process_events`. -/
def VideoDecoder.processEvents (checks : Bool) (d : VideoDecoder) (s : DecoderSession β S) :
    Except Panic (Called β S Unit) :=
  let r := B.nextEvent s.backendSession
  let s := { s with backendSession := r.2 }
  match r.1 with
  | none => .ok ⟨.ok (), d, s⟩
  | some (.inputBufferDone bufferId error) => .ok (d.inputBufferDone s bufferId error)
  | some .streamFormatChanged =>
    .ok ⟨.ok (), if s.srcChangeSubscribed then d.send (.sourceChange s.id) else d, { s with
      cropRectangle := .fromStream (B.visibleRect s.backendSession)
      formatChangePending := true }⟩
  | some (.frameCompleted bufferId timestamp bytesUsed isLast) =>
    d.frameCompleted checks s bufferId timestamp bytesUsed isLast

/-- `do_mmap`. -/
def VideoDecoder.doMmap (d : VideoDecoder) (s : DecoderSession β S) (flags offset : UInt32)
    (answer : Except Int UInt64) : Except Panic (Called β S (UInt64 × UInt64)) :=
  match (s.inputBuffers ++ s.outputBuffers).find? fun b =>
      b.v4l2Buffer.plane.memOffset == offset with
  | none => .ok ⟨.error einval, d, s⟩
  | some buffer =>
    match B.fdForPlane buffer.backing 0 with
    | none => .error .missingFd
    | some fd =>
      let r := d.hostMapper.create offset fd (flags &&& mmapFlagRw != 0) answer
      .ok ⟨r.1.mapError fun _ => einval, { d with hostMapper := r.2 }, s⟩

/-- `do_munmap`. -/
def VideoDecoder.doMunmap (d : VideoDecoder) (guestAddr : UInt64) :
    Except Int Unit × VideoDecoder :=
  let r := d.hostMapper.remove guestAddr
  ((r.1.map fun _ => ()).mapError fun _ => einval, { d with hostMapper := r.2 })

/-- `close_session`. -/
def VideoDecoder.closeSession (d : VideoDecoder) (s : DecoderSession β S) : VideoDecoder :=
  d.unregister (s.inputBuffers ++ s.outputBuffers)

end Handlers

/-! ### Commands -/

/-- The device and its open sessions. -/
structure Decoder (β S : Type) where
  device : VideoDecoder
  sessions : UInt32 → Option (DecoderSession β S)

def Decoder.init : Decoder β S := ⟨⟨.init, []⟩, fun _ => none⟩

/-- A call on a session. -/
inductive DecoderCall where
  | reqbufs (queue : QueueType) (memory : MemoryType) (count : UInt32)
  | qbuf (buffer : DecoderV4l2Buffer)
  | streamon (queue : QueueType)
  | streamoff (queue : QueueType)
  | decoderCmd (cmd : Option DecoderCmd)
  | subscribeEvent (event : EventType)
  | unsubscribeEvent (event : Option EventType)
  | mmap (flags offset : UInt32) (answer : Except Int UInt64)
  | processEvents

/-- A command of the guest or an event of the backend. -/
inductive DecoderAction (β : Type) where
  | openSession (sessionId : UInt32) (answer : Except Int β)
  | closeSession (sessionId : UInt32)
  | munmap (guestAddr : UInt64)
  | call (sessionId : UInt32) (c : DecoderCall)

/-- The state a call leaves. -/
def Called.after {α : Type} (c : Called β S α) : VideoDecoder × DecoderSession β S :=
  (c.device, c.session)

def VideoDecoder.call (B : DecoderBackend β S) (checks : Bool) (d : VideoDecoder)
    (s : DecoderSession β S) : DecoderCall → Except Panic (VideoDecoder × DecoderSession β S)
  | .reqbufs queue memory count => (d.reqbufs B checks s queue memory count).map (·.after)
  | .qbuf buffer => (d.qbuf B s buffer).map (·.after)
  | .streamon queue => (d.streamon B s queue).map (·.after)
  | .streamoff queue => .ok (d.streamoff B s queue).after
  | .decoderCmd cmd => (d.decoderCmd B s cmd).map (·.after)
  | .subscribeEvent event => .ok (d.subscribeEvent s event).after
  | .unsubscribeEvent event => .ok (d.unsubscribeEvent s event).after
  | .mmap flags offset answer => (d.doMmap B s flags offset answer).map (·.after)
  | .processEvents => (d.processEvents B checks s).map (·.after)

def Decoder.setSession (s : Decoder β S) (sessionId : UInt32) (v : Option (DecoderSession β S)) :
    Decoder β S :=
  { s with sessions := fun i => if i = sessionId then v else s.sessions i }

/-- One action on the device. What concerns a session that is not open is
answered with an error. -/
def Decoder.step (B : DecoderBackend β S) (checks : Bool) (s : Decoder β S) :
    DecoderAction β → Except Panic (Decoder β S)
  | .openSession sessionId answer =>
    match s.sessions sessionId, answer with
    | none, .ok b => .ok (s.setSession sessionId (some (.new sessionId b)))
    | _, _ => .ok s
  | .closeSession sessionId =>
    match s.sessions sessionId with
    | none => .ok s
    | some session =>
      .ok ({ s with device := s.device.closeSession session }.setSession sessionId none)
  | .munmap guestAddr => .ok { s with device := (s.device.doMunmap guestAddr).2 }
  | .call sessionId c =>
    match s.sessions sessionId with
    | none => .ok s
    | some session => (s.device.call B checks session c).map fun r =>
        { s with device := r.1 }.setSession sessionId (some r.2)

end VirtioMedia.Device
