import VirtioMedia.Ffmpeg.Avcodec
import VirtioMedia.Lib.Loop

/-!
# The ffmpeg decoder session

`FfmpegDecoderSession` of `extras/ffmpeg-decoder/src/lib.rs`, without the input
format, of which there is one codec at a time, and with NV12 as the only
CAPTURE format. Errors inside of the decode loop are only logged, and the call
that ran the loop answers `EINVAL`. The loops of the source are bounded by the
fuel of the world.
-/

namespace VirtioMedia.Ffmpeg

open V4l2 Device

/-! ### Types -/

/-- `MemFdBuffer`. -/
structure MemFdBuffer where
  file : Nat
  size : UInt32
  deriving DecidableEq, Repr

/-- `FfmpegDecoderBuffer`. -/
structure FfmpegDecoderBuffer where
  fds : List MemFdBuffer
  deriving DecidableEq, Repr

/-- `FfmpegDecoderJob`. -/
inductive Job where
  | decode (packet : AvPacket) (inputIndex : UInt32)
  | drain
  deriving DecidableEq, Repr

inductive DrainState where
  | none
  | initiated
  | awaitingFinalFrame
  deriving DecidableEq, Repr

/-- `AvailableOutputFrame`; the planes are given by their lengths. -/
structure AvailableOutputFrame where
  index : UInt32
  planes : List Nat
  deriving DecidableEq, Repr

/-- `DecodingContext`. The state of its codec is part of the world. -/
structure DecodingContext where
  jobs : List Job
  converter : SwConverter
  acceptingOutputBuffers : Bool
  avframe : Option AvFrame
  drainState : DrainState
  deriving DecidableEq, Repr

/-- `StreamParams`, without the constant `min_output_buffers`. -/
structure StreamParams where
  codedSize : UInt32 × UInt32
  visibleRect : Rect
  deriving DecidableEq, Repr

/-- `FfmpegDecoderSession`, with the state of the world. -/
structure Session (κ : Type) where
  codedSize : UInt32 × UInt32
  streamParams : StreamParams
  context : Option DecodingContext
  availableOutputFrames : List AvailableOutputFrame
  events : EventQueue BackendEvent
  world : κ
  deriving DecidableEq, Repr

/-- `TrySendInputError`, `TryReceiveFrameError` and `TryOutputFrameError`. -/
inductive DecodeError where
  | noContext
  | avError (err : Int)
  | eventQueue (errno : Int)
  | cannotCreateAvFrame
  | decodingError (err : Int)
  | swConverter
  | drainFailed
  | avFrame
  | notEnoughPlanes
  | cannotBuild (err : AvFrameError)
  | conversionError (err : ConversionError)
  deriving DecidableEq, Repr

/-- `new_session`. -/
def Session.new {κ : Type} (k : κ) : Session κ where
  codedSize := (320, 240)
  streamParams := ⟨(320, 240), ⟨0, 0, 320, 240⟩⟩
  context := none
  availableOutputFrames := []
  events := .new
  world := k

/-! ### Arithmetic -/

/-- A `usize` subtraction. -/
def subUsize (checks : Bool) (a b : UInt64) : Option UInt64 :=
  if b ≤ a then some (a - b) else if checks then none else some (a - b)

/-- The visible rectangle of a frame, unless a subtraction panics. -/
def AvFrame.visibleRect (checks : Bool) (f : AvFrame) : Option Rect := do
  let width ← subUsize checks f.cropRight f.cropLeft
  let height ← subUsize checks f.cropBottom f.cropTop
  return ⟨f.cropLeft.toUInt32.toInt32.toInt, f.cropTop.toUInt32.toInt32.toInt,
    width.toUInt32, height.toUInt32⟩

/-- An `i64` that wraps around. -/
def wrapI64 (n : Int) : Int := n.bmod (2 ^ 64)

/-- The timestamp of a packet, unless the addition panics. -/
def packetTimestamp (checks : Bool) (t : Timeval) : Option Int :=
  let sum := wrapI64 (t.sec * 1000000) + t.usec
  if wrapI64 sum = sum then some sum else if checks then none else some (wrapI64 sum)

/-- The timestamp that is reported for a frame. -/
def AvFrame.timestamp (f : AvFrame) : Timeval := ⟨f.pts.tdiv 1000000, f.pts.tmod 1000000⟩

section Decode

variable {κ : Type} (W : World κ)

/-! ### The decode loop -/

/-- Queue an event; the eventfd is written when it is the only one. -/
def Session.queueEvent (s : Session κ) (e : BackendEvent) : Except Int Unit × Session κ :=
  if s.events.pendingEvents.isEmpty then
    let w := W.eventfdWrite s.world
    let q := s.events.queueEvent e w.1
    (q.1, { s with events := q.2, world := w.2 })
  else
    let q := s.events.queueEvent e (.ok ())
    (q.1, { s with events := q.2 })

/-- Queue an event as the last thing that a step does. -/
def Session.emit (s : Session κ) (e : BackendEvent) : Except DecodeError Bool × Session κ :=
  let q := s.queueEvent W e
  ((q.1.map fun _ => true).mapError .eventQueue, q.2)

/-- `try_send_input_job`. A job that fails is dropped. -/
def trySendInputJob : Loop.Step Crash DecodeError (Session κ) Bool := fun s =>
  match s.context with
  | none => .ok (.error .noContext, s)
  | some context =>
    match context.jobs with
    | [] => .ok (.ok false, s)
    | .drain :: rest =>
      .ok (.ok true,
        { s with context := some { context with jobs := rest, drainState := .initiated } })
    | .decode packet inputIndex :: rest =>
      let r := W.trySendPacket s.world packet
      let sent := { s with world := r.2, context := some { context with jobs := rest } }
      let refused := { s with world := r.2 }
      match r.1 with
      | .ok true => .ok (sent.emit W (.inputBufferDone inputIndex 0))
      | .ok false => .ok (.ok false, refused)
      | .error err =>
        if err = averrorEof then .ok (.ok false, refused)
        else if err = averrorInvaliddata then .ok (sent.emit W (.inputBufferDone inputIndex 0))
        else .ok (.error (.avError err), sent)

/-- New stream parameters. The coded size is kept if the new frames fit into the
current buffers. -/
def Session.adapt (s : Session κ) (params : StreamParams) : Session κ :=
  { s with
    streamParams := params
    codedSize :=
      if params.codedSize.1 > s.codedSize.1 ∨ params.codedSize.2 > s.codedSize.2 then
        params.codedSize
      else s.codedSize }

/-- Announce a change of the format. The output buffers are given up. -/
def Session.announce (s : Session κ) (context : DecodingContext) (frame : AvFrame) :
    Except DecodeError Bool × Session κ :=
  let q := { s with availableOutputFrames := [], context := some context }.queueEvent W
    .streamFormatChanged
  match q.1 with
  | .error errno => (.error (.eventQueue errno), q.2)
  | .ok () => (.ok true, { q.2 with context := some { context with avframe := some frame } })

/-- `try_receive_frame` on a frame from the codec. -/
def Session.received (s : Session κ) (context : DecodingContext) (frame : AvFrame) :
    Except Crash (Except DecodeError Bool × Session κ) :=
  match frame.visibleRect W.checks with
  | none => .error .panic
  | some rect =>
    let params : StreamParams := ⟨(frame.width, frame.height), rect⟩
    if params ≠ s.streamParams then
      let pixFmt := W.pixFmt s.world
      let c := W.swsGetContext s.world
      let s := { s with world := c.2 }.adapt params
      if !c.1 then .ok (.error .swConverter, s)
      else
        .ok (s.announce W { context with
          converter := ⟨pixFmt, W.nv12⟩
          acceptingOutputBuffers := false } frame)
    else .ok (.ok true, { s with context := some { context with avframe := some frame } })

/-- `try_receive_frame`, with fuel for its calls of itself. -/
def tryReceiveFrame : Nat → Loop.Step Crash DecodeError (Session κ) Bool
  | 0, _ => .error .hang
  | n + 1, s =>
    match s.context with
    | none => .ok (.error .noContext, s)
    | some context =>
      if context.avframe.isSome then .ok (.ok false, s)
      else
        let a := W.frameAlloc s.world
        if !a.1 then .ok (.error .cannotCreateAvFrame, { s with world := a.2 })
        else
          let r := W.tryReceiveFrame a.2
          let s := { s with world := r.2 }
          match r.1 with
          | .ok (.received frame) => s.received W context frame
          | .ok .tryAgain =>
            if context.drainState = .initiated then
              let f := W.flushDecoder s.world
              let s := { s with world := f.2 }
              match f.1 with
              | .ok () => tryReceiveFrame n s
              | .error _ =>
                .ok (.error .drainFailed,
                  { s with context := some { context with drainState := .none } })
            else .ok (.ok false, s)
          | .ok .flushCompleted =>
            if context.drainState = .initiated then
              .ok (.ok true,
                { s with context := some { context with drainState := .awaitingFinalFrame } })
            else .ok (.ok false, s)
          | .error err =>
            if err = averrorInvaliddata then .ok (.ok true, s)
            else .ok (.error (.decodingError err), s)

/-- The part of `try_output_frame` that writes a frame into the planes of an
output buffer; it returns the number of bytes used. -/
def renderFrame (k : κ) (size : UInt32 × UInt32) (converter : SwConverter) (planes : List Nat)
    (avframe : AvFrame) : Except Crash (Except DecodeError UInt32 × κ) :=
  let bytesUsed := W.planeSizes W.nv12 [size.1, size.1] size.2
  let a := W.frameAlloc k
  if !a.1 then .ok (.error .avFrame, a.2)
  else if size.1.toNat ≥ 2 ^ 31 ∨ size.2.toNat ≥ 2 ^ 31 then .ok (.error .avFrame, a.2)
  else
    match bytesUsed, planes with
    | luma :: _, length :: _ =>
      let b := W.bufferCreate a.2
      if !b.1 then .ok (.error .notEnoughPlanes, b.2)
      else
        (buildOwned W W.nv12 size.1 size.2 [length]
          [⟨0, 0, W.lineSize W.nv12 size.1 0⟩, ⟨0, luma, W.lineSize W.nv12 size.1 1⟩]).map fun r =>
            match r with
            | .error err => (.error (.cannotBuild err), b.2)
            | .ok () =>
              let c := converter.convert W b.2 avframe W.nv12 size
              ((c.1.map fun _ => .ofNat bytesUsed.sum).mapError .conversionError, c.2)
    | _, _ => .error .panic

/-- `try_output_frame`. A frame that cannot be written is dropped, and so is the
buffer it was to be written to. -/
def tryOutputFrame : Loop.Step Crash DecodeError (Session κ) Bool := fun s =>
  match s.context with
  | none => .ok (.error .noContext, s)
  | some context =>
    match s.availableOutputFrames with
    | [] => .ok (.ok false, s)
    | outputFrame :: rest =>
      if context.drainState = .awaitingFinalFrame then
        if context.avframe.isSome then .ok (.ok false, s)
        else
          let s := { s with
            availableOutputFrames := rest
            context := some { context with drainState := .none } }
          .ok (s.emit W (.frameCompleted outputFrame.index ⟨0, 0⟩ [] true))
      else
        match context.avframe with
        | none => .ok (.ok false, s)
        | some avframe =>
          (renderFrame W s.world s.codedSize context.converter outputFrame.planes avframe).map
            fun r =>
              let s := { s with
                availableOutputFrames := rest
                context := some { context with avframe := none }
                world := r.2 }
              match r.1 with
              | .error err => (.error err, s)
              | .ok bytesUsed =>
                s.emit W (.frameCompleted outputFrame.index avframe.timestamp [bytesUsed] false)

/-- The condition of the loop of `try_decode`. -/
def tryProgress : Loop.Step Crash DecodeError (Session κ) Bool :=
  Loop.orElse (tryOutputFrame W) (Loop.orElse (tryReceiveFrame W W.fuel) (trySendInputJob W))

/-- `try_decode`. -/
def tryDecode : Loop.Step Crash DecodeError (Session κ) Unit := fun s =>
  if s.context.isNone then .ok (.ok (), s)
  else Loop.whileTrue .hang (tryProgress W) W.fuel s

/-! ### The methods of the backend session -/

/-- `DecodingContext::new`, in the place of the one that is missing. -/
def Session.openContext (s : Session κ) : Except Int DecodingContext × Session κ :=
  match s.context with
  | some context => (.ok context, s)
  | none =>
    let d := W.buildDecoder s.world
    if !d.1 then (.error enodev, { s with world := d.2 })
    else
      let c := W.swsGetContext d.2
      if !c.1 then (.error enodev, { s with world := c.2 })
      else
        let context : DecodingContext :=
          { jobs := [], converter := ⟨W.pixFmt d.2, W.nv12⟩, acceptingOutputBuffers := true
            avframe := none, drainState := .none }
        (.ok context, { s with context := some context, world := c.2 })

/-- Add a job and try to make progress. -/
def Session.submit (s : Session κ) (context : DecodingContext) (job : Job) :
    Except Crash (Except Int Unit × Session κ) :=
  (tryDecode W { s with context := some { context with jobs := context.jobs ++ [job] } }).map
    fun r => (r.1.mapError fun _ => einval, r.2)

/-- `decode`. -/
def Session.decode (s : Session κ) (input : FfmpegDecoderBuffer) (index : UInt32)
    (timestamp : Timeval) (bytesUsed : UInt32) : Except Crash (Except Int Unit × Session κ) :=
  match s.openContext W with
  | (.error e, s) => .ok (.error e, s)
  | (.ok context, s) =>
    match packetTimestamp W.checks timestamp with
    | none => .error .panic
    | some pts =>
      match input.fds with
      | [] => .ok (.error einval, s)
      | fd :: _ =>
        let r := W.readExact s.world fd.file bytesUsed
        match r.1 with
        | none => .ok (.error eio, { s with world := r.2 })
        | some data =>
          let b := W.bufferCreate r.2
          if !b.1 then .ok (.error enomem, { s with world := b.2 })
          else { s with world := b.2 }.submit W context (.decode ⟨pts, data⟩ index)

/-- `fd.mmap()` for the planes of a buffer, as long as it succeeds. -/
def mmapPlanes : List MemFdBuffer → κ → Option (List Nat) × κ
  | [], k => (some [], k)
  | fd :: rest, k =>
    let m := W.mmap k fd.file
    if !m.1 then (none, m.2)
    else
      let r := mmapPlanes rest m.2
      (r.1.map (fd.size.toNat :: ·), r.2)

/-- `use_as_output`. -/
def Session.useAsOutput (s : Session κ) (index : UInt32) (backing : FfmpegDecoderBuffer) :
    Except Int Unit × Session κ :=
  if !(s.context.map (·.acceptingOutputBuffers)).getD true then (.ok (), s)
  else
    let m := mmapPlanes W backing.fds s.world
    match m.1 with
    | none => (.error enomem, { s with world := m.2 })
    | some planes =>
      (.ok (), { s with
        availableOutputFrames := s.availableOutputFrames ++ [⟨index, planes⟩]
        world := m.2 })

/-- `drain`. -/
def Session.drain (s : Session κ) : Except Crash (Except Int Unit × Session κ) :=
  match s.context with
  | none => .ok (.ok (), s)
  | some context => s.submit W context .drain

/-- `FrameCompleted`. -/
def isFrameCompleted : BackendEvent → Bool
  | .frameCompleted _ _ _ _ => true
  | _ => false

/-- `clear_output_buffers`. -/
def Session.clearOutputBuffers (s : Session κ) : Session κ :=
  { s with
    availableOutputFrames := []
    events := s.events.retain fun e => !isFrameCompleted e }

/-- `next_event`. -/
def Session.nextEvent (s : Session κ) : Option BackendEvent × Session κ :=
  let q := s.events.dequeueEvent
  (q.1, { s with events := q.2 })

/-- The plane sizes of `current_format`. -/
def Session.sizeimages (s : Session κ) : QueueDirection → List UInt32
  | .output => [1024 * 1024]
  | .capture =>
    let line : UInt32 := .ofNat (W.lineSize W.nv12 s.codedSize.1 0)
    [.ofNat (W.planeSizes W.nv12 [line, line] s.codedSize.2).sum]

/-- `streaming_state`. -/
def Session.streamingState (s : Session κ) (direction : QueueDirection) (streaming : Bool) :
    Session κ :=
  if direction = .capture ∧ streaming = true then
    { s with context := s.context.map fun c => { c with acceptingOutputBuffers := true } }
  else s

/-! ### The session as a backend

After a crash the program is gone. The decoder is a total function of its
backend, so the backend stays in a state in which every call fails and no
event comes. -/

def afterCrash (r : Except Crash (Except Int Unit × Session κ)) :
    Except Int Unit × Option (Session κ) :=
  match r with
  | .error _ => (.error eio, none)
  | .ok (r, s) => (r, some s)

def ffmpegBackend : DecoderBackend (Option (Session κ)) FfmpegDecoderBuffer where
  new b _ _ size :=
    match b with
    | none => (.error eio, none)
    | some s =>
      if size = 0 then (.error enomem, some s)
      else
        let m := W.memfd s.world size
        match m.1 with
        | none => (.error enomem, some { s with world := m.2 })
        | some file => (.ok ⟨[⟨file, size⟩]⟩, some { s with world := m.2 })
  fdForPlane backing i := backing.fds[i]?.map (·.file)
  decode b input index timestamp bytesUsed :=
    match b with
    | none => (.error eio, none)
    | some s => afterCrash (s.decode W input index timestamp bytesUsed)
  useAsOutput b index backing :=
    match b with
    | none => (.error eio, backing, none)
    | some s => ((s.useAsOutput W index backing).1, backing,
        some (s.useAsOutput W index backing).2)
  drain b :=
    match b with
    | none => (.error eio, none)
    | some s => afterCrash (s.drain W)
  clearOutputBuffers b := (if b.isSome then .ok () else .error eio, b.map (·.clearOutputBuffers))
  nextEvent b :=
    match b with
    | none => (none, none)
    | some s => (s.nextEvent.1, some s.nextEvent.2)
  sizeimages b direction := b.elim [] fun s => s.sizeimages W direction
  visibleRect b := b.elim ⟨0, 0, 0, 0⟩ (·.streamParams.visibleRect)
  buffersAllocated b _ _ := b
  streamingState b direction streaming := b.map (·.streamingState direction streaming)

end Decode

end VirtioMedia.Ffmpeg
