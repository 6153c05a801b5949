import VirtioMedia.Device.Decoder
import Mathlib.Data.List.Sort

/-!
# The libraries under the ffmpeg decoder

`ffmpeg/avcodec.rs`, `ffmpeg/avutil.rs`, `ffmpeg/swscale.rs` and
`event_queue.rs` of `extras/ffmpeg-decoder`. What libavcodec, libavutil,
libswscale and the system answer is a parameter, `World`: functions on a state
of their own, so that an answer may depend on everything that happened before.
The wrappers around these calls are the source's.
-/

namespace VirtioMedia.Ffmpeg

open V4l2 Device

/-! ### `error.rs` -/

/-- `FFERRTAG`. -/
def fferrtag (a b c d : Nat) : Int := -(a + b * 2 ^ 8 + c * 2 ^ 16 + d * 2 ^ 24 : Nat)

/-- `AVERROR_EOF`, the tag `EOF `. -/
def averrorEof : Int := fferrtag 0x45 0x4f 0x46 0x20

/-- `AVERROR_INVALIDDATA`, the tag `INDA`. -/
def averrorInvaliddata : Int := fferrtag 0x49 0x4e 0x44 0x41

def averrorEagain : Int := -11

/-! ### `event_queue.rs` -/

/-- `EventQueue`; `event` is the counter of its eventfd. -/
structure EventQueue (T : Type) where
  event : Nat
  pendingEvents : List T
  deriving DecidableEq, Repr

namespace EventQueue

variable {T : Type}

def new : EventQueue T := ⟨0, []⟩

/-- `queue_event`; `write` is what the write to the eventfd answers if it is
made. The event is stored before. -/
def queueEvent (q : EventQueue T) (e : T) (write : Except Int Unit) :
    Except Int Unit × EventQueue T :=
  let q := { q with pendingEvents := q.pendingEvents ++ [e] }
  if q.pendingEvents.length = 1 then
    match write with
    | .ok () => (.ok (), { q with event := q.event + 1 })
    | .error errno => (.error errno, q)
  else (.ok (), q)

/-- `dequeue_event`. Reading the eventfd resets its counter. -/
def dequeueEvent (q : EventQueue T) : Option T × EventQueue T :=
  match q.pendingEvents with
  | [] => (none, q)
  | e :: rest => (some e, ⟨if rest.isEmpty then 0 else q.event, rest⟩)

/-- `retain`. -/
def retain (q : EventQueue T) (p : T → Bool) : EventQueue T :=
  let rest := q.pendingEvents.filter p
  ⟨if !q.pendingEvents.isEmpty && rest.isEmpty then 0 else q.event, rest⟩

end EventQueue

/-! ### `avcodec.rs` and `avutil.rs` -/

structure AvPacket where
  pts : Int
  data : List UInt8
  deriving DecidableEq, Repr

/-- The fields of an `AVFrame` that are read, in the types they are read as. -/
structure AvFrame where
  width : UInt32
  height : UInt32
  cropLeft : UInt64
  cropTop : UInt64
  cropRight : UInt64
  cropBottom : UInt64
  pts : Int
  format : Int
  deriving DecidableEq, Repr

/-- The calls out of the program. A null packet is `none`. -/
structure World (κ : Type) where
  /-- Whether arithmetic overflow panics. -/
  checks : Bool
  /-- How long a loop runs before it is taken not to end. -/
  fuel : Nat
  /-- `AV_PIX_FMT_NV12`. -/
  nv12 : Int
  /-- Whether a decoder context could be built and opened. -/
  buildDecoder : κ → Bool × κ
  /-- `pix_fmt` of the context. -/
  pixFmt : κ → Int
  sendPacket : κ → Option AvPacket → Int × κ
  receiveFrame : κ → Int × AvFrame × κ
  imageGetLinesize : Int → UInt32 → Nat → Int
  imageFillPlaneSizes : Int → UInt32 → List UInt32 → Except Int (List Nat)
  /-- Whether the allocations succeed. -/
  frameAlloc : κ → Bool × κ
  bufferCreate : κ → Bool × κ
  swsGetContext : κ → Bool × κ
  frameIsWritable : κ → Bool × κ
  swsScale : κ → Int × κ
  /-- What a write to an eventfd answers. -/
  eventfdWrite : κ → Except Int Unit × κ
  /-- What is read from the start of a buffer, unless it fails. -/
  readExact : κ → Nat → UInt32 → Option (List UInt8) × κ
  /-- Whether the file of a buffer can be mapped. -/
  mmap : κ → Nat → Bool × κ
  /-- The file that `MemFdBuffer::new` creates. -/
  memfd : κ → UInt32 → Option Nat × κ

inductive TryReceiveResult where
  | received (frame : AvFrame)
  | tryAgain
  | flushCompleted
  deriving DecidableEq, Repr

/-- What is caught nowhere: a panic, or a loop that does not end. -/
inductive Crash where
  | panic
  | hang
  deriving DecidableEq, Repr

namespace World

variable {κ : Type} (W : World κ)

/-- `try_send_packet`. -/
def trySendPacket (k : κ) (packet : AvPacket) : Except Int Bool × κ :=
  let r := W.sendPacket k (some packet)
  (if r.1 = averrorEagain then .ok false else if 0 ≤ r.1 then .ok true else .error r.1, r.2)

/-- `try_receive_frame`. -/
def tryReceiveFrame (k : κ) : Except Int TryReceiveResult × κ :=
  let r := W.receiveFrame k
  (if r.1 = averrorEagain then .ok .tryAgain
    else if r.1 = averrorEof then .ok .flushCompleted
    else if 0 ≤ r.1 then .ok (.received r.2.1)
    else .error r.1, r.2.2)

/-- `flush_decoder`. -/
def flushDecoder (k : κ) : Except Int Unit × κ :=
  let r := W.sendPacket k none
  (if 0 ≤ r.1 then .ok () else .error r.1, r.2)

/-- `AvPixelFormat::line_size`. -/
def lineSize (format : Int) (width : UInt32) (plane : Nat) : Nat :=
  (W.imageGetLinesize format width plane).toNat

/-- `AvPixelFormat::plane_sizes`. -/
def planeSizes (format : Int) (linesizes : List UInt32) (height : UInt32) : List Nat :=
  match W.imageFillPlaneSizes format height linesizes with
  | .ok sizes => sizes.take linesizes.length
  | .error _ => []

end World

structure PlaneDescriptor where
  bufferIndex : Nat
  offset : Nat
  stride : Nat
  deriving DecidableEq, Repr

inductive AvFrameError where
  | frameAllocationFailed
  | dimensionOverflow
  | invalidStride
  | bufferOutOfRange
  | bufferTooSmall
  | bufferAlias
  deriving DecidableEq, Repr

/-- The order of `(buffer_index, start, end)`. -/
def rangeLe (a b : Nat × Nat × Nat) : Bool :=
  a.1 < b.1 || (a.1 == b.1 && (a.2.1 < b.2.1 || (a.2.1 == b.2.1 && a.2.2 ≤ b.2.2)))

/-- The check for overlaps of neighbours. -/
def rangesOverlap : List (Nat × Nat × Nat) → Bool
  | a :: b :: rest => (a.1 == b.1 && b.2.1 < a.2.2) || rangesOverlap (b :: rest)
  | _ => false

/-- A `usize` addition, unless it panics. -/
def addUsize (checks : Bool) (a b : Nat) : Option Nat :=
  if a + b < 2 ^ 64 then some (a + b) else if checks then none else some ((a + b) % 2 ^ 64)

/-- `AV_NUM_DATA_POINTERS`. -/
def avNumDataPointers : Nat := 8

section Frames

variable {κ : Type} (W : World κ)

/-- The loop of `build_owned` over the planes; the buffers are given by their
lengths. Indexing outside of a vector panics, and so does a slice that starts
after its end. -/
def planeRanges (format : Int) (width : UInt32) (buffers sizes : List Nat) :
    Nat → List PlaneDescriptor → Except Crash (Except AvFrameError (List (Nat × Nat × Nat)))
  | _, [] => .ok (.ok [])
  | plane, p :: rest =>
    if p.bufferIndex > buffers.length then .ok (.error .bufferOutOfRange)
    else
      match sizes[plane]?.bind (addUsize W.checks p.offset), buffers[p.bufferIndex]? with
      | some last, some length =>
        if last > length then .ok (.error .bufferTooSmall)
        else if p.stride < W.lineSize format width plane then .ok (.error .invalidStride)
        else if p.offset > length then .error .panic
        else (planeRanges format width buffers sizes (plane + 1) rest).map fun r =>
          r.map ((p.bufferIndex, p.offset, last) :: ·)
      | _, _ => .error .panic

/-- `build_owned`, for a frame of the given format and size. The frame has room
for `AV_NUM_DATA_POINTERS` buffers. -/
def buildOwned (format : Int) (width height : UInt32) (buffers : List Nat)
    (planes : List PlaneDescriptor) : Except Crash (Except AvFrameError Unit) :=
  let sizes := W.planeSizes format (planes.map fun p => .ofNat p.stride) height
  (planeRanges W format width buffers sizes 0 planes).bind fun r =>
    match r with
    | .error err => .ok (.error err)
    | .ok ranges =>
      if rangesOverlap (ranges.insertionSort (rangeLe · ·)) then .ok (.error .bufferAlias)
      else if buffers.length > avNumDataPointers then .error .panic
      else .ok (.ok ())

/-! ### `swscale.rs` -/

structure SwConverter where
  srcPixFormat : Int
  dstPixFormat : Int
  deriving DecidableEq, Repr

inductive ConversionError where
  | formatMismatch (frame converter : Int)
  | dimensionMismatch (src dst : UInt32 × UInt32)
  | notWritable
  | avError (err : Int)
  deriving DecidableEq, Repr

/-- `convert` into a frame of the given format and size. -/
def SwConverter.convert (c : SwConverter) (k : κ) (src : AvFrame) (dstFormat : Int)
    (dstSize : UInt32 × UInt32) : Except ConversionError Unit × κ :=
  if src.format ≠ c.srcPixFormat then (.error (.formatMismatch src.format c.srcPixFormat), k)
  else if dstFormat ≠ c.dstPixFormat then (.error (.formatMismatch dstFormat c.dstPixFormat), k)
  else if (src.width, src.height) ≠ dstSize then
    (.error (.dimensionMismatch (src.width, src.height) dstSize), k)
  else
    let w := W.frameIsWritable k
    if !w.1 then (.error .notWritable, w.2)
    else
      let r := W.swsScale w.2
      (if 0 ≤ r.1 then .ok () else .error (.avError r.1), r.2)

end Frames

end VirtioMedia.Ffmpeg
