import VirtioMedia.V4l2

/-!
# Queue and memory types

The enumerations of the `v4l2r` crate that the device code works with. `n`
converts from the number of the kernel headers.
-/

namespace VirtioMedia.Device

open V4l2

/-- `v4l2r::QueueType`. -/
inductive QueueType where
  | videoCapture
  | videoOutput
  | videoOverlay
  | vbiCapture
  | vbiOutput
  | slicedVbiCapture
  | slicedVbiOutput
  | videoOutputOverlay
  | videoCaptureMplane
  | videoOutputMplane
  | sdrCapture
  | sdrOutput
  | metaCapture
  | metaOutput
  deriving DecidableEq, Repr

def QueueType.all : List QueueType :=
  [.videoCapture, .videoOutput, .videoOverlay, .vbiCapture, .vbiOutput, .slicedVbiCapture,
    .slicedVbiOutput, .videoOutputOverlay, .videoCaptureMplane, .videoOutputMplane, .sdrCapture,
    .sdrOutput, .metaCapture, .metaOutput]

/-- `QueueType::n`. -/
def QueueType.n : UInt32 → Option QueueType
  | 1 => some .videoCapture
  | 2 => some .videoOutput
  | 3 => some .videoOverlay
  | 4 => some .vbiCapture
  | 5 => some .vbiOutput
  | 6 => some .slicedVbiCapture
  | 7 => some .slicedVbiOutput
  | 8 => some .videoOutputOverlay
  | 9 => some .videoCaptureMplane
  | 10 => some .videoOutputMplane
  | 11 => some .sdrCapture
  | 12 => some .sdrOutput
  | 13 => some .metaCapture
  | 14 => some .metaOutput
  | _ => none

/-- `QueueType::is_multiplanar`. -/
def QueueType.isMultiplanar : QueueType → Bool
  | .videoCaptureMplane | .videoOutputMplane => true
  | _ => false

inductive QueueDirection where
  | output
  | capture
  deriving DecidableEq, Repr

/-- `QueueType::direction`. -/
def QueueType.direction : QueueType → QueueDirection
  | .videoOutput | .videoOutputMplane | .videoOverlay | .videoOutputOverlay | .vbiOutput
  | .slicedVbiOutput | .sdrOutput | .metaOutput => .output
  | .videoCapture | .videoCaptureMplane | .vbiCapture | .slicedVbiCapture | .sdrCapture
  | .metaCapture => .capture

inductive MemoryType where
  | mmap
  | userPtr
  | overlay
  | dmaBuf
  deriving DecidableEq, Repr

/-- `MemoryType::n`. -/
def MemoryType.n : UInt32 → Option MemoryType
  | 1 => some .mmap
  | 2 => some .userPtr
  | 3 => some .overlay
  | 4 => some .dmaBuf
  | _ => none

/-- The driver and the device agree on which types have several planes. -/
theorem QueueType.isMultiplanar_of_n {type : UInt32} {queue : QueueType}
    (h : QueueType.n type = some queue) : queue.isMultiplanar = typeIsMultiplanar type := by
  unfold QueueType.n at h
  split at h <;> cases h <;> decide

end VirtioMedia.Device
