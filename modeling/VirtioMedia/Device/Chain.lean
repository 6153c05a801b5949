import VirtioMedia.Device.V4l2r
import VirtioMedia.Wire

/-!
# Reading and writing descriptor chains

`FromDescriptorChain` and `ToDescriptorChain` of `device/src/ioctl.rs` for the
payloads of variable length. The device-readable section is a byte string; a
reader takes objects off its front, and an error of any kind is `none`. What
`v4l2r` accepts as a buffer is a parameter.
-/

namespace VirtioMedia.Device

open V4l2 Wire

/-- The conversions of `v4l2r` that can fail. A value that was converted is
represented by the number it comes from. -/
structure V4l2rChecks where
  /-- `V4l2Buffer::try_from`. -/
  buffer : V4l2Buffer → Option (List V4l2Plane) → Bool
  /-- `EventType::try_from`, on the type and the id of a subscription. -/
  eventType : UInt32 → UInt32 → Bool
  /-- `CtrlWhich::try_from`. -/
  ctrlWhich : ExtControls → Bool
  memoryConsistency : UInt8 → Bool
  subscribeEventFlags : UInt32 → Bool
  selectionFlags : UInt32 → Bool
  tunerTransmissionFlags : UInt32 → Bool
  tunerMode : UInt32 → Bool
  tunerType : UInt32 → Bool
  audioMode : UInt32 → Bool
  selectionType : UInt32 → Bool
  selectionTarget : UInt32 → Bool
  /-- `parse_ctrl_id_and_flags`. -/
  parseCtrlIdAndFlags : UInt32 → UInt32 × UInt32

/-- `v4l2r::ioctl::V4l2Buffer`. The planes are those in use. -/
structure DeviceBuffer where
  buffer : V4l2Buffer
  planes : List V4l2Plane
  deriving DecidableEq, Repr

namespace DeviceBuffer

def isMultiplanar (b : DeviceBuffer) : Bool := typeIsMultiplanar b.buffer.type

def numPlanes (b : DeviceBuffer) : Nat := if b.isMultiplanar then b.buffer.length.toNat else 1

/-- The plane lengths of a `USERPTR` buffer, `planes_with_backing_iter`. -/
def userptrLengths (b : DeviceBuffer) : List UInt32 :=
  if b.buffer.memory ≠ memoryUserptr then []
  else if b.isMultiplanar then b.planes.map (·.length)
  else [b.buffer.length]

end DeviceBuffer

/-! ### Readers -/

/-- The loop of `get_userptr_regions`. Every entry takes bytes off the string,
so its length bounds the number of rounds. -/
def userptrLoop (size : Nat) : Nat → Nat → List UInt8 → Option (List SgEntry × List UInt8)
  | fuel, taken, bs =>
    if taken < size then
      match fuel with
      | 0 => none
      | fuel + 1 => (sgEntry.read bs).bind fun r =>
          (userptrLoop size fuel (taken + r.1.len.toNat) r.2).map fun s => (r.1 :: s.1, s.2)
    else some ([], bs)

/-- `get_userptr_regions`. -/
def getUserptrRegions (size : Nat) (bs : List UInt8) : Option (List SgEntry × List UInt8) :=
  userptrLoop size bs.length 0 bs

/-- One SG list for every non-zero length, in order. -/
def readRegions : List UInt32 → List UInt8 → Option (List (List SgEntry) × List UInt8)
  | [], bs => some ([], bs)
  | length :: rest, bs =>
    if length = 0 then readRegions rest bs
    else (getUserptrRegions length.toNat bs).bind fun r =>
      (readRegions rest r.2).map fun s => (r.1 :: s.1, s.2)

/-- The planes that follow a buffer of the queue. -/
def readPlanes (queue : QueueType) (b : V4l2Buffer) (bs : List UInt8) :
    Option (Option (List V4l2Plane) × List UInt8) :=
  if queue.isMultiplanar = true ∧ b.length ≠ 0 then
    if b.length.toNat ≤ videoMaxPlanes then
      (v4l2Plane.readMany b.length.toNat bs).map fun r => (some r.1, r.2)
    else none
  else some (none, bs)

/-- `read_from_chain` for a buffer and its SG lists. -/
def readBuffer (V : V4l2rChecks) (bs : List UInt8) :
    Option ((DeviceBuffer × List (List SgEntry)) × List UInt8) :=
  (v4l2Buffer.read bs).bind fun (b, bs) =>
    (QueueType.n b.type).bind fun queue =>
      (readPlanes queue b bs).bind fun (planes, bs) =>
        if V.buffer b planes then
          let buffer : DeviceBuffer := ⟨b, planes.getD []⟩
          (readRegions buffer.userptrLengths bs).map fun r => ((buffer, r.1), r.2)
        else none

/-- `read_from_chain` for extended controls and their SG lists. -/
def readExtControls (bs : List UInt8) :
    Option ((ExtControls × List ExtControl × List (List SgEntry)) × List UInt8) :=
  (extControls.read bs).bind fun (ctrls, bs) =>
    (extControl.readMany ctrls.count.toNat bs).bind fun (array, bs) =>
      (readRegions (array.map (·.size)) bs).map fun r => ((ctrls, array, r.1), r.2)

/-! ### Writers -/

/-- `write_to_chain` for a buffer, with at most `maxPlanes` planes. -/
def writeBuffer (b : DeviceBuffer) (maxPlanes : Nat) : List UInt8 :=
  v4l2Buffer.enc (if b.isMultiplanar then { b.buffer with m := 0 } else b.buffer) ++
    (b.planes.take maxPlanes).flatMap v4l2Plane.enc

/-- `write_to_chain` for extended controls. -/
def writeExtControls (ctrls : ExtControls) (array : List ExtControl) : List UInt8 :=
  extControls.enc { ctrls with controls := 0 } ++ array.flatMap extControl.enc

end VirtioMedia.Device
