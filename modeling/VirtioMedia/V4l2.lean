import Mathlib.Data.List.Basic
import Mathlib.Data.UInt

/-!
# The V4L2 structures shared by the driver and the device

The records follow `struct v4l2_buffer` and `struct v4l2_plane` of the kernel
headers on a 64-bit machine, padding included, so that a record and its bytes
determine each other. A union is kept as the word that holds it: `m` is the
`offset`, the `userptr`, the `planes` pointer or the `fd` of the buffer,
whichever its memory type and queue type select.
-/

namespace VirtioMedia.V4l2

/-- `VIDEO_MAX_PLANES`. -/
def videoMaxPlanes : Nat := 8

/-! ### Error numbers -/

def eio : Int := 5
def eagain : Int := 11
def enomem : Int := 12
def ebusy : Int := 16
def enodev : Int := 19
def einval : Int := 22
def enotty : Int := 25
def enospc : Int := 28
def epipe : Int := 32
def eopnotsupp : Int := 95

/-- `enum v4l2_memory`. -/
def memoryMmap : UInt32 := 1
def memoryUserptr : UInt32 := 2
def memoryDmabuf : UInt32 := 4

def bufCapSupportsUserptr : UInt32 := 0x00000002
def bufCapSupportsDmabuf : UInt32 := 0x00000004

/-! ### Queue types -/

def bufTypeVideoCapture : UInt32 := 1
def bufTypeVideoCaptureMplane : UInt32 := 9
def bufTypeVideoOutputMplane : UInt32 := 10
def bufTypeMetaOutput : UInt32 := 14

/-- `V4L2_TYPE_IS_MULTIPLANAR`. -/
def typeIsMultiplanar (type : UInt32) : Bool :=
  type == bufTypeVideoCaptureMplane || type == bufTypeVideoOutputMplane

/-- `V4L2_TYPE_IS_OUTPUT`: video, overlay, VBI, SDR and metadata output. -/
def typeIsOutput (type : UInt32) : Bool :=
  [2, 10, 3, 8, 5, 7, 12, 14].contains type

/-- `V4L2_TYPE_IS_CAPTURE`. -/
def typeIsCapture (type : UInt32) : Bool :=
  bufTypeVideoCapture ≤ type && type ≤ bufTypeMetaOutput && !typeIsOutput type

/-! ### Buffers and planes -/

/-- `struct v4l2_buffer`, 88 bytes. `pad0` and `pad1` are compiler padding. -/
structure V4l2Buffer where
  index : UInt32
  type : UInt32
  bytesused : UInt32
  flags : UInt32
  field : UInt32
  pad0 : UInt32
  tvSec : UInt64
  tvUsec : UInt64
  timecode : Vector UInt8 16
  sequence : UInt32
  memory : UInt32
  m : UInt64
  length : UInt32
  reserved2 : UInt32
  requestFd : UInt32
  pad1 : UInt32
  deriving DecidableEq, Repr, Inhabited

/-- `struct v4l2_plane`, 64 bytes. -/
structure V4l2Plane where
  bytesused : UInt32
  length : UInt32
  m : UInt64
  dataOffset : UInt32
  reserved : Vector UInt8 44
  deriving DecidableEq, Repr, Inhabited

/-! ### Buffer flags -/

def bufFlagQueued : UInt32 := 0x00000002
def bufFlagDone : UInt32 := 0x00000004
def bufFlagError : UInt32 := 0x00000040
def bufFlagPrepared : UInt32 := 0x00000400
def bufFlagLast : UInt32 := 0x00100000
def bufFlagTimestampMask : UInt32 := 0x0000e000
def bufFlagTimestampMonotonic : UInt32 := 0x00002000

/-- The C test `flags & mask`. -/
def hasFlag (flags mask : UInt32) : Bool := flags &&& mask != 0

@[simp] theorem hasFlag_zero (mask : UInt32) : hasFlag 0 mask = false := by
  simp [hasFlag]

/-- A union of flags meets a mask exactly when one of its parts does. -/
theorem or_and_eq_zero_iff (a b mask : UInt32) :
    (a ||| b) &&& mask = 0 ↔ a &&& mask = 0 ∧ b &&& mask = 0 := by
  simp only [← UInt32.toBitVec_inj, UInt32.toBitVec_and, UInt32.toBitVec_or,
    UInt32.toBitVec_zero, BitVec.eq_of_getLsbD_eq_iff, BitVec.getLsbD_and,
    BitVec.getLsbD_or, BitVec.getLsbD_zero, ← forall_and]
  apply forall_congr'
  intro i
  cases a.toBitVec.getLsbD i <;> cases b.toBitVec.getLsbD i <;>
    cases mask.toBitVec.getLsbD i <;> simp

/-- Setting flags adds them to what a test sees. -/
@[simp] theorem hasFlag_or (a b mask : UInt32) :
    hasFlag (a ||| b) mask = (hasFlag a mask || hasFlag b mask) := by
  have h := or_and_eq_zero_iff a b mask
  by_cases ha : a &&& mask = 0 <;> by_cases hb : b &&& mask = 0 <;>
    simp_all [hasFlag, bne, beq_eq_decide]

@[simp] theorem hasFlag_mask_or (flags a b : UInt32) :
    hasFlag flags (a ||| b) = (hasFlag flags a || hasFlag flags b) := by
  have h := hasFlag_or a b flags
  simpa only [hasFlag, UInt32.and_comm] using h

/-- A cleared flag is not seen by any test that asks for no other flag. -/
theorem hasFlag_and_not (a cleared mask : UInt32) (h : ~~~cleared &&& mask = 0) :
    hasFlag (a &&& ~~~cleared) mask = false := by
  have hz : a &&& ~~~cleared &&& mask = 0 := by
    rw [UInt32.and_assoc, h, UInt32.and_zero]
  simp [hasFlag, hz]

@[simp] theorem hasFlag_done_done : hasFlag bufFlagDone bufFlagDone = true := by decide

@[simp] theorem hasFlag_queued_queued : hasFlag bufFlagQueued bufFlagQueued = true := by
  decide

@[simp] theorem hasFlag_queued_done : hasFlag bufFlagQueued bufFlagDone = false := by
  decide

end VirtioMedia.V4l2
