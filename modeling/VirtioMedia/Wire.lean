import VirtioMedia.Lib.Codec
import VirtioMedia.V4l2

/-!
# Bytes of the structures on the wire

The layout of the V4L2 structures that have variable-length payloads behind
them, and of the entries of SG lists, on a little-endian 64-bit machine.
-/

namespace VirtioMedia

open V4l2

/-- `struct v4l2_ext_controls`, 32 bytes. `pad` is compiler padding. -/
structure ExtControls where
  which : UInt32
  count : UInt32
  errorIdx : UInt32
  requestFd : UInt32
  reserved : UInt32
  pad : UInt32
  controls : UInt64
  deriving DecidableEq, Repr, Inhabited

/-- `struct v4l2_ext_control`, packed in 20 bytes. `value` is the union that
holds the `ptr`. -/
structure ExtControl where
  id : UInt32
  size : UInt32
  reserved2 : UInt32
  value : UInt64
  deriving DecidableEq, Repr, Inhabited

/-- `struct virtio_media_sg_entry`. -/
structure SgEntry where
  start : UInt64
  len : UInt32
  reserved : UInt32
  deriving DecidableEq, Repr, Inhabited

namespace Wire

open Codec

def v4l2Buffer : Codec V4l2Buffer :=
  (pair u32 <| pair u32 <| pair u32 <| pair u32 <| pair u32 <| pair u32 <| pair u64 <|
    pair u64 <| pair (bytes 16) <| pair u32 <| pair u32 <| pair u64 <| pair u32 <|
    pair u32 <| pair u32 u32).imap
    (fun (index, type, bytesused, flags, field, pad0, tvSec, tvUsec, timecode, sequence, memory,
        m, length, reserved2, requestFd, pad1) =>
      ⟨index, type, bytesused, flags, field, pad0, tvSec, tvUsec, timecode, sequence, memory,
        m, length, reserved2, requestFd, pad1⟩)
    (fun b => (b.index, b.type, b.bytesused, b.flags, b.field, b.pad0, b.tvSec, b.tvUsec,
      b.timecode, b.sequence, b.memory, b.m, b.length, b.reserved2, b.requestFd, b.pad1))
    fun _ => rfl

def v4l2Plane : Codec V4l2Plane :=
  (pair u32 <| pair u32 <| pair u64 <| pair u32 (bytes 44)).imap
    (fun (bytesused, length, m, dataOffset, reserved) =>
      ⟨bytesused, length, m, dataOffset, reserved⟩)
    (fun p => (p.bytesused, p.length, p.m, p.dataOffset, p.reserved)) fun _ => rfl

def extControls : Codec ExtControls :=
  (pair u32 <| pair u32 <| pair u32 <| pair u32 <| pair u32 <| pair u32 u64).imap
    (fun (which, count, errorIdx, requestFd, reserved, pad, controls) =>
      ⟨which, count, errorIdx, requestFd, reserved, pad, controls⟩)
    (fun c => (c.which, c.count, c.errorIdx, c.requestFd, c.reserved, c.pad, c.controls))
    fun _ => rfl

def extControl : Codec ExtControl :=
  (pair u32 <| pair u32 <| pair u32 u64).imap
    (fun (id, size, reserved2, value) => ⟨id, size, reserved2, value⟩)
    (fun c => (c.id, c.size, c.reserved2, c.value)) fun _ => rfl

def sgEntry : Codec SgEntry :=
  (pair u64 <| pair u32 u32).imap (fun (start, len, reserved) => ⟨start, len, reserved⟩)
    (fun e => (e.start, e.len, e.reserved)) fun _ => rfl

/-- The sizes that the C compiler gives the structures. -/
example : v4l2Buffer.size = 88 ∧ v4l2Plane.size = 64 ∧ extControls.size = 32 ∧
    extControl.size = 20 ∧ sgEntry.size = 16 := by decide

end Wire

end VirtioMedia
