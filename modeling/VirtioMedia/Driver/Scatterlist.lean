import VirtioMedia.Wire

/-!
# The scatterlist builder

`driver/scatterlist_builder.c` and the two functions of
`driver/virtio_media_ioctls.c` that send payloads of variable length. A
command is a chain of entries `sgs`; an entry points into a pool of
descriptors, and consists of the descriptors from there to the first one with
an end mark. A descriptor names a range of physical memory.

Where the kernel has placed a structure decides how many descriptors it takes.
The page table of vmalloc memory is an arbitrary function; the frame numbers
go through an `int`, as in the source. Next to its descriptor index, an entry
keeps the bytes that were added with it: they are what the device reads.
-/

namespace VirtioMedia.Driver

open V4l2 Wire

/-- `VIRTIO_SHADOW_BUF_SIZE`. -/
def shadowBufSize : Nat := 0x4000

/-- `ARRAY_SIZE(sgs)`. -/
def numSgs : Nat := 64

/-- The size of a page. -/
def pageSize : Nat := 4096

theorem pageSize_pos : 0 < pageSize := by decide

/-! ### Memory -/

/-- Where a structure lies: in the 1:1 mapping of physical memory, in vmalloc
memory with a frame for each of its pages, or elsewhere. -/
inductive Placement where
  | direct (pfn : Nat) (offset : Fin pageSize)
  | vmalloc (offset : Fin pageSize) (frame : Nat → Nat)
  | other

/-- The bytes of a structure, and where they are. -/
structure Data where
  bytes : List UInt8
  placement : Placement

/-- The module parameter and the physical address of the shadow buffer, which
is in the 1:1 mapping. -/
structure Env where
  alwaysUseShadowBuffer : Bool
  shadowBuffer : Nat

/-- Physical memory at an address of the 1:1 mapping. -/
def Placement.at (addr : Nat) : Placement :=
  .direct (addr / pageSize) ⟨addr % pageSize, Nat.mod_lt _ (by decide)⟩

/-- An entry of the descriptor pool, `struct scatterlist`. -/
structure Desc where
  pfn : Nat
  offset : Nat
  length : Nat
  last : Bool
  deriving DecidableEq, Repr

/-- `sg_set_page` on a cleared descriptor; the length is an `unsigned int`. -/
def Desc.page (pfn len offset : Nat) : Desc := ⟨pfn, offset, len % 2 ^ 32, false⟩

/-- An entry of the chain. -/
structure Sg where
  desc : Nat
  data : List UInt8
  deriving DecidableEq, Repr

/-- `struct scatterlist_builder`; `cur_sg` is the length of `sgs`. -/
structure Builder where
  descs : List Desc
  curDesc : Nat
  shadowBufferPos : Nat
  sgs : List Sg
  deriving DecidableEq, Repr

namespace Builder

/-- A builder over a pool with arbitrary contents. -/
def init (pool : List Desc) : Builder := ⟨pool, 0, 0, []⟩

/-- `scatterlist_builder_add_descriptor`. -/
def addDescriptor (b : Builder) (descIndex : Nat) (data : List UInt8) : Except Int Builder :=
  if numSgs ≤ b.sgs.length then .error (-enospc)
  else .ok { b with sgs := b.sgs ++ [⟨descIndex, data⟩] }

/-- Fill the next descriptor. -/
def put (b : Builder) (d : Desc) : Builder :=
  { b with descs := b.descs.set b.curDesc d, curDesc := b.curDesc + 1 }

/-- `(next_desc - 1)->length += len`. -/
def extendLast (b : Builder) (len : Nat) : Builder :=
  { b with descs := b.descs.modify (b.curDesc - 1) fun d =>
      { d with length := (d.length + len) % 2 ^ 32 } }

/-- `sg_mark_end` on the last descriptor. -/
def markEnd (b : Builder) : Builder :=
  { b with descs := b.descs.modify (b.curDesc - 1) fun d => { d with last := true } }

/-- The loop over the pages of vmalloc memory. Every round takes at least one
byte, so the length bounds the number of rounds. -/
def vmallocLoop (frame : Nat → Nat) : Nat → Nat → Nat → Nat → Int32 → Builder →
    Except Int Builder
  | fuel, page, offset, len, prevPfn, b =>
    if len = 0 then .ok b
    else
      match fuel with
      | 0 => .ok b
      | fuel + 1 =>
        let curPfn := Int32.ofNat (frame page)
        let lenInPage := min (pageSize - offset) len
        if b.descs.length ≤ b.curDesc then .error (-enospc)
        else
          let b := if curPfn = prevPfn + 1 then b.extendLast lenInPage
            else b.put (.page (frame page) lenInPage offset)
          vmallocLoop frame fuel (page + 1) 0 (len - lenInPage) curPfn b

/-- The three ways of `scatterlist_builder_add_data` to describe the data. -/
def describe (env : Env) (b : Builder) (d : Data) : Except Int Builder :=
  match env.alwaysUseShadowBuffer, d.placement with
  | false, .direct pfn offset => .ok (b.put (.page pfn d.bytes.length offset))
  | false, .vmalloc offset frame =>
    vmallocLoop frame d.bytes.length 0 offset d.bytes.length (-2) b
  | _, _ =>
    let shadow := env.shadowBuffer + b.shadowBufferPos
    if shadowBufSize - b.shadowBufferPos < d.bytes.length then .error (-enospc)
    else .ok { b.put (.page (shadow / pageSize) d.bytes.length (shadow % pageSize)) with
      shadowBufferPos := b.shadowBufferPos + d.bytes.length }

/-- `scatterlist_builder_add_data`. -/
def addData (env : Env) (b : Builder) (d : Data) : Except Int Builder :=
  if d.bytes.length = 0 then .ok b
  else if b.descs.length ≤ b.curDesc then .error (-enospc)
  else (b.describe env d).bind fun b' => b'.markEnd.addDescriptor b.curDesc d.bytes

/-- `scatterlist_builder_add_userptr`. `entries` is the SG table of the user
pages, or the error of one of the calls that make it. -/
def addUserptr (env : Env) (b : Builder) (entries : Except Int (List SgEntry)) :
    Except Int Builder :=
  entries.bind fun entries =>
    if shadowBufSize < b.shadowBufferPos + sgEntry.size * entries.length then .error (-enomem)
    else addData env
      { b with shadowBufferPos := b.shadowBufferPos + sgEntry.size * entries.length }
      ⟨entries.flatMap sgEntry.enc, .at (env.shadowBuffer + b.shadowBufferPos)⟩

/-- The SG lists of the pointers with a non-zero length, in order. -/
def addUserptrs (env : Env) (userptr : UInt64 → UInt32 → Except Int (List SgEntry)) :
    Builder → List (UInt64 × UInt32) → Except Int Builder
  | b, [] => .ok b
  | b, (ptr, length) :: rest =>
    if length = 0 then addUserptrs env userptr b rest
    else (b.addUserptr env (userptr ptr length)).bind fun b => addUserptrs env userptr b rest

end Builder

/-! ### Buffers -/

/-- A `v4l2_buffer` with the planes its pointer leads to. -/
structure BufferArg where
  buffer : V4l2Buffer
  planes : List V4l2Plane
  count : typeIsMultiplanar buffer.type = true → planes.length = buffer.length.toNat
  deriving DecidableEq, Repr

namespace BufferArg

def isMultiplanar (b : BufferArg) : Bool := typeIsMultiplanar b.buffer.type

/-- Plane length must be zero if the user pointer is null. -/
def fixupPlane (p : V4l2Plane) : V4l2Plane := if p.m = 0 then { p with length := 0 } else p

/-- The fixups of `scatterlist_builder_add_buffer`. -/
def fixup (b : BufferArg) : BufferArg :=
  if b.buffer.memory ≠ memoryUserptr then b
  else if h : typeIsMultiplanar b.buffer.type = true then
    ⟨b.buffer, b.planes.map fixupPlane, fun h => by rw [List.length_map, b.count h]⟩
  else if b.buffer.m = 0 then ⟨{ b.buffer with length := 0 }, b.planes, fun h' => absurd h' h⟩
  else b

/-- The planes that follow the buffer. -/
def sentPlanes (b : BufferArg) : List V4l2Plane := if b.isMultiplanar then b.planes else []

/-- The user pointers of the buffer, with their lengths. -/
def userptrs (b : BufferArg) : List (UInt64 × UInt32) :=
  if b.buffer.memory ≠ memoryUserptr then []
  else if b.isMultiplanar then b.planes.map fun p => (p.m, p.length)
  else [(b.buffer.m, b.buffer.length)]

end BufferArg

/-- Where the structures of a buffer ioctl are. -/
structure BufferPlacement where
  buffer : Placement
  planes : Placement

/-- `scatterlist_builder_add_buffer`, on a buffer that is fixed up. -/
def Builder.addBuffer (env : Env) (b : Builder) (arg : BufferArg) (p : BufferPlacement) :
    Except Int Builder :=
  (b.addData env ⟨v4l2Buffer.enc arg.buffer, p.buffer⟩).bind fun b =>
    b.addData env ⟨arg.sentPlanes.flatMap v4l2Plane.enc, p.planes⟩

/-- The UUIDs of a `DMABUF` buffer; `uuids` are those of the slots of the
queue. -/
def Builder.addUuids (env : Env) (b : Builder) (arg : BufferArg) (uuids : List Data) :
    Except Int Builder :=
  if arg.buffer.memory ≠ memoryDmabuf then .ok b
  else
    let count := if arg.isMultiplanar then arg.buffer.length.toNat else 1
    match uuids[arg.buffer.index.toNat]? with
    | none => .error (-einval)
    | some slot =>
      if count = 0 ∨ videoMaxPlanes < count then .error (-einval)
      else b.addData env { slot with bytes := slot.bytes.take (count * 16) }

/-! ### Commands -/

/-- A chain under construction, with the number of its entries that hold the
command and the payload to be answered, and of the device-readable ones. -/
structure CommandChain where
  builder : Builder
  endPayloadSg : Nat
  numCmdSgs : Nat

/-- The command and response structures of the session, which `kzalloc` places
in the 1:1 mapping. -/
structure SessionData where
  cmd : Vector UInt8 16
  cmdAddr : Nat
  resp : Vector UInt8 8
  respAddr : Nat

def SessionData.cmdData (s : SessionData) : Data := ⟨s.cmd.toList, .at s.cmdAddr⟩

def SessionData.respData (s : SessionData) : Data := ⟨s.resp.toList, .at s.respAddr⟩

/-- The device-readable section of `virtio_media_send_buffer_ioctl`. -/
def buildBufferCmd (env : Env) (session : SessionData)
    (userptr : UInt64 → UInt32 → Except Int (List SgEntry)) (uuids : List Data)
    (pool : List Desc) (arg : BufferArg) (p : BufferPlacement) : Except Int CommandChain :=
  if bufTypeMetaOutput < arg.buffer.type then .error (-einval)
  else
    ((Builder.init pool).addData env session.cmdData).bind fun b =>
      (b.addBuffer env arg.fixup p).bind fun b =>
        (b.addUuids env arg.fixup uuids).bind fun payload =>
          (payload.addUserptrs env userptr arg.fixup.userptrs).map fun b =>
            ⟨b, payload.sgs.length, b.sgs.length⟩

/-- The device-writable section: the response, and the payload once more. The
loop passes its counter, an index of `sgs`, as the index of a descriptor. -/
def addResponse (env : Env) (session : SessionData) (c : CommandChain) : Except Int Builder :=
  (c.builder.addData env session.respData).bind fun b =>
    (List.range' 1 (c.endPayloadSg - 1)).foldlM (fun b i => b.addDescriptor i []) b

/-- The chain of `virtio_media_send_buffer_ioctl`. -/
def sendBufferChain (env : Env) (session : SessionData)
    (userptr : UInt64 → UInt32 → Except Int (List SgEntry)) (uuids : List Data)
    (pool : List Desc) (arg : BufferArg) (p : BufferPlacement) :
    Except Int (CommandChain × Builder) :=
  (buildBufferCmd env session userptr uuids pool arg p).bind fun c =>
    (addResponse env session c).map fun b => (c, b)

/-! ### Extended controls -/

/-- A `v4l2_ext_controls` with the controls its pointer leads to. -/
structure ExtCtrlsArg where
  ctrls : ExtControls
  array : List ExtControl
  count : array.length = ctrls.count.toNat
  deriving DecidableEq, Repr

structure ExtCtrlsPlacement where
  ctrls : Placement
  array : Placement

/-- `scatterlist_builder_add_ext_ctrls`. -/
def Builder.addExtCtrls (env : Env) (b : Builder) (arg : ExtCtrlsArg) (p : ExtCtrlsPlacement) :
    Except Int Builder :=
  (b.addData env ⟨extControls.enc arg.ctrls, p.ctrls⟩).bind fun b =>
    b.addData env ⟨arg.array.flatMap extControl.enc, p.array⟩

/-- The device-readable section of `virtio_media_send_ext_controls_ioctl`. -/
def buildExtCtrlsCmd (env : Env) (session : SessionData)
    (userptr : UInt64 → UInt32 → Except Int (List SgEntry)) (pool : List Desc)
    (arg : ExtCtrlsArg) (p : ExtCtrlsPlacement) : Except Int CommandChain :=
  ((Builder.init pool).addData env session.cmdData).bind fun b =>
    (b.addExtCtrls env arg p).bind fun payload =>
      (payload.addUserptrs env userptr (arg.array.map fun c => (c.value, c.size))).map fun b =>
        ⟨b, payload.sgs.length, b.sgs.length⟩

/-- The chain of `virtio_media_send_ext_controls_ioctl`. -/
def sendExtCtrlsChain (env : Env) (session : SessionData)
    (userptr : UInt64 → UInt32 → Except Int (List SgEntry)) (pool : List Desc)
    (arg : ExtCtrlsArg) (p : ExtCtrlsPlacement) : Except Int (CommandChain × Builder) :=
  (buildExtCtrlsCmd env session userptr pool arg p).bind fun c =>
    (addResponse env session c).map fun b => (c, b)

end VirtioMedia.Driver
