import VirtioMedia.Driver.BufferIoctls

/-!
# Host mappings held by the driver

The functions of `virtio_media_driver.c` that make the host map a buffer and
make it drop the mapping again: `virtio_media_device_mmap` and the operations
of its VMAs, `virtio_media_expbuf` and the release of an exported dma-buf.

What the functions get from outside is an input: the answer to each command,
the results of `kzalloc`, of `virtio_shm_export` and of `io_remap_pfn_range`.
The state is cut where `vlock` is free. A VMA is closed in two parts because
the last reference to its mapping is dropped before `vlock` is taken, and so
is an export, whose dma-buf loses its last reference first. `stop_queues` does
not take `vlock`; it only ever sets `disconnected`.
-/

namespace VirtioMedia.Driver

open V4l2

def etimedout : Int := 110

/-! ### Commands -/

/-- What becomes of a command that is put on the command queue. -/
inductive Answer where
  /-- `virtqueue_add_sgs` failed. -/
  | rejected (ret : Int)
  /-- No answer within five seconds. -/
  | timeout
  /-- The queues were stopped while waiting. -/
  | stopped
  | answered (status : UInt32) (respLen : Nat)
  deriving DecidableEq, Repr

/-- `virtio_media_kick_command`: its value, the length of the response, and
whether it stopped the queues. The status is negated as a `u32` and read as
an `int`. -/
def kickCommand : Answer → Int × Nat × Bool
  | .rejected ret => (ret, 0, false)
  | .timeout => (-etimedout, 0, true)
  | .stopped => (-enodev, 0, true)
  | .answered status respLen =>
    if respLen < 8 then (-einval, respLen, false)
    else (if status != 0 then (-status).toInt32.toInt else 0, respLen, false)

/-- `struct virtio_media_cmd_mmap` without its header. -/
structure MmapCmd where
  sessionId : UInt32
  flags : UInt32
  offset : UInt32
  deriving DecidableEq, Repr

/-- `VIRTIO_MEDIA_MMAP_FLAG_RW`. -/
def mmapFlagRw : UInt32 := 1

/-- `struct virtio_media_resp_mmap` without its header. -/
structure MmapResp where
  driverAddr : UInt64
  len : UInt64
  deriving DecidableEq, Repr

/-! ### State -/

/-- `struct virtio_media_mapping`; `backing` says whether it holds a dma-buf. -/
structure Mapping where
  refs : Nat
  offset : UInt64
  backing : Bool
  deriving DecidableEq, Repr

/-- `struct virtio_media_export`. `active` says whether the file of `dbuf`
still has a reference. -/
structure Export where
  sessionId : UInt32
  type : UInt32
  index : UInt32
  plane : UInt32
  flags : UInt32
  offset : UInt64
  active : Bool
  deriving DecidableEq, Repr

/-- `struct virtio_shm_region`. -/
structure ShmRegion where
  addr : UInt64
  len : UInt64
  deriving DecidableEq, Repr

/-- `struct virtio_media`, the fields that concern mappings. `live` are the
allocated mapping objects. `mmaps` are the MMAP commands that returned success
with the answer of the device, `munmaps` the addresses of the MUNMAP commands,
oldest first. -/
structure Device where
  mmapRegion : ShmRegion
  disconnected : Bool
  mappings : Nat
  exports : List Export
  live : List Mapping
  mmaps : List (MmapCmd × MmapResp)
  munmaps : List UInt64
  deriving DecidableEq, Repr

/-- The device as `virtio_media_probe` leaves it. -/
def Device.init (region : ShmRegion) : Device where
  mmapRegion := region
  disconnected := false
  mappings := 0
  exports := []
  live := []
  mmaps := []
  munmaps := []

/-- `virtio_media_stop_queues`. -/
def Device.stopQueues (vv : Device) : Device := { vv with disconnected := true }

/-- `virtio_media_send_command`. -/
def Device.sendCommand (vv : Device) (minimumRespLen : Nat) (a : Answer) : Int × Device :=
  if vv.disconnected then (-enodev, vv)
  else
    let (ret, respLen, stopped) := kickCommand a
    let vv := if stopped then vv.stopQueues else vv
    if ret < 0 then (ret, vv)
    else if respLen < minimumRespLen then (-einval, vv)
    else (0, vv)

/-- Sending `VIRTIO_MEDIA_CMD_MMAP`. -/
def Device.sendMmap (vv : Device) (cmd : MmapCmd) (a : Answer) (resp : MmapResp) :
    Int × Device :=
  let (ret, vv) := vv.sendCommand 24 a
  if ret == 0 then (0, { vv with mmaps := vv.mmaps ++ [(cmd, resp)] }) else (ret, vv)

/-- `virtio_media_munmap_locked`. A failure of the command is only logged. -/
def Device.munmapLocked (vv : Device) (driverAddr : UInt64) (a : Answer) : Device :=
  if vv.disconnected then vv
  else ({ vv with munmaps := vv.munmaps ++ [driverAddr] }.sendCommand 8 a).2

/-! ### Ranges -/

/-- `PAGE_SIZE`. -/
def pageBytes : UInt64 := 4096

/-- `PAGE_ALIGN`. -/
def pageAlign (n : UInt64) : UInt64 := (n + (pageBytes - 1)) &&& ~~~(pageBytes - 1)

def u64Max : UInt64 := 0xffffffffffffffff

/-- The part of the check of a returned range that MMAP and EXPBUF share. -/
def ShmRegion.excludes (r : ShmRegion) (resp : MmapResp) : Bool :=
  resp.driverAddr % pageBytes != 0 || resp.driverAddr > r.len ||
    resp.len > r.len - resp.driverAddr || resp.len > u64Max - (pageBytes - 1) ||
    pageAlign resp.len > r.len - resp.driverAddr

/-! ### MMAP and the operations of a VMA -/

/-- `struct vm_area_struct`, as far as it is read: `vm_flags`, the bounds and
`vm_pgoff`. -/
structure Vma where
  shared : Bool
  read : Bool
  write : Bool
  vmStart : UInt64
  vmEnd : UInt64
  vmPgoff : UInt64
  deriving DecidableEq, Repr

/-- What `virtio_media_device_mmap` gets from outside. -/
structure MmapEnv where
  answer : Answer
  resp : MmapResp
  kzallocOk : Bool
  /-- `virtio_shm_export`: success, or an error number. -/
  backing : Except Int Unit
  remapPfnRange : Int
  munmapAnswer : Answer

/-- The optional backing of a mapping: whether it holds a dma-buf. Only an
unsupported export is tolerated. -/
def MmapEnv.takeBacking (env : MmapEnv) (shmExport : Bool) : Except Int Bool :=
  if shmExport then
    match env.backing with
    | .ok () => .ok true
    | .error e => if e == -eopnotsupp then .ok false else .error e
  else .ok false

/-- The command `virtio_media_device_mmap` sends. -/
def Vma.mmapCmd (vma : Vma) (sessionId : UInt32) : MmapCmd where
  sessionId := sessionId
  flags := if vma.write then mmapFlagRw else 0
  offset := (vma.vmPgoff <<< 12).toUInt32

/-- `virtio_media_device_mmap` from the answer to a successful MMAP command on.
`shmExport` is `VIRTIO_MEDIA_SHM_EXPORT`. -/
def mapAnswer (shmExport : Bool) (vv : Device) (vma : Vma) (env : MmapEnv) : Int × Device :=
  if env.resp.len == 0 || vv.mmapRegion.excludes env.resp ||
      vv.mmapRegion.addr > u64Max - env.resp.driverAddr then
    (-einval, vv.munmapLocked env.resp.driverAddr env.munmapAnswer)
  else if vma.vmEnd - vma.vmStart > pageAlign env.resp.len then
    (-einval, vv.munmapLocked env.resp.driverAddr env.munmapAnswer)
  else if !env.kzallocOk then
    (-enomem, vv.munmapLocked env.resp.driverAddr env.munmapAnswer)
  else
    match env.takeBacking shmExport with
    | .error e => (e, vv.munmapLocked env.resp.driverAddr env.munmapAnswer)
    | .ok backing =>
      if env.remapPfnRange != 0 then
        (env.remapPfnRange, vv.munmapLocked env.resp.driverAddr env.munmapAnswer)
      else
        (0, { vv with
          live := vv.live ++ [⟨1, env.resp.driverAddr, backing⟩]
          mappings := vv.mappings + 1 })

/-- `virtio_media_device_mmap`. -/
def deviceMmap (shmExport : Bool) (vv : Device) (sessionId : UInt32) (vma : Vma)
    (env : MmapEnv) : Int × Device :=
  if !vma.shared then (-einval, vv)
  else if !(vma.read || vma.write) then (-einval, vv)
  else if vv.mmapRegion.len == 0 then (-eopnotsupp, vv)
  else
    let (ret, vv) := vv.sendMmap (vma.mmapCmd sessionId) env.answer env.resp
    if ret < 0 then (ret, vv) else mapAnswer shmExport vv vma env

/-- `REFCOUNT_SATURATED`. -/
def refcountSaturated : Nat := 0xc0000000

/-- `refcount_inc`. -/
def refcountInc (refs : Nat) : Nat :=
  if refs = 0 ∨ 2 ^ 31 - 1 ≤ refs then refcountSaturated else refs + 1

/-- `refcount_dec_and_test`: whether the last reference is gone, and the
counter. -/
def refcountDecAndTest (refs : Nat) : Bool × Nat :=
  if refs = 1 then (true, 0)
  else if refs = 0 ∨ 2 ^ 31 ≤ refs then (false, refcountSaturated)
  else (false, refs - 1)

/-- `virtio_media_vma_open` on a VMA of the mapping at a position of `live`. -/
def vmaOpen (vv : Device) (i : Nat) : Option Device := do
  let m ← vv.live[i]?
  if m.refs = 0 then none
  else some { vv with live := vv.live.set i { m with refs := refcountInc m.refs } }

/-- `virtio_media_vma_close` up to `mutex_lock`. -/
def vmaClose (vv : Device) (i : Nat) : Option Device := do
  let m ← vv.live[i]?
  if m.refs = 0 then none
  else some { vv with live := vv.live.set i { m with refs := (refcountDecAndTest m.refs).2 } }

/-- `virtio_media_vma_close` from `mutex_lock` on, for a mapping whose last
reference has been dropped. -/
def vmaCloseLocked (vv : Device) (i : Nat) (a : Answer) : Option Device := do
  let m ← vv.live[i]?
  if m.refs ≠ 0 then none
  else
    let vv := { vv with mappings := vv.mappings - 1, live := vv.live.eraseIdx i }
    some (if vv.disconnected then vv else vv.munmapLocked m.offset a)

/-! ### EXPBUF and the release of an export -/

/-- `struct v4l2_exportbuffer`. -/
structure ExportBuffer where
  type : UInt32
  index : UInt32
  plane : UInt32
  flags : UInt32
  fd : Int
  deriving DecidableEq, Repr

def oAccmode : UInt32 := 3
def oCloexec : UInt32 := 0x80000

/-- What `virtio_media_expbuf` gets from outside. `queryRet` and `queryReply`
are the answer to the QUERYBUF it makes, and `queryPlanes i` is what the driver
then reads as `planes[i]`. The array has `VIDEO_MAX_PLANES` elements; for a
larger index it is whatever lies there on the stack. -/
structure ExpbufEnv where
  unusedFd : Int
  queryRet : Int
  queryReply : V4l2Buffer
  queryPlanes : Nat → V4l2Plane
  answer : Answer
  resp : MmapResp
  kzallocOk : Bool
  shmExport : Except Int Unit
  munmapAnswer : Answer

/-- The checks made before anything is allocated. -/
def ExportBuffer.invalid (s : Session) (b : ExportBuffer) : Bool :=
  hasFlag b.flags (~~~(oCloexec ||| oAccmode)) || b.flags &&& oAccmode == oAccmode ||
    !typeIsCapture b.type ||
    match queueIndex b.type with
    | none => true
    | some t => b.index.toNat ≥ (s.queues t).buffers.length

/-- The export is of the same plane, by the same session, with the same access
mode, and its file can still be taken. -/
def Export.serves (sessionId : UInt32) (b : ExportBuffer) (e : Export) : Bool :=
  e.sessionId == sessionId && e.type == b.type && e.index == b.index && e.plane == b.plane &&
    e.flags == b.flags &&& oAccmode && e.active

/-- The offset and the length of the plane, from the reply to QUERYBUF, whose
length is all that bounds the index of the plane. -/
def ExpbufEnv.plane (env : ExpbufEnv) (b : ExportBuffer) (query : V4l2Buffer) :
    Option (UInt32 × UInt64) :=
  if query.memory != memoryMmap then none
  else if typeIsMultiplanar b.type then
    if b.plane ≥ query.length then none
    else
      let p := env.queryPlanes b.plane.toNat
      some (p.m.toUInt32, p.length.toUInt64)
  else if b.plane ≥ 1 then none
  else some (query.m.toUInt32, query.length.toUInt64)

/-- The command `virtio_media_expbuf` sends. -/
def ExportBuffer.mmapCmd (b : ExportBuffer) (sessionId : UInt32) (offset : UInt32) : MmapCmd where
  sessionId := sessionId
  flags := if b.flags &&& oAccmode != 0 then mmapFlagRw else 0
  offset := offset

/-- `virtio_media_expbuf` from the answer to a successful MMAP command on:
its value, the request with the descriptor if one is installed, the state. -/
def exportAnswer (vv : Device) (sessionId : UInt32) (b : ExportBuffer) (length : UInt64)
    (env : ExpbufEnv) : Int × ExportBuffer × Device :=
  if length == 0 || length > env.resp.len || vv.mmapRegion.excludes env.resp then
    (-einval, b, vv.munmapLocked env.resp.driverAddr env.munmapAnswer)
  else if !env.kzallocOk then
    (-enomem, b, vv.munmapLocked env.resp.driverAddr env.munmapAnswer)
  else
    match env.shmExport with
    | .error e => (e, b, vv.munmapLocked env.resp.driverAddr env.munmapAnswer)
    | .ok () =>
      (0, { b with fd := env.unusedFd }, { vv with
        exports := vv.exports ++ [{
          sessionId := sessionId
          type := b.type
          index := b.index
          plane := b.plane
          flags := b.flags &&& oAccmode
          offset := env.resp.driverAddr
          active := true }] })

/-- `virtio_media_expbuf` without an export to reuse: QUERYBUF, then MMAP. -/
def expbufNew (vv : Device) (sessionId : UInt32) (s : Session) (b : ExportBuffer)
    (env : ExpbufEnv) : Int × ExportBuffer × Device :=
  let (ret, query) := querybuf s env.queryRet env.queryReply
  if ret != 0 then (ret, b, vv)
  else
    match env.plane b query with
    | none => (-einval, b, vv)
    | some (offset, length) =>
      let (ret, vv) := vv.sendMmap (b.mmapCmd sessionId offset) env.answer env.resp
      if ret != 0 then (ret, b, vv) else exportAnswer vv sessionId b length env

/-- `virtio_media_expbuf`, called by the ioctl dispatcher with `vlock` held. -/
def expbuf (shmExport : Bool) (vv : Device) (sessionId : UInt32) (s : Session)
    (b : ExportBuffer) (env : ExpbufEnv) : Int × ExportBuffer × Device :=
  if !shmExport then (-eopnotsupp, b, vv)
  else if b.invalid s then (-einval, b, vv)
  else if env.unusedFd < 0 then (env.unusedFd, b, vv)
  else if vv.exports.any (Export.serves sessionId b) then
    (0, { b with fd := env.unusedFd }, vv)
  else expbufNew vv sessionId s b env

/-- The last reference to the file of an exported dma-buf is dropped. -/
def exportPut (vv : Device) (i : Nat) : Option Device := do
  let e ← vv.exports[i]?
  if e.active then some { vv with exports := vv.exports.set i { e with active := false } }
  else none

/-- `virtio_media_export_release`. -/
def exportRelease (vv : Device) (i : Nat) (a : Answer) : Option Device := do
  let e ← vv.exports[i]?
  if e.active then none
  else
    let vv := { vv with exports := vv.exports.eraseIdx i }
    some (if vv.disconnected then vv else vv.munmapLocked e.offset a)

/-! ### Runs -/

/-- What happens between two moments at which `vlock` is free. -/
inductive MapAct where
  | mmap (sessionId : UInt32) (vma : Vma) (env : MmapEnv)
  | vmaOpen (i : Nat)
  | vmaClose (i : Nat)
  | vmaCloseLocked (i : Nat) (a : Answer)
  | expbuf (sessionId : UInt32) (s : Session) (b : ExportBuffer) (env : ExpbufEnv)
  | exportPut (i : Nat)
  | exportRelease (i : Nat) (a : Answer)
  | stopQueues

def Device.step (shmExport : Bool) (vv : Device) : MapAct → Option Device
  | .mmap sessionId vma env => some (deviceMmap shmExport vv sessionId vma env).2
  | .vmaOpen i => Driver.vmaOpen vv i
  | .vmaClose i => Driver.vmaClose vv i
  | .vmaCloseLocked i a => Driver.vmaCloseLocked vv i a
  | .expbuf sessionId s b env => some (Driver.expbuf shmExport vv sessionId s b env).2.2
  | .exportPut i => Driver.exportPut vv i
  | .exportRelease i a => Driver.exportRelease vv i a
  | .stopQueues => some vv.stopQueues

end VirtioMedia.Driver
