import VirtioMedia.Device.MmapRefcount
import VirtioMedia.Device.V4l2r

/-!
# MMAP buffers of the V4L2 proxy device

The part of `device/src/devices/v4l2_device_proxy.rs` that records the MMAP
planes of the host device and maps them into the guest, together with the
sessions of `VirtioMediaDeviceRunner`. The host driver is outside the
repository: each session carries the buffers its host device has allocated,
and what the driver answers to REQBUFS, CREATE_BUFS, QUERYBUF and EXPBUF is an
input. QUERYBUF of an index answers a `v4l2_buffer` with any index in it.
`mem` names the memory of a plane; it is what the descriptor exported for it
refers to.

A panic of the host program is `none`.
-/

namespace VirtioMedia.Device

open V4l2

/-- `VIRTIO_MEDIA_MMAP_FLAG_RW`. -/
def mmapFlagRw : UInt32 := 1

/-- A plane as QUERYBUF reports it. -/
structure HostPlane where
  memOffset : UInt32
  length : UInt32
  mem : Nat
  deriving DecidableEq, Repr

/-- A buffer of the host device as QUERYBUF reports it. `index` is the index in
the reply, whichever was asked for. A `v4l2_buffer` has room for
`VIDEO_MAX_PLANES` planes. -/
structure HostBuffer where
  index : UInt32
  isMmap : Bool
  planes : List HostPlane
  bound : planes.length ≤ videoMaxPlanes
  deriving DecidableEq, Repr

/-- The planes with MMAP backing. -/
def HostBuffer.mmapPlanes (b : HostBuffer) : List HostPlane := if b.isMmap then b.planes else []

/-- `V4l2Session`, with the buffers of its host device by their index. -/
structure V4l2Session where
  device : QueueType → List (Option HostBuffer)
  captureQueueType : Option QueueType
  outputQueueType : Option QueueType
  captureStreaming : Bool
  captureNumQueued : Nat
  outputStreaming : Bool
  outputNumQueued : Nat

def V4l2Session.new : V4l2Session := ⟨fun _ => [], none, none, false, 0, false, 0⟩

/-- The buffer of the session at an index. -/
def V4l2Session.buffer (s : V4l2Session) (queue : QueueType) (index : Nat) :
    Option HostBuffer :=
  (s.device queue)[index]?.join

/-- The MMAP plane of a buffer of the session. -/
def V4l2Session.plane (s : V4l2Session) (queue : QueueType) (index plane : Nat) :
    Option HostPlane :=
  (s.buffer queue index).bind fun b => b.mmapPlanes[plane]?

/-- `V4l2MmapPlaneInfo`, with the offset it is stored under. -/
structure MmapPlaneInfo where
  offset : UInt32
  sessionId : UInt32
  queue : QueueType
  index : UInt8
  plane : UInt8
  mapAddress : UInt64
  active : Bool
  deriving DecidableEq, Repr

def MmapPlaneInfo.key (p : MmapPlaneInfo) : Nat := p.offset.toNat

/-- `V4l2ProxyDevice`; the mapping manager comes with its log. -/
structure ProxyDevice where
  mmapBuffers : SortedMap MmapPlaneInfo.key
  mmap : Tracked

def ProxyDevice.new : ProxyDevice := ⟨.empty, .init⟩

/-- A plane reported for a new buffer: the index that was asked for, the index
in the reply and the index of the plane. -/
structure Reported where
  asked : Nat
  index : UInt32
  plane : Nat
  host : HostPlane
  deriving DecidableEq, Repr

namespace ProxyDevice

/-- Mark the selected planes inactive, unregister them and drop them. -/
def deactivate (d : ProxyDevice) (gone : MmapPlaneInfo → Bool) : ProxyDevice where
  mmapBuffers := (d.mmapBuffers.mapEntries
    (fun p => { p with active := p.active && !gone p }) fun _ => rfl).retain (·.active)
  mmap := { d.mmap with
    manager := d.mmap.manager.unregisterAll
      ((d.mmapBuffers.entries.filter gone).map (·.offset)) }

/-- `delete_session`. -/
def deleteSession (d : ProxyDevice) (sessionId : UInt32) : ProxyDevice :=
  d.deactivate fun p => p.sessionId == sessionId

/-- The planes that `update_mmap_offsets` forgets. -/
def deallocated (sessionId : UInt32) (queue : QueueType) (start count : Nat)
    (p : MmapPlaneInfo) : Bool :=
  p.sessionId == sessionId && p.queue == queue && (count == 0 || decide (start ≤ p.index.toNat))

/-- What QUERYBUF reports for the buffers of the range `start..start + count`. -/
def reportedPlanes (start count : Nat) (query : Nat → Option HostBuffer) : List Reported :=
  (List.range' start count).flatMap fun i =>
    match query i with
    | none => []
    | some b => b.mmapPlanes.mapIdx fun j p => ⟨i, b.index, j, p⟩

/-- Register one plane and record it. The registration is unwrapped. -/
def registerPlane (sessionId : UInt32) (queue : QueueType) (d : ProxyDevice) (r : Reported) :
    Option ProxyDevice :=
  match d.mmap.manager.registerBuffer false (some r.host.memOffset) r.host.length with
  | some (.ok _, m) => some
    { mmapBuffers := d.mmapBuffers.insert
        ⟨r.host.memOffset, sessionId, queue, r.index.toUInt8, .ofNat r.plane, 0, true⟩
      mmap := { d.mmap with manager := m } }
  | _ => none

/-- The registration loop. -/
def registerPlanes (sessionId : UInt32) (queue : QueueType) :
    ProxyDevice → List Reported → Option ProxyDevice
  | d, [] => some d
  | d, r :: rest => (d.registerPlane sessionId queue r).bind fun d =>
      registerPlanes sessionId queue d rest

/-- `update_mmap_offsets`, but for the queue types remembered in the session. -/
def updateMmapOffsets (d : ProxyDevice) (sessionId : UInt32) (queue : QueueType)
    (start count : Nat) (query : Nat → Option HostBuffer) : Option ProxyDevice :=
  registerPlanes sessionId queue (d.deactivate (deallocated sessionId queue start count))
    (reportedPlanes start count query)

/-- `do_mmap`. `exported` is what EXPBUF answers on the caller's device for a
queue, a buffer index and a plane index. -/
def doMmap (d : ProxyDevice) (exported : QueueType → Nat → Nat → Except Int Nat)
    (flags offset : UInt32) (answer : Except Int UInt64) :
    Except Int (UInt64 × UInt64) × ProxyDevice :=
  let rw := flags &&& mmapFlagRw != 0
  match d.mmapBuffers.get? offset.toNat with
  | none => (.error einval, d)
  | some info =>
    match exported info.queue info.index.toNat info.plane.toNat with
    | .error e => (.error e, d)
    | .ok fd =>
      let r := d.mmap.create offset fd rw answer
      match r.1 with
      | .error _ => (.error einval, { d with mmap := r.2 })
      | .ok (addr, size) =>
        (.ok (addr, size),
          { mmapBuffers := d.mmapBuffers.insert { info with mapAddress := addr }, mmap := r.2 })

/-- `do_munmap`. -/
def doMunmap (d : ProxyDevice) (guestAddr : UInt64) : Except Int Unit × ProxyDevice :=
  let r := d.mmap.remove guestAddr
  (match r.1 with
    | .ok _ => .ok ()
    | .error _ => .error einval, { d with mmap := r.2 })

end ProxyDevice

/-! ### Sessions and commands -/

/-- The device and its open sessions. -/
structure Proxy where
  device : ProxyDevice
  sessions : UInt32 → Option V4l2Session

def Proxy.init : Proxy := ⟨.new, fun _ => none⟩

/-- `update_mmap_offsets` remembers the type of the queue it allocated on. -/
def V4l2Session.rememberQueue (s : V4l2Session) (queue : QueueType) : V4l2Session :=
  match queue with
  | .videoCapture | .videoCaptureMplane => { s with captureQueueType := some queue }
  | .videoOutput | .videoOutputMplane => { s with outputQueueType := some queue }
  | _ => s

/-- REQBUFS(0) is an implicit STREAMOFF. -/
def V4l2Session.implicitStreamoff (s : V4l2Session) (queue : QueueType) (count : UInt32) :
    V4l2Session :=
  if count = 0 then
    match queue with
    | .videoCapture | .videoCaptureMplane =>
      { s with captureStreaming := false, captureNumQueued := 0 }
    | .videoOutput | .videoOutputMplane =>
      { s with outputStreaming := false, outputNumQueued := 0 }
    | _ => s
  else s

def V4l2Session.setBuffers (s : V4l2Session) (queue : QueueType)
    (bufs : List (Option HostBuffer)) : V4l2Session :=
  { s with device := fun q => if q = queue then bufs else s.device q }

/-- The buffers of the queue after the host added `bufs` from an index on. -/
def V4l2Session.addedBuffers (s : V4l2Session) (queue : QueueType) (index : Nat)
    (bufs : List HostBuffer) : List (Option HostBuffer) :=
  (List.range index).map (s.buffer queue) ++ bufs.map some ++
    (s.device queue).drop (index + bufs.length)

/-- QUERYBUF on the session's device; the host may refuse an index. -/
def V4l2Session.query (s : V4l2Session) (queue : QueueType) (refused : Nat → Bool) (i : Nat) :
    Option HostBuffer :=
  if refused i then none else s.buffer queue i

/-- EXPBUF on the session's device; the host may refuse to export. -/
def V4l2Session.expbuf (s : V4l2Session) (refusal : Option Int) (queue : QueueType)
    (index plane : Nat) : Except Int Nat :=
  match refusal, s.plane queue index plane with
  | some e, _ => .error e
  | none, none => .error einval
  | none, some p => .ok p.mem

/-- The fields of the `v4l2_create_buffers` of the host's reply that the
handler uses. -/
structure CreateBufsReply where
  index : UInt32
  count : UInt32
  deriving DecidableEq, Repr

/-- The end of the range of the new buffers. A build with overflow checks
panics where the sum does not fit. -/
def CreateBufsReply.stop (r : CreateBufsReply) : Nat := (r.index + r.count).toNat

/-- A command of the guest, with the answers of the host driver and of the
mapper. REQBUFS carries the count of the reply and the buffers that the host
then has, CREATE_BUFS the count that was asked for, the reply and the buffers
that the host added. A REQBUFS that fails may have freed the old buffers. -/
inductive ProxyCmd where
  | openSession (sessionId : UInt32)
  | closeSession (sessionId : UInt32)
  | reqbufs (sessionId : UInt32) (queue : QueueType) (count : UInt32) (bufs : List HostBuffer)
      (refused : Nat → Bool)
  | reqbufsFails (sessionId : UInt32) (queue : QueueType) (freed : Bool)
  | createBufs (sessionId : UInt32) (queue : QueueType) (count : UInt32)
      (reply : CreateBufsReply) (bufs : List HostBuffer) (refused : Nat → Bool)
  | mmap (sessionId : UInt32) (flags offset : UInt32) (refusal : Option Int)
      (answer : Except Int UInt64)
  | munmap (guestAddr : UInt64)

def Proxy.setSession (s : Proxy) (sessionId : UInt32) (v : Option V4l2Session) : Proxy :=
  { s with sessions := fun i => if i = sessionId then v else s.sessions i }

/-- `reqbufs` of the handler, for a host that allocated `bufs`. -/
def Proxy.reqbufs (s : Proxy) (sessionId : UInt32) (session : V4l2Session) (queue : QueueType)
    (count : UInt32) (bufs : List HostBuffer) (refused : Nat → Bool) : Option Proxy :=
  let session := session.setBuffers queue (bufs.map some)
  (s.device.updateMmapOffsets sessionId queue 0 count.toNat (session.query queue refused)).map
    fun d => { s with device := d }.setSession sessionId
      (some ((session.rememberQueue queue).implicitStreamoff queue count))

/-- `create_bufs` of the handler, for a host that added `bufs`. -/
def Proxy.createBufs (s : Proxy) (sessionId : UInt32) (session : V4l2Session)
    (queue : QueueType) (count : UInt32) (reply : CreateBufsReply) (bufs : List HostBuffer)
    (refused : Nat → Bool) : Option Proxy :=
  if count = 0 then some s
  else
    let start := reply.index.toNat
    let session := session.setBuffers queue (session.addedBuffers queue start bufs)
    (s.device.updateMmapOffsets sessionId queue start (reply.stop - start)
      (session.query queue refused)).map fun d =>
        { s with device := d }.setSession sessionId (some (session.rememberQueue queue))

/-- `handle_command`. A command for a session that is not open is answered
with an error. -/
def Proxy.step (s : Proxy) : ProxyCmd → Option Proxy
  | .openSession sessionId =>
    match s.sessions sessionId with
    | some _ => some s
    | none => some (s.setSession sessionId (some .new))
  | .closeSession sessionId =>
    match s.sessions sessionId with
    | none => some s
    | some _ =>
      some ({ s with device := s.device.deleteSession sessionId }.setSession sessionId none)
  | .reqbufs sessionId queue count bufs refused =>
    match s.sessions sessionId with
    | none => some s
    | some session => s.reqbufs sessionId session queue count bufs refused
  | .reqbufsFails sessionId queue freed =>
    match s.sessions sessionId with
    | none => some s
    | some session =>
      some (if freed then s.setSession sessionId (some (session.setBuffers queue [])) else s)
  | .createBufs sessionId queue count reply bufs refused =>
    match s.sessions sessionId with
    | none => some s
    | some session => s.createBufs sessionId session queue count reply bufs refused
  | .mmap sessionId flags offset refusal answer =>
    match s.sessions sessionId with
    | none => some s
    | some session =>
      some { s with device := (s.device.doMmap (session.expbuf refusal) flags offset answer).2 }
  | .munmap guestAddr => some { s with device := (s.device.doMunmap guestAddr).2 }

/-- What a command does, if it finds its session. -/
inductive Proxy.Moves (s : Proxy) : ProxyCmd → Proxy → Prop where
  | same {a : ProxyCmd} : s.Moves a s
  | openSession {sessionId : UInt32} (hclosed : s.sessions sessionId = none) :
    s.Moves (.openSession sessionId) (s.setSession sessionId (some .new))
  | closeSession {sessionId : UInt32} : s.Moves (.closeSession sessionId)
      ({ s with device := s.device.deleteSession sessionId }.setSession sessionId none)
  | reqbufs {sessionId : UInt32} {session : V4l2Session} {queue : QueueType} {count : UInt32}
      {bufs : List HostBuffer} {refused : Nat → Bool} {d : ProxyDevice}
      (hsession : s.sessions sessionId = some session)
      (hd : s.device.updateMmapOffsets sessionId queue 0 count.toNat
        ((session.setBuffers queue (bufs.map some)).query queue refused) = some d) :
    s.Moves (.reqbufs sessionId queue count bufs refused)
      ({ s with device := d }.setSession sessionId (some (((session.setBuffers queue
        (bufs.map some)).rememberQueue queue).implicitStreamoff queue count)))
  | reqbufsFails {sessionId : UInt32} {session : V4l2Session} {queue : QueueType}
      (hsession : s.sessions sessionId = some session) :
    s.Moves (.reqbufsFails sessionId queue true)
      (s.setSession sessionId (some (session.setBuffers queue [])))
  | createBufs {sessionId : UInt32} {session : V4l2Session} {queue : QueueType}
      {count : UInt32} {reply : CreateBufsReply} {bufs : List HostBuffer}
      {refused : Nat → Bool} {d : ProxyDevice}
      (hsession : s.sessions sessionId = some session) (hcount : count ≠ 0)
      (hd : s.device.updateMmapOffsets sessionId queue reply.index.toNat
        (reply.stop - reply.index.toNat) ((session.setBuffers queue
          (session.addedBuffers queue reply.index.toNat bufs)).query queue refused) = some d) :
    s.Moves (.createBufs sessionId queue count reply bufs refused)
      ({ s with device := d }.setSession sessionId (some ((session.setBuffers queue
        (session.addedBuffers queue reply.index.toNat bufs)).rememberQueue queue)))
  | mmap {sessionId : UInt32} {session : V4l2Session} {flags offset : UInt32}
      {refusal : Option Int} {answer : Except Int UInt64}
      (hsession : s.sessions sessionId = some session) :
    s.Moves (.mmap sessionId flags offset refusal answer)
      { s with device := (s.device.doMmap (session.expbuf refusal) flags offset answer).2 }
  | munmap {guestAddr : UInt64} :
    s.Moves (.munmap guestAddr) { s with device := (s.device.doMunmap guestAddr).2 }

theorem Proxy.step_moves {s s' : Proxy} {a : ProxyCmd} (h : s.step a = some s') : s.Moves a s' := by
  cases a with
  | openSession sessionId =>
      simp only [Proxy.step] at h
      cases hsession : s.sessions sessionId <;> rw [hsession] at h <;> cases h
      · exact .openSession hsession
      · exact .same
  | closeSession sessionId =>
      simp only [Proxy.step] at h
      cases hsession : s.sessions sessionId <;> rw [hsession] at h <;> cases h
      · exact .same
      · exact .closeSession
  | reqbufs sessionId queue count bufs refused =>
      simp only [Proxy.step] at h
      cases hsession : s.sessions sessionId <;> rw [hsession] at h
      · cases h
        exact .same
      · obtain ⟨d, hd, rfl⟩ := Option.map_eq_some_iff.mp h
        exact .reqbufs hsession hd
  | reqbufsFails sessionId queue freed =>
      simp only [Proxy.step] at h
      cases hsession : s.sessions sessionId <;> rw [hsession] at h <;> cases h
      · exact .same
      · cases freed
        · exact .same
        · exact .reqbufsFails hsession
  | createBufs sessionId queue count reply bufs refused =>
      simp only [Proxy.step] at h
      cases hsession : s.sessions sessionId <;> rw [hsession] at h
      · cases h
        exact .same
      · simp only [Proxy.createBufs] at h
        split_ifs at h with hcount
        · cases h
          exact .same
        · obtain ⟨d, hd, rfl⟩ := Option.map_eq_some_iff.mp h
          exact .createBufs hsession hcount hd
  | mmap sessionId flags offset refusal answer =>
      simp only [Proxy.step] at h
      cases hsession : s.sessions sessionId <;> rw [hsession] at h <;> cases h
      · exact .same
      · exact .mmap hsession
  | munmap guestAddr =>
      cases h
      exact .munmap

end VirtioMedia.Device
