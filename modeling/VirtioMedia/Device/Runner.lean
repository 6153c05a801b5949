import VirtioMedia.Device.Ioctl
import VirtioMedia.Lib.Trace

/-!
# The device runner

`VirtioMediaDeviceRunner` of `device/src/lib.rs`. The device, the poller and
the writer are traits: they are a record of functions over their own states,
and nothing is assumed of them. A command is a device-readable byte string
with the state of its writer.

Every session that `new_session` returns is numbered. The numbers, the numbers
passed to `close_session` and the session IDs that the guest holds are ghosts
kept in a ledger.
-/

namespace VirtioMedia.Device

open V4l2

/-- `VirtioMediaDevice`, `VirtioMediaDeviceSession`, `SessionPoller` and
`WriteToDescriptorChain`. The Boolean of a write is its success. -/
structure RunnerEnv (D S P W : Type) where
  newSession : D → UInt32 → Except Int S × D
  closeSession : D → S → D
  pollFd : S → Option Nat
  doIoctl : D → S → V4l2Ioctl → List UInt8 → W → Bool × D × S × W
  doMmap : D → S → UInt32 → UInt32 → Except Int (UInt64 × UInt64) × D × S
  doMunmap : D → UInt64 → Except Int Unit × D
  addSession : P → Nat → UInt32 → Except Int Unit × P
  removeSession : P → Nat → P
  write : W → List UInt8 → Bool × W

/-- A session and its number. -/
structure Owned (S : Type) where
  serial : Nat
  session : S

/-- What became of the sessions: how many were created, which of them were
passed to `close_session`, which IDs the guest was given and has not closed
since, and every ID given, with whether it was free at that time. -/
structure Ledger where
  created : Nat
  closed : List Nat
  live : UInt32 → Bool
  delivered : List (UInt32 × Bool)

structure Runner (D S P : Type) where
  device : D
  poller : P
  sessions : UInt32 → Option (Owned S)
  sessionIdCounter : UInt32
  ledger : Ledger

variable {D S P W : Type}

/-- `VirtioMediaDeviceRunner::new`. -/
def Runner.new (device : D) (poller : P) : Runner D S P where
  device := device
  poller := poller
  sessions := fun _ => none
  sessionIdCounter := 0
  ledger := ⟨0, [], fun _ => false, []⟩

/-! ### Commands and responses -/

def cmdOpen : UInt32 := 1
def cmdClose : UInt32 := 2
def cmdIoctl : UInt32 := 3
def cmdMmap : UInt32 := 4
def cmdMunmap : UInt32 := 5

/-- `CmdHeader`; `CloseCmd` and `IoctlCmd` have the same layout. -/
def cmdHeader : Codec (UInt32 × UInt32) := .pair .u32 .u32

def mmapCmd : Codec (UInt32 × UInt32 × UInt32) := .pair .u32 (.pair .u32 .u32)

/-- `OpenResp::ok`. -/
def openResp (id : UInt32) : List UInt8 :=
  respHeader 0 ++ Codec.u32.enc id ++ Codec.u32.enc 0

/-- `MmapResp::ok`. -/
def mmapResp (addr len : UInt64) : List UInt8 :=
  respHeader 0 ++ Codec.u64.enc addr ++ Codec.u64.enc len

/-- `V4l2Ioctl::n`. -/
def V4l2Ioctl.n (code : UInt32) : Option V4l2Ioctl :=
  ([(0, querycap), (2, enumFmt), (4, gFmt), (5, sFmt), (8, reqbufs), (9, querybuf),
    (10, gFbuf), (11, sFbuf), (14, overlay), (15, qbuf), (16, expbuf), (17, dqbuf),
    (18, streamon), (19, streamoff), (21, gParm), (22, sParm), (23, gStd), (24, sStd),
    (25, enumstd), (26, enuminput), (27, gCtrl), (28, sCtrl), (29, gTuner), (30, sTuner),
    (33, gAudio), (34, sAudio), (36, queryctrl), (37, querymenu), (38, gInput), (39, sInput),
    (40, gEdid), (41, sEdid), (46, gOutput), (47, sOutput), (48, enumoutput), (49, gAudout),
    (50, sAudout), (54, gModulator), (55, sModulator), (56, gFrequency), (57, sFrequency),
    (58, cropcap), (59, gCrop), (60, sCrop), (61, gJpegcomp), (62, sJpegcomp), (63, querystd),
    (64, tryFmt), (65, enumaudio), (66, enumaudout), (67, gPriority), (68, sPriority),
    (69, gSlicedVbiCap), (70, logStatus), (71, gExtCtrls), (72, sExtCtrls), (73, tryExtCtrls),
    (74, enumFramesizes), (75, enumFrameintervals), (76, gEncIndex), (77, encoderCmd),
    (78, tryEncoderCmd), (79, dbgSRegister), (80, dbgGRegister), (82, sHwFreqSeek),
    (87, sDvTimings), (88, gDvTimings), (89, dqevent), (90, subscribeEvent),
    (91, unsubscribeEvent), (92, createBufs), (93, prepareBuf), (94, gSelection),
    (95, sSelection), (96, decoderCmd), (97, tryDecoderCmd), (98, enumDvTimings),
    (99, queryDvTimings), (100, dvTimingsCap), (101, enumFreqBands), (102, dbgGChipInfo),
    (103, queryExtCtrl)] : List (UInt32 × V4l2Ioctl)).lookup code

/-! ### The arms of `handle_command` -/

namespace Runner

/-- `device.close_session`, which takes the session. -/
def closeOwned (env : RunnerEnv D S P W) (r : Runner D S P) (σ : Owned S) : Runner D S P :=
  { r with
    device := env.closeSession r.device σ.session
    ledger := { r.ledger with closed := σ.serial :: r.ledger.closed } }

/-- The new session is stored under its ID, the counter is advanced and the
response is written. `HashMap::insert` drops a session that had this ID. With
overflow checks the increment of the largest ID panics, else it wraps. -/
def storeSession (env : RunnerEnv D S P W) (overflowChecks : Bool) (r : Runner D S P)
    (σ : Owned S) (w : W) : Option (Bool × Runner D S P × W) :=
  let id := r.sessionIdCounter
  let free := (r.sessions id).isNone && !r.ledger.live id
  let r := { r with sessions := Function.update r.sessions id (some σ) }
  if overflowChecks && id.toNat == 2 ^ 32 - 1 then none
  else
    let (ok, w) := env.write w (openResp id)
    let r := { r with sessionIdCounter := id + 1 }
    some (ok,
      if ok then
        { r with ledger := { r.ledger with
          live := Function.update r.ledger.live id true
          delivered := (id, free) :: r.ledger.delivered } }
      else r,
      w)

def openArm (env : RunnerEnv D S P W) (overflowChecks : Bool) (r : Runner D S P) (w : W) :
    Option (Bool × Runner D S P × W) :=
  match env.newSession r.device r.sessionIdCounter with
  | (.error e, d) =>
    let (ok, w) := env.write w (respHeader e)
    some (ok, { r with device := d }, w)
  | (.ok session, d) =>
    let σ : Owned S := ⟨r.ledger.created, session⟩
    let r := { r with
      device := d
      ledger := { r.ledger with created := r.ledger.created + 1 } }
    match env.pollFd session with
    | some fd =>
      match env.addSession r.poller fd r.sessionIdCounter with
      | (.ok (), p) => storeSession env overflowChecks { r with poller := p } σ w
      | (.error e, p) =>
        let r := closeOwned env { r with poller := p } σ
        let (ok, w) := env.write w (respHeader e)
        some (ok, r, w)
    | none => storeSession env overflowChecks r σ w

/-- CLOSE of an ID. No response is written. -/
def closeArm (env : RunnerEnv D S P W) (r : Runner D S P) (id : UInt32) : Runner D S P :=
  let live := Function.update r.ledger.live id false
  match r.sessions id with
  | none => { r with ledger := { r.ledger with live := live } }
  | some σ =>
    let r := { r with
      sessions := Function.update r.sessions id none
      ledger := { r.ledger with live := live } }
    let r := match env.pollFd σ.session with
      | none => r
      | some fd => { r with poller := env.removeSession r.poller fd }
    closeOwned env r σ

/-- Keep what the device made of a session it was lent. -/
def putSession (r : Runner D S P) (id : UInt32) (σ : Owned S) (session : S) (d : D) :
    Runner D S P :=
  { r with
    device := d
    sessions := Function.update r.sessions id (some { σ with session := session }) }

def ioctlArm (env : RunnerEnv D S P W) (r : Runner D S P) (id code : UInt32)
    (input : List UInt8) (w : W) : Bool × Runner D S P × W :=
  match r.sessions id with
  | none =>
    let (ok, w) := env.write w (respHeader einval)
    (ok, r, w)
  | some σ =>
    match V4l2Ioctl.n code with
    | none =>
      let (ok, w) := env.write w (respHeader enotty)
      (ok, r, w)
    | some ioctl =>
      let (ok, d, session, w) := env.doIoctl r.device σ.session ioctl input w
      (ok, r.putSession id σ session d, w)

def mmapArm (env : RunnerEnv D S P W) (r : Runner D S P) (id flags offset : UInt32) (w : W) :
    Bool × Runner D S P × W :=
  match r.sessions id with
  | none =>
    let (ok, w) := env.write w (respHeader einval)
    (ok, r, w)
  | some σ =>
    let (res, d, session) := env.doMmap r.device σ.session flags offset
    let (ok, w) := env.write w (match res with
      | .ok (addr, len) => mmapResp addr len
      | .error e => respHeader e)
    (ok, r.putSession id σ session d, w)

def munmapArm (env : RunnerEnv D S P W) (r : Runner D S P) (addr : UInt64) (w : W) :
    Bool × Runner D S P × W :=
  let (res, d) := env.doMunmap r.device addr
  let (ok, w) := env.write w (match res with
    | .ok () => respHeader 0
    | .error e => respHeader e)
  (ok, { r with device := d }, w)

/-- The arm of a command, by its number. The Boolean is `false` if the payload
could not be read or a response could not be written. -/
def dispatch (env : RunnerEnv D S P W) (overflowChecks : Bool) (r : Runner D S P)
    (cmd : UInt32) (input : List UInt8) (w : W) : Option (Bool × Runner D S P × W) :=
  if cmd = cmdOpen then openArm env overflowChecks r w
  else if cmd = cmdClose then
    match cmdHeader.read input with
    | none => some (false, r, w)
    | some ((id, _), _) => some (true, closeArm env r id, w)
  else if cmd = cmdIoctl then
    match cmdHeader.read input with
    | none => some (false, r, w)
    | some ((id, code), rest) => some (ioctlArm env r id code rest w)
  else if cmd = cmdMmap then
    match mmapCmd.read input with
    | none => some (false, r, w)
    | some ((id, flags, offset), _) => some (mmapArm env r id flags offset w)
  else if cmd = cmdMunmap then
    match Codec.u64.read input with
    | none => some (false, r, w)
    | some (addr, _) => some (munmapArm env r addr w)
  else
    let (ok, w) := env.write w (respHeader enotty)
    some (ok, r, w)

/-- `handle_command`. An error is logged and answered with `EINVAL`. `none`
stands for a panic. -/
def handleCommand (env : RunnerEnv D S P W) (overflowChecks : Bool) (r : Runner D S P)
    (input : List UInt8) (w : W) : Option (Runner D S P × W) :=
  match cmdHeader.read input with
  | none => some (r, (env.write w (respHeader einval)).2)
  | some ((cmd, _), input) =>
    (dispatch env overflowChecks r cmd input w).map fun (ok, r, w) =>
      (r, if ok then w else (env.write w (respHeader einval)).2)

/-- One command of a run. -/
def step (env : RunnerEnv D S P W) (overflowChecks : Bool) (r : Runner D S P)
    (cmd : List UInt8 × W) : Option (Runner D S P) :=
  (r.handleCommand env overflowChecks cmd.1 cmd.2).map (·.1)

end Runner

end VirtioMedia.Device
