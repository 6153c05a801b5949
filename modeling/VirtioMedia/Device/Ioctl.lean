import VirtioMedia.Device.Chain

/-!
# The ioctl dispatcher

`virtio_media_dispatch_ioctl` of `device/src/ioctl.rs`, arm by arm, with the
helpers that read the input and write the response. A structure of the kernel
headers that the dispatcher only takes fields from is kept as its bytes.

The handler is any implementation of `VirtioMediaIoctlHandler`: a function
from a call and a state to an answer and a new state. The run of the
dispatcher records the calls it makes and the bytes it writes; `none` is a
panic. The writer is assumed to have room, so writing does not fail.
-/

namespace VirtioMedia.Device

open V4l2 Wire

/-! ### Structures as bytes -/

/-- A C structure of `n` bytes. -/
abbrev Raw (n : Nat) := Vector UInt8 n

namespace Raw

variable {n : Nat}

/-- The 32-bit field at an offset. -/
def u32At (r : Raw n) (offset : Nat) : UInt32 := Codec.u32.dec ((r.toList.drop offset).take 4)

def u8At (r : Raw n) (offset : Nat) : UInt8 := r.toList.getD offset 0

/-- The `len` bytes at an offset. -/
def slice (r : Raw n) (offset len : Nat) : Raw len :=
  Vector.ofFn fun i => r.toList.getD (offset + i) 0

/-- Replace the bytes at an offset. -/
def patch (r : Raw n) (offset : Nat) {m : Nat} (bytes : Raw m) : Raw n :=
  Vector.ofFn fun i =>
    if offset ≤ i.val ∧ i.val < offset + m then bytes.toList.getD (i.val - offset) 0
    else r.toList.getD i 0

end Raw

/-! ### The handler -/

/-- `V4l2Ioctl`. -/
inductive V4l2Ioctl where
  | querycap | enumFmt | gFmt | sFmt | reqbufs | querybuf | gFbuf | sFbuf | overlay | qbuf
  | expbuf | dqbuf | streamon | streamoff | gParm | sParm | gStd | sStd | enumstd | enuminput
  | gCtrl | sCtrl | gTuner | sTuner | gAudio | sAudio | queryctrl | querymenu | gInput | sInput
  | gEdid | sEdid | gOutput | sOutput | enumoutput | gAudout | sAudout | gModulator | sModulator
  | gFrequency | sFrequency | cropcap | gCrop | sCrop | gJpegcomp | sJpegcomp | querystd | tryFmt
  | enumaudio | enumaudout | gPriority | sPriority | gSlicedVbiCap | logStatus | gExtCtrls
  | sExtCtrls | tryExtCtrls | enumFramesizes | enumFrameintervals | gEncIndex | encoderCmd
  | tryEncoderCmd | dbgSRegister | dbgGRegister | sHwFreqSeek | sDvTimings | gDvTimings | dqevent
  | subscribeEvent | unsubscribeEvent | createBufs | prepareBuf | gSelection | sSelection
  | decoderCmd | tryDecoderCmd | enumDvTimings | queryDvTimings | dvTimingsCap | enumFreqBands
  | dbgGChipInfo | queryExtCtrl
  deriving DecidableEq, Repr

/-- The methods of the handler that return a structure of fixed size. -/
inductive HandlerCall where
  | enumFmt (queue : QueueType) (index : UInt32)
  | gFmt (queue : QueueType)
  | sFmt (queue : QueueType) (format : Raw 208)
  | reqbufs (queue : QueueType) (memory : MemoryType) (count : UInt32) (flags : UInt8)
  | streamon (queue : QueueType)
  | streamoff (queue : QueueType)
  | gParm (queue : QueueType)
  | sParm (parm : Raw 204)
  | gStd
  | sStd (std : Raw 8)
  | enumstd (index : UInt32)
  | enuminput (index : UInt32)
  | gCtrl (id : UInt32)
  | sCtrl (id value : UInt32)
  | gTuner (index : UInt32)
  | sTuner (index mode : UInt32)
  | gAudio
  | sAudio (index : UInt32) (mode : Option UInt32)
  | queryctrl (id flags : UInt32)
  | querymenu (id index : UInt32)
  | gInput
  | sInput (input : UInt32)
  | gOutput
  | sOutput (output : UInt32)
  | enumoutput (index : UInt32)
  | gAudout
  | sAudout (index : UInt32)
  | gModulator (index : UInt32)
  | sModulator (index flags : UInt32)
  | gFrequency (tuner : UInt32)
  | sFrequency (tuner type frequency : UInt32)
  | querystd
  | tryFmt (queue : QueueType) (format : Raw 208)
  | enumaudio (index : UInt32)
  | enumaudout (index : UInt32)
  | enumFramesizes (index pixelFormat : UInt32)
  | enumFrameintervals (index pixelFormat width height : UInt32)
  | gEncIndex
  | encoderCmd (cmd : Raw 40)
  | tryEncoderCmd (cmd : Raw 40)
  | sDvTimings (timings : Raw 132)
  | gDvTimings
  | subscribeEvent (type id flags : UInt32)
  | unsubscribeEvent (event : Raw 32)
  | createBufs (count : UInt32) (queue : QueueType) (memory : MemoryType) (format : Raw 208)
  | gSelection (type target : UInt32)
  | sSelection (type target : UInt32) (rect : Raw 16) (flags : UInt32)
  | decoderCmd (cmd : Raw 72)
  | tryDecoderCmd (cmd : Raw 72)
  | enumDvTimings (index : UInt32)
  | queryDvTimings
  | dvTimingsCap
  | enumFreqBands (tuner type index : UInt32)
  | queryExtCtrl (id flags : UInt32)
  deriving DecidableEq, Repr

/-- The size of what a method returns. -/
@[reducible] def HandlerCall.outSize : HandlerCall → Nat
  | .enumFmt .. => 64
  | .gFmt .. | .sFmt .. | .tryFmt .. => 208
  | .reqbufs .. => 20
  | .gParm .. | .sParm .. => 204
  | .gStd | .querystd => 8
  | .enumstd .. | .enumoutput .. => 72
  | .enuminput .. => 80
  | .gCtrl .. | .sCtrl .. => 8
  | .gTuner .. => 84
  | .gAudio | .enumaudio .. | .gAudout | .enumaudout .. => 52
  | .queryctrl .. | .gModulator .. => 68
  | .querymenu .. | .gFrequency .. | .enumFramesizes .. => 44
  | .gInput | .sInput .. | .gOutput | .sOutput .. => 4
  | .enumFrameintervals .. => 52
  | .gEncIndex => 2072
  | .encoderCmd .. | .tryEncoderCmd .. => 40
  | .sDvTimings .. | .gDvTimings | .enumDvTimings .. | .queryDvTimings => 132
  | .createBufs .. => 256
  | .gSelection .. | .sSelection .. => 16
  | .decoderCmd .. | .tryDecoderCmd .. => 72
  | .dvTimingsCap => 144
  | .enumFreqBands .. => 64
  | .queryExtCtrl .. => 232
  | .streamon .. | .streamoff .. | .sStd .. | .sTuner .. | .sAudio .. | .sAudout ..
  | .sModulator .. | .sFrequency .. | .subscribeEvent .. | .unsubscribeEvent .. => 0

/-- The methods that return a buffer. -/
inductive BufferCall where
  | querybuf (queue : QueueType) (index : UInt32)
  | qbuf (buffer : DeviceBuffer) (guestRegions : List (List SgEntry))
  | prepareBuf (buffer : DeviceBuffer) (guestRegions : List (List SgEntry))
  deriving DecidableEq, Repr

inductive ExtCtrlsMethod where
  | gExtCtrls
  | sExtCtrls
  | tryExtCtrls
  deriving DecidableEq, Repr

/-- The methods that change the controls in place. -/
structure ExtCtrlsCall where
  method : ExtCtrlsMethod
  ctrls : ExtControls
  array : List ExtControl
  userRegions : List (List SgEntry)
  deriving DecidableEq, Repr

inductive Call where
  | raw (c : HandlerCall)
  | buffer (c : BufferCall)
  | extCtrls (c : ExtCtrlsCall)
  deriving DecidableEq, Repr

/-- An implementation of `VirtioMediaIoctlHandler` on states of type `σ`. -/
structure Handler (σ : Type) where
  raw : (c : HandlerCall) → σ → Except Int (Raw c.outSize) × σ
  buffer : BufferCall → σ → Except Int DeviceBuffer × σ
  extCtrls : ExtCtrlsCall → σ → (Except Int Unit × ExtControls × List ExtControl) × σ

/-! ### The run of the dispatcher -/

/-- The state of the handler, the calls made on it and the bytes written. -/
structure Dispatch (σ : Type) where
  handler : σ
  calls : List Call
  written : List UInt8

abbrev DispatchM (σ : Type) := StateT (Dispatch σ) Option

/-- The body of an ioctl: it may return an error number. -/
abbrev Process (σ : Type) := ExceptT Int (DispatchM σ)

variable {σ I : Type}

def write (bs : List UInt8) : DispatchM σ Unit :=
  modify fun s => { s with written := s.written ++ bs }

/-- `RespHeader`: the error number, and padding. -/
def respHeader (errno : Int) : List UInt8 := Codec.u32.enc (UInt32.ofInt errno) ++ [0, 0, 0, 0]

def writeErrResponse (errno : Int) : DispatchM σ Unit := write (respHeader errno)

/-- `ok_or(EINVAL)?`. -/
def okOr {α : Type} : Option α → Process σ α
  | none => throw einval
  | some a => pure a

/-- A check of `v4l2r` whose failure is `EINVAL`. -/
def check (ok : Bool) : Process σ Unit := if ok then pure () else throw einval

/-- `unwrap`. -/
def unwrap (ok : Bool) : Process σ Unit := if ok then pure () else ExceptT.lift fun _ => none

def call (h : Handler σ) (c : HandlerCall) : Process σ (Raw c.outSize) := fun s =>
  let r := h.raw c s.handler
  some (r.1, { s with handler := r.2, calls := s.calls ++ [.raw c] })

def callBuffer (h : Handler σ) (c : BufferCall) : Process σ DeviceBuffer := fun s =>
  let r := h.buffer c s.handler
  some (r.1, { s with handler := r.2, calls := s.calls ++ [.buffer c] })

def callExtCtrls (h : Handler σ) (c : ExtCtrlsCall) :
    DispatchM σ (Except Int Unit × ExtControls × List ExtControl) := fun s =>
  let r := h.extCtrls c s.handler
  some (r.1, { s with handler := r.2, calls := s.calls ++ [.extCtrls c] })

/-! ### The helpers -/

/-- `invalid_ioctl`. -/
def invalidIoctl : DispatchM σ Unit := writeErrResponse enotty

/-- `wr_ioctl_with_err_payload`. The output is given by its bytes. -/
def wrIoctlWithErrPayload (read : List UInt8 → Option (I × List UInt8)) (input : List UInt8)
    (process : I → DispatchM σ (Except (Int × Option (List UInt8)) (List UInt8))) :
    DispatchM σ Unit :=
  match read input with
  | none => writeErrResponse einval
  | some (i, _) => do
    match ← process i with
    | .ok output =>
      write (respHeader 0)
      write output
    | .error (errno, output) =>
      write (respHeader errno)
      if let some output := output then
        write output

/-- `wr_ioctl`. -/
def wrIoctl (read : List UInt8 → Option (I × List UInt8)) (input : List UInt8)
    (process : I → Process σ (List UInt8)) : DispatchM σ Unit :=
  wrIoctlWithErrPayload read input fun i => do
    return (← (process i).run).mapError fun errno => (errno, none)

/-- `wr_ioctl` for a structure of `n` bytes. -/
def wrRaw (n : Nat) (input : List UInt8) (process : Raw n → Process σ (List UInt8)) :
    DispatchM σ Unit := wrIoctl (Codec.bytes n).read input process

/-- `w_ioctl`; the output of the body is empty. -/
def wRaw (n : Nat) (input : List UInt8) (process : Raw n → Process σ (Raw 0)) :
    DispatchM σ Unit := wrIoctl (Codec.bytes n).read input fun i => (·.toList) <$> process i

/-- `r_ioctl`. -/
def rIoctl {n : Nat} (process : Process σ (Raw n)) : DispatchM σ Unit :=
  wrIoctl (fun bs => some ((), bs)) [] fun () => (·.toList) <$> process

/-- `patch_streamparm`: `writebuffers` and `readbuffers` are at the same place
in the union. -/
def patchStreamparm (parm : Raw 204) : Raw 204 :=
  match ((QueueType.n (parm.u32At 0)).getD .videoCapture).direction with
  | .output => parm.patch 24 (Vector.replicate 4 0)
  | .capture => parm.patch 24 (Vector.replicate 4 0)

/-- The three extended-controls arms. -/
def extCtrlsIoctl (V : V4l2rChecks) (h : Handler σ) (method : ExtCtrlsMethod)
    (input : List UInt8) : DispatchM σ Unit :=
  wrIoctlWithErrPayload readExtControls input fun (ctrls, array, regions) => do
    if V.ctrlWhich ctrls then
      let (r, ctrls, array) ← callExtCtrls h ⟨method, ctrls, array, regions⟩
      match r with
      | .ok () => return .ok (writeExtControls ctrls array)
      | .error e => return .error (e, some (writeExtControls ctrls array))
    else
      return .error (einval, none)

/-! ### The arms -/

/-- `virtio_media_dispatch_ioctl`. -/
def dispatchIoctl (V : V4l2rChecks) (h : Handler σ) (ioctl : V4l2Ioctl) (input : List UInt8) :
    DispatchM σ Unit :=
  match ioctl with
  | .querycap | .gFbuf | .sFbuf | .overlay | .expbuf | .dqbuf | .gEdid | .sEdid | .cropcap
  | .gCrop | .sCrop | .gJpegcomp | .sJpegcomp | .gPriority | .sPriority | .gSlicedVbiCap
  | .logStatus | .dbgGRegister | .dbgSRegister | .sHwFreqSeek | .dqevent | .dbgGChipInfo =>
    invalidIoctl
  | .enumFmt => wrRaw 64 input fun format => do
    let queue ← okOr (QueueType.n (format.u32At 4))
    return (← call h (.enumFmt queue (format.u32At 0))).toList
  | .gFmt => wrRaw 208 input fun format => do
    let queue ← okOr (QueueType.n (format.u32At 0))
    return (← call h (.gFmt queue)).toList
  | .sFmt => wrRaw 208 input fun format => do
    let queue ← okOr (QueueType.n (format.u32At 0))
    return (← call h (.sFmt queue format)).toList
  | .reqbufs => wrRaw 20 input fun reqbufs => do
    let queue ← okOr (QueueType.n (reqbufs.u32At 4))
    let memory ← okOr (MemoryType.n (reqbufs.u32At 8))
    check (V.memoryConsistency (reqbufs.u8At 16))
    match memory with
    | .mmap | .userPtr => pure ()
    | _ => throw einval
    return (← call h (.reqbufs queue memory (reqbufs.u32At 0) (reqbufs.u8At 16))).toList
  | .querybuf => wrIoctl v4l2Buffer.read input fun buffer => do
    let queue ← okOr (QueueType.n buffer.type)
    let numPlanes := if queue.isMultiplanar then buffer.length.toNat else 0
    return writeBuffer (← callBuffer h (.querybuf queue buffer.index)) numPlanes
  | .qbuf => wrIoctl (readBuffer V) input fun (buffer, regions) => do
    return writeBuffer (← callBuffer h (.qbuf buffer regions)) buffer.numPlanes
  | .streamon => wRaw 4 input fun type => do
    let queue ← okOr (QueueType.n (type.u32At 0))
    call h (.streamon queue)
  | .streamoff => wRaw 4 input fun type => do
    let queue ← okOr (QueueType.n (type.u32At 0))
    call h (.streamoff queue)
  | .gParm => wrRaw 204 input fun parm => do
    let queue ← okOr (QueueType.n (parm.u32At 0))
    return (patchStreamparm (← call h (.gParm queue))).toList
  | .sParm => wrRaw 204 input fun parm => do
    return (patchStreamparm (← call h (.sParm (patchStreamparm parm)))).toList
  | .gStd => rIoctl (call h .gStd)
  | .sStd => wRaw 8 input fun id => call h (.sStd id)
  | .enumstd => wrRaw 72 input fun std => do return (← call h (.enumstd (std.u32At 0))).toList
  | .enuminput => wrRaw 80 input fun i => do return (← call h (.enuminput (i.u32At 0))).toList
  | .gCtrl => wrRaw 8 input fun ctrl => do return (← call h (.gCtrl (ctrl.u32At 0))).toList
  | .sCtrl => wrRaw 8 input fun ctrl => do
    return (← call h (.sCtrl (ctrl.u32At 0) (ctrl.u32At 4))).toList
  | .gTuner => wrRaw 84 input fun tuner => do
    return (← call h (.gTuner (tuner.u32At 0))).toList
  | .sTuner => wRaw 84 input fun tuner => do
    check (V.tunerMode (tuner.u32At 56))
    call h (.sTuner (tuner.u32At 0) (tuner.u32At 56))
  | .gAudio => rIoctl (call h .gAudio)
  | .sAudio => wRaw 52 input fun audio =>
    call h (.sAudio (audio.u32At 0)
      (if V.audioMode (audio.u32At 40) then some (audio.u32At 40) else none))
  | .queryctrl => wrRaw 68 input fun ctrl => do
    let (id, flags) := V.parseCtrlIdAndFlags (ctrl.u32At 0)
    return (← call h (.queryctrl id flags)).toList
  | .querymenu => wrRaw 44 input fun menu => do
    return (← call h (.querymenu (menu.u32At 0) (menu.u32At 4))).toList
  | .gInput => rIoctl (call h .gInput)
  | .sInput => wrRaw 4 input fun i => do return (← call h (.sInput (i.u32At 0))).toList
  | .gOutput => rIoctl (call h .gOutput)
  | .sOutput => wrRaw 4 input fun o => do return (← call h (.sOutput (o.u32At 0))).toList
  | .enumoutput => wrRaw 72 input fun o => do return (← call h (.enumoutput (o.u32At 0))).toList
  | .gAudout => rIoctl (call h .gAudout)
  | .sAudout => wRaw 52 input fun audout => call h (.sAudout (audout.u32At 0))
  | .gModulator => wrRaw 68 input fun modulator => do
    return (← call h (.gModulator (modulator.u32At 0))).toList
  | .sModulator => wRaw 68 input fun modulator => do
    check (V.tunerTransmissionFlags (modulator.u32At 48))
    call h (.sModulator (modulator.u32At 0) (modulator.u32At 48))
  | .gFrequency => wrRaw 44 input fun freq => do
    return (← call h (.gFrequency (freq.u32At 0))).toList
  | .sFrequency => wRaw 44 input fun freq => do
    check (V.tunerType (freq.u32At 4))
    call h (.sFrequency (freq.u32At 0) (freq.u32At 4) (freq.u32At 8))
  | .querystd => rIoctl (call h .querystd)
  | .tryFmt => wrRaw 208 input fun format => do
    let queue ← okOr (QueueType.n (format.u32At 0))
    return (← call h (.tryFmt queue format)).toList
  | .enumaudio => wrRaw 52 input fun audio => do
    return (← call h (.enumaudio (audio.u32At 0))).toList
  | .enumaudout => wrRaw 52 input fun audio => do
    return (← call h (.enumaudout (audio.u32At 0))).toList
  | .gExtCtrls => extCtrlsIoctl V h .gExtCtrls input
  | .sExtCtrls => extCtrlsIoctl V h .sExtCtrls input
  | .tryExtCtrls => extCtrlsIoctl V h .tryExtCtrls input
  | .enumFramesizes => wrRaw 44 input fun size => do
    return (← call h (.enumFramesizes (size.u32At 0) (size.u32At 4))).toList
  | .enumFrameintervals => wrRaw 52 input fun ival => do
    return (← call h (.enumFrameintervals (ival.u32At 0) (ival.u32At 4) (ival.u32At 8)
      (ival.u32At 12))).toList
  | .gEncIndex => rIoctl (call h .gEncIndex)
  | .encoderCmd => wrRaw 40 input fun cmd => do return (← call h (.encoderCmd cmd)).toList
  | .tryEncoderCmd => wrRaw 40 input fun cmd => do return (← call h (.tryEncoderCmd cmd)).toList
  | .sDvTimings => wrRaw 132 input fun timings => do
    return (← call h (.sDvTimings timings)).toList
  | .gDvTimings => wrRaw 132 input fun _ => do return (← call h .gDvTimings).toList
  | .subscribeEvent => wRaw 32 input fun event => do
    unwrap (V.eventType (event.u32At 0) (event.u32At 4))
    unwrap (V.subscribeEventFlags (event.u32At 8))
    call h (.subscribeEvent (event.u32At 0) (event.u32At 4) (event.u32At 8))
  | .unsubscribeEvent => wRaw 32 input fun event => call h (.unsubscribeEvent event)
  | .createBufs => wrRaw 256 input fun bufs => do
    let format := bufs.slice 16 208
    let queue ← okOr (QueueType.n (format.u32At 0))
    let memory ← okOr (MemoryType.n (bufs.u32At 8))
    return (← call h (.createBufs (bufs.u32At 4) queue memory format)).toList
  | .prepareBuf => wrIoctl (readBuffer V) input fun (buffer, regions) => do
    return writeBuffer (← callBuffer h (.prepareBuf buffer regions)) buffer.numPlanes
  | .gSelection => wrRaw 64 input fun selection => do
    check (V.selectionType (selection.u32At 0))
    check (V.selectionTarget (selection.u32At 4))
    let rect ← call h (.gSelection (selection.u32At 0) (selection.u32At 4))
    return (selection.patch 12 rect).toList
  | .sSelection => wrRaw 64 input fun selection => do
    check (V.selectionType (selection.u32At 0))
    check (V.selectionTarget (selection.u32At 4))
    check (V.selectionFlags (selection.u32At 8))
    let rect ← call h (.sSelection (selection.u32At 0) (selection.u32At 4)
      (selection.slice 12 16) (selection.u32At 8))
    return (selection.patch 12 rect).toList
  | .decoderCmd => wrRaw 72 input fun cmd => do return (← call h (.decoderCmd cmd)).toList
  | .tryDecoderCmd => wrRaw 72 input fun cmd => do return (← call h (.tryDecoderCmd cmd)).toList
  | .enumDvTimings => wrRaw 148 input fun e => do
    let timings ← call h (.enumDvTimings (e.u32At 0))
    return (e.patch 16 timings).toList
  | .queryDvTimings => rIoctl (call h .queryDvTimings)
  | .dvTimingsCap => wrRaw 144 input fun _ => do return (← call h .dvTimingsCap).toList
  | .enumFreqBands => wrRaw 64 input fun band => do
    check (V.tunerType (band.u32At 4))
    return (← call h (.enumFreqBands (band.u32At 0) (band.u32At 4) (band.u32At 8))).toList
  | .queryExtCtrl => wrRaw 232 input fun ctrl => do
    let (id, flags) := V.parseCtrlIdAndFlags (ctrl.u32At 0)
    return (← call h (.queryExtCtrl id flags)).toList

/-- The driver answers DQBUF from its events; the host refuses it. -/
example (V : V4l2rChecks) (h : Handler σ) (input : List UInt8) :
    dispatchIoctl V h .dqbuf input = invalidIoctl := by
  simp only [dispatchIoctl]

end VirtioMedia.Device
