import VirtioMedia.Device.SelfAllocating
import VirtioMedia.Stack.Capture
import VirtioMedia.Stack.Forward
import VirtioMedia.Stack.Mappings

/-!
# Mappings of the capture device

The handler of `device/src/devices/simple_device.rs` with its constants, and the
device that it makes with the dispatcher and the mapping manager.
-/

namespace VirtioMedia.Stack

open V4l2 Device Device.Simple

/-! ### The handler -/

/-- `PIXELFORMAT`, `PixelFormat::from_fourcc(b"RGB3")`. -/
def pixelformat : UInt32 := 0x33424752

def width : UInt32 := 640
def height : UInt32 := 480
def frameRate : UInt32 := 30
def bytesPerLine : UInt32 := 1920

/-- A structure that is zero but for these 32-bit fields. -/
def structOf (n : Nat) (fields : List (Nat × UInt32)) : Raw n :=
  fields.foldl (fun r f => r.patch f.1 (m := 4) ⟨(Codec.u32.enc f.2).toArray, rfl⟩)
    (Vector.replicate n 0)

/-- `default_fmtdesc`. -/
def defaultFmtdesc (queue : QueueType) : Raw 64 :=
  structOf 64 [(4, queueCode queue), (44, pixelformat)]

/-- `default_fmt`, with `V4L2_FIELD_NONE` and `V4L2_COLORSPACE_SRGB`. -/
def defaultFmt (queue : QueueType) : Raw 208 :=
  structOf 208 [(0, queueCode queue), (8, width), (12, height), (16, pixelformat), (20, fieldNone),
    (24, bytesPerLine), (28, bufferSize), (32, 8)]

/-- `V4L2_CAP_TIMEPERFRAME` and the frame rate, in a structure that is otherwise
left as it is. -/
def fixedParm (parm : Raw 204) : Raw 204 :=
  ([(4, 0x1000), (12, 1), (16, frameRate)] : List (Nat × UInt32)).foldl
    (fun r f => r.patch f.1 (m := 4) ⟨(Codec.u32.enc f.2).toArray, rfl⟩) parm

/-- The one entry of `INPUTS`: its name is "Default" and its type
`V4L2_INPUT_TYPE_CAMERA`. -/
def defaultInput : Raw 80 :=
  structOf 80 [(4, 0x61666544), (8, 0x00746c75), (36, 2)]

/-- What is answered only for the capture queue. -/
def forCapture {α : Type} (queue : QueueType) (a : α) : Except Int α :=
  if queue ≠ .videoCapture then .error einval else .ok a

section Handler

variable (memfd : Nat → Option Nat) (io : Nat → Bool)

/-- The methods of `SimpleCaptureDevice` that return a structure of fixed size. -/
def captureRaw (d : CaptureDevice) (s : Simple.Session) :
    (c : HandlerCall) → Except Int (Raw c.outSize) × CaptureDevice × Simple.Session
  | .enumFmt queue index =>
    (if index > 0 then .error einval else forCapture queue (defaultFmtdesc queue), d, s)
  | .gFmt queue => (forCapture queue (defaultFmt queue), d, s)
  | .sFmt queue _ => (forCapture queue (defaultFmt queue), d, s)
  | .tryFmt queue _ => (forCapture queue (defaultFmt queue), d, s)
  | .gParm queue =>
    (forCapture queue (fixedParm (structOf 204 [(0, queueCode queue)])), d, s)
  | .sParm parm =>
    (if parm.u32At 0 ≠ queueCode .videoCapture then .error einval else .ok (fixedParm parm), d, s)
  | .reqbufs queue memory count _ =>
    match d.reqbufs false s queue memory count memfd with
    | .ok c => (c.result.map fun n => structOf 20 [(0, n), (4, queueCode queue),
        (8, memoryCode memory), (12, captureCapabilities)], c.after)
    | .error _ => (.error eio, d, s)
  | .streamon queue =>
    match d.streamon false io s queue with
    | .ok c => (c.result.map fun _ => Vector.replicate 0 0, c.after)
    | .error _ => (.error eio, d, s)
  | .streamoff queue =>
    let c := d.streamoff s queue
    (c.result.map fun _ => Vector.replicate 0 0, c.after)
  | .gInput => (.ok (structOf 4 [(0, 0)]), d, s)
  | .sInput input => (if input ≠ 0 then .error einval else .ok (structOf 4 [(0, 0)]), d, s)
  | .enuminput index => (if index > 0 then .error einval else .ok defaultInput, d, s)
  | .enumFramesizes index format =>
    (if format ≠ pixelformat ∨ index > 0 then .error einval
      else .ok (structOf 44 [(0, index), (4, format), (8, 1), (12, width), (16, height)]), d, s)
  | .enumFrameintervals index format w h =>
    (if format ≠ pixelformat ∨ w ≠ width ∨ h ≠ height ∨ index > 0 then .error einval
      else .ok (structOf 52 [(0, index), (4, format), (8, w), (12, h), (16, 1), (20, 1),
        (24, frameRate)]), d, s)
  | _ => (.error enotty, d, s)

/-- The methods that return a buffer. Only the index of a queued buffer is read. -/
def captureBuffer (d : CaptureDevice) (s : Simple.Session) :
    BufferCall → Except Int DeviceBuffer × CaptureDevice × Simple.Session
  | .querybuf queue index =>
    ((s.querybuf queue index).map fun v => ⟨v4l2BufferOf v, []⟩, d, s)
  | .qbuf b _ =>
    match d.qbuf false io s b.buffer.index with
    | .ok c => (c.result.map fun v => ⟨v4l2BufferOf v, []⟩, c.after)
    | .error _ => (.error eio, d, s)
  | .prepareBuf _ _ => (.error enotty, d, s)

/-- `VirtioMediaIoctlHandler` for `SimpleCaptureDevice`, built without overflow checks. -/
def captureHandler : Handler (CaptureDevice × Simple.Session) where
  raw c p := captureRaw memfd io p.1 p.2 c
  buffer c p := captureBuffer io p.1 p.2 c
  extCtrls c p := ((.error enotty, c.ctrls, c.array), p)

end Handler

/-! ### The device -/

/-- `VirtioMediaDevice` for `SimpleCaptureDevice`; `mapper` is what `add_mapping`
answers. -/
def captureEnv (V : V4l2rChecks) (memfd : Nat → Option Nat) (io : Nat → Bool)
    (mapper : Tracked → Except Int UInt64) :
    RunnerEnv CaptureDevice Simple.Session Unit Writer :=
  IoctlCall.servingEnv V (captureHandler memfd io)
    { newSession := fun d id => (.ok (.open id), d)
      closeSession := CaptureDevice.closeSession
      pollFd := fun _ => none
      doIoctl := fun d s _ _ w => (false, d, s, w)
      doMmap := fun d s flags offset =>
        let c := d.doMmap s flags offset (mapper d.mmapManager)
        (c.result, c.after)
      doMunmap := CaptureDevice.doMunmap
      addSession := fun p _ _ => (.ok (), p)
      removeSession := fun p _ => p
      write := Writer.write }

section Served

variable {D S P : Type} {tracked : D → Tracked} {V : V4l2rChecks} {h : Handler (D × S)}
  {env : RunnerEnv D S P Writer}

/-- An ioctl does to the manager what the call of the handler does. -/
theorem rearranged_serving
    (hraw : ∀ c p, Rearranged (tracked p.1) (tracked (h.raw c p).2.1))
    (hbuffer : ∀ c p, Rearranged (tracked p.1) (tracked (h.buffer c p).2.1))
    (hextCtrls : ∀ c p, Rearranged (tracked p.1) (tracked (h.extCtrls c p).2.1))
    (d : D) (s : S) (ioctl : V4l2Ioctl) (input : List UInt8) (w : Writer) :
    Rearranged (tracked d)
      (tracked ((IoctlCall.servingEnv V h env).doIoctl d s ioctl input w).2.1) := by
  by_cases hknown : UnknownSubscription V ioctl input
  · have hioctl : ioctl = .subscribeEvent := hknown.1
    subst hioctl
    simp only [IoctlCall.servingEnv, subscribeEvent_panics (h := h) (d, s) hknown]
    exact .refl
  · have hanswers := dispatch_answers (h := h) (d, s) hknown
    unfold Answers at hanswers
    cases hreq : request V input ioctl with
    | none =>
        rw [hreq] at hanswers
        obtain ⟨e, -, hrun⟩ := hanswers
        simp only [IoctlCall.servingEnv, hrun]
        exact .refl
    | some r =>
        rw [hreq] at hanswers
        simp only [IoctlCall.servingEnv, hanswers]
        cases r with
        | raw c payload => exact hraw c (d, s)
        | buffer c maxPlanes => exact hbuffer c (d, s)
        | extCtrls c => exact hextCtrls c (d, s)

end Served

theorem rearranged_unregisterAll (t : Tracked) (offsets : List UInt32) :
    Rearranged t { t with manager := t.manager.unregisterAll offsets } := by
  induction offsets generalizing t with
  | nil => exact .refl
  | cons o rest ih => exact .head (.unregister o rfl) (ih _)

theorem rearranged_allocate {checks : Bool} {memfd : Nat → Option Nat} {is : List Nat}
    {t : Tracked} {r : Except Int (List Buffer) × Tracked}
    (h : Simple.allocateBuffers checks memfd is t = .ok r) : Rearranged t r.2 := by
  induction is generalizing t r with
  | nil =>
      cases h
      exact .refl
  | cons i rest ih =>
      unfold Simple.allocateBuffers at h
      split at h
      · cases h
        exact .refl
      · have hstep : ∀ {o m}, t.manager.registerBuffer checks none bufferSize = some (o, m) →
            Rearranges t { t with manager := m } := by
          intro o m hm
          refine .register checks none bufferSize ?_
          rw [Tracked.step, hm]
          rfl
        split at h
        · cases h
        · rename_i hm
          cases h
          exact .single (hstep hm)
        · rename_i hm
          obtain ⟨r', hr', rfl⟩ := Fallible.map_eq_ok.mp h
          have hrest : Rearranged _ r'.2 := ih hr'
          exact .head (hstep hm) hrest

theorem rearranged_reqbufs {checks : Bool} {d : CaptureDevice} {s : Simple.Session}
    {queue : QueueType} {memory : MemoryType} {count : UInt32} {memfd : Nat → Option Nat}
    {c : Simple.Called UInt32} (h : d.reqbufs checks s queue memory count memfd = .ok c) :
    Rearranged d.mmapManager c.device.mmapManager := by
  rcases reqbufs_outcome h with ⟨-, e, rfl, -⟩ | ⟨-, r, hr, rfl⟩
  · exact .refl
  · exact (rearranged_unregisterAll d.mmapManager s.offsets).trans (rearranged_allocate hr)

theorem rearranged_captureRaw (memfd : Nat → Option Nat) (io : Nat → Bool) (d : CaptureDevice)
    (s : Simple.Session) (c : HandlerCall) :
    Rearranged d.mmapManager (captureRaw memfd io d s c).2.1.mmapManager := by
  cases c with
  | reqbufs queue memory count flags =>
      cases hr : d.reqbufs false s queue memory count memfd with
      | error p =>
          simp only [captureRaw, hr]
          exact .refl
      | ok c =>
          simp only [captureRaw, hr]
          exact rearranged_reqbufs hr
  | streamon queue =>
      cases hr : d.streamon false io s queue with
      | error p =>
          simp only [captureRaw, hr]
          exact .refl
      | ok c =>
          simp only [captureRaw, hr]
          rw [show c.after.1.mmapManager = d.mmapManager from (streamon_sameHeld hr).manager]
  | streamoff queue =>
      rw [show (captureRaw memfd io d s (.streamoff queue)).2.1.mmapManager = d.mmapManager from
        (streamoff_sameHeld d s queue).manager]
  | _ => exact .refl

theorem rearranged_captureBuffer (io : Nat → Bool) (d : CaptureDevice) (s : Simple.Session)
    (c : BufferCall) :
    Rearranged d.mmapManager (captureBuffer io d s c).2.1.mmapManager := by
  cases c with
  | querybuf queue index => exact .refl
  | prepareBuf b regions => exact .refl
  | qbuf b regions =>
      cases hr : d.qbuf false io s b.buffer.index with
      | error p =>
          simp only [captureBuffer, hr]
          exact .refl
      | ok c =>
          simp only [captureBuffer, hr]
          rw [show c.after.1.mmapManager = d.mmapManager from (qbuf_sameHeld hr).manager]

/-- The capture device maps its buffers through its manager, if the mapper gives no
address away that is mapped. -/
theorem captureEnv_mapsMemory (V : V4l2rChecks) (memfd : Nat → Option Nat) (io : Nat → Bool)
    {mapper : Tracked → Except Int UInt64}
    (hmapper : ∀ t a, mapper t = .ok a → live t.log a = false) :
    MapsMemory (captureEnv V memfd io mapper) CaptureDevice.mmapManager where
  write := rfl
  newSession _ _ := .refl
  closeSession d s := by
    have hmanager : ((captureEnv V memfd io mapper).closeSession d s).mmapManager = _ :=
      closeSession_manager d s
    rw [hmanager]
    exact rearranged_unregisterAll d.mmapManager s.offsets
  doIoctl := rearranged_serving (fun c p => rearranged_captureRaw memfd io p.1 p.2 c)
    (fun c p => rearranged_captureBuffer io p.1 p.2 c) fun _ _ => .refl
  doMmap d s flags offset := by
    have hfresh : ∀ fd rw, AnswersFresh d.mmapManager
        (.create offset fd rw (mapper d.mmapManager)) := by
      intro fd rw c hc
      rcases MmapMappingManager.createMapping_cases d.mmapManager.manager offset fd rw
        (mapper d.mmapManager) with
        ⟨e, h⟩ | ⟨l₁, b, l₂, -, -, -, ⟨addr, -, hanswer, h⟩ | ⟨p, -, -, h⟩⟩
      · rw [h] at hc
        exact absurd hc List.not_mem_nil
      · rw [h] at hc
        obtain rfl := List.mem_singleton.mp hc
        exact hmapper d.mmapManager addr hanswer
      · rw [h] at hc
        exact absurd hc List.not_mem_nil
    change Maps d.mmapManager flags offset (d.doMmap s flags offset (mapper d.mmapManager)).result
      (d.doMmap s flags offset (mapper d.mmapManager)).after.1.mmapManager
    unfold CaptureDevice.doMmap
    cases s.buffers.find? fun b => b.offset == offset with
    | none => exact .refused einval
    | some b => exact .created b.fd (mapper d.mmapManager) (hfresh b.fd _)
  doMunmap d addr := ⟨rfl, rfl⟩

/-! ### A buffer that is mapped twice -/

/-- A mapper that answers with the first address that is free. -/
def firstFree (t : Tracked) : Except Int UInt64 :=
  match ((List.range (t.log.length + 1)).map fun k => UInt64.ofNat (k * 0x100000)).find?
      fun a => !live t.log a with
  | some a => .ok a
  | none => .error enomem

theorem firstFree_fresh (t : Tracked) (a : UInt64) (h : firstFree t = .ok a) :
    live t.log a = false := by
  unfold firstFree at h
  split at h
  · rename_i b hb
    obtain rfl := Except.ok.inj h
    simpa using List.find?_some hb
  · cases h

/-- REQBUFS of a session for MMAP buffers. -/
def reqbufsInput (id count : UInt32) : List UInt8 :=
  cmdHeader.enc (cmdIoctl, 0) ++ cmdHeader.enc (id, 8) ++
    (structOf 20 [(0, count), (4, 1), (8, 1)]).toList

/-- The first buffer of a session is mapped. -/
def mapFirst (id : UInt32) : MapStackAct :=
  .driver (.mmap id ⟨true, true, false, 0, 921600, 0⟩
    ⟨.timeout, ⟨0, 0⟩, true, .error 0, 0, .timeout⟩) 0

/-- A session is opened and gets two buffers, and the first is mapped twice. -/
def mapTwice : List MapStackAct :=
  [.command (cmdHeader.enc (cmdOpen, 0)) 16, .command (reqbufsInput 0 2) 28, mapFirst 0,
    mapFirst 0]

/-- The buffers are given back, and one of the mappings goes away. -/
def unmapOnce : List MapStackAct :=
  [.command (reqbufsInput 0 0) 28, .driver (.vmaClose 0) 0, .driver (.vmaCloseLocked 0 .timeout) 0]

/-- The steps of the driver on the capture device. -/
def captureStep : MapStack CaptureDevice Simple.Session Unit → MapStackAct →
    Option (MapStack CaptureDevice Simple.Session Unit) :=
  MapStack.step (captureEnv kernelEvents some (fun _ => true) firstFree) true false

/-- Both sides have just been started. -/
def captureStart : MapStack CaptureDevice Simple.Session Unit :=
  ⟨.init ⟨0x10000000, 0x10000000⟩, .new ⟨.init, none, []⟩ ()⟩

theorem mappings_agree_capture :
    ∃ s, Trace.run captureStep captureStart (mapTwice ++ unmapOnce) = some s ∧
      s.driver.outstanding = [0] ∧
      s.runner.device.mmapManager.manager.refsAt 0 = s.driver.outstanding.count 0 := by
  have hrun : ((Trace.run captureStep captureStart (mapTwice ++ unmapOnce)).any fun s =>
      !s.driver.disconnected && s.driver.outstanding = [0]) = true := by
    decide +kernel
  obtain ⟨s, hs, hend⟩ := (Option.any_eq_true _ _).mp hrun
  simp only [Bool.and_eq_true, Bool.not_eq_true', decide_eq_true_eq] at hend
  exact ⟨s, hs, hend.2, (MapStack.mappings_agree
    (captureEnv_mapsMemory kernelEvents some (fun _ => true) firstFree_fresh) _ _ rfl
    (mapTwice ++ unmapOnce) hs hend.1 0).1⟩

theorem mapped_memory_stays_capture :
    ∃ s s', Trace.run captureStep captureStart mapTwice = some s ∧
      Trace.run captureStep s unmapOnce = some s' ∧
      mapperCalls s'.runner.device.mmapManager.log 0 =
        mapperCalls s.runner.device.mmapManager.log 0 := by
  have hrun : ((Trace.run captureStep captureStart mapTwice).any fun s =>
      decide (Trace.Conforms captureStep (fun s _ => 0 ∈ s.driver.outstanding) s unmapOnce) &&
        (Trace.run captureStep s unmapOnce).any fun s' =>
          !s'.driver.disconnected && 0 ∈ s'.driver.outstanding) = true := by
    decide +kernel
  obtain ⟨s, hs, hrest⟩ := (Option.any_eq_true _ _).mp hrun
  simp only [Bool.and_eq_true, decide_eq_true_eq] at hrest
  obtain ⟨s', hs', hend⟩ := (Option.any_eq_true _ _).mp hrest.2
  simp only [Bool.and_eq_true, Bool.not_eq_true', decide_eq_true_eq] at hend
  exact ⟨s, s', hs, hs', MapStack.mapped_memory_stays
    (captureEnv_mapsMemory kernelEvents some (fun _ => true) firstFree_fresh) _ _ rfl mapTwice
    unmapOnce hs hs' hend.1 0 hrest.1 hend.2⟩

end VirtioMedia.Stack
