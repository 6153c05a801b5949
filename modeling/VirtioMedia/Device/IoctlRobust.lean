import VirtioMedia.Device.Ioctl

/-!
# The dispatcher on arbitrary input

What an ioctl asks of the handler is stated first, without the machinery of
the dispatcher: an input that is long enough and passes the checks requests
one call, and says how the answer becomes the payload of the response. The
dispatcher is then compared with it on every input.
-/

namespace VirtioMedia.Device

open V4l2 Wire

/-! ### What a well-formed input requests -/

/-- A call of the handler, and the payload made from its answer. -/
inductive Request where
  | raw (c : HandlerCall) (payload : Raw c.outSize → List UInt8)
  | buffer (c : BufferCall) (maxPlanes : Nat)
  | extCtrls (c : ExtCtrlsCall)

namespace Request

/-- The answer is the payload. -/
def plain (c : HandlerCall) : Request := .raw c (·.toList)

def call : Request → Call
  | .raw c _ => .raw c
  | .buffer c _ => .buffer c
  | .extCtrls c => .extCtrls c

variable {σ : Type} (h : Handler σ) (s : σ)

/-- A response header, followed by the payload if the handler succeeds; for
extended controls also if it fails. -/
def response : Request → List UInt8
  | .raw c payload =>
    match (h.raw c s).1 with
    | .ok o => respHeader 0 ++ payload o
    | .error e => respHeader e
  | .buffer c maxPlanes =>
    match (h.buffer c s).1 with
    | .ok b => respHeader 0 ++ writeBuffer b maxPlanes
    | .error e => respHeader e
  | .extCtrls c =>
    match (h.extCtrls c s).1 with
    | (.ok (), ctrls, array) => respHeader 0 ++ writeExtControls ctrls array
    | (.error e, ctrls, array) => respHeader e ++ writeExtControls ctrls array

/-- The state of the handler after the call. -/
def after : Request → σ
  | .raw c _ => (h.raw c s).2
  | .buffer c _ => (h.buffer c s).2
  | .extCtrls c => (h.extCtrls c s).2

end Request

/-- An input that starts with a structure of `n` bytes. -/
def fromRaw (n : Nat) (input : List UInt8) (f : Raw n → Option Request) : Option Request :=
  ((Codec.bytes n).read input).bind fun r => f r.1

/-- A request that is made if the check succeeds. -/
def checked (ok : Bool) (r : Option Request) : Option Request := if ok then r else none

/-- The request of an input, or `none` if the input is not valid or the ioctl
is not supported. -/
def request (V : V4l2rChecks) (input : List UInt8) : V4l2Ioctl → Option Request
  | .enumFmt => fromRaw 64 input fun r =>
    (QueueType.n (r.u32At 4)).map fun q => .plain (.enumFmt q (r.u32At 0))
  | .gFmt => fromRaw 208 input fun r => (QueueType.n (r.u32At 0)).map fun q => .plain (.gFmt q)
  | .sFmt => fromRaw 208 input fun r => (QueueType.n (r.u32At 0)).map fun q => .plain (.sFmt q r)
  | .tryFmt => fromRaw 208 input fun r =>
    (QueueType.n (r.u32At 0)).map fun q => .plain (.tryFmt q r)
  | .reqbufs => fromRaw 20 input fun r =>
    (QueueType.n (r.u32At 4)).bind fun q => (MemoryType.n (r.u32At 8)).bind fun m =>
      checked (V.memoryConsistency (r.u8At 16)) <| checked (m = .mmap ∨ m = .userPtr) <|
        some (.plain (.reqbufs q m (r.u32At 0) (r.u8At 16)))
  | .createBufs => fromRaw 256 input fun r =>
    (QueueType.n ((r.slice 16 208).u32At 0)).bind fun q => (MemoryType.n (r.u32At 8)).map fun m =>
      .plain (.createBufs (r.u32At 4) q m (r.slice 16 208))
  | .querybuf => (v4l2Buffer.read input).bind fun r => (QueueType.n r.1.type).map fun q =>
    .buffer (.querybuf q r.1.index) (if q.isMultiplanar then r.1.length.toNat else 0)
  | .qbuf => (readBuffer V input).map fun r => .buffer (.qbuf r.1.1 r.1.2) r.1.1.numPlanes
  | .prepareBuf => (readBuffer V input).map fun r =>
    .buffer (.prepareBuf r.1.1 r.1.2) r.1.1.numPlanes
  | .streamon => fromRaw 4 input fun r =>
    (QueueType.n (r.u32At 0)).map fun q => .plain (.streamon q)
  | .streamoff => fromRaw 4 input fun r =>
    (QueueType.n (r.u32At 0)).map fun q => .plain (.streamoff q)
  | .gParm => fromRaw 204 input fun r =>
    (QueueType.n (r.u32At 0)).map fun q => .raw (.gParm q) fun o => (patchStreamparm o).toList
  | .sParm => fromRaw 204 input fun r =>
    some (.raw (.sParm (patchStreamparm r)) fun o => (patchStreamparm o).toList)
  | .gStd => some (.plain .gStd)
  | .sStd => fromRaw 8 input fun r => some (.plain (.sStd r))
  | .querystd => some (.plain .querystd)
  | .enumstd => fromRaw 72 input fun r => some (.plain (.enumstd (r.u32At 0)))
  | .enuminput => fromRaw 80 input fun r => some (.plain (.enuminput (r.u32At 0)))
  | .enumoutput => fromRaw 72 input fun r => some (.plain (.enumoutput (r.u32At 0)))
  | .gInput => some (.plain .gInput)
  | .sInput => fromRaw 4 input fun r => some (.plain (.sInput (r.u32At 0)))
  | .gOutput => some (.plain .gOutput)
  | .sOutput => fromRaw 4 input fun r => some (.plain (.sOutput (r.u32At 0)))
  | .gCtrl => fromRaw 8 input fun r => some (.plain (.gCtrl (r.u32At 0)))
  | .sCtrl => fromRaw 8 input fun r => some (.plain (.sCtrl (r.u32At 0) (r.u32At 4)))
  | .queryctrl => fromRaw 68 input fun r =>
    some (.plain (.queryctrl (V.parseCtrlIdAndFlags (r.u32At 0)).1
      (V.parseCtrlIdAndFlags (r.u32At 0)).2))
  | .queryExtCtrl => fromRaw 232 input fun r =>
    some (.plain (.queryExtCtrl (V.parseCtrlIdAndFlags (r.u32At 0)).1
      (V.parseCtrlIdAndFlags (r.u32At 0)).2))
  | .querymenu => fromRaw 44 input fun r => some (.plain (.querymenu (r.u32At 0) (r.u32At 4)))
  | .gTuner => fromRaw 84 input fun r => some (.plain (.gTuner (r.u32At 0)))
  | .sTuner => fromRaw 84 input fun r => checked (V.tunerMode (r.u32At 56)) <|
    some (.plain (.sTuner (r.u32At 0) (r.u32At 56)))
  | .gAudio => some (.plain .gAudio)
  | .sAudio => fromRaw 52 input fun r => some (.plain (.sAudio (r.u32At 0)
    (if V.audioMode (r.u32At 40) then some (r.u32At 40) else none)))
  | .enumaudio => fromRaw 52 input fun r => some (.plain (.enumaudio (r.u32At 0)))
  | .gAudout => some (.plain .gAudout)
  | .sAudout => fromRaw 52 input fun r => some (.plain (.sAudout (r.u32At 0)))
  | .enumaudout => fromRaw 52 input fun r => some (.plain (.enumaudout (r.u32At 0)))
  | .gModulator => fromRaw 68 input fun r => some (.plain (.gModulator (r.u32At 0)))
  | .sModulator => fromRaw 68 input fun r => checked (V.tunerTransmissionFlags (r.u32At 48)) <|
    some (.plain (.sModulator (r.u32At 0) (r.u32At 48)))
  | .gFrequency => fromRaw 44 input fun r => some (.plain (.gFrequency (r.u32At 0)))
  | .sFrequency => fromRaw 44 input fun r => checked (V.tunerType (r.u32At 4)) <|
    some (.plain (.sFrequency (r.u32At 0) (r.u32At 4) (r.u32At 8)))
  | .enumFreqBands => fromRaw 64 input fun r => checked (V.tunerType (r.u32At 4)) <|
    some (.plain (.enumFreqBands (r.u32At 0) (r.u32At 4) (r.u32At 8)))
  | .gExtCtrls => extRequest .gExtCtrls
  | .sExtCtrls => extRequest .sExtCtrls
  | .tryExtCtrls => extRequest .tryExtCtrls
  | .enumFramesizes => fromRaw 44 input fun r =>
    some (.plain (.enumFramesizes (r.u32At 0) (r.u32At 4)))
  | .enumFrameintervals => fromRaw 52 input fun r =>
    some (.plain (.enumFrameintervals (r.u32At 0) (r.u32At 4) (r.u32At 8) (r.u32At 12)))
  | .gEncIndex => some (.plain .gEncIndex)
  | .encoderCmd => fromRaw 40 input fun r => some (.plain (.encoderCmd r))
  | .tryEncoderCmd => fromRaw 40 input fun r => some (.plain (.tryEncoderCmd r))
  | .decoderCmd => fromRaw 72 input fun r => some (.plain (.decoderCmd r))
  | .tryDecoderCmd => fromRaw 72 input fun r => some (.plain (.tryDecoderCmd r))
  | .sDvTimings => fromRaw 132 input fun r => some (.plain (.sDvTimings r))
  | .gDvTimings => fromRaw 132 input fun _ => some (.plain .gDvTimings)
  | .enumDvTimings => fromRaw 148 input fun r =>
    some (.raw (.enumDvTimings (r.u32At 0)) fun o => (r.patch 16 o).toList)
  | .queryDvTimings => some (.plain .queryDvTimings)
  | .dvTimingsCap => fromRaw 144 input fun _ => some (.plain .dvTimingsCap)
  | .subscribeEvent => fromRaw 32 input fun r =>
    checked (V.eventType (r.u32At 0) (r.u32At 4)) <| checked (V.subscribeEventFlags (r.u32At 8)) <|
      some (.plain (.subscribeEvent (r.u32At 0) (r.u32At 4) (r.u32At 8)))
  | .unsubscribeEvent => fromRaw 32 input fun r => some (.plain (.unsubscribeEvent r))
  | .gSelection => fromRaw 64 input fun r =>
    checked (V.selectionType (r.u32At 0)) <| checked (V.selectionTarget (r.u32At 4)) <|
      some (.raw (.gSelection (r.u32At 0) (r.u32At 4)) fun o => (r.patch 12 o).toList)
  | .sSelection => fromRaw 64 input fun r =>
    checked (V.selectionType (r.u32At 0)) <| checked (V.selectionTarget (r.u32At 4)) <|
      checked (V.selectionFlags (r.u32At 8)) <|
        some (.raw (.sSelection (r.u32At 0) (r.u32At 4) (r.slice 12 16) (r.u32At 8)) fun o =>
          (r.patch 12 o).toList)
  | _ => none
where
  extRequest (method : ExtCtrlsMethod) : Option Request :=
    (readExtControls input).bind fun r => checked (V.ctrlWhich r.1.1) <|
      some (.extCtrls ⟨method, r.1.1, r.1.2.1, r.1.2.2⟩)

/-- DQBUF makes no request. -/
example (V : V4l2rChecks) (input : List UInt8) : request V input .dqbuf = none := by
  simp only [request]

/-! ### The property -/

variable {σ : Type}

def Dispatch.start (s : σ) : Dispatch σ := ⟨s, [], []⟩

/-- The dispatcher returns. If the input requests nothing, the handler is not
called and the response is one header with an error; otherwise the handler is
called once, as requested, and the response is the one of the request. -/
def Robust (V : V4l2rChecks) (h : Handler σ) (ioctl : V4l2Ioctl) (input : List UInt8) (s : σ) :
    Prop :=
  ∃ out, dispatchIoctl V h ioctl input (.start s) = some ((), out) ∧
    match request V input ioctl with
    | none => out.calls = [] ∧ ∃ e, e ≠ 0 ∧ out.written = respHeader e
    | some r => out.calls = [r.call] ∧ out.written = r.response h s ∧ out.handler = r.after h s

/-- SUBSCRIBE_EVENT with an event type or flags that `v4l2r` does not know. -/
def UnknownSubscription (V : V4l2rChecks) (ioctl : V4l2Ioctl) (input : List UInt8) : Prop :=
  ioctl = .subscribeEvent ∧ ∃ event : Raw 32, ((Codec.bytes 32).read input).map (·.1) = some event ∧
    (V.eventType (event.u32At 0) (event.u32At 4) = false ∨
      V.subscribeEventFlags (event.u32At 8) = false)

/-! ### Rules for the bodies -/

/-- What a body that serves a request returns, before the header is written. -/
def Request.outcome (h : Handler σ) (s : σ) :
    Request → Except (Int × Option (List UInt8)) (List UInt8)
  | .raw c payload => ((h.raw c s).1.map payload).mapError fun e => (e, none)
  | .buffer c maxPlanes =>
    ((h.buffer c s).1.map fun b => writeBuffer b maxPlanes).mapError fun e => (e, none)
  | .extCtrls c =>
    match (h.extCtrls c s).1 with
    | (.ok (), ctrls, array) => .ok (writeExtControls ctrls array)
    | (.error e, ctrls, array) => .error (e, some (writeExtControls ctrls array))

/-- The body makes the requested call and nothing else, or returns `EINVAL`
without a call. -/
def Serves (h : Handler σ) (p : DispatchM σ (Except (Int × Option (List UInt8)) (List UInt8)))
    (r : Option Request) : Prop :=
  ∀ d, p d = match r with
    | none => some (.error (einval, none), d)
    | some r => some (r.outcome h d.handler,
        { d with handler := r.after h d.handler, calls := d.calls ++ [r.call] })

/-- A body without a payload on errors. -/
def Performs (h : Handler σ) (p : Process σ (List UInt8)) (r : Option Request) : Prop :=
  Serves h (do return (← p.run).mapError fun errno => (errno, none)) r

section Rules

variable {h : Handler σ} {α I : Type}

/-- A call whose answer is passed on. -/
theorem performs_call (c : HandlerCall) (payload : Raw c.outSize → List UInt8) :
    Performs h (do return payload (← call h c)) (some (.raw c payload)) := by
  intro d
  simp only [Request.outcome]
  cases hr : (h.raw c d.handler).1 <;>
    simp only [call, hr, ExceptT.run, bind, ExceptT.bind, ExceptT.mk, StateT.bind,
      Request.after, Request.call] <;>
    rfl

theorem performs_map_call (c : HandlerCall) :
    Performs h ((·.toList) <$> call h c) (some (.plain c)) := by
  refine cast (congrArg (fun p => Performs h p (some (.plain c))) ?_) (performs_call c (·.toList))
  exact (map_eq_pure_bind _ _).symm

/-- A call whose answer is a buffer, written back with its planes. -/
theorem performs_callBuffer (c : BufferCall) (maxPlanes : Nat) :
    Performs h (do return writeBuffer (← callBuffer h c) maxPlanes)
      (some (.buffer c maxPlanes)) := by
  intro d
  simp only [Request.outcome]
  cases hr : (h.buffer c d.handler).1 <;>
    simp only [callBuffer, hr, ExceptT.run, bind, ExceptT.bind, ExceptT.mk, StateT.bind,
      Request.after, Request.call] <;>
    rfl

/-- A conversion that fails answers `EINVAL` before any call. -/
theorem performs_okOr {o : Option α} {k : α → Process σ (List UInt8)} {f : α → Option Request}
    (hk : ∀ a, Performs h (k a) (f a)) : Performs h (okOr o >>= k) (o.bind f) := by
  cases o with
  | none => exact fun d => rfl
  | some a => exact fun d => hk a d

theorem performs_okOr_map {o : Option α} {k : α → Process σ (List UInt8)} {f : α → Request}
    (hk : ∀ a, Performs h (k a) (some (f a))) : Performs h (okOr o >>= k) (o.map f) := by
  rw [Option.map_eq_bind]
  exact performs_okOr hk

/-- A check that fails answers `EINVAL` before any call. -/
theorem performs_check {ok : Bool} {k : Process σ (List UInt8)} {r : Option Request}
    (hk : Performs h k r) : Performs h (do check ok; k) (checked ok r) := by
  cases ok with
  | false => exact fun d => rfl
  | true => exact fun d => hk d

theorem performs_map_okOr {β : Type} {g : β → List UInt8} {o : Option α} {k : α → Process σ β}
    {f : α → Request} (hk : ∀ a, Performs h (g <$> k a) (some (f a))) :
    Performs h (g <$> (okOr o >>= k)) (o.map f) := by
  rw [map_bind]
  exact performs_okOr_map hk

theorem performs_map_check {β : Type} {g : β → List UInt8} {ok : Bool} {k : Process σ β}
    {r : Option Request} (hk : Performs h (g <$> k) r) :
    Performs h (g <$> (do check ok; k)) (checked ok r) := by
  rw [map_bind]
  exact performs_check hk

/-- A run that writes the response to a request. -/
def Answers (h : Handler σ) (s : σ) (m : DispatchM σ Unit) (r : Option Request) : Prop :=
  match r with
  | none => ∃ e, e ≠ 0 ∧ m (.start s) = some ((), ⟨s, [], respHeader e⟩)
  | some r => m (.start s) = some ((), ⟨r.after h s, [r.call], r.response h s⟩)

/-- The response is the header and the outcome. -/
theorem response_outcome (r : Request) (s : σ) :
    (match r.outcome h s with
      | .ok o => respHeader 0 ++ o
      | .error (e, o) => respHeader e ++ o.getD []) = r.response h s := by
  cases r with
  | raw c payload =>
      simp only [Request.outcome, Request.response]
      cases (h.raw c s).1 <;> simp [Except.map, Except.mapError]
  | buffer c maxPlanes =>
      simp only [Request.outcome, Request.response]
      cases (h.buffer c s).1 <;> simp [Except.map, Except.mapError]
  | extCtrls c =>
      simp only [Request.outcome, Request.response]
      rcases (h.extCtrls c s).1 with ⟨e | u, ctrls, array⟩ <;> rfl

/-- An input that cannot be read is refused; otherwise the body decides. -/
theorem answers_wrIoctlWithErrPayload {s : σ} {read : List UInt8 → Option (I × List UInt8)}
    {input : List UInt8}
    {process : I → DispatchM σ (Except (Int × Option (List UInt8)) (List UInt8))}
    {req : I → Option Request}
    (hp : ∀ i rest, read input = some (i, rest) → Serves h (process i) (req i)) :
    Answers h s (wrIoctlWithErrPayload read input process)
      ((read input).bind fun r => req r.1) := by
  unfold wrIoctlWithErrPayload
  cases hread : read input with
  | none => exact ⟨einval, by decide, rfl⟩
  | some r =>
      have hserves := hp r.1 r.2 hread (.start s)
      cases hreq : req r.1 with
      | none =>
          rw [hreq] at hserves
          refine (congrArg (Answers h s _) hreq).mpr ⟨einval, by decide, ?_⟩
          simp only [bind, StateT.bind, hserves]
          rfl
      | some q =>
          rw [hreq] at hserves
          have hrun : process r.1 (.start s) =
              some (q.outcome h s, ⟨q.after h s, [q.call], []⟩) := hserves
          refine (congrArg (Answers h s _) hreq).mpr ?_
          simp only [Answers, bind, StateT.bind, hrun, ← response_outcome]
          rcases q.outcome h s with ⟨e, o | o⟩ | o
          · simp only [Option.getD_none, List.append_nil]
            rfl
          · rfl
          · rfl

/-- The same for ioctls without a payload for errors. -/
theorem answers_wrIoctl {s : σ} {read : List UInt8 → Option (I × List UInt8)}
    {input : List UInt8} {process : I → Process σ (List UInt8)} {req : I → Option Request}
    (hp : ∀ i, Performs h (process i) (req i)) :
    Answers h s (wrIoctl read input process) ((read input).bind fun r => req r.1) :=
  answers_wrIoctlWithErrPayload fun i _ _ => hp i

theorem answers_invalidIoctl (s : σ) : Answers h s invalidIoctl none :=
  ⟨enotty, by decide, rfl⟩

theorem answers_wrRaw {n : Nat} {s : σ} {input : List UInt8}
    {process : Raw n → Process σ (List UInt8)} {req : Raw n → Option Request}
    (hp : ∀ r, Performs h (process r) (req r)) :
    Answers h s (wrRaw n input process) (fromRaw n input req) := answers_wrIoctl hp

theorem answers_wrRaw_call {n : Nat} {s : σ} {input : List UInt8} {c : Raw n → HandlerCall} :
    Answers h s (wrRaw n input fun r => do return (← call h (c r)).toList)
      (fromRaw n input fun r => some (.plain (c r))) :=
  answers_wrRaw fun _ => performs_call _ _

theorem answers_wRaw {n : Nat} {s : σ} {input : List UInt8} {process : Raw n → Process σ (Raw 0)}
    {req : Raw n → Option Request}
    (hp : ∀ r rest, (Codec.bytes n).read input = some (r, rest) →
      Performs h ((·.toList) <$> process r) (req r)) :
    Answers h s (wRaw n input process) (fromRaw n input req) := answers_wrIoctlWithErrPayload hp

/-- An ioctl without input makes its call on any input. -/
theorem answers_rIoctl (s : σ) (c : HandlerCall) :
    Answers h s (rIoctl (call h c)) (some (.plain c)) := by
  have hp : ∀ i : Unit, Performs h ((·.toList) <$> call h c)
      ((fun _ : Unit => some (.plain c)) i) := fun _ => performs_map_call c
  have hanswers : Answers h s (rIoctl (call h c))
      ((some ((), ([] : List UInt8))).bind fun r => (fun _ => some (.plain c)) r.1) :=
    answers_wrIoctl hp
  exact hanswers

end Rules

section Arms

variable {V : V4l2rChecks} {h : Handler σ} {input : List UInt8}

theorem answers_reqbufs (s : σ) :
    Answers h s (dispatchIoctl V h .reqbufs input) (request V input .reqbufs) := by
  simp only [dispatchIoctl, request]
  apply answers_wrRaw
  intro r
  apply performs_okOr
  intro q
  apply performs_okOr
  intro m
  apply performs_check
  cases m with
  | mmap => exact performs_call _ _
  | userPtr => exact performs_call _ _
  | overlay => exact fun d => rfl
  | dmaBuf => exact fun d => rfl

/-- QUERYBUF, whose queue type is checked. -/
theorem answers_querybuf (s : σ) :
    Answers h s (dispatchIoctl V h .querybuf input) (request V input .querybuf) := by
  simp only [dispatchIoctl, request]
  exact answers_wrIoctl fun b => performs_okOr_map fun q => performs_callBuffer _ _

/-- QBUF, whose buffer comes with SG lists. -/
theorem answers_qbuf (s : σ) :
    Answers h s (dispatchIoctl V h .qbuf input) (request V input .qbuf) := by
  simp only [dispatchIoctl, request, Option.map_eq_bind]
  exact answers_wrIoctl fun b => performs_callBuffer _ _

theorem answers_prepareBuf (s : σ) :
    Answers h s (dispatchIoctl V h .prepareBuf input) (request V input .prepareBuf) := by
  simp only [dispatchIoctl, request, Option.map_eq_bind]
  exact answers_wrIoctl fun b => performs_callBuffer _ _

/-- The controls are written back whether the handler succeeds or not. -/
theorem answers_extCtrls (s : σ) (method : ExtCtrlsMethod) :
    Answers h s (extCtrlsIoctl V h method input) (request.extRequest V input method) := by
  refine @answers_wrIoctlWithErrPayload _ h _ s readExtControls input _ (fun c =>
    checked (V.ctrlWhich c.1) (some (.extCtrls ⟨method, c.1, c.2.1, c.2.2⟩))) ?_
  rintro ⟨ctrls, array, regions⟩ - - d
  cases hwhich : V.ctrlWhich ctrls with
  | false =>
      simp only [hwhich]
      rfl
  | true =>
      simp only [hwhich, checked, if_true, Request.outcome, Request.after, Request.call, bind,
        StateT.bind, callExtCtrls]
      rcases h.extCtrls ⟨method, ctrls, array, regions⟩ d.handler with ⟨⟨e | u, ctrls, array⟩, s'⟩
      · rfl
      · rfl

theorem answers_createBufs (s : σ) :
    Answers h s (dispatchIoctl V h .createBufs input) (request V input .createBufs) := by
  simp only [dispatchIoctl, request]
  apply answers_wrRaw
  intro r
  apply performs_okOr
  intro q
  apply performs_okOr_map
  intro m
  exact performs_call _ _

/-- SUBSCRIBE_EVENT is like the others if its two conversions succeed. -/
theorem answers_subscribeEvent (s : σ)
    (hknown : ¬ UnknownSubscription V .subscribeEvent input) :
    Answers h s (dispatchIoctl V h .subscribeEvent input) (request V input .subscribeEvent) := by
  simp only [dispatchIoctl, request]
  refine answers_wRaw fun (event : Raw 32) rest hread => ?_
  have hevent : V.eventType (event.u32At 0) (event.u32At 4) = true := by
    by_contra hne
    exact hknown ⟨rfl, event, by rw [hread]; rfl, .inl (Bool.eq_false_iff.mpr hne)⟩
  have hflags : V.subscribeEventFlags (event.u32At 8) = true := by
    by_contra hne
    exact hknown ⟨rfl, event, by rw [hread]; rfl, .inr (Bool.eq_false_iff.mpr hne)⟩
  simp only [hevent, hflags, checked, if_true]
  exact performs_map_call (.subscribeEvent _ _ _)

/-- Otherwise it panics. -/
theorem subscribeEvent_panics (s : σ) (hunknown : UnknownSubscription V .subscribeEvent input) :
    dispatchIoctl V h .subscribeEvent input (.start s) = none := by
  obtain ⟨-, event, hread, hbad⟩ := hunknown
  obtain ⟨r, hr, rfl⟩ := Option.map_eq_some_iff.mp hread
  simp only [dispatchIoctl, wRaw, wrIoctl, wrIoctlWithErrPayload, hr]
  cases hevent : V.eventType (Raw.u32At r.1 0) (Raw.u32At r.1 4) with
  | false => rfl
  | true =>
      have hflags : V.subscribeEventFlags (Raw.u32At r.1 8) = false := by
        rcases hbad with h | h
        · rw [hevent] at h
          cases h
        · exact h
      rw [hflags]
      rfl

/-- Every ioctl, if the subscription is one that `v4l2r` knows. -/
theorem dispatch_answers {ioctl : V4l2Ioctl} (s : σ)
    (hknown : ¬ UnknownSubscription V ioctl input) :
    Answers h s (dispatchIoctl V h ioctl input) (request V input ioctl) := by
  cases ioctl with
  | querycap | gFbuf | sFbuf | overlay | expbuf | dqbuf | gEdid | sEdid | cropcap | gCrop | sCrop
  | gJpegcomp | sJpegcomp | gPriority | sPriority | gSlicedVbiCap | logStatus | dbgGRegister
  | dbgSRegister | sHwFreqSeek | dqevent | dbgGChipInfo => exact answers_invalidIoctl s
  | gStd | gAudio | gInput | gOutput | gAudout | querystd | gEncIndex | queryDvTimings =>
      exact answers_rIoctl s _
  | enumstd | enuminput | gCtrl | sCtrl | gTuner | queryctrl | querymenu | sInput | sOutput
  | enumoutput | gModulator | gFrequency | enumaudio | enumaudout | enumFramesizes
  | enumFrameintervals | encoderCmd | tryEncoderCmd | sDvTimings | gDvTimings | decoderCmd
  | tryDecoderCmd | dvTimingsCap | queryExtCtrl => exact answers_wrRaw_call
  | sStd => exact answers_wRaw fun r _ _ => performs_map_call (.sStd r)
  | sAudio => exact answers_wRaw fun r _ _ => performs_map_call (.sAudio _ _)
  | sAudout => exact answers_wRaw fun r _ _ => performs_map_call (.sAudout _)
  | unsubscribeEvent => exact answers_wRaw fun r _ _ => performs_map_call (.unsubscribeEvent r)
  | streamon =>
      exact answers_wRaw fun r _ _ => performs_map_okOr fun q => performs_map_call (.streamon q)
  | streamoff =>
      exact answers_wRaw fun r _ _ => performs_map_okOr fun q => performs_map_call (.streamoff q)
  | sTuner => exact answers_wRaw fun r _ _ => performs_map_check (performs_map_call (.sTuner _ _))
  | sModulator =>
      exact answers_wRaw fun r _ _ => performs_map_check (performs_map_call (.sModulator _ _))
  | sFrequency =>
      exact answers_wRaw fun r _ _ => performs_map_check (performs_map_call (.sFrequency _ _ _))
  | enumFmt | gFmt | sFmt | tryFmt | gParm =>
      exact answers_wrRaw fun r => performs_okOr_map fun q => performs_call _ _
  | sParm | enumDvTimings => exact answers_wrRaw fun r => performs_call _ _
  | enumFreqBands => exact answers_wrRaw fun r => performs_check (performs_call _ _)
  | gSelection => exact answers_wrRaw fun r => performs_check (performs_check (performs_call _ _))
  | sSelection =>
      exact answers_wrRaw fun r =>
        performs_check (performs_check (performs_check (performs_call _ _)))
  | createBufs => exact answers_createBufs s
  | reqbufs => exact answers_reqbufs s
  | querybuf => exact answers_querybuf s
  | qbuf => exact answers_qbuf s
  | prepareBuf => exact answers_prepareBuf s
  | gExtCtrls | sExtCtrls | tryExtCtrls =>
      simp only [dispatchIoctl, request]
      exact answers_extCtrls s _
  | subscribeEvent => exact answers_subscribeEvent s hknown

end Arms

/-- For every handler, ioctl and input: the dispatcher returns without a
panic, calls the handler once if the input is valid and not at all otherwise,
and writes one response header, followed by the payload exactly if the handler
succeeded (or the ioctl is one of the three for extended controls and the
handler was called), if and only if the input is not a subscription to an
event type or with flags that `v4l2r` does not know. -/
theorem dispatch_robust (V : V4l2rChecks) (h : Handler σ) (ioctl : V4l2Ioctl)
    (input : List UInt8) (s : σ) :
    Robust V h ioctl input s ↔ ¬ UnknownSubscription V ioctl input := by
  constructor
  · rintro ⟨out, hrun, -⟩ hunknown
    have hioctl : ioctl = .subscribeEvent := hunknown.1
    subst hioctl
    rw [subscribeEvent_panics s hunknown] at hrun
    cases hrun
  · intro hknown
    have hanswers := dispatch_answers (h := h) s hknown
    unfold Robust
    cases hreq : request V input ioctl with
    | none =>
        rw [hreq] at hanswers
        obtain ⟨e, he, hrun⟩ := hanswers
        exact ⟨_, hrun, rfl, e, he, rfl⟩
    | some r =>
        rw [hreq] at hanswers
        exact ⟨_, hanswers, rfl, rfl, rfl⟩

/-- The default methods of `VirtioMediaIoctlHandler`. -/
def unhandledIoctl : Handler Unit where
  raw _ _ := (.error enotty, ())
  buffer _ _ := (.error enotty, ())
  extCtrls c _ := ((.error enotty, c.ctrls, c.array), ())

/-- The event types of the kernel headers, and no check elsewhere. -/
def kernelEvents : V4l2rChecks where
  buffer _ _ := true
  eventType type _ := decide (1 ≤ type ∧ type ≤ 6)
  ctrlWhich _ := true
  memoryConsistency _ := true
  subscribeEventFlags _ := true
  selectionFlags _ := true
  tunerTransmissionFlags _ := true
  tunerMode _ := true
  tunerType _ := true
  audioMode _ := true
  selectionType _ := true
  selectionTarget _ := true
  parseCtrlIdAndFlags id := (id, 0)

/-- A subscription to the event type 7 panics. -/
theorem dispatch_robust_fails_unknownEvent :
    ¬ ∀ ioctl input, Robust kernelEvents unhandledIoctl ioctl input () := by
  intro h
  obtain ⟨out, hrun, -⟩ := h .subscribeEvent (7 :: List.replicate 31 0)
  have hpanics : dispatchIoctl kernelEvents unhandledIoctl .subscribeEvent
      (7 :: List.replicate 31 0) (.start ()) = none := by
    rfl
  rw [hpanics] at hrun
  cases hrun

end VirtioMedia.Device
