import VirtioMedia.Device.IoctlRobust

/-!
# Sizes and refusals of the dispatcher

How many bytes of its input an ioctl reads and how many bytes its answer has,
for those whose structures have one size, and the error with which an input is
refused.
-/

namespace VirtioMedia.Device

open V4l2 Wire

/-! ### Sizes -/

/-- The size of the structure that is read. -/
def V4l2Ioctl.readSize : V4l2Ioctl → Nat
  | .enumFmt | .gSelection | .sSelection | .enumFreqBands => 64
  | .gFmt | .sFmt | .tryFmt => 208
  | .reqbufs => 20
  | .createBufs => 256
  | .streamon | .streamoff | .sInput | .sOutput => 4
  | .gParm | .sParm => 204
  | .sStd | .gCtrl | .sCtrl => 8
  | .enumstd | .enumoutput | .decoderCmd | .tryDecoderCmd => 72
  | .enuminput => 80
  | .gTuner | .sTuner => 84
  | .sAudio | .sAudout | .enumaudio | .enumaudout | .enumFrameintervals => 52
  | .queryctrl | .gModulator | .sModulator => 68
  | .querymenu | .gFrequency | .sFrequency | .enumFramesizes => 44
  | .encoderCmd | .tryEncoderCmd => 40
  | .sDvTimings | .gDvTimings => 132
  | .enumDvTimings => 148
  | .dvTimingsCap => 144
  | .subscribeEvent | .unsubscribeEvent => 32
  | .queryExtCtrl => 232
  | _ => 0

/-- The size of the structure that follows the header of the answer. -/
def V4l2Ioctl.answerSize : V4l2Ioctl → Nat
  | .gStd | .querystd => 8
  | .gAudio | .gAudout => 52
  | .gInput | .gOutput => 4
  | .gEncIndex => 2072
  | .queryDvTimings => 132
  | .streamon | .streamoff | .sStd | .sTuner | .sAudio | .sAudout | .sModulator | .sFrequency
  | .subscribeEvent | .unsubscribeEvent => 0
  | ioctl => ioctl.readSize

/-- The structures of the ioctl have one size, if it is supported. -/
def V4l2Ioctl.fixed : V4l2Ioctl → Bool
  | .querybuf | .qbuf | .prepareBuf | .gExtCtrls | .sExtCtrls | .tryExtCtrls => false
  | _ => true

/-- The ioctl is answered with `ENOTTY`. -/
def V4l2Ioctl.unsupported : V4l2Ioctl → Bool
  | .querycap | .gFbuf | .sFbuf | .overlay | .expbuf | .dqbuf | .gEdid | .sEdid | .cropcap
  | .gCrop | .sCrop | .gJpegcomp | .sJpegcomp | .gPriority | .sPriority | .gSlicedVbiCap
  | .logStatus | .dbgGRegister | .dbgSRegister | .sHwFreqSeek | .dqevent | .dbgGChipInfo => true
  | _ => false

/-- The error for an input that requests nothing. -/
def V4l2Ioctl.refusal (ioctl : V4l2Ioctl) : Int := if ioctl.unsupported then enotty else einval

/-- The answer to the request has `n` bytes, whatever the handler returns. -/
def Request.Sized (n : Nat) : Request → Prop
  | .raw _ payload => ∀ o, (payload o).length = n
  | _ => False

/-- The input requests nothing, or something with an answer of `n` bytes. -/
def SizedAnswer (n : Nat) (r : Option Request) : Prop := ∀ q, r = some q → q.Sized n

namespace SizedAnswer

variable {n : Nat}

theorem none : SizedAnswer n none := fun _ h => by cases h

theorem some {q : Request} (h : q.Sized n) : SizedAnswer n (some q) := by
  intro q' hq'
  cases hq'
  exact h

theorem plain {c : HandlerCall} (h : c.outSize = n) : SizedAnswer n (Option.some (.plain c)) :=
  .some fun o => h ▸ o.length_toList

theorem patched {c : HandlerCall} {f : Raw c.outSize → Raw n} :
    SizedAnswer n (Option.some (.raw c fun o => (f o).toList)) :=
  .some fun o => (f o).length_toList

theorem map {α : Type} {o : Option α} {f : α → Request}
    (h : ∀ a, SizedAnswer n (Option.some (f a))) : SizedAnswer n (o.map f) := by
  cases o with
  | none => exact .none
  | some a => exact h a

theorem bind {α : Type} {o : Option α} {f : α → Option Request}
    (h : ∀ a, SizedAnswer n (f a)) : SizedAnswer n (o.bind f) := by
  cases o with
  | none => exact .none
  | some a => exact h a

theorem checked {ok : Bool} {r : Option Request} (h : SizedAnswer n r) :
    SizedAnswer n (Device.checked ok r) := by
  cases ok with
  | false => exact .none
  | true => exact h

theorem fromRaw {k : Nat} {input : List UInt8} {f : Raw k → Option Request}
    (h : ∀ r, SizedAnswer n (f r)) : SizedAnswer n (Device.fromRaw k input f) :=
  .bind fun r => h r.1

end SizedAnswer

section Sizes

variable {V : V4l2rChecks} {input : List UInt8}

theorem request_sized {ioctl : V4l2Ioctl} (h : ioctl.fixed = true) :
    SizedAnswer ioctl.answerSize (request V input ioctl) := by
  cases ioctl with
  | querybuf | qbuf | prepareBuf | gExtCtrls | sExtCtrls | tryExtCtrls => cases h
  | gStd | gAudio | gInput | gOutput | gAudout | querystd | gEncIndex | queryDvTimings =>
      exact .plain rfl
  | sStd | sAudio | sAudout | unsubscribeEvent | enumstd | enuminput | gCtrl | sCtrl | gTuner
  | queryctrl | querymenu | sInput | sOutput | enumoutput | gModulator | gFrequency | enumaudio
  | enumaudout | enumFramesizes | enumFrameintervals | encoderCmd | tryEncoderCmd | sDvTimings
  | gDvTimings | decoderCmd | tryDecoderCmd | dvTimingsCap | queryExtCtrl =>
      simp only [request]
      exact .fromRaw fun _ => .plain rfl
  | streamon | streamoff | enumFmt | gFmt | sFmt | tryFmt =>
      simp only [request]
      exact .fromRaw fun _ => .map fun _ => .plain rfl
  | gParm =>
      simp only [request]
      exact .fromRaw fun _ => .map fun _ => .patched
  | sParm | enumDvTimings =>
      simp only [request]
      exact .fromRaw fun _ => .patched
  | sTuner | sModulator | sFrequency | enumFreqBands =>
      simp only [request]
      exact .fromRaw fun _ => .checked (.plain rfl)
  | subscribeEvent =>
      simp only [request]
      exact .fromRaw fun _ => .checked (.checked (.plain rfl))
  | gSelection =>
      simp only [request]
      exact .fromRaw fun _ => .checked (.checked .patched)
  | sSelection =>
      simp only [request]
      exact .fromRaw fun _ => .checked (.checked (.checked .patched))
  | createBufs =>
      simp only [request]
      exact .fromRaw fun _ => .bind fun _ => .map fun _ => .plain rfl
  | reqbufs =>
      simp only [request]
      exact .fromRaw fun _ => .bind fun _ => .bind fun _ => .checked (.checked (.plain rfl))
  | _ => exact .none

theorem request_unsupported {ioctl : V4l2Ioctl} (h : ioctl.unsupported = true) :
    request V input ioctl = none := by
  cases ioctl <;> first | rfl | cases h

end Sizes

/-! ### Refusals -/

section Refusals

variable {σ I : Type} {h : Handler σ} {V : V4l2rChecks} {input : List UInt8}

/-- A body that makes no call returns `EINVAL`. -/
theorem refuses_wrIoctlWithErrPayload {s : σ} {read : List UInt8 → Option (I × List UInt8)}
    {process : I → DispatchM σ (Except (Int × Option (List UInt8)) (List UInt8))}
    {req : I → Option Request}
    (hp : ∀ i rest, read input = some (i, rest) → Serves h (process i) (req i))
    (hnone : ((read input).bind fun r => req r.1) = none) :
    wrIoctlWithErrPayload read input process (.start s) =
      some ((), ⟨s, [], respHeader einval⟩) := by
  unfold wrIoctlWithErrPayload
  cases hread : read input with
  | none => rfl
  | some r =>
      rw [hread] at hnone
      have hserves := hp r.1 r.2 hread (.start s)
      have hreq : req r.1 = none := hnone
      rw [hreq] at hserves
      simp only [bind, StateT.bind, hserves]
      rfl

theorem refuses_wrRaw {n : Nat} {s : σ} {process : Raw n → Process σ (List UInt8)}
    {req : Raw n → Option Request} (hp : ∀ r, Performs h (process r) (req r))
    (hnone : fromRaw n input req = none) :
    wrRaw n input process (.start s) = some ((), ⟨s, [], respHeader einval⟩) :=
  refuses_wrIoctlWithErrPayload (fun i _ _ => hp i) hnone

theorem refuses_wRaw {n : Nat} {s : σ} {process : Raw n → Process σ (Raw 0)}
    {req : Raw n → Option Request}
    (hp : ∀ r rest, (Codec.bytes n).read input = some (r, rest) →
      Performs h ((·.toList) <$> process r) (req r))
    (hnone : fromRaw n input req = none) :
    wRaw n input process (.start s) = some ((), ⟨s, [], respHeader einval⟩) :=
  refuses_wrIoctlWithErrPayload hp hnone

/-- The refusal is `EINVAL` for an ioctl that is supported, and `ENOTTY` for
another one. -/
theorem dispatch_refuses {ioctl : V4l2Ioctl} (hfixed : ioctl.fixed = true) (s : σ)
    (hknown : ¬ UnknownSubscription V ioctl input) (hnone : request V input ioctl = none) :
    dispatchIoctl V h ioctl input (.start s) =
      some ((), ⟨s, [], respHeader ioctl.refusal⟩) := by
  cases ioctl with
  | querybuf | qbuf | prepareBuf | gExtCtrls | sExtCtrls | tryExtCtrls => cases hfixed
  | querycap | gFbuf | sFbuf | overlay | expbuf | dqbuf | gEdid | sEdid | cropcap | gCrop | sCrop
  | gJpegcomp | sJpegcomp | gPriority | sPriority | gSlicedVbiCap | logStatus | dbgGRegister
  | dbgSRegister | sHwFreqSeek | dqevent | dbgGChipInfo => rfl
  | gStd | gAudio | gInput | gOutput | gAudout | querystd | gEncIndex | queryDvTimings =>
      cases hnone
  | enumstd | enuminput | gCtrl | sCtrl | gTuner | queryctrl | querymenu | sInput | sOutput
  | enumoutput | gModulator | gFrequency | enumaudio | enumaudout | enumFramesizes
  | enumFrameintervals | encoderCmd | tryEncoderCmd | sDvTimings | gDvTimings | decoderCmd
  | tryDecoderCmd | dvTimingsCap | queryExtCtrl | sParm | enumDvTimings =>
      exact refuses_wrRaw (fun r => performs_call _ _) hnone
  | sStd | sAudio | sAudout | unsubscribeEvent =>
      exact refuses_wRaw (fun r _ _ => performs_map_call _) hnone
  | streamon | streamoff =>
      exact refuses_wRaw (fun r _ _ => performs_map_okOr fun q => performs_map_call _) hnone
  | sTuner | sModulator | sFrequency =>
      exact refuses_wRaw (fun r _ _ => performs_map_check (performs_map_call _)) hnone
  | enumFmt | gFmt | sFmt | tryFmt | gParm =>
      exact refuses_wrRaw (fun r => performs_okOr_map fun q => performs_call _ _) hnone
  | enumFreqBands => exact refuses_wrRaw (fun r => performs_check (performs_call _ _)) hnone
  | gSelection =>
      exact refuses_wrRaw (fun r => performs_check (performs_check (performs_call _ _))) hnone
  | sSelection =>
      exact refuses_wrRaw
        (fun r => performs_check (performs_check (performs_check (performs_call _ _)))) hnone
  | createBufs =>
      simp only [dispatchIoctl, request] at hnone ⊢
      refine refuses_wrRaw (h := h) (fun r => ?_) hnone
      exact performs_okOr fun q => performs_okOr_map fun m => performs_call _ _
  | reqbufs =>
      simp only [dispatchIoctl, request] at hnone ⊢
      refine refuses_wrRaw (h := h) (fun r => ?_) hnone
      refine performs_okOr fun q => performs_okOr fun m => performs_check ?_
      cases m with
      | mmap | userPtr => exact performs_call _ _
      | overlay | dmaBuf => exact fun d => rfl
  | subscribeEvent =>
      -- both conversions succeed, so the input is too short
      cases hread : (Codec.bytes 32).read input with
      | none => simp only [dispatchIoctl, wRaw, wrIoctl, wrIoctlWithErrPayload, hread]; rfl
      | some r =>
          obtain ⟨event, rest⟩ := r
          simp only [UnknownSubscription, true_and, hread, Option.map_some, Option.some.injEq,
            exists_eq_left', not_or, Bool.not_eq_false] at hknown
          simp only [request, fromRaw, hread, Option.bind_some, hknown, checked, if_true] at hnone
          cases hnone

end Refusals

end VirtioMedia.Device
