import VirtioMedia.Device.BackendKeeps
import VirtioMedia.Device.Selection

/-!
# The formats of a decoder

`g_fmt`, `try_fmt` and `s_fmt` of `device/src/devices/video_decoder.rs`. The
backend adjusts a requested format, applies it and reports the current one; the
device puts the colorspace of the session into what the backend answers. On the
OUTPUT queue a request may bring its own colorspace.

The enumerations of the colorspace are those of `v4l2r`, with their numbers.
-/

namespace VirtioMedia.Device

open V4l2 Fallible

/-! ### Types of `v4l2r` -/

/-- `v4l2_plane_pix_format`. -/
structure PlanePixFormat where
  sizeimage : UInt32
  bytesperline : UInt32
  deriving DecidableEq, Repr, Inhabited

/-- `v4l2_pix_format_mplane`. -/
structure PixFormatMplane where
  width : UInt32
  height : UInt32
  pixelformat : UInt32
  field : UInt32
  colorspace : UInt32
  planeFmt : Vector PlanePixFormat 8
  numPlanes : UInt8
  flags : UInt8
  ycbcrEnc : UInt8
  quantization : UInt8
  xferFunc : UInt8
  deriving DecidableEq, Repr

/-- `V4l2MplaneFormat`. -/
structure V4l2MplaneFormat where
  direction : QueueDirection
  pixMp : PixFormatMplane
  deriving DecidableEq, Repr

/-- An enumeration with the numbers of its variants, `n`, and the variant that
the accessor of a format answers for a number. -/
structure FormatEnum where
  Val : Type
  code : Val → UInt32
  n : UInt32 → Option Val
  get : UInt32 → Val
  n_code : ∀ v, n (code v) = some v
  get_code : ∀ v, get (code v) = v

/-- An enumeration whose numbers are stored in a byte. -/
structure ByteEnum extends FormatEnum where
  fits : ∀ v, (code v).toUInt8.toUInt32 = code v

/-- `Colorspace`, `XferFunc`, `YCbCrEncoding` and `Quantization`, with the
variants that the device names. -/
structure FormatEnums where
  colorspace : FormatEnum
  xferFunc : ByteEnum
  ycbcrEnc : ByteEnum
  quantization : ByteEnum
  rec709 : colorspace.Val
  none : xferFunc.Val
  e709 : ycbcrEnc.Val
  limRange : quantization.Val

theorem toNat_ofNat_fin {last : Nat} (hlast : last < 256) (v : Fin (last + 1)) :
    (UInt32.ofNat v).toNat = v :=
  UInt32.toNat_ofNat_of_lt' (by simp only [UInt32.size]; omega)

/-- The enumeration of the numbers from 0 to `last`. -/
def ByteEnum.upTo (last : Nat) (hlast : last < 256) : ByteEnum where
  Val := Fin (last + 1)
  code v := .ofNat v
  n x := if h : x.toNat < last + 1 then some ⟨x.toNat, h⟩ else none
  get x := if h : x.toNat < last + 1 then ⟨x.toNat, h⟩ else 0
  n_code v := by
    have hv := toNat_ofNat_fin hlast v
    have hlt : (UInt32.ofNat v).toNat < last + 1 := hv.trans_lt v.isLt
    exact (dif_pos hlt).trans (congrArg some (Fin.ext hv))
  get_code v := by
    have hv := toNat_ofNat_fin hlast v
    have hlt : (UInt32.ofNat v).toNat < last + 1 := hv.trans_lt v.isLt
    exact (dif_pos hlt).trans (Fin.ext hv)
  fits v := by
    rw [← UInt32.toNat_inj, UInt8.toNat_toUInt32, UInt32.toNat_toUInt8, toNat_ofNat_fin hlast]
    exact Nat.mod_eq_of_lt (by omega)

/-- The enumerations with the numbers of the kernel. -/
def kernelEnums : FormatEnums where
  colorspace := (ByteEnum.upTo 12 (by decide)).toFormatEnum
  xferFunc := .upTo 7 (by decide)
  ycbcrEnc := .upTo 8 (by decide)
  quantization := .upTo 2 (by decide)
  rec709 := (3 : Fin 13)
  none := (5 : Fin 8)
  e709 := (2 : Fin 9)
  limRange := (2 : Fin 3)

/-- `V4l2FormatColorspace`. -/
structure V4l2FormatColorspace (E : FormatEnums) where
  colorspace : E.colorspace.Val
  xferFunc : E.xferFunc.Val
  ycbcrEnc : E.ycbcrEnc.Val
  quantization : E.quantization.Val

namespace V4l2FormatColorspace

variable {E : FormatEnums}

def default : V4l2FormatColorspace E := ⟨E.rec709, E.none, E.e709, E.limRange⟩

def apply (c : V4l2FormatColorspace E) (pixMp : PixFormatMplane) : PixFormatMplane :=
  { pixMp with
    colorspace := E.colorspace.code c.colorspace
    ycbcrEnc := (E.ycbcrEnc.code c.ycbcrEnc).toUInt8
    quantization := (E.quantization.code c.quantization).toUInt8
    xferFunc := (E.xferFunc.code c.xferFunc).toUInt8 }

/-- What a request says about the colorspace, or else the session. -/
def requested (c : V4l2FormatColorspace E) (pixMp : PixFormatMplane) : V4l2FormatColorspace E where
  colorspace := (E.colorspace.n pixMp.colorspace).getD c.colorspace
  xferFunc := (E.xferFunc.n pixMp.xferFunc.toUInt32).getD c.xferFunc
  ycbcrEnc := (E.ycbcrEnc.n pixMp.ycbcrEnc.toUInt32).getD c.ycbcrEnc
  quantization := (E.quantization.n pixMp.quantization.toUInt32).getD c.quantization

/-- The colorspace that the accessors of a format answer. -/
def ofFormat (pixMp : PixFormatMplane) : V4l2FormatColorspace E where
  colorspace := E.colorspace.get pixMp.colorspace
  xferFunc := E.xferFunc.get pixMp.xferFunc.toUInt32
  ycbcrEnc := E.ycbcrEnc.get pixMp.ycbcrEnc.toUInt32
  quantization := E.quantization.get pixMp.quantization.toUInt32

/-- A colorspace that was applied is the one that the accessors answer. -/
@[simp] theorem ofFormat_apply (c : V4l2FormatColorspace E) (pixMp : PixFormatMplane) :
    ofFormat (c.apply pixMp) = c := by
  simp only [ofFormat, apply, ByteEnum.fits, FormatEnum.get_code]

/-- And the one that is requested by the format, in any session. -/
@[simp] theorem requested_apply (c c' : V4l2FormatColorspace E) (pixMp : PixFormatMplane) :
    c'.requested (c.apply pixMp) = c := by
  simp only [requested, apply, ByteEnum.fits, FormatEnum.n_code, Option.getD_some]

end V4l2FormatColorspace

/-! ### Format calls -/

theorem QueueType.eq_of_isMultiplanar {queue : QueueType} (h : queue.isMultiplanar = true) :
    queue = .videoOutputMplane ∨ queue = .videoCaptureMplane := by
  cases queue <;> first | exact .inl rfl | exact .inr rfl | cases h

/-- The format methods of `VideoDecoderBackend`, with the `current_format` of
its session. -/
structure FormatBackend (β : Type) where
  currentFormat : β → QueueDirection → PixFormatMplane
  adjustFormat : β → QueueDirection → PixFormatMplane → PixFormatMplane
  applyFormat : β → QueueDirection → PixFormatMplane → β

/-- `VideoDecoderSession` with the colorspace of its format. -/
structure FormatSession (E : FormatEnums) (β S : Type) extends DecoderSession β S where
  colorspace : V4l2FormatColorspace E

namespace FormatSession

variable {E : FormatEnums} {β S : Type} (F : FormatBackend β)

/-- `current_format`. -/
def currentFormat (s : FormatSession E β S) (direction : QueueDirection) : V4l2MplaneFormat :=
  ⟨direction, s.colorspace.apply (F.currentFormat s.backendSession direction)⟩

/-- The colorspace that is put into an adjusted format. -/
def tryColorspace (s : FormatSession E β S) (direction : QueueDirection)
    (pixMp : PixFormatMplane) : V4l2FormatColorspace E :=
  match direction with
  | .output => s.colorspace.requested pixMp
  | .capture => s.colorspace

/-- The adjusted format. -/
def adjusted (s : FormatSession E β S) (direction : QueueDirection) (pixMp : PixFormatMplane) :
    PixFormatMplane :=
  (s.tryColorspace direction pixMp).apply (F.adjustFormat s.backendSession direction pixMp)

/-- `try_format`. -/
def tryFormat (s : FormatSession E β S) (queue : QueueType) (pixMp : PixFormatMplane) :
    Except Int V4l2MplaneFormat :=
  if !queue.isMultiplanar then .error einval
  else .ok ⟨queue.direction, s.adjusted F queue.direction pixMp⟩

/-- `g_fmt`. -/
def gFmt (s : FormatSession E β S) (queue : QueueType) : Except Int V4l2MplaneFormat :=
  if !queue.isMultiplanar then .error einval else .ok (s.currentFormat F queue.direction)

/-- `try_fmt`. -/
def tryFmt (s : FormatSession E β S) (queue : QueueType) (pixMp : PixFormatMplane) :
    Except Int V4l2MplaneFormat × FormatSession E β S := (s.tryFormat F queue pixMp, s)

/-- What `s_fmt` does with the adjusted format. -/
def setFormat (s : FormatSession E β S) (format : V4l2MplaneFormat) : FormatSession E β S :=
  { s with
    backendSession := F.applyFormat s.backendSession format.direction format.pixMp
    colorspace := match format.direction with
      | .output => .ofFormat format.pixMp
      | .capture => s.colorspace
    cropRectangle := match s.cropRectangle with
      | .settable _ => .settable ⟨0, 0, format.pixMp.width, format.pixMp.height⟩
      | .fromStream rect => .fromStream rect }

/-- `s_fmt`. -/
def sFmt (s : FormatSession E β S) (queue : QueueType) (pixMp : PixFormatMplane) :
    Except Int V4l2MplaneFormat × FormatSession E β S :=
  match s.tryFormat F queue pixMp with
  | .error e => (.error e, s)
  | .ok format => (.ok format, s.setFormat F format)

/-- The three calls agree on a request: `s_fmt` answers what `try_fmt` does, the
format is then the current one, and `try_fmt` does not change it any more, nor
the session. -/
structure FormatsAgree (s : FormatSession E β S) (queue : QueueType) (pixMp : PixFormatMplane) :
    Prop where
  set : (s.sFmt F queue pixMp).1 = (s.tryFmt F queue pixMp).1
  get : (s.sFmt F queue pixMp).2.gFmt F queue = (s.sFmt F queue pixMp).1
  unchanged : (s.tryFmt F queue pixMp).2 = s
  again : ∀ format, (s.tryFmt F queue pixMp).1 = .ok format →
    ((s.tryFmt F queue pixMp).2.tryFmt F queue format.pixMp).1 = .ok format

variable {F}

theorem tryColorspace_adjusted (s : FormatSession E β S) (direction : QueueDirection)
    (pixMp : PixFormatMplane) : s.tryColorspace direction (s.adjusted F direction pixMp) =
      s.tryColorspace direction pixMp := by
  cases direction with
  | output => exact V4l2FormatColorspace.requested_apply _ _ _
  | capture => rfl

theorem setFormat_colorspace (s : FormatSession E β S) (direction : QueueDirection)
    (pixMp : PixFormatMplane) :
    (s.setFormat F ⟨direction, s.adjusted F direction pixMp⟩).colorspace =
      s.tryColorspace direction pixMp := by
  cases direction with
  | output => exact V4l2FormatColorspace.ofFormat_apply _ _
  | capture => rfl

/-- On a queue of another kind all calls fail. -/
theorem formatsAgree_of_not_multiplanar (s : FormatSession E β S) {queue : QueueType}
    (hq : queue.isMultiplanar = false) (pixMp : PixFormatMplane) :
    s.FormatsAgree F queue pixMp := by
  have htry (p : PixFormatMplane) : s.tryFormat F queue p = .error einval := by
    rw [tryFormat, hq]
    rfl
  have hset : s.sFmt F queue pixMp = (.error einval, s) := by
    rw [sFmt, htry]
  refine ⟨?_, ?_, rfl, fun format hformat => ?_⟩
  · rw [hset, tryFmt, htry]
  · rw [hset, gFmt, hq]
    rfl
  · rw [tryFmt, htry] at hformat
    cases hformat

/-- The calls agree if the backend reports what it was given to apply, and
adjusts nothing of what it has adjusted, the colorspace apart. -/
theorem formatsAgree_iff (s : FormatSession E β S) {queue : QueueType}
    (hq : queue.isMultiplanar = true) (pixMp : PixFormatMplane) :
    s.FormatsAgree F queue pixMp ↔
      (s.tryColorspace queue.direction pixMp).apply (F.currentFormat
        (F.applyFormat s.backendSession queue.direction (s.adjusted F queue.direction pixMp))
        queue.direction) = s.adjusted F queue.direction pixMp ∧
      (s.tryColorspace queue.direction pixMp).apply (F.adjustFormat s.backendSession
        queue.direction (s.adjusted F queue.direction pixMp)) =
          s.adjusted F queue.direction pixMp := by
  have htry (p : PixFormatMplane) : s.tryFormat F queue p =
      .ok ⟨queue.direction, s.adjusted F queue.direction p⟩ := by
    rw [tryFormat, hq]
    rfl
  have hset : s.sFmt F queue pixMp = (.ok ⟨queue.direction, s.adjusted F queue.direction pixMp⟩,
      s.setFormat F ⟨queue.direction, s.adjusted F queue.direction pixMp⟩) := by
    rw [sFmt, htry]
  have hget : (s.setFormat F ⟨queue.direction, s.adjusted F queue.direction pixMp⟩).gFmt F queue =
      .ok ⟨queue.direction, (s.tryColorspace queue.direction pixMp).apply (F.currentFormat
        (F.applyFormat s.backendSession queue.direction (s.adjusted F queue.direction pixMp))
        queue.direction)⟩ := by
    rw [gFmt, hq, currentFormat, setFormat_colorspace]
    rfl
  have hagain : s.adjusted F queue.direction (s.adjusted F queue.direction pixMp) =
      (s.tryColorspace queue.direction pixMp).apply (F.adjustFormat s.backendSession
        queue.direction (s.adjusted F queue.direction pixMp)) := by
    rw [adjusted, tryColorspace_adjusted]
  constructor
  · intro h
    have hgot := h.get
    have hadjusted := h.again _ (htry pixMp)
    rw [hset, hget] at hgot
    rw [tryFmt, tryFmt, htry, hagain] at hadjusted
    exact ⟨congrArg V4l2MplaneFormat.pixMp (Except.ok.inj hgot),
      congrArg V4l2MplaneFormat.pixMp (Except.ok.inj hadjusted)⟩
  · rintro ⟨hcurrent, hadjust⟩
    refine ⟨?_, ?_, rfl, fun format hformat => ?_⟩
    · rw [hset, tryFmt, htry]
    · rw [hset, hget, hcurrent]
    · rw [tryFmt, htry] at hformat
      cases hformat
      rw [tryFmt, tryFmt, htry, hagain, hadjust]

end FormatSession

/-! ### The device -/

/-- The device and its open sessions. -/
structure FormatDecoder (E : FormatEnums) (β S : Type) where
  device : VideoDecoder
  sessions : UInt32 → Option (FormatSession E β S)

/-- An action on the device, with its format and selection ioctls. -/
inductive FormatAction (β : Type) where
  | openSession (sessionId : UInt32) (answer : Except Int β)
  | closeSession (sessionId : UInt32)
  | munmap (guestAddr : UInt64)
  | call (sessionId : UInt32) (c : DecoderCall)
  | sFmt (sessionId : UInt32) (queue : QueueType) (pixMp : PixFormatMplane)
  | tryFmt (sessionId : UInt32) (queue : QueueType) (pixMp : PixFormatMplane)
  | sSelection (sessionId : UInt32) (selType : SelectionType) (selTarget : SelectionTarget)
      (selRect : V4l2Rect)

/-- The action with what the backend answers to a new session. -/
def FormatAction.map {α β : Type} (f : Except Int α → Except Int β) :
    FormatAction α → FormatAction β
  | .openSession sessionId answer => .openSession sessionId (f answer)
  | .closeSession sessionId => .closeSession sessionId
  | .munmap guestAddr => .munmap guestAddr
  | .call sessionId c => .call sessionId c
  | .sFmt sessionId queue pixMp => .sFmt sessionId queue pixMp
  | .tryFmt sessionId queue pixMp => .tryFmt sessionId queue pixMp
  | .sSelection sessionId selType selTarget selRect =>
    .sSelection sessionId selType selTarget selRect

namespace FormatDecoder

variable {E : FormatEnums} {β S : Type}

def init : FormatDecoder E β S := ⟨⟨.init, []⟩, fun _ => none⟩

def setSession (s : FormatDecoder E β S) (sessionId : UInt32) (v : Option (FormatSession E β S)) :
    FormatDecoder E β S :=
  { s with sessions := fun i => if i = sessionId then v else s.sessions i }

/-- A call on an open session, by the state that it leaves; on another one
nothing happens. -/
def onSession (s : FormatDecoder E β S) (sessionId : UInt32)
    (f : FormatSession E β S → Option (VideoDecoder × FormatSession E β S)) :
    Option (FormatDecoder E β S) :=
  match s.sessions sessionId with
  | none => some s
  | some session => (f session).map fun r =>
      { s with device := r.1 }.setSession sessionId (some r.2)

/-- One action on the device. `codedSize` is that of `stream_params`. A panic
leaves no state. -/
def step (B : DecoderBackend β S) (F : FormatBackend β) (codedSize : β → UInt32 × UInt32)
    (checks : Bool) (s : FormatDecoder E β S) : FormatAction β → Option (FormatDecoder E β S)
  | .openSession sessionId answer =>
    match s.sessions sessionId, answer with
    | none, .ok b => some (s.setSession sessionId (some ⟨.new sessionId b, .default⟩))
    | _, _ => some s
  | .closeSession sessionId =>
    match s.sessions sessionId with
    | none => some s
    | some session =>
      some ({ s with device := s.device.closeSession session.toDecoderSession }.setSession
        sessionId none)
  | .munmap guestAddr => some { s with device := (s.device.doMunmap guestAddr).2 }
  | .call sessionId c =>
    s.onSession sessionId fun session =>
      (s.device.call B checks session.toDecoderSession c).toOption.map fun r =>
        (r.1, { session with toDecoderSession := r.2 })
  | .sFmt sessionId queue pixMp =>
    s.onSession sessionId fun session => some (s.device, (session.sFmt F queue pixMp).2)
  | .tryFmt sessionId queue pixMp =>
    s.onSession sessionId fun session => some (s.device, (session.tryFmt F queue pixMp).2)
  | .sSelection sessionId selType selTarget selRect =>
    s.onSession sessionId fun session =>
      let captureSize b := ((F.currentFormat b .capture).width, (F.currentFormat b .capture).height)
      (session.toDecoderSession.sSelection captureSize codedSize checks selType selTarget
        selRect).map fun r => (s.device, { session with toDecoderSession := r.2 })

end FormatDecoder

/-! ### What the actions keep of the backend -/

theorem sSelection_backendSession {β S : Type} {captureSize codedSize : β → UInt32 × UInt32}
    {checks : Bool} {s : DecoderSession β S} {selType : SelectionType}
    {selTarget : SelectionTarget} {selRect : V4l2Rect}
    {r : Except Int V4l2Rect × DecoderSession β S}
    (h : s.sSelection captureSize codedSize checks selType selTarget selRect = some r) :
    r.2.backendSession = s.backendSession := by
  unfold DecoderSession.sSelection at h
  split at h
  · split at h
    · obtain ⟨rect, -, rfl⟩ := Option.map_eq_some_iff.mp h
      rfl
    · cases h
      rfl
  · cases h
    rfl

namespace FormatDecoder

variable {E : FormatEnums} {β S : Type} {B : DecoderBackend β S} {F : FormatBackend β}
  {codedSize : β → UInt32 × UInt32} {checks : Bool} {P : β → Prop}

/-- The backend session of every open session has the property. -/
def All (P : β → Prop) (s : FormatDecoder E β S) : Prop :=
  ∀ i session, s.sessions i = some session → P session.backendSession

theorem All.setSession {s : FormatDecoder E β S} (hs : s.All P) {i : UInt32}
    {v : Option (FormatSession E β S)} (hv : ∀ session ∈ v, P session.backendSession) :
    (s.setSession i v).All P := by
  intro j session hj
  simp only [FormatDecoder.setSession] at hj
  split at hj
  · exact hv session hj
  · exact hs j session hj

theorem All.onSession {s s' : FormatDecoder E β S} (hs : s.All P) {i : UInt32}
    {f : FormatSession E β S → Option (VideoDecoder × FormatSession E β S)}
    (hf : ∀ session r, P session.backendSession → f session = some r → P r.2.backendSession)
    (h : s.onSession i f = some s') : s'.All P := by
  unfold FormatDecoder.onSession at h
  split at h
  · cases h
    exact hs
  · next session hsession =>
      obtain ⟨r, hr, rfl⟩ := Option.map_eq_some_iff.mp h
      refine All.setSession (fun j => hs j) fun session' hsession' => ?_
      cases hsession'
      exact hf session r (hs i session hsession) hr

/-- An action that opens a session gets a backend session with the property. -/
def Opens (P : β → Prop) : FormatAction β → Prop
  | .openSession _ (.ok b) => P b
  | _ => True

theorem All.step (hB : B.Keeps P)
    (hF : ∀ b direction pixMp, P b → P (F.applyFormat b direction pixMp))
    {s s' : FormatDecoder E β S} {a : FormatAction β} (hs : s.All P) (ha : Opens P a)
    (h : s.step B F codedSize checks a = some s') : s'.All P := by
  cases a with
  | openSession i answer =>
      simp only [FormatDecoder.step] at h
      split at h
      · next b _ =>
          cases h
          refine hs.setSession fun session hsession => ?_
          cases hsession
          exact ha
      · cases h
        exact hs
  | closeSession i =>
      simp only [FormatDecoder.step] at h
      split at h
      · cases h
        exact hs
      · cases h
        exact All.setSession (fun j => hs j) fun session hsession => by cases hsession
  | munmap guestAddr =>
      cases h
      exact fun j => hs j
  | call i c =>
      refine hs.onSession (fun session r hsession hr => ?_) h
      obtain ⟨r', hr', rfl⟩ := Option.map_eq_some_iff.mp hr
      exact hB.call hsession (toOption_eq_some.mp hr')
  | sFmt i queue pixMp =>
      refine hs.onSession (fun session r hsession hr => ?_) h
      cases hr
      unfold FormatSession.sFmt
      split
      · exact hsession
      · exact hF _ _ _ hsession
  | tryFmt i queue pixMp =>
      refine hs.onSession (fun session r hsession hr => ?_) h
      cases hr
      exact hsession
  | sSelection i selType selTarget selRect =>
      refine hs.onSession (fun session r hsession hr => ?_) h
      obtain ⟨r', hr', rfl⟩ := Option.map_eq_some_iff.mp hr
      rw [sSelection_backendSession hr']
      exact hsession

end FormatDecoder

end VirtioMedia.Device
