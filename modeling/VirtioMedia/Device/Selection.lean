import VirtioMedia.Device.Decoder

/-!
# The selection rectangles of a decoder

`g_selection` and `s_selection` of `device/src/devices/video_decoder.rs`. The
sizes that the backend reports are functions on its state: `codedSize` is that
of `stream_params`, `captureSize` that of the current format of the CAPTURE
queue.

A request comes with the position and the size of a rectangle, and
`s_selection` subtracts the position from the size. It compares the width and
the height with the coded width.
-/

namespace VirtioMedia.Device

open V4l2

/-- `struct v4l2_rect`. -/
structure V4l2Rect where
  left : Int32
  top : Int32
  width : UInt32
  height : UInt32
  deriving DecidableEq, Repr

def V4l2Rect.toRect (r : V4l2Rect) : Rect := ⟨r.left.toInt, r.top.toInt, r.width, r.height⟩

def Rect.toV4l2 (r : Rect) : V4l2Rect :=
  ⟨Int32.ofInt r.left, Int32.ofInt r.top, r.width, r.height⟩

@[simp] theorem V4l2Rect.toV4l2_toRect (r : V4l2Rect) : r.toRect.toV4l2 = r := by
  simp [V4l2Rect.toRect, Rect.toV4l2]

inductive SelectionType where
  | capture
  | output
  deriving DecidableEq, Repr

inductive SelectionTarget where
  | crop
  | cropDefault
  | cropBounds
  | nativeSize
  | compose
  | composeDefault
  | composeBounds
  | composePadded
  deriving DecidableEq, Repr

/-- The rectangle, wherever it comes from. -/
def CropRectangle.rect : CropRectangle → Rect
  | .settable r | .fromStream r => r

/-- `u32` subtraction with or without overflow checks. -/
def subU32 (checks : Bool) (a b : UInt32) : Option UInt32 :=
  if b ≤ a then some (a - b) else if checks then none else some (a - b)

/-- One side of a rectangle: an offset below zero is cut off, and the extent is
what is left of it behind the offset, up to `bound`. -/
def clampSide (checks : Bool) (bound : UInt32) (offset : Int32) (extent : UInt32) :
    Option (Int32 × UInt32) :=
  let offset := max 0 offset
  (subU32 checks extent offset.toUInt32).map fun extent => (offset, min bound extent)

namespace DecoderSession

variable {β S : Type} (captureSize codedSize : β → UInt32 × UInt32)

/-- `g_selection`. -/
def gSelection (s : DecoderSession β S) (selType : SelectionType) (selTarget : SelectionTarget) :
    Except Int V4l2Rect :=
  match selType, selTarget with
  | .capture, .cropBounds =>
    .ok ⟨0, 0, (codedSize s.backendSession).1, (codedSize s.backendSession).2⟩
  | .capture, .crop | .capture, .cropDefault | .capture, .composeDefault
  | .capture, .composeBounds | .capture, .compose => .ok s.cropRectangle.rect.toV4l2
  | _, _ => .error einval

/-- The rectangle `s_selection` stores. Both extents are bounded by the coded
width. -/
def clampRect (checks : Bool) (size : UInt32 × UInt32) (r : V4l2Rect) : Option V4l2Rect := do
  let (left, width) ← clampSide checks size.1 r.left r.width
  let (top, height) ← clampSide checks size.1 r.top r.height
  return ⟨left, top, width, height⟩

/-- `s_selection`. -/
def sSelection (checks : Bool) (s : DecoderSession β S) (selType : SelectionType)
    (selTarget : SelectionTarget) (selRect : V4l2Rect) :
    Option (Except Int V4l2Rect × DecoderSession β S) :=
  if selType = .capture ∧ selTarget = .compose then
    match s.cropRectangle with
    | .settable _ =>
      (clampRect checks (captureSize s.backendSession) selRect).map fun rect =>
        let s := { s with cropRectangle := .settable rect.toRect }
        (s.gSelection codedSize selType selTarget, s)
    | .fromStream _ => some (s.gSelection codedSize selType selTarget, s)
  else some (.error einval, s)

end DecoderSession

/-! ### Arithmetic of one side -/

theorem toInt_max_zero (x : Int32) : (max 0 x).toInt = max 0 x.toInt := by
  change (if 0 ≤ x then x else 0).toInt = if 0 ≤ x.toInt then x.toInt else 0
  simp only [Int32.le_iff_toInt_le, Int32.toInt_zero, apply_ite Int32.toInt]

/-- A number that is not negative keeps its value as a `u32`. -/
theorem toNat_toUInt32_of_nonneg {x : Int32} (h : 0 ≤ x.toInt) :
    (x.toUInt32.toNat : Int) = x.toInt := by
  change ((x.toBitVec.toNat : Nat) : Int) = x.toBitVec.toInt
  have hx : 0 ≤ x.toBitVec.toInt := h
  have hlt : x.toBitVec.toNat < 2 ^ 32 := x.toBitVec.isLt
  rw [BitVec.toInt_eq_toNat_cond] at hx ⊢
  split at hx
  · rw [if_pos ‹_›]
  · omega

/-- The offset that is subtracted. -/
def cutOffset (offset : Int32) : Nat := (max 0 offset.toInt).toNat

theorem toNat_cutOffset (offset : Int32) : (max 0 offset).toUInt32.toNat = cutOffset offset := by
  have hnonneg : 0 ≤ (max 0 offset).toInt := by
    rw [toInt_max_zero]
    exact le_max_left _ _
  have hval := toNat_toUInt32_of_nonneg hnonneg
  rw [toInt_max_zero] at hval
  unfold cutOffset
  omega

/-- What one side is clamped to, when the subtraction does not underflow. -/
theorem clampSide_some (checks : Bool) (bound : UInt32) {offset : Int32} {extent : UInt32}
    (h : cutOffset offset ≤ extent.toNat) :
    ∃ o e, clampSide checks bound offset extent = some (o, e) ∧ o.toInt = cutOffset offset ∧
      e.toNat = min bound.toNat (extent.toNat - cutOffset offset) := by
  have hle : (max 0 offset).toUInt32 ≤ extent := by
    rw [UInt32.le_iff_toNat_le, toNat_cutOffset]
    exact h
  refine ⟨max 0 offset, min bound (extent - (max 0 offset).toUInt32), ?_, ?_, ?_⟩
  · simp [clampSide, subU32, hle]
  · rw [toInt_max_zero, cutOffset]
    omega
  · have hsub : (extent - (max 0 offset).toUInt32).toNat = extent.toNat - cutOffset offset := by
      rw [UInt32.toNat_sub_of_le _ _ hle, toNat_cutOffset]
    rw [← hsub]
    change (if bound ≤ _ then bound else _).toNat = if bound.toNat ≤ _ then bound.toNat else _
    simp only [UInt32.le_iff_toNat_le, apply_ite UInt32.toNat]

/-- Checked, the subtraction panics exactly if it underflows. -/
theorem clampSide_checked (bound : UInt32) {offset : Int32} {extent : UInt32} :
    (clampSide true bound offset extent).isSome ↔ cutOffset offset ≤ extent.toNat := by
  rw [← toNat_cutOffset, ← UInt32.le_iff_toNat_le, clampSide, Option.isSome_map]
  unfold subU32
  split
  · exact iff_of_true rfl ‹_›
  · exact iff_of_false (by simp) ‹_›

/-! ### The rectangle -/

/-- The rectangle lies in a picture of this size. -/
structure V4l2Rect.Inside (r : V4l2Rect) (size : UInt32 × UInt32) : Prop where
  left : 0 ≤ r.left.toInt
  top : 0 ≤ r.top.toInt
  right : r.left.toInt + r.width.toNat ≤ size.1.toNat
  bottom : r.top.toInt + r.height.toNat ≤ size.2.toNat

/-- No offset, cut off at zero, is beyond the extent it is subtracted from. A
rectangle that begins within the picture is no wider than it. The height is no
more than that of the picture, or a square below the offset still ends in it. -/
def V4l2Rect.Fitting (r : V4l2Rect) (size : UInt32 × UInt32) : Prop :=
  cutOffset r.left ≤ r.width.toNat ∧ cutOffset r.top ≤ r.height.toNat ∧
    (cutOffset r.left = 0 ∨ r.width.toNat ≤ size.1.toNat) ∧
    (r.height.toNat ≤ size.2.toNat ∨ cutOffset r.top + size.1.toNat ≤ size.2.toNat)

instance (r : V4l2Rect) (size : UInt32 × UInt32) : Decidable (r.Fitting size) :=
  inferInstanceAs (Decidable (_ ∧ _))

namespace DecoderSession

variable {β S : Type} {captureSize codedSize : β → UInt32 × UInt32}

theorem clampRect_some (checks : Bool) (size : UInt32 × UInt32) {r : V4l2Rect}
    (hleft : cutOffset r.left ≤ r.width.toNat) (htop : cutOffset r.top ≤ r.height.toNat) :
    ∃ c, clampRect checks size r = some c ∧ c.left.toInt = cutOffset r.left ∧
      c.top.toInt = cutOffset r.top ∧
      c.width.toNat = min size.1.toNat (r.width.toNat - cutOffset r.left) ∧
      c.height.toNat = min size.1.toNat (r.height.toNat - cutOffset r.top) := by
  obtain ⟨left, width, hx, hleft, hwidth⟩ := clampSide_some checks size.1 hleft
  obtain ⟨top, height, hy, htop, hheight⟩ := clampSide_some checks size.1 htop
  refine ⟨⟨left, top, width, height⟩, ?_, hleft, htop, hwidth, hheight⟩
  simp [clampRect, hx, hy]

theorem clampRect_checked {size : UInt32 × UInt32} {r : V4l2Rect} :
    (clampRect true size r).isSome ↔
      cutOffset r.left ≤ r.width.toNat ∧ cutOffset r.top ≤ r.height.toNat := by
  rw [← clampSide_checked size.1, ← clampSide_checked size.1, clampRect]
  cases clampSide true size.1 r.left r.width with
  | none => simp
  | some x => cases clampSide true size.1 r.top r.height <;> simp

/-- A rectangle whose subtractions do not underflow is clamped into the picture
exactly if it fits. -/
theorem clampRect_inside_iff {checks : Bool} {size : UInt32 × UInt32} {r c : V4l2Rect}
    (hleft : cutOffset r.left ≤ r.width.toNat) (htop : cutOffset r.top ≤ r.height.toNat)
    (h : clampRect checks size r = some c) : c.Inside size ↔ r.Fitting size := by
  obtain ⟨c', hc, hl, ht, hw, hh⟩ := clampRect_some checks size hleft htop
  rw [h, Option.some.injEq] at hc
  subst hc
  unfold V4l2Rect.Fitting
  constructor
  · intro hin
    have hright := hin.right
    have hbottom := hin.bottom
    omega
  · rintro ⟨-, -, hx, hy⟩
    exact ⟨by omega, by omega, by omega, by omega⟩

/-- What `s_selection` does with the composition rectangle while it is
settable: no arithmetic overflows, and the rectangle it stores, which is the
one `g_selection` returns from then on, lies in the coded picture. -/
structure SelectsInside (captureSize codedSize : β → UInt32 × UInt32) (checks : Bool)
    (s : DecoderSession β S) (r : V4l2Rect) : Prop where
  inRange : (s.sSelection captureSize codedSize true .capture .compose r).isSome
  stored : ∃ c s', s.sSelection captureSize codedSize checks .capture .compose r =
      some (.ok c, s') ∧
    s'.cropRectangle = .settable c.toRect ∧ s'.gSelection codedSize .capture .compose = .ok c ∧
    c.Inside (captureSize s.backendSession)

theorem sSelection_settable {s : DecoderSession β S} {old : Rect}
    (h : s.cropRectangle = .settable old) (checks : Bool) (r : V4l2Rect) :
    s.sSelection captureSize codedSize checks .capture .compose r =
      (clampRect checks (captureSize s.backendSession) r).map fun c =>
        (.ok c, { s with cropRectangle := .settable c.toRect }) := by
  simp [sSelection, h, gSelection, CropRectangle.rect]

/-- The rectangle set by `s_selection` lies in the coded picture if and only if
the request fits. -/
theorem selection_inside (captureSize codedSize : β → UInt32 × UInt32) (checks : Bool)
    (s : DecoderSession β S) (old : Rect) (hset : s.cropRectangle = .settable old)
    (r : V4l2Rect) :
    SelectsInside captureSize codedSize checks s r ↔ r.Fitting (captureSize s.backendSession) := by
  constructor
  · intro hlaw
    have hsome := hlaw.inRange
    rw [sSelection_settable hset, Option.isSome_map, clampRect_checked] at hsome
    obtain ⟨c, s', hsel, -, -, hin⟩ := hlaw.stored
    rw [sSelection_settable hset, Option.map_eq_some_iff] at hsel
    obtain ⟨c', hc, hcs⟩ := hsel
    obtain rfl : c' = c := by
      injection (congrArg Prod.fst hcs)
    exact (clampRect_inside_iff hsome.1 hsome.2 hc).mp hin
  · intro hfit
    obtain ⟨c, hc, -⟩ := clampRect_some checks (captureSize s.backendSession)
      hfit.1 hfit.2.1
    refine ⟨?_, c, { s with cropRectangle := .settable c.toRect }, ?_, rfl, ?_, ?_⟩
    · rw [sSelection_settable hset, Option.isSome_map, clampRect_checked]
      exact ⟨hfit.1, hfit.2.1⟩
    · rw [sSelection_settable hset, hc]
      rfl
    · simp [gSelection, CropRectangle.rect]
    · exact (clampRect_inside_iff hfit.1 hfit.2.1 hc).mpr hfit

/-- A session without buffers. -/
def unset : DecoderSession Unit Unit where
  id := 0
  state := .stopped false false
  inputBuffers := []
  outputBuffers := []
  pendingOutputBuffers := []
  sequenceCpt := 0
  srcChangeSubscribed := false
  eosSubscribed := false
  cropRectangle := .settable ⟨0, 0, 0, 0⟩
  backendSession := ()
  formatChangePending := false

/-- The whole of a 640x480 picture. -/
theorem selection_inside_whole :
    SelectsInside (fun _ => (640, 480)) (fun _ => (640, 480)) true unset ⟨0, 0, 640, 480⟩ :=
  (selection_inside _ _ true unset ⟨0, 0, 0, 0⟩ rfl ⟨0, 0, 640, 480⟩).mpr (by decide)

/-- An offset beyond the size underflows, and the height of a wide picture is
not clamped. -/
theorem selection_inside_fails_wide :
    unset.sSelection (fun _ => (640, 480)) (fun _ => (640, 480)) true .capture .compose
        ⟨1, 0, 0, 480⟩ = none ∧
      ((unset.sSelection (fun _ => (640, 480)) (fun _ => (640, 480)) true .capture .compose
        ⟨0, 0, 640, 600⟩).map Prod.fst) = some (.ok ⟨0, 0, 640, 600⟩) ∧
      ¬ SelectsInside (fun _ => (640, 480)) (fun _ => (640, 480)) true unset ⟨1, 0, 0, 480⟩ ∧
      ¬ SelectsInside (fun _ => (640, 480)) (fun _ => (640, 480)) true unset ⟨0, 0, 640, 600⟩ := by
  refine ⟨by rfl, by rfl, fun h => ?_, fun h => ?_⟩
  · exact absurd h.inRange (by decide)
  · obtain ⟨c, s', hsel, -, -, hin⟩ := h.stored
    cases hsel
    exact absurd hin.bottom (by decide)

end DecoderSession

end VirtioMedia.Device
