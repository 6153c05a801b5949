import VirtioMedia.Ffmpeg.BuildOwned
import VirtioMedia.Ffmpeg.Formats

/-!
# The size of a CAPTURE buffer

`into_v4l2_pix_format` computes the advertised size with the line size of the
first plane for both planes, and `try_output_frame` lays out the frame with the
line size of each. For an odd width a line of the second plane is one byte
longer, so the frame does not fit.
-/

namespace VirtioMedia.Ffmpeg

open V4l2 Device

variable {κ : Type}

/-- What libavutil answers for NV12: a line of chroma has a pair of bytes for every
two pixels, and there is one for every two lines. -/
structure Nv12 (W : World κ) : Prop where
  luma : ∀ width : UInt32, width.toNat < 2 ^ 31 → W.lineSize W.nv12 width 0 = width.toNat
  chroma : ∀ width : UInt32, width.toNat < 2 ^ 31 →
    W.lineSize W.nv12 width 1 = 2 * ((width.toNat + 1) / 2)
  sizes : ∀ l₀ l₁ height : UInt32, height.toNat < 2 ^ 31 →
    W.planeSizes W.nv12 [l₀, l₁] height =
      [l₀.toNat * height.toNat, l₁.toNat * ((height.toNat + 1) / 2)]

/-- The sizes for which nothing overflows: those that an `int` can hold, and whose
frames are smaller than `2^32`. -/
structure NoOverflow (size : UInt32 × UInt32) : Prop where
  width : size.1.toNat < 2 ^ 31
  height : size.2.toNat < 2 ^ 31
  sum : size.1.toNat * size.2.toNat + size.1.toNat * ((size.2.toNat + 1) / 2) < 2 ^ 32

variable (W : World κ)

/-- The number of bytes that `try_output_frame` reports. -/
def bytesUsed (size : UInt32 × UInt32) : UInt32 :=
  .ofNat (W.planeSizes W.nv12 [size.1, size.1] size.2).sum

/-- The planes of the destination frame. -/
def dstPlanes (size : UInt32 × UInt32) : List PlaneDescriptor :=
  [⟨0, 0, W.lineSize W.nv12 size.1 0⟩,
    ⟨0, (W.planeSizes W.nv12 [size.1, size.1] size.2).headD 0, W.lineSize W.nv12 size.1 1⟩]

/-- A buffer of the advertised size takes the frame. -/
structure Suffices (size : UInt32 × UInt32) (sizeimage : UInt32) : Prop where
  built : ∃ r, buildOwned W W.nv12 size.1 size.2 [sizeimage.toNat] (dstPlanes W size) = .ok r ∧
    ∀ err ∈ [AvFrameError.bufferTooSmall, .invalidStride, .bufferAlias], r ≠ .error err
  used : bytesUsed W size ≤ sizeimage

variable {W} {size : UInt32 × UInt32}

/-- The destination frame is built from these planes. -/
theorem renderFrame_eq {k : κ} {c : SwConverter} {length luma : Nat} {rest sizes : List Nat}
    {frame : AvFrame} (hsizes : W.planeSizes W.nv12 [size.1, size.1] size.2 = luma :: sizes)
    (hwidth : size.1.toNat < 2 ^ 31) (hheight : size.2.toNat < 2 ^ 31)
    (halloc : (W.frameAlloc k).1 = true)
    (hcreate : (W.bufferCreate (W.frameAlloc k).2).1 = true) :
    renderFrame W k size c (length :: rest) frame =
      (buildOwned W W.nv12 size.1 size.2 [length] (dstPlanes W size)).map fun r =>
        match r with
        | .error err => (.error (.cannotBuild err), (W.bufferCreate (W.frameAlloc k).2).2)
        | .ok () =>
          let r := c.convert W (W.bufferCreate (W.frameAlloc k).2).2 frame W.nv12 size
          ((r.1.map fun _ => bytesUsed W size).mapError .conversionError, r.2) := by
  have hsize : ¬(size.1.toNat ≥ 2 ^ 31 ∨ size.2.toNat ≥ 2 ^ 31) := by omega
  cases hbuilt : buildOwned W W.nv12 size.1 size.2 [length] (dstPlanes W size) with
  | error e =>
      simp only [dstPlanes, hsizes, List.headD_cons] at hbuilt
      simp only [renderFrame, hsizes, halloc, hcreate, hsize, Bool.not_true, Bool.false_eq_true,
        if_false, hbuilt, Except.map]
  | ok built =>
      simp only [dstPlanes, hsizes, List.headD_cons] at hbuilt
      cases built <;>
        simp only [renderFrame, bytesUsed, hsizes, halloc, hcreate, hsize, Bool.not_true,
          Bool.false_eq_true, if_false, hbuilt, Except.map]

theorem formatFiller_plane (codedSize : UInt32 × UInt32) (pixelformat : UInt32)
    (plane : PlanePixFormat) :
    (formatFiller codedSize pixelformat plane).planeFmt.get 0 = plane := rfl

/-- The advertised size, of the width and the height. -/
theorem currentFormat_sizeimage (d : FfmpegDecoderBackend) (b : FormattedSession κ) (hW : Nv12 W)
    (hsize : NoOverflow b.codedSize) :
    (((d.formats W).currentFormat b .capture).planeFmt.get 0).sizeimage.toNat =
      b.codedSize.1.toNat * b.codedSize.2.toNat +
        b.codedSize.1.toNat * ((b.codedSize.2.toNat + 1) / 2) := by
  cases hf : b.outputFormat with
  | nv12 =>
      simp [FfmpegDecoderBackend.formats, hf, CaptureFormat.intoV4l2PixFormat, formatFiller_plane,
        hW.luma _ hsize.width, hW.sizes _ _ _ hsize.height]
      exact hsize.sum

theorem dstPlanes_eq (hW : Nv12 W) (hsize : NoOverflow size) :
    dstPlanes W size = [⟨0, 0, size.1.toNat⟩,
      ⟨0, size.1.toNat * size.2.toNat, 2 * ((size.1.toNat + 1) / 2)⟩] := by
  simp [dstPlanes, hW.luma _ hsize.width, hW.chroma _ hsize.width, hW.sizes _ _ _ hsize.height]

/-- The chroma stride fits the line size that `plane_sizes` takes. -/
theorem toNat_chroma (hsize : NoOverflow size) :
    (UInt32.ofNat (2 * ((size.1.toNat + 1) / 2))).toNat = 2 * ((size.1.toNat + 1) / 2) := by
  have hwidth := hsize.width
  rw [UInt32.toNat_ofNat']
  omega

theorem planeSizes_dstPlanes (hW : Nv12 W) (hsize : NoOverflow size) :
    W.planeSizes W.nv12 ((dstPlanes W size).map fun p => .ofNat p.stride) size.2 =
      [size.1.toNat * size.2.toNat,
        2 * ((size.1.toNat + 1) / 2) * ((size.2.toNat + 1) / 2)] := by
  simp only [dstPlanes_eq hW hsize, List.map_cons, List.map_nil, hW.sizes _ _ _ hsize.height,
    toNat_chroma hsize, UInt32.ofNat_toNat]

/-- The planes of the frame; the second one is computed from its own line size. -/
theorem layout_dstPlanes (hW : Nv12 W) (hsize : NoOverflow size) :
    layout W W.nv12 size.1 size.2 (dstPlanes W size) =
      [⟨⟨0, 0, size.1.toNat⟩, size.1.toNat * size.2.toNat, size.1.toNat⟩,
        ⟨⟨0, size.1.toNat * size.2.toNat, 2 * ((size.1.toNat + 1) / 2)⟩,
          2 * ((size.1.toNat + 1) / 2) * ((size.2.toNat + 1) / 2),
          2 * ((size.1.toNat + 1) / 2)⟩] := by
  rw [layout, planeSizes_dstPlanes hW hsize, dstPlanes_eq hW hsize]
  simp [planesFrom, hW.luma _ hsize.width, hW.chroma _ hsize.width]

theorem hasPlanes_dstPlanes (hW : Nv12 W) (hsize : NoOverflow size) :
    HasPlanes W W.nv12 size.2 (dstPlanes W size) := by
  have hwidth := hsize.width
  have hheight := hsize.height
  constructor
  · rw [planeSizes_dstPlanes hW hsize, dstPlanes_eq hW hsize]
    rfl
  · rw [planeSizes_dstPlanes hW hsize]
    intro n hn
    have hproduct {l m : Nat} (hl : l ≤ 2 ^ 31) (hm : m ≤ 2 ^ 31) : l * m < 2 ^ 63 :=
      (Nat.mul_le_mul hl hm).trans_lt (by decide)
    simp only [List.mem_cons, List.not_mem_nil, or_false] at hn
    rcases hn with rfl | rfl
    · exact hproduct hwidth.le hheight.le
    · exact hproduct (by omega) (by omega)

/-- The lines of chroma take no more than the width if the width is even, and none
does if there are none. -/
theorem chroma_le_iff (w h : Nat) :
    2 * ((w + 1) / 2) * ((h + 1) / 2) ≤ w * ((h + 1) / 2) ↔ w % 2 = 0 ∨ h = 0 := by
  constructor
  · intro hle
    by_contra hno
    obtain ⟨hodd, hpos⟩ := not_or.mp hno
    have hlines : 0 < (h + 1) / 2 := by omega
    have hline : 2 * ((w + 1) / 2) ≤ w := Nat.le_of_mul_le_mul_right hle hlines
    omega
  · rintro (heven | rfl)
    · exact Nat.mul_le_mul_right _ (by omega)
    · simp

theorem toNat_bytesUsed (hW : Nv12 W) (hsize : NoOverflow size) :
    (bytesUsed W size).toNat = size.1.toNat * size.2.toNat +
      size.1.toNat * ((size.2.toNat + 1) / 2) := by
  simp [bytesUsed, hW.sizes _ _ _ hsize.height]
  exact hsize.sum

/-- The frame fits into a buffer in which the chroma lines have room. -/
theorem buildOwned_dstPlanes (hW : Nv12 W) (hsize : NoOverflow size) {length : Nat}
    (hlen : length < 2 ^ 63)
    (hroom : size.1.toNat * size.2.toNat +
      2 * ((size.1.toNat + 1) / 2) * ((size.2.toNat + 1) / 2) ≤ length) :
    buildOwned W W.nv12 size.1 size.2 [length] (dstPlanes W size) = .ok (.ok ()) := by
  apply buildOwned_eq_ok (by simpa using hlen) (hasPlanes_dstPlanes hW hsize)
  · rw [layout_dstPlanes hW hsize]
    intro a ha
    simp only [List.mem_cons, List.not_mem_nil, or_false] at ha
    rcases ha with rfl | rfl
    · exact ⟨length, rfl, by dsimp only; omega, le_rfl⟩
    · exact ⟨length, rfl, hroom, le_rfl⟩
  · rw [layout_dstPlanes hW hsize]
    -- The second plane starts where the first one ends.
    refine .cons (fun b hb => ?_) (List.pairwise_singleton _ _)
    obtain rfl := List.mem_singleton.mp hb
    refine Intervals.Apart.disjoint fun _ => .inl ?_
    simp [Plane.range]
  · rw [layout_dstPlanes hW hsize]
    rintro ⟨a, ha, b, hb, -, -, hstart, hend⟩
    simp only [List.mem_cons, List.not_mem_nil, or_false] at ha hb
    rcases ha with rfl | rfl <;> rcases hb with rfl | rfl <;> simp [Plane.range] at hstart hend
  · simp [avNumDataPointers]

/-- In a smaller buffer that has room for the first plane the second one does not
fit. -/
theorem buildOwned_dstPlanes_small (hW : Nv12 W) (hsize : NoOverflow size) {length : Nat}
    (hlen : length < 2 ^ 63) (hluma : size.1.toNat * size.2.toNat ≤ length)
    (hsmall : length < size.1.toNat * size.2.toNat +
      2 * ((size.1.toNat + 1) / 2) * ((size.2.toNat + 1) / 2)) :
    buildOwned W W.nv12 size.1 size.2 [length] (dstPlanes W size) =
      .ok (.error .bufferTooSmall) := by
  have hplanes := hasPlanes_dstPlanes hW hsize
  have hsizes := planeSizes_dstPlanes hW hsize
  have hluma' := hplanes.bound (size.1.toNat * size.2.toNat) (by simp [hsizes])
  have hchroma := hplanes.bound (2 * ((size.1.toNat + 1) / 2) * ((size.2.toNat + 1) / 2))
    (by simp [hsizes])
  rw [buildOwned, hsizes, dstPlanes_eq hW hsize, planeRanges_of_fits rfl (by simpa using hlen)]
  · rw [planeRanges_of_small rfl rfl (by dsimp only; omega) hsmall]
    rfl
  · exact ⟨length, rfl, by dsimp only; omega, (hW.luma _ hsize.width).le⟩

/-- The advertised size is enough for the frames of the session if and only if the
width is even or there are no lines. -/
theorem sizeimage_suffices_iff (d : FfmpegDecoderBackend) (b : FormattedSession κ) (hW : Nv12 W)
    (hsize : NoOverflow b.codedSize) :
    Suffices W b.codedSize
        (((d.formats W).currentFormat b .capture).planeFmt.get 0).sizeimage ↔
      b.codedSize.1.toNat % 2 = 0 ∨ b.codedSize.2.toNat = 0 := by
  have himage := currentFormat_sizeimage d b hW hsize
  generalize (((d.formats W).currentFormat b .capture).planeFmt.get 0).sizeimage = sizeimage
    at himage ⊢
  have hlen : sizeimage.toNat < 2 ^ 63 := lt_trans sizeimage.toNat_lt (by decide)
  rw [← chroma_le_iff]
  constructor
  · intro h
    obtain ⟨r, hbuilt, hr⟩ := h.built
    by_contra hless
    rw [buildOwned_dstPlanes_small hW hsize hlen (by omega) (by omega)] at hbuilt
    exact hr .bufferTooSmall (by simp) (Except.ok.inj hbuilt).symm
  · intro hle
    refine ⟨⟨_, buildOwned_dstPlanes hW hsize hlen (by omega), by simp⟩, ?_⟩
    rw [UInt32.le_iff_toNat_le, toNat_bytesUsed hW hsize, himage]

/-- A world in which the chroma lines of NV12 are computed as well. -/
def nv12World : World CodecState :=
  { codecWorld defaultFrame with
    imageGetLinesize := fun _ width plane =>
      if plane = 0 then width.toNat else 2 * ((width.toNat + 1) / 2) }

theorem nv12World_nv12 : Nv12 nv12World where
  luma width _ := by simp [World.lineSize, nv12World]
  chroma width _ := by
    simp only [World.lineSize, nv12World, one_ne_zero, if_false]
    omega
  sizes l₀ l₁ height _ := by simp [World.planeSizes, nv12World, codecWorld]

/-- A session with frames of this size. -/
def sizedSession (size : UInt32 × UInt32) : FormattedSession CodecState :=
  ⟨(.h264, h264Codec), .nv12, some { Session.new ⟨0, false⟩ with codedSize := size }⟩

theorem sizeimage_suffices_iff_default :
    (Nv12 nv12World ∧ NoOverflow (sizedSession (320, 240)).codedSize) ∧
    (Suffices nv12World (sizedSession (320, 240)).codedSize
        ((((FfmpegDecoderBackend.new [h264Codec]).formats nv12World).currentFormat
          (sizedSession (320, 240)) .capture).planeFmt.get 0).sizeimage ↔
      (sizedSession (320, 240)).codedSize.1.toNat % 2 = 0 ∨
        (sizedSession (320, 240)).codedSize.2.toNat = 0) := by
  have hsize : NoOverflow (sizedSession (320, 240)).codedSize := ⟨by decide, by decide, by decide⟩
  exact ⟨⟨nv12World_nv12, hsize⟩, sizeimage_suffices_iff _ _ nv12World_nv12 hsize⟩

/-- A frame of 321 by 240 pixels takes 115680 bytes, and 115560 are advertised. -/
theorem sizeimage_suffices_fails :
    ¬Suffices nv12World (321, 240)
      ((((FfmpegDecoderBackend.new [h264Codec]).formats nv12World).currentFormat
        (sizedSession (321, 240)) .capture).planeFmt.get 0).sizeimage := by
  intro h
  obtain ⟨r, hbuilt, hr⟩ := h.built
  have hsmall : buildOwned nv12World nv12World.nv12 321 240 [115560]
      (dstPlanes nv12World (321, 240)) = .ok (.error .bufferTooSmall) := by
    rfl
  exact hr .bufferTooSmall (by simp) (Except.ok.inj (hbuilt.symm.trans hsmall))

end VirtioMedia.Ffmpeg
