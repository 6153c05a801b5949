import VirtioMedia.Ffmpeg.Steps
import VirtioMedia.Lib.Intervals

/-!
# The layouts that `build_owned` accepts

The checks of `build_owned` on the planes, and its search for overlaps in the
sorted ranges. The buffer index past the end, the end of a range and the buffers
past the eighth are not checked, so some layouts panic. An empty plane inside of
another one is taken for an overlap, and a stride is cut to 32 bits before the
size of its plane is computed.
-/

namespace VirtioMedia.Ffmpeg

open Intervals

/-! ### Layouts -/

/-- A plane with the sizes that libavutil computes for it. -/
structure Plane where
  descriptor : PlaneDescriptor
  size : Nat
  lineSize : Nat

namespace Plane

/-- The buffer, the start and the end of a plane. -/
def range (a : Plane) : Nat × Nat × Nat :=
  (a.descriptor.bufferIndex, a.descriptor.offset, a.descriptor.offset + a.size)

/-- The range of the plane lies inside of its buffer, and the stride is large
enough for a line. -/
def Fits (buffers : List Nat) (a : Plane) : Prop :=
  ∃ length, buffers[a.descriptor.bufferIndex]? = some length ∧
    a.descriptor.offset + a.size ≤ length ∧ a.lineSize ≤ a.descriptor.stride

/-- The index is the one past the end, or the end of the range overflows. Without
overflow checks it wraps around, and then another check may refuse the plane. -/
def Panics (checks : Bool) (buffers : List Nat) (a : Plane) : Prop :=
  a.descriptor.bufferIndex = buffers.length ∨
    ∃ length, buffers[a.descriptor.bufferIndex]? = some length ∧
      2 ^ 64 ≤ a.descriptor.offset + a.size ∧
      (checks = true ∨ ((a.descriptor.offset + a.size) % 2 ^ 64 ≤ length ∧
        a.lineSize ≤ a.descriptor.stride))

theorem range_proper (a : Plane) : Proper a.range := Nat.le_add_right _ _

end Plane

/-- No plane panics that follows planes which fit. -/
def NoPanic (checks : Bool) (buffers : List Nat) : List Plane → Prop
  | [] => True
  | a :: rest => ¬a.Panics checks buffers ∧ (a.Fits buffers → NoPanic checks buffers rest)

/-- A plane does not overlap another one of its buffer. -/
def Separate (a b : Plane) : Prop := Intervals.Disjoint a.range b.range

/-- An empty plane starts inside of another one of its buffer. -/
def Hollow (l : List Plane) : Prop := ∃ a ∈ l, ∃ b ∈ l, Inside a.range b.range

/-- A stride has no room in the line sizes that `plane_sizes` takes. -/
def Wide (l : List Plane) : Prop := ∃ a ∈ l, 2 ^ 32 ≤ a.descriptor.stride

/-- The layouts that are to be accepted. The range of a plane is computed without
overflow: the stride fits, and so does the end. -/
structure ValidLayout (buffers : List Nat) (l : List Plane) : Prop where
  fits : ∀ a ∈ l, a.Fits buffers
  strides : ¬Wide l
  separate : l.Pairwise Separate

section Planes

variable {κ : Type} (W : World κ)

/-- The planes from the given index on. -/
def planesFrom (format : Int) (width : UInt32) (sizes : List Nat) :
    Nat → List PlaneDescriptor → List Plane
  | _, [] => []
  | i, p :: rest =>
    ⟨p, sizes.getD i 0, W.lineSize format width i⟩ :: planesFrom format width sizes (i + 1) rest

/-- The planes of a frame. -/
def layout (format : Int) (width height : UInt32) (planes : List PlaneDescriptor) : List Plane :=
  planesFrom W format width (W.planeSizes format (planes.map fun p => .ofNat p.stride) height) 0
    planes

/-- The format has as many planes as are described. Lines are shorter than `2^32`
and frames lower than `2^31`, and so a plane is smaller than `2^63`. -/
structure HasPlanes (format : Int) (height : UInt32) (planes : List PlaneDescriptor) : Prop where
  count : (W.planeSizes format (planes.map fun p => .ofNat p.stride) height).length = planes.length
  bound : ∀ size ∈ W.planeSizes format (planes.map fun p => .ofNat p.stride) height, size < 2 ^ 63

end Planes

/-! ### The checks of a plane -/

variable {κ : Type} {W : World κ} {format : Int} {width height : UInt32}
  {buffers sizes : List Nat} {planes rest : List PlaneDescriptor} {p : PlaneDescriptor} {i : Nat}

theorem fits_not_panics {checks : Bool} {a : Plane} (h : a.Fits buffers)
    (hlen : ∀ length ∈ buffers, length < 2 ^ 63) : ¬a.Panics checks buffers := by
  obtain ⟨length, hlength, hend, -⟩ := h
  have hlt := hlen length (List.mem_of_getElem? hlength)
  rintro (hpast | ⟨-, -, hover, -⟩)
  · rw [hpast, List.getElem?_length] at hlength
    cases hlength
  · omega

theorem noPanic_of_fits {checks : Bool} {l : List Plane} (h : ∀ a ∈ l, a.Fits buffers)
    (hlen : ∀ length ∈ buffers, length < 2 ^ 63) : NoPanic checks buffers l := by
  induction l with
  | nil => trivial
  | cons a rest ih =>
      obtain ⟨ha, hrest⟩ := List.forall_mem_cons.mp h
      exact ⟨fits_not_panics ha hlen, fun _ => ih hrest⟩

/-- A plane that fits adds its range. -/
theorem planeRanges_of_fits {size : Nat} (hsize : sizes[i]? = some size)
    (hlen : ∀ length ∈ buffers, length < 2 ^ 63)
    (h : Plane.Fits buffers ⟨p, size, W.lineSize format width i⟩) :
    planeRanges W format width buffers sizes i (p :: rest) =
      (planeRanges W format width buffers sizes (i + 1) rest).map fun r =>
        r.map ((p.bufferIndex, p.offset, p.offset + size) :: ·) := by
  obtain ⟨length, hlength, hend, hstride⟩ := h
  dsimp only at hlength hend hstride
  have hlt := hlen length (List.mem_of_getElem? hlength)
  have hindex := (List.getElem?_eq_some_iff.mp hlength).1
  have hadd : addUsize W.checks p.offset size = some (p.offset + size) := if_pos (by omega)
  rw [planeRanges, if_neg (by omega), hsize, hlength, Option.bind_some, hadd]
  dsimp only
  rw [if_neg (by omega), if_neg (by omega), if_neg (by omega)]

theorem planeRanges_of_panics {size : Nat} (hsize : sizes[i]? = some size) (hbound : size < 2 ^ 63)
    (hlen : ∀ length ∈ buffers, length < 2 ^ 63)
    (h : Plane.Panics W.checks buffers ⟨p, size, W.lineSize format width i⟩) :
    planeRanges W format width buffers sizes i (p :: rest) = .error .panic := by
  rcases h with hpast | ⟨length, hlength, hover, hcheck⟩
  · dsimp only at hpast
    rw [planeRanges, if_neg (by omega), hpast, List.getElem?_length]
    split
    · rename_i hnone
      cases hnone
    · rfl
  · dsimp only at hlength hover hcheck
    have hlt := hlen length (List.mem_of_getElem? hlength)
    have hindex := (List.getElem?_eq_some_iff.mp hlength).1
    rw [planeRanges, if_neg (by omega), hsize, hlength, Option.bind_some, addUsize,
      if_neg (by omega)]
    cases hchecks : W.checks with
    | true => rfl
    | false =>
        rw [hchecks] at hcheck
        obtain ⟨hend, hstride⟩ := hcheck.resolve_left (by simp)
        -- The sum wraps around once, so that the plane starts behind its buffer.
        simp only [Bool.false_eq_true, if_false]
        rw [if_neg (by omega), if_neg (by omega), if_pos (by omega)]

/-- A plane whose end is computed and lies behind its buffer is refused. -/
theorem planeRanges_of_small {size length : Nat} (hsize : sizes[i]? = some size)
    (hlength : buffers[p.bufferIndex]? = some length) (hend : p.offset + size < 2 ^ 64)
    (hsmall : length < p.offset + size) :
    planeRanges W format width buffers sizes i (p :: rest) = .ok (.error .bufferTooSmall) := by
  have hindex := (List.getElem?_eq_some_iff.mp hlength).1
  rw [planeRanges, if_neg (by omega), hsize, hlength, Option.bind_some, addUsize, if_pos hend]
  dsimp only
  rw [if_pos hsmall]

theorem planeRanges_of_refused {size : Nat} (hsize : sizes[i]? = some size)
    (hfits : ¬Plane.Fits buffers ⟨p, size, W.lineSize format width i⟩)
    (hpanics : ¬Plane.Panics W.checks buffers ⟨p, size, W.lineSize format width i⟩) :
    ∃ err, planeRanges W format width buffers sizes i (p :: rest) = .ok (.error err) := by
  rw [planeRanges]
  by_cases hindex : p.bufferIndex > buffers.length
  · exact ⟨_, if_pos hindex⟩
  · rw [if_neg hindex]
    have hne : p.bufferIndex ≠ buffers.length := fun h => hpanics (.inl h)
    obtain ⟨length, hlength⟩ : ∃ length, buffers[p.bufferIndex]? = some length :=
      ⟨_, List.getElem?_eq_getElem (by omega)⟩
    rw [hsize, hlength, Option.bind_some, addUsize]
    by_cases hover : p.offset + size < 2 ^ 64
    · rw [if_pos hover]
      dsimp only
      split
      · exact ⟨_, rfl⟩
      · split
        · exact ⟨_, rfl⟩
        · exact absurd ⟨length, hlength, by dsimp only; omega, by dsimp only; omega⟩ hfits
    · rw [if_neg hover]
      cases hchecks : W.checks with
      | true => exact absurd (.inr ⟨length, hlength, by dsimp only; omega, .inl hchecks⟩) hpanics
      | false =>
          simp only [Bool.false_eq_true, if_false]
          split
          · exact ⟨_, rfl⟩
          · split
            · exact ⟨_, rfl⟩
            · refine absurd (.inr ⟨length, hlength, by dsimp only; omega, .inr ⟨?_, ?_⟩⟩) hpanics
              · dsimp only
                omega
              · dsimp only
                omega

/-! ### The loop -/

/-- The loop panics, accepts all planes, or refuses one. -/
theorem planeRanges_cases (hcount : i + planes.length ≤ sizes.length)
    (hbound : ∀ size ∈ sizes, size < 2 ^ 63) (hlen : ∀ length ∈ buffers, length < 2 ^ 63) :
    (¬NoPanic W.checks buffers (planesFrom W format width sizes i planes) ∧
      planeRanges W format width buffers sizes i planes = .error .panic) ∨
    (NoPanic W.checks buffers (planesFrom W format width sizes i planes) ∧
      ((∀ a ∈ planesFrom W format width sizes i planes, a.Fits buffers) ∧
        planeRanges W format width buffers sizes i planes =
          .ok (.ok ((planesFrom W format width sizes i planes).map Plane.range)) ∨
      (¬∀ a ∈ planesFrom W format width sizes i planes, a.Fits buffers) ∧
        ∃ err, planeRanges W format width buffers sizes i planes = .ok (.error err))) := by
  induction planes generalizing i with
  | nil => exact .inr ⟨trivial, .inl ⟨by simp [planesFrom], rfl⟩⟩
  | cons p rest ih =>
      simp only [List.length_cons] at hcount
      have hi : i < sizes.length := by omega
      have hsize : sizes[i]? = some (sizes.getD i 0) := by
        simp [hi]
      simp only [planesFrom, NoPanic, List.forall_mem_cons]
      generalize sizes.getD i 0 = size at hsize ⊢
      have hlt : size < 2 ^ 63 := hbound size (List.mem_of_getElem? hsize)
      by_cases hfits : Plane.Fits buffers ⟨p, size, W.lineSize format width i⟩
      · rw [planeRanges_of_fits hsize hlen hfits]
        have hpanics : ¬Plane.Panics W.checks buffers ⟨p, size, W.lineSize format width i⟩ :=
          fits_not_panics hfits hlen
        rcases ih (i := i + 1) (by omega) with ⟨hno, hr⟩ | ⟨hno, ⟨hall, hr⟩ | ⟨hall, err, hr⟩⟩
        · exact .inl ⟨fun h => hno (h.2 hfits), by rw [hr]; rfl⟩
        · exact .inr ⟨⟨hpanics, fun _ => hno⟩, .inl ⟨⟨hfits, hall⟩, by rw [hr]; rfl⟩⟩
        · exact .inr ⟨⟨hpanics, fun _ => hno⟩, .inr ⟨fun h => hall h.2, err, by rw [hr]; rfl⟩⟩
      · by_cases hpanics : Plane.Panics W.checks buffers ⟨p, size, W.lineSize format width i⟩
        · exact .inl ⟨fun h => h.1 hpanics, planeRanges_of_panics hsize hlt hlen hpanics⟩
        · refine .inr ⟨⟨hpanics, fun h => absurd h hfits⟩, .inr ⟨fun h => hfits h.1, ?_⟩⟩
          exact planeRanges_of_refused hsize hfits hpanics

/-! ### The overlaps -/

theorem rangeLe_iff (a b : Nat × Nat × Nat) : rangeLe a b = true ↔ Le a b := by
  simp [rangeLe, Le]

theorem rangesOverlap_eq_false_iff (l : List (Nat × Nat × Nat)) :
    rangesOverlap l = false ↔ l.IsChain Before := by
  induction l with
  | nil => simp [rangesOverlap]
  | cons a l ih =>
      cases l with
      | nil => simp [rangesOverlap]
      | cons b l => simp [rangesOverlap, ih, Before]

theorem sorted_insertionSort (l : List (Nat × Nat × Nat)) :
    (l.insertionSort (rangeLe · ·)).Pairwise Le := by
  have htotal : Std.Total fun a b : Nat × Nat × Nat => rangeLe a b = true := by
    refine ⟨fun a b => ?_⟩
    simp only [rangeLe_iff, Le]
    omega
  have htrans : IsTrans (Nat × Nat × Nat) fun a b => rangeLe a b = true := by
    refine ⟨fun a b c => ?_⟩
    simp only [rangeLe_iff, Le]
    omega
  exact (List.pairwise_insertionSort _ l).imp fun {a b} h => (rangeLe_iff a b).mp h

theorem pairwise_not_inside_iff {l : List Plane} :
    l.Pairwise (fun a b => ¬Inside a.range b.range ∧ ¬Inside b.range a.range) ↔ ¬Hollow l := by
  constructor
  · rintro h ⟨a, ha, b, hb, hinside⟩
    have hself : ∀ a ∈ l, ¬Inside a.range a.range ∧ ¬Inside a.range a.range := by
      simp [Inside]
    exact (h.forall_of_forall_of_flip hself (h.imp And.symm) ha hb).1 hinside
  · intro h
    exact List.pairwise_of_forall_mem_list fun a ha b hb =>
      ⟨fun hi => h ⟨a, ha, b, hb, hi⟩, fun hi => h ⟨b, hb, a, ha, hi⟩⟩

/-- The search finds an overlap unless the planes are separate and none is inside
of another. -/
theorem rangesOverlap_sorted_iff (l : List Plane) :
    rangesOverlap ((l.map Plane.range).insertionSort (rangeLe · ·)) = false ↔
      l.Pairwise Separate ∧ ¬Hollow l := by
  have hproper : ∀ r ∈ l.map Plane.range, Proper r := by
    intro r hr
    obtain ⟨a, -, rfl⟩ := List.mem_map.mp hr
    exact a.range_proper
  rw [rangesOverlap_eq_false_iff, isChain_before_iff_apart (List.perm_insertionSort _ _)
    (sorted_insertionSort _) hproper, List.pairwise_map, ← pairwise_not_inside_iff,
    ← List.pairwise_and_iff]
  exact List.Pairwise.iff fun a b => apart_iff a.range_proper b.range_proper

/-! ### The whole -/

section Whole

variable (W format width height buffers planes)

/-- `build_owned` does not panic, and accepts the valid layouts and no others. -/
structure Exact : Prop where
  answers : ∃ r, buildOwned W format width height buffers planes = .ok r
  accepts : buildOwned W format width height buffers planes = .ok (.ok ()) ↔
    ValidLayout buffers (layout W format width height planes)

/-- No plane that is reached panics. Where all planes fit and are separate, no
plane is inside of another, no stride is wide and the frame has room for the
buffers; or a layout with a wide stride is refused because of a plane inside. -/
structure Sound (checks : Bool) (l : List Plane) : Prop where
  reached : NoPanic checks buffers l
  accepted : (∀ a ∈ l, a.Fits buffers) → l.Pairwise Separate →
    (Hollow l ↔ Wide l) ∧ (Wide l ∨ buffers.length ≤ avNumDataPointers)

variable {W format width height buffers planes}

/-- The answer to planes that all fit. -/
theorem buildOwned_of_ranges
    (h : planeRanges W format width buffers
      (W.planeSizes format (planes.map fun p => .ofNat p.stride) height) 0 planes =
        .ok (.ok ((layout W format width height planes).map Plane.range))) :
    ((layout W format width height planes).Pairwise Separate ∧
        ¬Hollow (layout W format width height planes) →
      buildOwned W format width height buffers planes =
        if buffers.length > avNumDataPointers then .error .panic else .ok (.ok ())) ∧
    (¬((layout W format width height planes).Pairwise Separate ∧
        ¬Hollow (layout W format width height planes)) →
      buildOwned W format width height buffers planes = .ok (.error .bufferAlias)) := by
  rw [← rangesOverlap_sorted_iff]
  constructor
  · intro hfalse
    simp only [buildOwned, h, Except.bind, hfalse, Bool.false_eq_true, if_false]
  · intro htrue
    simp only [Bool.not_eq_false] at htrue
    simp only [buildOwned, h, Except.bind, htrue, if_true]

/-- Planes that fit, that are separate and of which none is inside of another make
a frame. -/
theorem buildOwned_eq_ok (hlen : ∀ length ∈ buffers, length < 2 ^ 63)
    (hplanes : HasPlanes W format height planes)
    (hfits : ∀ a ∈ layout W format width height planes, a.Fits buffers)
    (hseparate : (layout W format width height planes).Pairwise Separate)
    (hhollow : ¬Hollow (layout W format width height planes))
    (hroom : buffers.length ≤ avNumDataPointers) :
    buildOwned W format width height buffers planes = .ok (.ok ()) := by
  have hno : NoPanic W.checks buffers (layout W format width height planes) :=
    noPanic_of_fits hfits hlen
  rcases @planeRanges_cases κ W format width _ _ _ 0 (by rw [Nat.zero_add, hplanes.count])
    hplanes.bound hlen with
    ⟨hpanics, -⟩ | ⟨-, ⟨-, hr⟩ | ⟨hrefused, -⟩⟩
  · exact absurd hno hpanics
  · rw [(buildOwned_of_ranges hr).1 ⟨hseparate, hhollow⟩, if_neg (not_lt.mpr hroom)]
  · exact absurd hfits hrefused

/-- `build_owned` tells the valid layouts exactly where no plane that is reached
panics, and for layouts that are valid but for wide strides also no plane is
inside of another and there are at most eight buffers. -/
theorem build_owned_exact_iff (hlen : ∀ length ∈ buffers, length < 2 ^ 63)
    (hplanes : HasPlanes W format height planes) :
    Exact W format width height buffers planes ↔
      Sound buffers W.checks (layout W format width height planes) := by
  rcases @planeRanges_cases κ W format width _ _ _ 0 (by rw [Nat.zero_add, hplanes.count])
    hplanes.bound hlen with
    ⟨hno, hr⟩ | ⟨hno, ⟨hfits, hr⟩ | ⟨hfits, err, hr⟩⟩
  · refine iff_of_false (fun h => ?_) fun h => hno h.reached
    obtain ⟨r, hanswer⟩ := h.answers
    simp only [buildOwned, hr, Except.bind] at hanswer
    cases hanswer
  · -- All planes fit.
    obtain ⟨haccept, halias⟩ := buildOwned_of_ranges hr
    set l := layout W format width height planes
    by_cases hapart : l.Pairwise Separate ∧ ¬Hollow l
    · have hbuilt := haccept hapart
      by_cases hroom : buffers.length ≤ avNumDataPointers
      · rw [if_neg (not_lt.mpr hroom)] at hbuilt
        constructor
        · intro h
          have hvalid := h.accepts.mp hbuilt
          exact ⟨hno, fun _ _ => ⟨iff_of_false hapart.2 hvalid.strides, .inr hroom⟩⟩
        · intro h
          have hstrides := (h.accepted hfits hapart.1).1.not.mp hapart.2
          exact ⟨⟨_, hbuilt⟩, iff_of_true hbuilt ⟨hfits, hstrides, hapart.1⟩⟩
      · rw [if_pos (not_le.mp hroom)] at hbuilt
        refine iff_of_false (fun h => ?_) fun h => ?_
        · obtain ⟨r, hanswer⟩ := h.answers
          rw [hbuilt] at hanswer
          cases hanswer
        · obtain ⟨hiff, hor⟩ := h.accepted hfits hapart.1
          exact hapart.2 (hiff.mpr (hor.resolve_right hroom))
    · have hbuilt := halias hapart
      have hrefused : buildOwned W format width height buffers planes ≠ .ok (.ok ()) := by
        simp [hbuilt]
      constructor
      · intro h
        refine ⟨hno, fun _ hseparate => ?_⟩
        have hhollow : Hollow l := by
          by_contra hhollow
          exact hapart ⟨hseparate, hhollow⟩
        have hwide : Wide l := by
          by_contra hwide
          exact hrefused (h.accepts.mpr ⟨hfits, hwide, hseparate⟩)
        exact ⟨iff_of_true hhollow hwide, .inl hwide⟩
      · intro h
        refine ⟨⟨_, hbuilt⟩, iff_of_false hrefused fun hvalid => ?_⟩
        have hhollow := (h.accepted hfits hvalid.separate).1.not.mpr hvalid.strides
        exact hapart ⟨hvalid.separate, hhollow⟩
  · have hbuilt : buildOwned W format width height buffers planes = .ok (.error err) := by
      simp only [buildOwned, hr, Except.bind]
    refine iff_of_true ⟨⟨_, hbuilt⟩, ?_⟩ ⟨hno, fun h => absurd h hfits⟩
    rw [hbuilt]
    exact iff_of_false (by simp) fun h => hfits h.fits

end Whole

/-- The two planes of a frame of 320 by 240 pixels in one buffer. -/
theorem build_owned_exact_iff_nv12 :
    ((∀ length ∈ [115200], length < 2 ^ 63) ∧
      HasPlanes (codecWorld defaultFrame) 23 240 [⟨0, 0, 320⟩, ⟨0, 76800, 320⟩]) ∧
    (Exact (codecWorld defaultFrame) 23 320 240 [115200] [⟨0, 0, 320⟩, ⟨0, 76800, 320⟩] ↔
      Sound [115200] true (layout (codecWorld defaultFrame) 23 320 240
        [⟨0, 0, 320⟩, ⟨0, 76800, 320⟩])) := by
  have hplanes : HasPlanes (codecWorld defaultFrame) 23 240 [⟨0, 0, 320⟩, ⟨0, 76800, 320⟩] :=
    ⟨by decide, by decide⟩
  exact ⟨⟨by decide, hplanes⟩, build_owned_exact_iff (by decide) hplanes⟩

/-- The index that follows the last buffer is not refused, but panics. -/
theorem build_owned_exact_fails :
    ¬Exact (codecWorld defaultFrame) 23 320 240 [115200] [⟨1, 0, 320⟩, ⟨0, 76800, 320⟩] := by
  intro h
  obtain ⟨r, hr⟩ := h.answers
  have hpanics : buildOwned (codecWorld defaultFrame) 23 320 240 [115200]
      [⟨1, 0, 320⟩, ⟨0, 76800, 320⟩] = .error .panic := by
    rfl
  rw [hpanics] at hr
  cases hr

end VirtioMedia.Ffmpeg
