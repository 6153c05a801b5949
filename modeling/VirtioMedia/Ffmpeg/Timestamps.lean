import VirtioMedia.Ffmpeg.Steps

/-!
# Timestamps through the decoder

`decode` folds the two fields of a timestamp into the timestamp of the packet,
and `try_output_frame` splits that of a frame again. The division truncates, so
the fields come back if the microseconds are less than a second, of the sign of
the seconds, and nothing overflows.
-/

namespace VirtioMedia.Ffmpeg

open V4l2 Device

/-- The timestamps whose fields can be told apart in an `i64`. -/
structure Splits (t : Timeval) : Prop where
  lower : -1000000 < t.usec
  upper : t.usec < 1000000
  signs : 0 ≤ t.sec ∧ 0 ≤ t.usec ∨ t.sec ≤ 0 ∧ t.usec ≤ 0
  fits : -2 ^ 63 ≤ t.sec * 1000000 + t.usec ∧ t.sec * 1000000 + t.usec < 2 ^ 63

theorem wrapI64_bounds (n : Int) : -2 ^ 63 ≤ wrapI64 n ∧ wrapI64 n < 2 ^ 63 := by
  have hlower := Int.le_bmod (x := n) (m := 2 ^ 64) (by decide)
  have hupper := Int.bmod_lt (x := n) (m := 2 ^ 64) (by decide)
  unfold wrapI64
  omega

theorem wrapI64_eq_self {n : Int} (h : -2 ^ 63 ≤ n ∧ n < 2 ^ 63) : wrapI64 n = n :=
  Int.bmod_eq_of_le (by omega) (by omega)

/-- Truncating division splits a sum into its fields in exactly these cases. -/
theorem split_iff (sec usec : Int) :
    ((sec * 1000000 + usec).tdiv 1000000 = sec ∧ (sec * 1000000 + usec).tmod 1000000 = usec) ↔
      (-1000000 < usec ∧ usec < 1000000) ∧ (0 ≤ sec ∧ 0 ≤ usec ∨ sec ≤ 0 ∧ usec ≤ 0) := by
  have hsum := Int.mul_tdiv_add_tmod (sec * 1000000 + usec) 1000000
  rcases Int.le_total 0 (sec * 1000000 + usec) with h | h
  · rw [Int.tdiv_eq_ediv_of_nonneg h] at hsum ⊢
    omega
  · have hneg : (sec * 1000000 + usec).tdiv 1000000 = -(-(sec * 1000000 + usec) / 1000000) := by
      rw [← Int.tdiv_eq_ediv_of_nonneg (by omega), Int.neg_tdiv, Int.neg_neg]
    omega

/-- The timestamp of the packet is the exact sum if and only if the sum fits. -/
theorem packetTimestamp_eq_sum_iff (checks : Bool) (t : Timeval)
    (hsigns : 0 ≤ t.sec ∧ 0 ≤ t.usec ∨ t.sec ≤ 0 ∧ t.usec ≤ 0) :
    packetTimestamp checks t = some (t.sec * 1000000 + t.usec) ↔
      -2 ^ 63 ≤ t.sec * 1000000 + t.usec ∧ t.sec * 1000000 + t.usec < 2 ^ 63 := by
  unfold packetTimestamp
  dsimp only
  constructor
  · intro h
    split at h
    · rename_i hfits
      rw [← Option.some.inj h, ← hfits]
      exact wrapI64_bounds _
    · split at h
      · cases h
      · rw [← Option.some.inj h]
        exact wrapI64_bounds _
  · intro h
    have hproduct : wrapI64 (t.sec * 1000000) = t.sec * 1000000 := wrapI64_eq_self (by omega)
    rw [hproduct, if_pos (wrapI64_eq_self h)]

/-! ### The two ends -/

/-- `decode` submits packets with this timestamp. -/
def Submits (checks : Bool) (t : Timeval) (pts : Int) : Prop :=
  ∀ (κ : Type) (W : World κ) (s s' : Session κ) (input : FfmpegDecoderBuffer) (index n : UInt32),
    W.checks = checks → s.loops W (.decode input index t n) = some s' →
      ∃ ctx jobs data, s'.context = some ctx ∧ ctx.jobs = jobs ++ [.decode ⟨pts, data⟩ index]

/-- `try_output_frame` reports frames of this `pts` with the timestamp. -/
def Reports (pts : Int) (t : Timeval) : Prop :=
  ∀ (κ : Type) (W : World κ) (s s' : Session κ) (ctx : DecodingContext) (frame : AvFrame)
    (r : Except DecodeError Bool) (e : BackendEvent),
    s.context = some ctx → ctx.avframe = some frame → frame.pts = pts →
      tryOutputFrame W s = .ok (r, s') →
      s'.events.pendingEvents = s.events.pendingEvents ++ [e] →
      ∃ i bytesUsed, e = .frameCompleted i t bytesUsed false

theorem submits_packetTimestamp {checks : Bool} {t : Timeval} {pts : Int}
    (h : packetTimestamp checks t = some pts) : Submits checks t pts := by
  rintro κ W s s' input index n rfl hloops
  unfold Session.loops at hloops
  dsimp only at hloops
  split at hloops
  · rename_i context t' pts' fd _ hopen hpts hfds
    obtain rfl : pts = pts' := Option.some.inj (h.symm.trans hpts)
    split at hloops
    · obtain ⟨data, -, rfl⟩ := Option.map_eq_some_iff.mp hloops
      exact ⟨_, context.jobs, data, rfl, rfl⟩
    · cases hloops
  · cases hloops

/-- The seconds and the microseconds of a frame of this `pts`. -/
def splitPts (pts : Int) : Timeval := ⟨pts.tdiv 1000000, pts.tmod 1000000⟩

theorem reports_splitPts (pts : Int) : Reports pts (splitPts pts) := by
  rintro κ W s s' ctx frame r e hctx hframe rfl h hevent
  rcases tryOutputFrame_cases h with ⟨hnone, -⟩ | ⟨ctx', hctx', hcase⟩
  · rw [hctx] at hnone
    cases hnone
  · obtain rfl : ctx = ctx' := Option.some.inj (hctx.symm.trans hctx')
    rcases hcase with ⟨-, rfl, -⟩ | ⟨out, rest, -, ⟨-, hnone, -⟩ |
      ⟨-, frame₁, k, hframe₁, -, ⟨-, rfl⟩ | ⟨bytesUsed, hemit⟩⟩⟩
    · simp at hevent
    · rw [hframe] at hnone
      cases hnone
    · simp at hevent
    · obtain rfl : frame = frame₁ := Option.some.inj (hframe.symm.trans hframe₁)
      obtain ⟨⟨q, rfl, hq⟩, -⟩ := emit_cases hemit
      obtain rfl : BackendEvent.frameCompleted out.index frame.timestamp [bytesUsed] false = e := by
        simpa using hq.symm.trans hevent
      exact ⟨out.index, [bytesUsed], rfl⟩

/-- A session that is about to output a frame of this `pts`. -/
def reportingSession (pts : Int) : Session CodecState where
  codedSize := (2, 2)
  streamParams := ⟨(2, 2), ⟨0, 0, 2, 2⟩⟩
  context := some
    ⟨[], ⟨0, 23⟩, true, some { defaultFrame with width := 2, height := 2, pts }, .none⟩
  availableOutputFrames := [⟨0, [6]⟩]
  events := .new
  world := ⟨0, false⟩

theorem reportingSession_output (pts : Int) :
    ∃ r s', tryOutputFrame (codecWorld defaultFrame) (reportingSession pts) = .ok (r, s') ∧
      s'.events.pendingEvents = [.frameCompleted 0 (splitPts pts) [6] false] := by
  have houtput : tryOutputFrame (codecWorld defaultFrame) (reportingSession pts) =
      .ok ({ reportingSession pts with
        availableOutputFrames := []
        context := some ⟨[], ⟨0, 23⟩, true, none, .none⟩ }.emit (codecWorld defaultFrame)
          (.frameCompleted 0 (splitPts pts) [6] false)) := by
    simp [tryOutputFrame, reportingSession, renderFrame]
    rfl
  exact ⟨_, _, houtput, rfl⟩

/-- Frames of a `pts` are reported with one timestamp. -/
theorem reports_iff (pts : Int) (t : Timeval) : Reports pts t ↔ splitPts pts = t := by
  constructor
  · intro h
    obtain ⟨r, s', houtput, hevent⟩ := reportingSession_output pts
    obtain ⟨i, bytesUsed, he⟩ := h _ _ _ s' _ _ r _ rfl rfl rfl houtput hevent
    cases he
    rfl
  · rintro rfl
    exact reports_splitPts pts

/-! ### The way through -/

/-- The timestamp of a packet is computed exactly and comes back with the frames
that carry it. -/
structure Copied (checks : Bool) (t : Timeval) : Prop where
  exact : packetTimestamp checks t = some (t.sec * 1000000 + t.usec)
  submitted : Submits checks t (t.sec * 1000000 + t.usec)
  reported : ∀ pts, packetTimestamp checks t = some pts → Reports pts t

/-- The fields of a timestamp come through the decoder if and only if they can be
told apart in an `i64`. -/
theorem timestamp_copied_iff (checks : Bool) (t : Timeval) : Copied checks t ↔ Splits t := by
  have hcopy : splitPts (t.sec * 1000000 + t.usec) = t ↔
      (-1000000 < t.usec ∧ t.usec < 1000000) ∧
        (0 ≤ t.sec ∧ 0 ≤ t.usec ∨ t.sec ≤ 0 ∧ t.usec ≤ 0) := by
    cases t with
    | mk sec usec => rw [← split_iff, splitPts, Timeval.mk.injEq]
  constructor
  · intro h
    have hsplit := hcopy.mp ((reports_iff _ t).mp (h.reported _ h.exact))
    have hfits := (packetTimestamp_eq_sum_iff checks t hsplit.2).mp h.exact
    exact ⟨hsplit.1.1, hsplit.1.2, hsplit.2, hfits⟩
  · intro h
    have hexact := (packetTimestamp_eq_sum_iff checks t h.signs).mpr h.fits
    refine ⟨hexact, submits_packetTimestamp hexact, fun pts hpts => ?_⟩
    obtain rfl : t.sec * 1000000 + t.usec = pts := Option.some.inj (hexact.symm.trans hpts)
    exact (reports_iff _ t).mpr (hcopy.mpr ⟨⟨h.lower, h.upper⟩, h.signs⟩)

/-- Two million microseconds come back as two seconds, and the second that `i64`
has no room for panics. -/
theorem timestamp_copied_fails :
    ¬Copied true ⟨0, 2000000⟩ ∧ packetTimestamp true ⟨9223372036854, 999999⟩ = none := by
  refine ⟨fun h => ?_, by decide⟩
  have hreports := (reports_iff 2000000 ⟨0, 2000000⟩).mp (h.reported 2000000 (by decide))
  exact absurd hreports (by decide)

end VirtioMedia.Ffmpeg
