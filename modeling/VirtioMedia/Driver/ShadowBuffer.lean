import Mathlib.Data.Set.Lattice
import Mathlib.Order.CompletePartialOrder
import VirtioMedia.Driver.SendIoctls
import VirtioMedia.Lib.Trace

/-!
# Ranges of the shadow buffer

Any sequence of operations on a builder. Data that is copied and the arrays of
SG entries take ranges of the shadow buffer, one after the other. The
descriptor of a copy is not changed any more as long as no first page extends
it, and the copy is read back, whichever entry refers to it, unless it ends
with the buffer.
-/

namespace VirtioMedia.Driver

open V4l2 Wire Fallible

/-- A range of the shadow buffer. -/
structure ShadowRange where
  pos : Nat
  len : Nat
  deriving DecidableEq, Repr

/-- The offsets in the range. -/
def ShadowRange.offsets (r : ShadowRange) : Set Nat := {a | r.pos ≤ a ∧ a < r.pos + r.len}

/-- An operation on a builder; `userptr` comes with the SG table of the user
pages. -/
inductive BuilderOp where
  | data (d : Data)
  | userptr (entries : List SgEntry)
  | descriptor (descIndex : Nat)

namespace BuilderOp

def run (env : Env) (b : Builder) : BuilderOp → Except Int Builder
  | .data d => b.addData env d
  | .userptr entries => b.addUserptr env (.ok entries)
  | .descriptor descIndex => b.addDescriptor descIndex []

/-- The data that the operation adds, with the builder that it is added to. -/
def added (env : Env) (b : Builder) : BuilderOp → Option (Builder × Data)
  | .data d => some (b, d)
  | .userptr entries =>
    some ({ b with shadowBufferPos := b.shadowBufferPos + sgEntry.size * entries.length },
      ⟨entries.flatMap sgEntry.enc, .at (env.shadowBuffer + b.shadowBufferPos)⟩)
  | .descriptor _ => none

/-- The range of the SG entries of user pages. -/
def arrays (b : Builder) : BuilderOp → List ShadowRange
  | .userptr entries => [⟨b.shadowBufferPos, sgEntry.size * entries.length⟩]
  | _ => []

end BuilderOp

/-- A copy in the shadow buffer, with its descriptor. -/
structure Copy where
  desc : Nat
  range : ShadowRange
  deriving DecidableEq, Repr

/-- The copy that is made of data. -/
def copyOf (env : Env) : Builder × Data → Option Copy
  | (b, d) =>
    if d.bytes ≠ [] ∧ d.placement.shadowed env then
      some ⟨b.curDesc, ⟨b.shadowBufferPos, d.bytes.length⟩⟩
    else none

/-- A builder, with the ranges of its shadow buffer that are in use, and the
copies among them. -/
structure Staging where
  builder : Builder
  reserved : List ShadowRange
  copies : List Copy

namespace Staging

def init (pool : List Desc) : Staging := ⟨.init pool, [], []⟩

/-- An operation that succeeds. -/
def step (env : Env) (s : Staging) (op : BuilderOp) : Option Staging :=
  match op.run env s.builder with
  | .error _ => none
  | .ok b =>
    let copied := ((op.added env s.builder).bind (copyOf env)).toList
    some ⟨b, s.reserved ++ op.arrays s.builder ++ copied.map (·.range), s.copies ++ copied⟩

end Staging

/-! ### Positions -/

theorem vmallocLoop_pos {frame : Nat → Nat} {fuel page offset len : Nat} {prevPfn : Int32}
    {b b' : Builder} (h : Builder.vmallocLoop frame fuel page offset len prevPfn b = .ok b') :
    b'.shadowBufferPos = b.shadowBufferPos := by
  induction fuel generalizing page offset len prevPfn b with
  | zero =>
      rw [Builder.vmallocLoop] at h
      split at h <;> cases h <;> rfl
  | succ fuel ih =>
      rw [Builder.vmallocLoop] at h
      split at h
      · cases h
        rfl
      · simp only at h
        split at h
        · cases h
        · rw [ih h]
          split <;> rfl

/-- Adding data moves the position by the length of the copy. -/
theorem addData_pos {env : Env} {d : Data} {b b' : Builder} (h : b.addData env d = .ok b') :
    b'.shadowBufferPos = b.shadowBufferPos + d.shadowLength env ∧
      (b.shadowBufferPos ≤ shadowBufSize → b'.shadowBufferPos ≤ shadowBufSize) := by
  by_cases hd : d.bytes = []
  · rw [addData_nil hd] at h
    cases h
    simp [Data.shadowLength, hd]
  · rw [Builder.addData, if_neg (mt List.eq_nil_of_length_eq_zero hd)] at h
    split at h
    · cases h
    · obtain ⟨b₁, hdescribe, hadd⟩ := bind_eq_ok.mp h
      have hsame : b'.shadowBufferPos = b₁.shadowBufferPos := by
        simp only [Builder.addDescriptor] at hadd
        split at hadd <;> cases hadd
        rfl
      rw [hsame]
      unfold Data.shadowLength
      by_cases hs : d.placement.shadowed env = true
      · rw [describe_of_shadowed b hs] at hdescribe
        rw [if_pos hs]
        split at hdescribe
        · cases hdescribe
        · next hfits =>
            cases hdescribe
            exact ⟨rfl, fun hb => by simp only; omega⟩
      · rw [if_neg hs, Nat.add_zero]
        have hpos : b₁.shadowBufferPos = b.shadowBufferPos := by
          unfold Builder.describe at hdescribe
          split at hdescribe
          · cases hdescribe
            rfl
          · exact vmallocLoop_pos hdescribe
          · next hdirect hvmalloc =>
              exact absurd (Placement.shadowed_of_not_in_place hdirect hvmalloc) hs
        exact ⟨hpos, fun hb => by rwa [hpos]⟩

/-- Ranges that follow each other up to `pos`. -/
structure Ordered (rs : List ShadowRange) (pos : Nat) : Prop where
  sorted : rs.Pairwise fun r r' => r.pos + r.len ≤ r'.pos
  below : ∀ r ∈ rs, r.pos + r.len ≤ pos

/-- A range is taken behind the others. -/
theorem Ordered.append {rs : List ShadowRange} {pos : Nat} (h : Ordered rs pos) (len : Nat) :
    Ordered (rs ++ [⟨pos, len⟩]) (pos + len) where
  sorted := by
    refine List.pairwise_append.mpr ⟨h.sorted, List.pairwise_singleton _ _, fun r hr r' hr' => ?_⟩
    rw [List.mem_singleton.mp hr']
    exact h.below r hr
  below := by
    intro r hr
    rcases List.mem_append.mp hr with hr | hr
    · exact (h.below r hr).trans (Nat.le_add_right _ _)
    · rw [List.mem_singleton.mp hr]

/-- Ranges that follow each other do not overlap. -/
theorem Ordered.disjoint {rs : List ShadowRange} {pos : Nat} (h : Ordered rs pos) :
    rs.Pairwise fun r r' => Disjoint r.offsets r'.offsets := by
  refine h.sorted.imp fun hle => Set.disjoint_left.mpr fun a ha ha' => ?_
  have hlt := ha.2
  have hge := ha'.1
  omega

/-- The range of the copy comes after those in use. -/
theorem Ordered.addData {env : Env} {rs : List ShadowRange} {b b' : Builder} {d : Data}
    (h : Ordered rs b.shadowBufferPos) (hadd : b.addData env d = .ok b') :
    Ordered (rs ++ (copyOf env (b, d)).toList.map (·.range)) b'.shadowBufferPos := by
  rw [(addData_pos hadd).1, copyOf, Data.shadowLength]
  by_cases hs : d.placement.shadowed env = true
  · by_cases hd : d.bytes = []
    · simpa [hs, hd] using h
    · rw [if_pos ⟨hd, hs⟩, if_pos hs]
      exact h.append d.bytes.length
  · simpa [hs] using h

/-! ### Copies that are kept -/

/-- The descriptor of the copy is as it was made. -/
structure Copy.Kept (env : Env) (b : Builder) (c : Copy) : Prop where
  inUse : c.desc < b.curDesc
  desc : b.descs[c.desc]? = some (.shadow env c.range.pos c.range.len)
  nonempty : 0 < c.range.len
  inside : c.range.pos + c.range.len ≤ shadowBufSize

theorem Copy.Kept.keeps {env : Env} {b b' : Builder} {c : Copy} (h : c.Kept env b)
    (hk : DescsKept b b') : c.Kept env b' :=
  ⟨h.inUse.trans_le hk.curDesc, (hk.descs _ h.inUse).trans h.desc, h.nonempty, h.inside⟩

/-- The copy that was just made. -/
theorem copyOf_kept {env : Env} {b b' : Builder} {d : Data} (hadd : b.addData env d = .ok b')
    (hfresh : d.StartsFresh env) {c : Copy} (hc : c ∈ copyOf env (b, d)) : c.Kept env b' := by
  rw [copyOf] at hc
  split at hc
  · next hcopy =>
      obtain ⟨hd, hs⟩ := hcopy
      cases hc
      obtain ⟨hfits, hdesc⟩ := (addData_stages hd hfresh hadd).copy hs
      refine ⟨?_, hdesc, List.length_pos_iff.mpr hd, hfits⟩
      obtain ⟨b₁, hfills, rfl⟩ := addData_fills hd hadd
      have hcur := hfills.curDesc
      rw [numDescs_of_shadowed hs] at hcur
      simp only
      omega
  · cases hc

/-- The first page of the data that is added does not extend the descriptor
before it. -/
def BuilderOp.StartsFresh (env : Env) : BuilderOp → Prop
  | .data d => d.StartsFresh env
  | _ => True

/-! ### Steps and runs -/

/-- The operation adds the data `d` to `b₀`, which has the array of the
operation reserved. -/
structure BuilderOp.Adds (env : Env) (b : Builder) (op : BuilderOp) (b' b₀ : Builder) (d : Data) :
    Prop where
  added : op.added env b = some (b₀, d)
  addData : b₀.addData env d = .ok b'
  keeps : DescsKept b b₀
  startsFresh : op.StartsFresh env → d.StartsFresh env
  inside : b.shadowBufferPos ≤ shadowBufSize → b₀.shadowBufferPos ≤ shadowBufSize
  ordered : ∀ rs, Ordered rs b.shadowBufferPos → Ordered (rs ++ op.arrays b) b₀.shadowBufferPos

/-- The operation only adds an entry. -/
structure BuilderOp.Refers (env : Env) (b : Builder) (op : BuilderOp) (b' : Builder) : Prop where
  added : op.added env b = none
  arrays : op.arrays b = []
  keeps : DescsKept b b'
  pos : b'.shadowBufferPos = b.shadowBufferPos

/-- An operation adds data, or an entry for a descriptor that is there. -/
theorem BuilderOp.run_cases {env : Env} {b b' : Builder} {op : BuilderOp}
    (h : op.run env b = .ok b') : (∃ b₀ d, op.Adds env b b' b₀ d) ∨ op.Refers env b b' := by
  cases op with
  | data d =>
      refine .inl ⟨b, d, rfl, h, .refl b, id, id, fun rs hrs => ?_⟩
      simpa only [BuilderOp.arrays, List.append_nil] using hrs
  | userptr entries =>
      rw [BuilderOp.run, Builder.addUserptr] at h
      obtain ⟨_, ⟨⟩, hadd⟩ := bind_eq_ok.mp h
      split at hadd
      · cases hadd
      · next hfits =>
          exact .inl ⟨_, _, rfl, hadd, ⟨le_rfl, fun _ _ => rfl⟩, fun _ => startsFresh_at _ _ _,
            fun _ => Nat.le_of_not_lt hfits, fun rs hrs => hrs.append _⟩
  | descriptor descIndex =>
      rw [BuilderOp.run, Builder.addDescriptor] at h
      split at h
      · cases h
      · cases h
        exact .inr ⟨rfl, rfl, ⟨le_rfl, fun _ _ => rfl⟩, rfl⟩

namespace Staging

variable {env : Env}

theorem step_eq_some {s s' : Staging} {op : BuilderOp} (h : s.step env op = some s') :
    ∃ b, op.run env s.builder = .ok b ∧
      s' = ⟨b, s.reserved ++ op.arrays s.builder ++
          ((op.added env s.builder).bind (copyOf env)).toList.map (·.range),
        s.copies ++ ((op.added env s.builder).bind (copyOf env)).toList⟩ := by
  unfold step at h
  split at h
  · cases h
  · next b hrun => exact ⟨b, hrun, (Option.some.inj h).symm⟩

/-- The ranges in use follow each other, within the buffer, and those of the
copies are among them. -/
structure InOrder (s : Staging) : Prop where
  ordered : Ordered s.reserved s.builder.shadowBufferPos
  inside : s.builder.shadowBufferPos ≤ shadowBufSize
  ranges : ∀ c ∈ s.copies, c.range ∈ s.reserved

theorem InOrder.init (pool : List Desc) : (Staging.init pool).InOrder where
  ordered := ⟨.nil, fun r hr => by cases hr⟩
  inside := Nat.zero_le _
  ranges := fun c hc => by cases hc

/-- Every operation takes its ranges behind those in use. -/
theorem InOrder.step {s s' : Staging} {op : BuilderOp} (hs : s.InOrder)
    (h : s.step env op = some s') : s'.InOrder := by
  obtain ⟨b, hrun, rfl⟩ := step_eq_some h
  have hranges : ∀ copied : List Copy, ∀ c ∈ s.copies ++ copied,
      c.range ∈ s.reserved ++ op.arrays s.builder ++ copied.map (·.range) := by
    intro copied c hc
    rcases List.mem_append.mp hc with hc | hc
    · exact List.mem_append_left _ (List.mem_append_left _ (hs.ranges c hc))
    · exact List.mem_append_right _ (List.mem_map_of_mem hc)
  rcases BuilderOp.run_cases hrun with ⟨b₀, d, hadds⟩ | hrefers
  · refine ⟨?_, (addData_pos hadds.addData).2 (hadds.inside hs.inside), hranges _⟩
    rw [hadds.added, Option.bind_some]
    exact (hadds.ordered _ hs.ordered).addData hadds.addData
  · refine ⟨?_, by simpa only [hrefers.pos] using hs.inside, hranges _⟩
    rw [hrefers.added, hrefers.arrays]
    simp only [hrefers.pos, Option.bind_none, Option.toList_none, List.map_nil, List.append_nil]
    exact hs.ordered

/-- The copies are as they were made. -/
def CopiesKept (env : Env) (s : Staging) : Prop := ∀ c ∈ s.copies, c.Kept env s.builder

/-- Every operation leaves the copies before it as they are. -/
theorem CopiesKept.step {s s' : Staging} {op : BuilderOp} (hs : s.CopiesKept env)
    (hfresh : op.StartsFresh env) (h : s.step env op = some s') : s'.CopiesKept env := by
  obtain ⟨b, hrun, rfl⟩ := step_eq_some h
  intro c hc
  rcases BuilderOp.run_cases hrun with ⟨b₀, d, hadds⟩ | hrefers
  · rw [hadds.added, Option.bind_some] at hc
    have hstarts := hadds.startsFresh hfresh
    rcases List.mem_append.mp hc with hc | hc
    · exact (hs c hc).keeps (hadds.keeps.trans (addData_keeps hstarts hadds.addData))
    · exact copyOf_kept hadds.addData hstarts (Option.mem_toList.mp hc)
  · rw [hrefers.added, Option.bind_none, Option.toList_none, List.append_nil] at hc
    exact (hs c hc).keeps hrefers.keeps

end Staging

/-- The ranges of the shadow buffer that a sequence of operations reserves are
disjoint and within the buffer. If no first page extends the descriptor before
it, every entry that refers to a copy reads it back, unless it ends with the
buffer. -/
theorem shadow_copies_retrieved (env : Env) (pool : List Desc) (ops : List BuilderOp)
    (s : Staging) (h : Trace.run (Staging.step env) (.init pool) ops = some s) :
    s.reserved.Pairwise (fun r r' => Disjoint r.offsets r'.offsets) ∧
      (∀ r ∈ s.reserved, r.pos + r.len ≤ shadowBufSize) ∧
      ((∀ op ∈ ops, op.StartsFresh env) → ∀ c ∈ s.copies, c.range ∈ s.reserved ∧
        ∀ i, (s.builder.sgs[i]?).map (·.desc) = some c.desc → ∀ shadow,
          (s.builder.retrieveData env shadow i =
              .ok (some ((List.range' c.range.pos c.range.len).map shadow)) ↔
            c.range.pos + c.range.len ≠ shadowBufSize)) := by
  have hinorder := Trace.run_invariant (fun _ _ _ hs => hs.step) (Staging.InOrder.init pool) h
  refine ⟨hinorder.ordered.disjoint,
    fun r hr => (hinorder.ordered.below r hr).trans hinorder.inside, fun hfresh c hc => ?_⟩
  have hkept : s.CopiesKept env :=
    Trace.run_invariant_of_conforms (fun _ _ _ hs hop => hs.step hop)
      (fun c hc => by cases hc) (Trace.conforms_of_forall (fun op hop _ => hfresh op hop) _) h
  refine ⟨hinorder.ranges c hc, fun i hentry shadow => ?_⟩
  have hcopy := hkept c hc
  exact retrieveData_copy_iff hentry hcopy.desc hcopy.nonempty hcopy.inside

/-- Three bytes that are copied, and a second entry for the copy. -/
def copiedTwice : List BuilderOp := [.data ⟨[1, 2, 3], .other⟩, .descriptor 0]

theorem shadow_copies_retrieved_twice : ∃ s,
    Trace.run (Staging.step ⟨false, 0x400000⟩) (.init [⟨0, 0, 0, false⟩]) copiedTwice = some s ∧
      ∀ shadow, s.builder.retrieveData ⟨false, 0x400000⟩ shadow 1 =
        .ok (some [shadow 0, shadow 1, shadow 2]) := by
  refine ⟨_, rfl, fun shadow => ?_⟩
  have hcopies := (shadow_copies_retrieved ⟨false, 0x400000⟩ [⟨0, 0, 0, false⟩] copiedTwice _
    rfl).2.2 (by simp [copiedTwice, BuilderOp.StartsFresh, Data.StartsFresh])
  exact ((hcopies ⟨0, 0, 3⟩ (by decide)).2 1 rfl shadow).mpr (by decide)

/-- A copy that fills the shadow buffer. -/
theorem shadow_copies_retrieved_fails_exactFit : ∃ s,
    Trace.run (Staging.step ⟨false, 0x400000⟩) (.init [⟨0, 0, 0, false⟩])
        [.data ⟨.replicate shadowBufSize 0, .other⟩] = some s ∧
      s.copies = [⟨0, 0, shadowBufSize⟩] ∧
      ∀ shadow, s.builder.retrieveData ⟨false, 0x400000⟩ shadow 0 = .error (-einval) := by
  have hadd : (Builder.init [⟨0, 0, 0, false⟩]).addData ⟨false, 0x400000⟩
      ⟨.replicate shadowBufSize 0, .other⟩ = .ok ⟨[.shadow ⟨false, 0x400000⟩ 0 shadowBufSize], 1,
        shadowBufSize, [⟨0, .replicate shadowBufSize 0⟩]⟩ := by
    simp only [Builder.addData, Builder.describe, List.length_replicate]
    rfl
  refine ⟨⟨⟨[.shadow ⟨false, 0x400000⟩ 0 shadowBufSize], 1, shadowBufSize,
    [⟨0, .replicate shadowBufSize 0⟩]⟩, [⟨0, shadowBufSize⟩], [⟨0, 0, shadowBufSize⟩]⟩, ?_, rfl,
    fun shadow => retrieveData_copy_end rfl rfl (by decide) rfl⟩
  have hcopy : copyOf ⟨false, 0x400000⟩ (.init [⟨0, 0, 0, false⟩],
      ⟨.replicate shadowBufSize 0, .other⟩) = some ⟨0, 0, shadowBufSize⟩ := by
    have hne : List.replicate shadowBufSize (0 : UInt8) ≠ [] :=
      List.ne_nil_of_length_pos (by rw [List.length_replicate]; decide)
    rw [copyOf, if_pos ⟨hne, rfl⟩, List.length_replicate]
    rfl
  simp only [Trace.run, Staging.step, Staging.init, BuilderOp.run, hadd, BuilderOp.added,
    Option.bind_some, hcopy]
  rfl

end VirtioMedia.Driver
