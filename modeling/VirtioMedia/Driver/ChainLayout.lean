import Mathlib.Data.Set.Basic
import VirtioMedia.Driver.Scatterlist
import VirtioMedia.Lib.Fallible

/-!
# The memory that a chain refers to

An entry of the chain refers to the ranges of its descriptors. The response
repeats the payload of the command by index, counting entries; the indices are
those of descriptors. The two agree as long as every structure before the last
one takes one descriptor, that is, unless it lies in vmalloc memory whose pages
are not physically consecutive.
-/

namespace VirtioMedia.Driver

open V4l2 Wire Fallible

/-! ### Ranges -/

/-- The physical address at which a descriptor starts. -/
def Desc.addr (d : Desc) : Nat := d.pfn * pageSize + d.offset

/-- The ranges up to the first end mark. -/
def ranges : List Desc → List (Nat × Nat)
  | [] => []
  | d :: ds => (d.addr, d.length) :: if d.last then [] else ranges ds

namespace Builder

/-- The ranges that an entry with this descriptor index refers to. -/
def memory (b : Builder) (desc : Nat) : List (Nat × Nat) := ranges (b.descs.drop desc)

/-- The start of a descriptor of the pool. -/
def addr? (b : Builder) (i : Nat) : Option Nat := b.descs[i]?.map Desc.addr

theorem memory_eq_cons {b : Builder} {i a : Nat} (h : b.addr? i = some a) :
    ∃ length rest, b.memory i = (a, length) :: rest := by
  obtain ⟨d, hd, rfl⟩ := Option.map_eq_some_iff.mp h
  obtain ⟨hi, rfl⟩ := List.getElem?_eq_some_iff.mp hd
  refine ⟨b.descs[i].length, if b.descs[i].last then [] else ranges (b.descs.drop (i + 1)), ?_⟩
  rw [memory, List.drop_eq_getElem_cons hi, ranges]

end Builder

/-- The payload of the response, which is what follows its header, refers to
the same ranges as the payload of the command, in the same order. -/
def Mirrors (c : CommandChain) (b : Builder) : Prop :=
  (b.sgs.drop (c.numCmdSgs + 1)).flatMap (fun sg => b.memory sg.desc) =
    ((b.sgs.take c.endPayloadSg).drop 1).flatMap (fun sg => b.memory sg.desc)

instance (c : CommandChain) (b : Builder) : Decidable (Mirrors c b) :=
  inferInstanceAs (Decidable (_ = _))

/-! ### Runs of pages -/

/-- The number of pages that `len` bytes touch. -/
def numPages (offset len : Nat) : Nat :=
  if len = 0 then 0 else (offset + len + pageSize - 1) / pageSize

/-- The `prev_pfn` with which the loop comes to a page. -/
def prevPfn (frame : Nat → Nat) : Nat → Int32
  | 0 => -2
  | page + 1 => Int32.ofNat (frame page)

/-- The page does not follow the one before it. -/
def startsRun (frame : Nat → Nat) (page : Nat) : Bool :=
  Int32.ofNat (frame page) != prevPfn frame page + 1

namespace Data

/-- The number of descriptors that the data takes. -/
def numDescs (env : Env) (d : Data) : Nat :=
  match env.alwaysUseShadowBuffer, d.placement with
  | false, .vmalloc offset frame =>
    (List.range' 0 (numPages offset d.bytes.length)).countP (startsRun frame)
  | _, _ => 1

/-- The data is one physical range: it is in the 1:1 mapping, goes through the
shadow buffer, or its pages follow each other. -/
def OneRun (env : Env) (d : Data) : Prop :=
  match env.alwaysUseShadowBuffer, d.placement with
  | false, .vmalloc offset frame =>
    ∀ page < numPages offset d.bytes.length, (startsRun frame page ↔ page = 0)
  | _, _ => True

instance (env : Env) (d : Data) : Decidable (d.OneRun env) :=
  match env, d with
  | ⟨false, _⟩, ⟨_, .vmalloc _ _⟩ => inferInstanceAs (Decidable (∀ page < _, (_ ↔ _)))
  | ⟨false, _⟩, ⟨_, .direct _ _⟩ => isTrue trivial
  | ⟨false, _⟩, ⟨_, .other⟩ => isTrue trivial
  | ⟨true, _⟩, _ => isTrue trivial

end Data

theorem numPages_pos {offset len : Nat} (h : len ≠ 0) : 0 < numPages offset len := by
  simp only [numPages, h, if_false, pageSize]
  omega

/-- The first page, and the pages of the rest. -/
theorem numPages_step {offset len : Nat} (ho : offset < pageSize) (h : len ≠ 0) :
    numPages offset len = numPages 0 (len - min (pageSize - offset) len) + 1 := by
  rw [numPages, numPages, if_neg h]
  by_cases hrest : len - min (pageSize - offset) len = 0
  · rw [if_pos hrest]
    simp only [pageSize] at *
    omega
  · rw [if_neg hrest]
    simp only [pageSize] at *
    omega

theorem startsRun_zero_of_lt {frame : Nat → Nat} (h : frame 0 < 2 ^ 31) :
    startsRun frame 0 = true := by
  have hne : Int32.ofNat (frame 0) ≠ -1 := by
    intro he
    have hi := congrArg Int32.toInt he
    rw [Int32.toInt_ofNat_of_lt h] at hi
    have h1 : (-1 : Int32).toInt = -1 := by decide
    omega
  simpa [startsRun, prevPfn] using hne

namespace Data

variable {env : Env} {d : Data}

/-- Data in one run of addresses has one descriptor. -/
theorem numDescs_eq_one (hd : d.bytes ≠ []) (h : d.OneRun env) : d.numDescs env = 1 := by
  unfold numDescs
  split
  · next offset frame hs hp =>
      simp only [OneRun, hs, hp] at h
      obtain ⟨n, hn⟩ : ∃ n, numPages offset d.bytes.length = n + 1 :=
        Nat.exists_eq_add_one.mpr (numPages_pos (mt List.eq_nil_of_length_eq_zero hd))
      rw [hn] at h ⊢
      rw [List.range'_succ, List.countP_cons_of_pos ((h 0 n.succ_pos).mpr rfl),
        List.countP_eq_zero.mpr]
      intro page hpage hrun
      rw [List.mem_range'_1] at hpage
      have := (h page (by omega)).mp hrun
      omega
  · rfl

/-- The frame numbers of the data fit the `int` that the driver keeps them in. -/
def FramesFit (d : Data) : Prop :=
  match d.placement with
  | .vmalloc offset frame => ∀ page < numPages offset d.bytes.length, frame page < 2 ^ 31
  | _ => True

/-- Only vmapped memory is described in several runs. -/
theorem exists_vmalloc_of_not_oneRun (hd : d.bytes ≠ []) (hf : d.FramesFit)
    (h : ¬d.OneRun env) :
    env.alwaysUseShadowBuffer = false ∧
      (∃ offset frame, d.placement = .vmalloc offset frame) ∧ 2 ≤ d.numDescs env := by
  unfold OneRun at h
  split at h
  · next offset frame hs hp =>
      refine ⟨hs, ⟨offset, frame, hp⟩, ?_⟩
      simp only [FramesFit, hp] at hf
      simp only [numDescs, hs, hp]
      obtain ⟨n, hn⟩ : ∃ n, numPages offset d.bytes.length = n + 1 :=
        Nat.exists_eq_add_one.mpr (numPages_pos (mt List.eq_nil_of_length_eq_zero hd))
      rw [hn] at h hf ⊢
      have h0 := startsRun_zero_of_lt (hf 0 n.succ_pos)
      -- the page at which the data stops being one run is not the first
      have hlater : ∃ page ∈ List.range' 1 n, startsRun frame page = true := by
        by_contra hnone
        refine h fun page hpage => ⟨fun hrun => ?_, fun hz => hz ▸ h0⟩
        by_contra hne
        exact hnone ⟨page, List.mem_range'_1.mpr (by omega), hrun⟩
      have hpos := List.countP_pos_iff.mpr hlater
      rw [List.range'_succ, List.countP_cons_of_pos h0, Nat.zero_add]
      omega
  · exact absurd trivial h

/-- The first page is not taken for the one after the initial `prev_pfn`. -/
def StartsFresh (env : Env) (d : Data) : Prop :=
  match env.alwaysUseShadowBuffer, d.placement with
  | false, .vmalloc _ frame => startsRun frame 0 = true
  | _, _ => True

/-- The first page of data whose frames fit an `int` starts a descriptor. -/
theorem FramesFit.startsFresh (hd : d.bytes ≠ []) (hf : d.FramesFit) : d.StartsFresh env := by
  unfold StartsFresh
  split
  · next offset frame hs hp =>
      simp only [FramesFit, hp] at hf
      exact startsRun_zero_of_lt (hf 0 (numPages_pos (mt List.eq_nil_of_length_eq_zero hd)))
  · trivial

theorem StartsFresh.numDescs_pos (hd : d.bytes ≠ []) (h : d.StartsFresh env) :
    0 < d.numDescs env := by
  unfold StartsFresh at h
  unfold numDescs
  split
  · next offset frame hs hp =>
      simp only [hs, hp] at h
      refine List.countP_pos_iff.mpr ⟨0, List.mem_range'_1.mpr ⟨le_rfl, ?_⟩, h⟩
      rw [Nat.zero_add]
      exact numPages_pos (mt List.eq_nil_of_length_eq_zero hd)
  · exact Nat.one_pos

theorem numDescs_pos (hd : d.bytes ≠ []) (hf : d.FramesFit) : 0 < d.numDescs env :=
  (hf.startsFresh hd).numDescs_pos hd

end Data

/-! ### Physical memory -/

/-- The physical address of a byte of a structure that the chain refers to in
place. -/
def Placement.byteAt : Placement → Nat → Option Nat
  | .direct pfn offset, i => some (pfn * pageSize + offset + i)
  | .vmalloc offset frame, i =>
    some (frame ((offset + i) / pageSize) * pageSize + (offset + i) % pageSize)
  | .other, _ => none

/-- The physical addresses of a structure. -/
def Data.phys (d : Data) : Set Nat :=
  {a | ∃ i < d.bytes.length, d.placement.byteAt i = some a}

/-- The physical addresses of the shadow buffer. -/
def Env.shadowPhys (env : Env) : Set Nat :=
  {a | env.shadowBuffer ≤ a ∧ a < env.shadowBuffer + shadowBufSize}

/-- The addresses from which the device gets the bytes of a structure. -/
def Data.owned (env : Env) (d : Data) : Set Nat :=
  match env.alwaysUseShadowBuffer, d.placement with
  | false, .direct _ _ => d.phys
  | false, .vmalloc _ _ => d.phys
  | _, _ => env.shadowPhys

/-- The structures are different objects of the kernel: they share no byte
with each other nor with the shadow buffer, and their frame numbers fit an
`int`. -/
structure SeparateObjects (env : Env) (ds : List Data) : Prop where
  apart : ds.Pairwise fun d d' => ∀ a ∈ d.phys, a ∉ d'.phys
  shadow : ∀ d ∈ ds, ∀ a ∈ d.phys, a ∉ env.shadowPhys
  frames : ∀ d ∈ ds, d.FramesFit

/-- Objects that are apart stay apart when the first one is left out. -/
theorem SeparateObjects.tail {env : Env} {d : Data} {ds : List Data}
    (h : SeparateObjects env (d :: ds)) : SeparateObjects env ds :=
  ⟨h.apart.of_cons, fun d hd => h.shadow d (.tail _ hd), fun d hd => h.frames d (.tail _ hd)⟩

/-- What is described where it lies is described nowhere else. -/
theorem SeparateObjects.not_mem_owned {env : Env} {d d' : Data} {ds : List Data}
    (h : SeparateObjects env (d :: ds)) (hd' : d' ∈ ds) :
    ∀ a ∈ d.phys, a ∉ d'.owned env := by
  have hapart := List.rel_of_pairwise_cons h.apart hd'
  unfold Data.owned
  split
  · exact hapart
  · exact hapart
  · exact h.shadow d List.mem_cons_self

/-! ### Filling descriptors -/

/-- A step from `b` to `b'` fills the next `n` descriptors, with starts in
`owned`, and leaves the starts before them. -/
structure Fills (owned : Set Nat) (n : Nat) (b b' : Builder) : Prop where
  sgs : b'.sgs = b.sgs
  curDesc : b'.curDesc = b.curDesc + n
  kept : ∀ i < b.curDesc, b'.addr? i = b.addr? i
  filled : ∀ i, b.curDesc ≤ i → i < b.curDesc + n → ∃ a ∈ owned, b'.addr? i = some a

namespace Fills

variable {owned : Set Nat} {n m : Nat} {b b' b'' : Builder}

theorem refl (owned : Set Nat) (b : Builder) : Fills owned 0 b b :=
  ⟨rfl, rfl, fun _ _ => rfl, fun i h h' => absurd h (by omega)⟩

/-- What is filled first and what is filled then. -/
theorem trans (h : Fills owned n b b') (h' : Fills owned m b' b'') :
    Fills owned (n + m) b b'' where
  sgs := h'.sgs.trans h.sgs
  curDesc := by rw [h'.curDesc, h.curDesc, Nat.add_assoc]
  kept := by
    intro i hi
    have hi' : i < b'.curDesc := by
      rw [h.curDesc]
      omega
    rw [h'.kept i hi', h.kept i hi]
  filled := by
    intro i hi hi'
    by_cases hmid : i < b.curDesc + n
    · obtain ⟨a, ha, hai⟩ := h.filled i hi hmid
      exact ⟨a, ha, by rw [h'.kept i (by rw [h.curDesc]; exact hmid), hai]⟩
    · have hcur := h.curDesc
      exact h'.filled i (by omega) (by omega)

/-- A change of lengths and end marks moves no descriptor. -/
theorem of_modify {b : Builder} {i : Nat} {f : Desc → Desc} (hf : ∀ d, (f d).addr = d.addr) :
    Fills owned 0 b { b with descs := b.descs.modify i f } where
  sgs := rfl
  curDesc := rfl
  kept := by
    intro j _
    rw [Builder.addr?, Builder.addr?, List.getElem?_modify]
    by_cases hij : i = j
    · cases b.descs[j]? <;> simp [hij, hf]
    · simp [hij]
  filled := fun i h h' => absurd h (by omega)

theorem extendLast (b : Builder) (len : Nat) : Fills owned 0 b (b.extendLast len) :=
  of_modify fun _ => rfl

theorem markEnd (b : Builder) : Fills owned 0 b b.markEnd :=
  of_modify fun _ => rfl

theorem put {d : Desc} (hlen : b.curDesc < b.descs.length) (ha : d.addr ∈ owned) :
    Fills owned 1 b (b.put d) where
  sgs := rfl
  curDesc := rfl
  kept := by
    intro i hi
    rw [Builder.addr?, Builder.put, List.getElem?_set_ne (by omega)]
    rfl
  filled := by
    intro i hi hi'
    obtain rfl : i = b.curDesc := by omega
    refine ⟨d.addr, ha, ?_⟩
    rw [Builder.addr?, Builder.put, List.getElem?_set_self hlen]
    rfl

end Fills

/-- The byte at which a page of vmalloc memory is entered. -/
theorem byteAt_vmalloc {offset₀ : Fin pageSize} {frame : Nat → Nat} {done page offset : Nat}
    (ho : offset < pageSize) (hpos : offset₀ + done = page * pageSize + offset) :
    (Placement.vmalloc offset₀ frame).byteAt done = some (frame page * pageSize + offset) := by
  have hdiv : (offset₀ + done) / pageSize = page := by
    rw [hpos, Nat.mul_comm, Nat.mul_add_div (by decide), Nat.div_eq_of_lt ho, Nat.add_zero]
  have hmod : (offset₀ + done) % pageSize = offset := by
    rw [hpos, Nat.mul_comm, Nat.mul_add_mod, Nat.mod_eq_of_lt ho]
  rw [Placement.byteAt, hdiv, hmod]

/-- The loop over the pages fills one descriptor for each run. `done` bytes
are described when it comes to `page`. -/
theorem vmallocLoop_fills {d : Data} {offset₀ : Fin pageSize} {frame : Nat → Nat}
    (hp : d.placement = .vmalloc offset₀ frame) {fuel page offset len done : Nat}
    {b b' : Builder} (hfuel : len ≤ fuel) (ho : offset < pageSize)
    (hpos : len ≠ 0 → offset₀ + done = page * pageSize + offset)
    (hlen : done + len = d.bytes.length)
    (h : Builder.vmallocLoop frame fuel page offset len (prevPfn frame page) b = .ok b') :
    Fills d.phys ((List.range' page (numPages offset len)).countP (startsRun frame)) b b' := by
  induction fuel generalizing page offset len done b with
  | zero =>
      obtain rfl : len = 0 := by omega
      rw [Builder.vmallocLoop, if_pos rfl] at h
      cases h
      exact .refl _ _
  | succ fuel ih =>
      rw [Builder.vmallocLoop] at h
      by_cases hz : len = 0
      · subst hz
        rw [if_pos rfl] at h
        cases h
        exact .refl _ _
      · rw [if_neg hz] at h
        simp only at h
        by_cases hfull : b.descs.length ≤ b.curDesc
        · rw [if_pos hfull] at h
          cases h
        · rw [if_neg hfull] at h
          have hpos := hpos hz
          have hnext : len - min (pageSize - offset) len ≠ 0 →
              offset₀ + (done + min (pageSize - offset) len) = (page + 1) * pageSize + 0 := by
            rw [Nat.succ_mul]
            omega
          have hrest := fun b₁ (h₁ : Builder.vmallocLoop frame fuel (page + 1) 0
              (len - min (pageSize - offset) len) (prevPfn frame (page + 1)) b₁ = .ok b') =>
            ih (by omega) (by decide) hnext (by omega) h₁
          rw [numPages_step ho hz, List.range'_succ]
          by_cases hrun : Int32.ofNat (frame page) = prevPfn frame page + 1
          · rw [if_pos hrun] at h
            rw [List.countP_cons_of_neg (by simpa [startsRun] using hrun)]
            have hstep := (Fills.extendLast b (min (pageSize - offset) len)).trans (hrest _ h)
            rwa [Nat.zero_add] at hstep
          · rw [if_neg hrun] at h
            rw [List.countP_cons_of_pos (by simpa [startsRun] using hrun), Nat.add_comm]
            refine (Fills.put (by omega) ?_).trans (hrest _ h)
            refine ⟨done, by omega, ?_⟩
            rw [hp, byteAt_vmalloc ho hpos]
            rfl

/-- The descriptors of data are written one after the other, and refer to its
own memory. -/
theorem describe_fills {env : Env} {d : Data} {b b' : Builder} (hd : d.bytes ≠ [])
    (hlen : b.curDesc < b.descs.length) (h : b.describe env d = .ok b') :
    Fills (d.owned env) (d.numDescs env) b b' := by
  have hpos : 0 < d.bytes.length := List.length_pos_iff.mpr hd
  unfold Builder.describe at h
  split at h
  · next pfn offset hs hp =>
      cases h
      simp only [Data.owned, Data.numDescs, hs, hp]
      refine Fills.put hlen ⟨0, hpos, ?_⟩
      rw [hp, Placement.byteAt, Nat.add_zero, Desc.addr, Desc.page]
  · next offset frame hs hp =>
      simp only [Data.owned, Data.numDescs, hs, hp]
      have hloop : Builder.vmallocLoop frame d.bytes.length 0 offset d.bytes.length
          (prevPfn frame 0) b = .ok b' := h
      have hpos : (offset : Nat) + 0 = 0 * pageSize + offset := by omega
      exact vmallocLoop_fills hp le_rfl offset.isLt (fun _ => hpos) (Nat.zero_add _) hloop
  · next hdirect hvmalloc =>
      have howned : d.owned env = env.shadowPhys := by
        unfold Data.owned
        split <;> simp_all
      have hnum : d.numDescs env = 1 := by
        unfold Data.numDescs
        split <;> simp_all
      by_cases hfull : shadowBufSize - b.shadowBufferPos < d.bytes.length
      · simp only [if_pos hfull] at h
        cases h
      · simp only [if_neg hfull] at h
        cases h
        rw [howned, hnum]
        have haddr := Nat.div_add_mod (env.shadowBuffer + b.shadowBufferPos) pageSize
        have hmem : (Desc.page ((env.shadowBuffer + b.shadowBufferPos) / pageSize) d.bytes.length
            ((env.shadowBuffer + b.shadowBufferPos) % pageSize)).addr ∈ env.shadowPhys := by
          rw [Nat.mul_comm] at haddr
          simp only [Desc.addr, Desc.page, haddr]
          exact ⟨by omega, by omega⟩
        have hput := Fills.put hlen hmem
        exact ⟨hput.sgs, hput.curDesc, hput.kept, hput.filled⟩

/-- Adding data that is not empty appends one entry, which refers to the next
descriptor. -/
theorem addData_fills {env : Env} {d : Data} {b b' : Builder} (hd : d.bytes ≠ [])
    (h : b.addData env d = .ok b') :
    ∃ b₁, Fills (d.owned env) (d.numDescs env) b b₁ ∧
      b' = { b₁ with sgs := b.sgs ++ [⟨b.curDesc, d.bytes⟩] } := by
  rw [Builder.addData, if_neg (mt List.eq_nil_of_length_eq_zero hd)] at h
  by_cases hfull : b.descs.length ≤ b.curDesc
  · rw [if_pos hfull] at h
    cases h
  · rw [if_neg hfull] at h
    cases hdesc : b.describe env d with
    | error e =>
        rw [hdesc] at h
        cases h
    | ok b₁ =>
        rw [hdesc] at h
        have hfills := (describe_fills hd (Nat.lt_of_not_le hfull) hdesc).trans (.markEnd b₁)
        refine ⟨b₁.markEnd, hfills, ?_⟩
        rw [← hfills.sgs]
        simp only [Except.bind, Builder.addDescriptor] at h
        split at h
        · cases h
        · exact (Except.ok.inj h).symm

/-- Data without bytes is skipped. -/
theorem addData_nil {env : Env} {d : Data} (hd : d.bytes = []) (b : Builder) :
    b.addData env d = .ok b := by
  rw [Builder.addData, hd]
  rfl

/-! ### One structure after the other -/

/-- `scatterlist_builder_add_data` for every structure of a list. -/
def Builder.addAll (env : Env) : Builder → List Data → Except Int Builder
  | b, [] => .ok b
  | b, d :: ds => (b.addData env d).bind fun b => b.addAll env ds

/-- A later state of the builder: it keeps the entries, and the starts of the
descriptors in use. -/
structure Later (b b' : Builder) : Prop where
  sgs : b.sgs <+: b'.sgs
  curDesc : b.curDesc ≤ b'.curDesc
  kept : ∀ i < b.curDesc, b'.addr? i = b.addr? i

namespace Later

variable {b b' b'' : Builder}

theorem refl (b : Builder) : Later b b := ⟨List.prefix_refl _, le_rfl, fun _ _ => rfl⟩

theorem trans (h : Later b b') (h' : Later b' b'') : Later b b'' :=
  ⟨h.sgs.trans h'.sgs, h.curDesc.trans h'.curDesc, fun i hi => by
    rw [h'.kept i (hi.trans_le h.curDesc), h.kept i hi]⟩

theorem addData {env : Env} {d : Data} (h : b.addData env d = .ok b') : Later b b' := by
  by_cases hd : d.bytes = []
  · rw [addData_nil hd] at h
    cases h
    exact .refl b
  · obtain ⟨b₁, hfills, rfl⟩ := addData_fills hd h
    exact ⟨List.prefix_append _ _, by simp [hfills.curDesc], hfills.kept⟩

end Later

/-- The descriptor indices of the entries, from the first free descriptor on. -/
def firsts (env : Env) : Nat → List Data → List Nat
  | _, [] => []
  | i, d :: ds => i :: firsts env (i + d.numDescs env) ds

theorem length_firsts (env : Env) (s : Nat) (ds : List Data) :
    (firsts env s ds).length = ds.length := by
  induction ds generalizing s with
  | nil => rfl
  | cons d ds ih => rw [firsts, List.length_cons, ih, List.length_cons]

/-- The descriptors of the structures are filled in, from the given one on. -/
def Described (env : Env) (b : Builder) : Nat → List Data → Prop
  | _, [] => True
  | s, d :: ds =>
    (∀ i, s ≤ i → i < s + d.numDescs env →
      i < b.curDesc ∧ ∃ a ∈ d.owned env, b.addr? i = some a) ∧
    Described env b (s + d.numDescs env) ds

/-- What is described stays described. -/
theorem Described.later {env : Env} {b b' : Builder} {s : Nat} {ds : List Data}
    (h : Described env b s ds) (hl : Later b b') : Described env b' s ds := by
  induction ds generalizing s with
  | nil => trivial
  | cons d ds ih =>
      refine ⟨fun i hi hi' => ?_, ih h.2⟩
      obtain ⟨hcur, a, ha, hai⟩ := h.1 i hi hi'
      exact ⟨hcur.trans_le hl.curDesc, a, ha, by rw [hl.kept i hcur, hai]⟩

/-- Adding structures that are not empty appends one entry for each. -/
theorem addAll_described {env : Env} {ds : List Data} {b b' : Builder}
    (hds : ∀ d ∈ ds, d.bytes ≠ []) (h : b.addAll env ds = .ok b') :
    b'.sgs.map (·.desc) = b.sgs.map (·.desc) ++ firsts env b.curDesc ds ∧
      Later b b' ∧ Described env b' b.curDesc ds := by
  induction ds generalizing b with
  | nil =>
      cases h
      exact ⟨(List.append_nil _).symm, .refl _, trivial⟩
  | cons d ds ih =>
      cases hadd : b.addData env d with
      | error e =>
          rw [Builder.addAll, hadd] at h
          cases h
      | ok b₁ =>
          rw [Builder.addAll, hadd] at h
          obtain ⟨hsgs, hlater, hrest⟩ := ih (fun d hd => hds d (.tail _ hd)) h
          obtain ⟨b₂, hfills, rfl⟩ := addData_fills (hds d List.mem_cons_self) hadd
          simp only [hfills.curDesc] at hsgs hrest
          refine ⟨?_, (Later.addData hadd).trans hlater, ?_, hrest⟩
          · rw [hsgs, List.map_append, List.append_assoc]
            rfl
          · intro i hi hi'
            obtain ⟨a, ha, hai⟩ := hfills.filled i hi hi'
            have hcur : i < b₂.curDesc := by
              rw [hfills.curDesc]
              exact hi'
            exact ⟨hcur.trans_le hlater.curDesc, a, ha, (hlater.kept i hcur).trans hai⟩

/-- Empty structures make no difference to a chain. -/
theorem addAll_filter (env : Env) (b : Builder) (ds : List Data) :
    b.addAll env (ds.filter (·.bytes ≠ [])) = b.addAll env ds := by
  induction ds generalizing b with
  | nil => rfl
  | cons d ds ih =>
      by_cases hd : d.bytes = []
      · rw [List.filter_cons_of_neg (by simp [hd]), ih, Builder.addAll, addData_nil hd]
        rfl
      · rw [List.filter_cons_of_pos (by simp [hd]), Builder.addAll, Builder.addAll]
        simp only [ih]

/-! ### The two index spaces -/

/-- If every structure before the last takes one descriptor, the indices of
the entries count up. -/
theorem firsts_eq_range' {env : Env} {ds : List Data} (s : Nat)
    (h : ∀ d ∈ ds.dropLast, d.numDescs env = 1) :
    firsts env s ds = List.range' s ds.length := by
  induction ds generalizing s with
  | nil => rfl
  | cons d ds ih =>
      cases ds with
      | nil => rfl
      | cons d' ds =>
          rw [firsts, h d List.mem_cons_self, List.length_cons, List.range'_succ,
            ih _ fun x hx => h x (.tail _ hx)]

/-- Of separate objects, no structure before the last takes more than one
descriptor if counting up refers to the same memory: at the first one that does,
the next entry would have to start within it. -/
theorem oneRun_of_memory_eq {env : Env} {b : Builder} {ds : List Data} {s : Nat}
    (hds : ∀ d ∈ ds, d.bytes ≠ []) (hsep : SeparateObjects env ds)
    (hdesc : Described env b s ds)
    (h : (List.range' s ds.length).flatMap b.memory = (firsts env s ds).flatMap b.memory) :
    ∀ d ∈ ds.dropLast, d.OneRun env := by
  induction ds generalizing s with
  | nil => simp
  | cons d ds ih =>
      cases ds with
      | nil => simp
      | cons d' ds =>
          have hd := hds d List.mem_cons_self
          rw [List.length_cons, List.range'_succ, firsts, List.flatMap_cons, List.flatMap_cons,
            List.append_cancel_left_eq] at h
          have hrun : d.OneRun env := by
            by_contra hnot
            obtain ⟨hs, ⟨offset, frame, hp⟩, htwo⟩ :=
              Data.exists_vmalloc_of_not_oneRun hd (hsep.frames d List.mem_cons_self) hnot
            have howned : d.owned env = d.phys := by simp only [Data.owned, hs, hp]
            -- the second descriptor of `d`, and the first one of `d'`
            obtain ⟨-, a, ha, hai⟩ := hdesc.1 (s + 1) (by omega) (by omega)
            have hpos : 0 < d'.numDescs env :=
              Data.numDescs_pos (hds d' (.tail _ List.mem_cons_self))
              (hsep.frames d' (.tail _ List.mem_cons_self))
            obtain ⟨-, a', ha', hai'⟩ :=
              hdesc.2.1 (s + d.numDescs env) le_rfl (Nat.lt_add_of_pos_right hpos)
            obtain ⟨l, rest, hm⟩ := Builder.memory_eq_cons hai
            obtain ⟨l', rest', hm'⟩ := Builder.memory_eq_cons hai'
            rw [List.length_cons, List.range'_succ, firsts, List.flatMap_cons,
              List.flatMap_cons, hm, hm'] at h
            obtain rfl : a = a' := congrArg Prod.fst (List.cons.inj h).1
            rw [howned] at ha
            exact hsep.not_mem_owned List.mem_cons_self a ha ha'
          rw [Data.numDescs_eq_one hd hrun] at h
          have hdesc' := hdesc.2
          rw [Data.numDescs_eq_one hd hrun] at hdesc'
          intro x hx
          rcases List.mem_cons.mp hx with rfl | hx
          · exact hrun
          · exact ih (fun x hx => hds x (.tail _ hx)) hsep.tail hdesc' h x hx

/-! ### Commands -/

/-- The UUIDs that are sent with a buffer. -/
def uuidPayload (arg : BufferArg) (uuids : List Data) : List Data :=
  if arg.buffer.memory ≠ memoryDmabuf then []
  else
    let count := if arg.isMultiplanar then arg.buffer.length.toNat else 1
    (uuids[arg.buffer.index.toNat]?.map fun slot =>
      { slot with bytes := slot.bytes.take (count * 16) }).toList

/-- The structures of a buffer ioctl: the buffer, its planes and its UUIDs. -/
def bufferPayload (arg : BufferArg) (p : BufferPlacement) (uuids : List Data) : List Data :=
  ⟨v4l2Buffer.enc arg.buffer, p.buffer⟩ :: ⟨arg.sentPlanes.flatMap v4l2Plane.enc, p.planes⟩ ::
    uuidPayload arg uuids

/-- The structures of an extended controls ioctl. -/
def extCtrlsPayload (arg : ExtCtrlsArg) (p : ExtCtrlsPlacement) : List Data :=
  [⟨extControls.enc arg.ctrls, p.ctrls⟩, ⟨arg.array.flatMap extControl.enc, p.array⟩]

section Commands

variable {env : Env} {session : SessionData}
  {userptr : UInt64 → UInt32 → Except Int (List SgEntry)} {pool : List Desc}

/-- The device-readable section: the command, the payload `ds`, and the SG
lists of `ptrs`. -/
structure Built (env : Env) (session : SessionData)
    (userptr : UInt64 → UInt32 → Except Int (List SgEntry)) (pool : List Desc)
    (ds : List Data) (ptrs : List (UInt64 × UInt32)) (c : CommandChain)
    (start body : Builder) : Prop where
  cmd : (Builder.init pool).addData env session.cmdData = .ok start
  payload : start.addAll env ds = .ok body
  userptrs : body.addUserptrs env userptr ptrs = .ok c.builder
  endPayloadSg : c.endPayloadSg = body.sgs.length
  numCmdSgs : c.numCmdSgs = c.builder.sgs.length

theorem addUuids_eq_addAll {b b' : Builder} {arg : BufferArg} {uuids : List Data}
    (h : b.addUuids env arg uuids = .ok b') :
    b.addAll env (uuidPayload arg uuids) = .ok b' := by
  unfold Builder.addUuids at h
  unfold uuidPayload
  split at h
  · next hmem =>
      rw [if_pos hmem]
      exact h
  · next hmem =>
      rw [if_neg hmem]
      simp only at h ⊢
      generalize (if arg.isMultiplanar = true then arg.buffer.length.toNat else 1) = count at h ⊢
      split at h
      · cases h
      · next slot hslot =>
          rw [hslot]
          split at h
          · cases h
          · simp only [Option.map_some, Option.toList_some, Builder.addAll, h]
            rfl

/-- The chain of a buffer ioctl is built from its payload and the SG lists of
its planes. -/
theorem buildBufferCmd_built {uuids : List Data} {arg : BufferArg} {p : BufferPlacement}
    {c : CommandChain} (h : buildBufferCmd env session userptr uuids pool arg p = .ok c) :
    ∃ start payload, Built env session userptr pool (bufferPayload arg.fixup p uuids)
      arg.fixup.userptrs c start payload := by
  unfold buildBufferCmd at h
  split at h
  · cases h
  · obtain ⟨start, hcmd, h⟩ := bind_eq_ok.mp h
    obtain ⟨b₂, hbuf, h⟩ := bind_eq_ok.mp h
    obtain ⟨b₁, hbuffer, hplanes⟩ := bind_eq_ok.mp hbuf
    obtain ⟨payload, huuids, h⟩ := bind_eq_ok.mp h
    obtain ⟨b, hptrs, rfl⟩ := map_eq_ok.mp h
    refine ⟨start, payload, hcmd, ?_, hptrs, rfl, rfl⟩
    refine bind_eq_ok.mpr ⟨b₁, hbuffer, ?_⟩
    exact bind_eq_ok.mpr ⟨b₂, hplanes, addUuids_eq_addAll huuids⟩

/-- The chain of an extended-control ioctl is built from its payload and the SG
lists of its controls. -/
theorem buildExtCtrlsCmd_built {arg : ExtCtrlsArg} {p : ExtCtrlsPlacement} {c : CommandChain}
    (h : buildExtCtrlsCmd env session userptr pool arg p = .ok c) :
    ∃ start payload, Built env session userptr pool (extCtrlsPayload arg p)
      (arg.array.map fun c => (c.value, c.size)) c start payload := by
  obtain ⟨start, hcmd, h⟩ := bind_eq_ok.mp h
  obtain ⟨payload, hext, h⟩ := bind_eq_ok.mp h
  obtain ⟨b₁, hctrls, harray⟩ := bind_eq_ok.mp hext
  obtain ⟨b, hptrs, rfl⟩ := map_eq_ok.mp h
  refine ⟨start, payload, hcmd, ?_, hptrs, rfl, rfl⟩
  refine bind_eq_ok.mpr ⟨b₁, hctrls, ?_⟩
  exact bind_eq_ok.mpr ⟨payload, harray, rfl⟩

theorem addUserptr_later {b b' : Builder} {entries : Except Int (List SgEntry)}
    (h : b.addUserptr env entries = .ok b') : Later b b' := by
  obtain ⟨entries, -, h⟩ := bind_eq_ok.mp h
  split at h
  · cases h
  · have hlater := Later.addData h
    exact ⟨hlater.sgs, hlater.curDesc, hlater.kept⟩

/-- What every SG list keeps, all of them keep. -/
theorem addUserptrs_rel {R : Builder → Builder → Prop} (hrefl : ∀ b, R b b)
    (htrans : ∀ b₁ b₂ b₃, R b₁ b₂ → R b₂ b₃ → R b₁ b₃)
    (hadd : ∀ b b' entries, b.addUserptr env entries = .ok b' → R b b') {b b' : Builder}
    {ptrs : List (UInt64 × UInt32)} (h : b.addUserptrs env userptr ptrs = .ok b') : R b b' := by
  induction ptrs generalizing b with
  | nil =>
      cases h
      exact hrefl _
  | cons ptr ptrs ih =>
      rw [Builder.addUserptrs] at h
      split at h
      · exact ih h
      · obtain ⟨b₁, hb₁, h⟩ := bind_eq_ok.mp h
        exact htrans _ _ _ (hadd _ _ _ hb₁) (ih h)

/-- The SG lists come behind what is there. -/
theorem addUserptrs_later {b b' : Builder} {ptrs : List (UInt64 × UInt32)}
    (h : b.addUserptrs env userptr ptrs = .ok b') : Later b b' :=
  addUserptrs_rel .refl (fun _ _ _ => .trans) (fun _ _ _ => addUserptr_later) h

theorem addDescriptors_eq {is : List Nat} {b b' : Builder}
    (h : is.foldlM (fun b i => b.addDescriptor i []) b = .ok b') :
    b' = { b with sgs := b.sgs ++ is.map fun i => ⟨i, []⟩ } := by
  induction is generalizing b with
  | nil =>
      cases h
      simp
  | cons i is ih =>
      obtain ⟨b₁, hadd, h⟩ := bind_eq_ok.mp h
      simp only [Builder.addDescriptor] at hadd
      split at hadd
      · cases hadd
      · cases hadd
        rw [ih h]
        simp

/-- The command takes the first descriptor. -/
theorem Built.start {ds : List Data} {ptrs : List (UInt64 × UInt32)} {c : CommandChain}
    {start payload : Builder} (h : Built env session userptr pool ds ptrs c start payload) :
    start.sgs = [⟨0, session.cmd.toList⟩] ∧ start.curDesc = 1 := by
  have hne : session.cmdData.bytes ≠ [] := by simp [SessionData.cmdData]
  have hone : session.cmdData.numDescs env = 1 :=
    Data.numDescs_eq_one hne (by cases hs : env.alwaysUseShadowBuffer <;>
      simp [Data.OneRun, SessionData.cmdData, Placement.at, hs])
  obtain ⟨b₁, hfills, hstart⟩ := addData_fills hne h.cmd
  rw [hstart]
  refine ⟨rfl, ?_⟩
  simp only [hfills.curDesc, hone]
  rfl

/-- The response is a header of one entry, and entries `1, 2, …` of the pool. -/
theorem addResponse_eq {c : CommandChain} {b : Builder} (h : addResponse env session c = .ok b) :
    Later c.builder b ∧ ∃ header : Sg, b.sgs = c.builder.sgs ++ header ::
      (List.range' 1 (c.endPayloadSg - 1)).map fun i => ⟨i, []⟩ := by
  obtain ⟨b₁, hresp, h⟩ := bind_eq_ok.mp h
  have hlater := Later.addData hresp
  obtain ⟨b₂, hfills, hb₁⟩ := addData_fills (by simp [SessionData.respData]) hresp
  rw [addDescriptors_eq h]
  refine ⟨hlater.trans ⟨List.prefix_append _ _, le_rfl, fun _ _ => rfl⟩, ?_⟩
  refine ⟨⟨c.builder.curDesc, session.respData.bytes⟩, ?_⟩
  rw [hb₁, List.append_assoc]
  rfl

/-- The entries after the header of the response are the descriptors from 1 on,
one for each structure of the payload. -/
theorem Built.response_entries {ds : List Data} {ptrs : List (UInt64 × UInt32)}
    {c : CommandChain} {start body b : Builder}
    (h : Built env session userptr pool ds ptrs c start body) (hds : ∀ d ∈ ds, d.bytes ≠ [])
    (hb : addResponse env session c = .ok b) :
    (b.sgs.drop (c.numCmdSgs + 1)).map (·.desc) = List.range' 1 ds.length := by
  obtain ⟨hstart, hcur⟩ := h.start
  obtain ⟨hsgs, -, -⟩ := addAll_described hds h.payload
  obtain ⟨-, header, hresp⟩ := addResponse_eq hb
  have hlen : c.endPayloadSg - 1 = ds.length := by
    have hcount := congrArg List.length hsgs
    rw [hstart] at hcount
    simp only [List.length_map, List.length_append, List.length_singleton, length_firsts]
      at hcount
    rw [h.endPayloadSg, hcount, Nat.add_sub_cancel_left]
  rw [hresp, h.numCmdSgs, hlen, List.drop_append, List.drop_of_length_le (by omega)]
  simp [Function.comp_def]

/-- What the two payload sections refer to, entry by entry. -/
theorem mirrors_iff {ds : List Data} {ptrs : List (UInt64 × UInt32)} {c : CommandChain}
    {start body b : Builder} (h : Built env session userptr pool ds ptrs c start body)
    (hds : ∀ d ∈ ds, d.bytes ≠ []) (hb : addResponse env session c = .ok b) :
    Described env b 1 ds ∧
      (Mirrors c b ↔ (List.range' 1 ds.length).flatMap b.memory =
        (firsts env 1 ds).flatMap b.memory) := by
  obtain ⟨hstart, hcur⟩ := h.start
  obtain ⟨hsgs, -, hdesc⟩ := addAll_described hds h.payload
  obtain ⟨hlater, -⟩ := addResponse_eq hb
  rw [hcur] at hsgs hdesc
  rw [hstart] at hsgs
  have hbody := (addUserptrs_later h.userptrs).trans hlater
  refine ⟨hdesc.later hbody, ?_⟩
  have hread : ((b.sgs.take c.endPayloadSg).drop 1).map (·.desc) = firsts env 1 ds := by
    rw [h.endPayloadSg, ← List.prefix_iff_eq_take.mp hbody.sgs, List.map_drop, hsgs]
    rfl
  rw [← hread, ← h.response_entries hds hb, List.flatMap_map, List.flatMap_map]
  rfl

/-- The chain is built from the structures that have bytes. -/
theorem Built.sent {ds : List Data} {ptrs : List (UInt64 × UInt32)} {c : CommandChain}
    {start body : Builder} (h : Built env session userptr pool ds ptrs c start body) :
    Built env session userptr pool (ds.filter (·.bytes ≠ [])) ptrs c start body := by
  have hpayload := h.payload
  rw [← addAll_filter] at hpayload
  exact ⟨h.cmd, hpayload, h.userptrs, h.endPayloadSg, h.numCmdSgs⟩

/-- Under which condition the response mirrors the payload. -/
theorem Built.mirrors {ds : List Data} {ptrs : List (UInt64 × UInt32)} {c : CommandChain}
    {start body b : Builder} (h : Built env session userptr pool ds ptrs c start body)
    (hb : addResponse env session c = .ok b) :
    ((∀ d ∈ (ds.filter (·.bytes ≠ [])).dropLast, d.OneRun env) → Mirrors c b) ∧
      (SeparateObjects env (ds.filter (·.bytes ≠ [])) → Mirrors c b →
        ∀ d ∈ (ds.filter (·.bytes ≠ [])).dropLast, d.OneRun env) := by
  have hds : ∀ d ∈ ds.filter (·.bytes ≠ []), d.bytes ≠ [] := by simp
  obtain ⟨hdesc, hiff⟩ := mirrors_iff h.sent hds hb
  refine ⟨fun hrun => ?_, fun hsep hm => oneRun_of_memory_eq hds hsep hdesc (hiff.mp hm)⟩
  rw [hiff, firsts_eq_range' 1 fun d hd =>
    Data.numDescs_eq_one (hds d (List.dropLast_subset _ hd)) (hrun d hd)]

end Commands

/-- Whatever the placement of the structures in memory, the payload of the
response refers to the memory of the payload of the command if every structure
before the last one is one physical range; and, of separate kernel objects, only
then. -/
theorem response_mirrors_payload (env : Env) (session : SessionData)
    (userptr : UInt64 → UInt32 → Except Int (List SgEntry)) (pool : List Desc)
    (c : CommandChain) (b : Builder) :
    (∀ uuids arg p, sendBufferChain env session userptr uuids pool arg p = .ok (c, b) →
      let ds := (bufferPayload arg.fixup p uuids).filter (·.bytes ≠ [])
      ((∀ d ∈ ds.dropLast, d.OneRun env) → Mirrors c b) ∧
        (SeparateObjects env ds → Mirrors c b → ∀ d ∈ ds.dropLast, d.OneRun env)) ∧
    (∀ arg p, sendExtCtrlsChain env session userptr pool arg p = .ok (c, b) →
      let ds := (extCtrlsPayload arg p).filter (·.bytes ≠ [])
      ((∀ d ∈ ds.dropLast, d.OneRun env) → Mirrors c b) ∧
        (SeparateObjects env ds → Mirrors c b → ∀ d ∈ ds.dropLast, d.OneRun env)) := by
  constructor
  · intro uuids arg p h
    obtain ⟨c, hc, h⟩ := bind_eq_ok.mp h
    obtain ⟨b, hb, hcb⟩ := map_eq_ok.mp h
    cases hcb
    obtain ⟨start, body, hbuilt⟩ := buildBufferCmd_built hc
    exact hbuilt.mirrors hb
  · intro arg p h
    obtain ⟨c, hc, h⟩ := bind_eq_ok.mp h
    obtain ⟨b, hb, hcb⟩ := map_eq_ok.mp h
    cases hcb
    obtain ⟨start, body, hbuilt⟩ := buildExtCtrlsCmd_built hc
    exact hbuilt.mirrors hb

/-- A multiplanar buffer on a vmapped stack, across a page boundary, with one
plane in the 1:1 mapping. -/
def stackBuffer : BufferArg where
  buffer := { (default : V4l2Buffer) with
    type := bufTypeVideoCaptureMplane, memory := memoryMmap, length := 1 }
  planes := [default]
  count := fun _ => rfl

/-- The pages of the stack have the frames `first` and `second`. -/
def stackPlacement (first second : Nat) : BufferPlacement where
  buffer := .vmalloc ⟨4056, by decide⟩ fun page => if page = 0 then first else second
  planes := .direct 300 ⟨0, by decide⟩

/-- The command and the response in one page, and a pool that is cleared. -/
def stackChain (first second : Nat) : Except Int (CommandChain × Builder) :=
  sendBufferChain ⟨false, 0x400000⟩ ⟨.replicate 16 0, 0x500000, .replicate 8 0, 0x500040⟩
    (fun _ _ => .error (-einval)) [] (.replicate 128 ⟨0, 0, 0, false⟩) stackBuffer
    (stackPlacement first second)

theorem response_mirrors_payload_stack :
    ∃ c b, stackChain 100 101 = .ok (c, b) ∧ Mirrors c b := by
  obtain ⟨⟨c, b⟩, h, -⟩ : ∃ r, stackChain 100 101 = .ok r ∧ true = true :=
    exists_ok_of_any (by decide +kernel)
  refine ⟨c, b, h, ?_⟩
  exact ((response_mirrors_payload _ _ _ _ c b).1 _ _ _ h).1 (by decide +kernel)

/-- The second page of the buffer stands where the response should refer to
the planes. -/
theorem response_mirrors_payload_fails_stack :
    ∃ c b, stackChain 100 200 = .ok (c, b) ∧ ¬Mirrors c b := by
  obtain ⟨⟨c, b⟩, h, hm⟩ : ∃ r, stackChain 100 200 = .ok r ∧ (!decide (Mirrors r.1 r.2)) = true :=
    exists_ok_of_any (by decide +kernel)
  exact ⟨c, b, h, by simpa using hm⟩

end VirtioMedia.Driver
