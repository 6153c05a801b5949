import VirtioMedia.Driver.ChainLayout

/-!
# Reading a reply back

The second half of `driver/scatterlist_builder.c`. A structure that the chain
refers to in place is written by the device; of one that was copied into the
shadow buffer the driver copies the answer back. Which of the two it is, the
retrieval decides by the address in the descriptor of the response.

For kernel objects that lie apart from the shadow buffer that decision is
right: the copies follow each other in the shadow buffer, and the descriptor
of a copy stays as it was made.
-/

namespace VirtioMedia.Driver

open V4l2 Wire Fallible

def erange : Int := 34

/-- The structure is copied into the shadow buffer. -/
def Placement.shadowed (env : Env) : Placement → Bool
  | .other => true
  | _ => env.alwaysUseShadowBuffer

/-- Memory is copied on request, or if its addresses cannot be had. -/
theorem Placement.shadowed_iff {env : Env} {p : Placement} :
    p.shadowed env = true ↔ env.alwaysUseShadowBuffer = true ∨ p = .other := by
  cases p <;> simp [Placement.shadowed]

/-- What is not described in place is copied. -/
theorem Placement.shadowed_of_not_in_place {env : Env} {p : Placement}
    (hdirect : ∀ pfn offset, env.alwaysUseShadowBuffer = false → p = .direct pfn offset → False)
    (hvmalloc : ∀ offset frame, env.alwaysUseShadowBuffer = false → p = .vmalloc offset frame →
      False) : p.shadowed env = true := by
  rw [Placement.shadowed_iff]
  cases halways : env.alwaysUseShadowBuffer with
  | true => exact .inl rfl
  | false =>
      cases p with
      | direct pfn offset => exact (hdirect pfn offset halways rfl).elim
      | vmalloc offset frame => exact (hvmalloc offset frame halways rfl).elim
      | other => exact .inr rfl

/-- `scatterlist_builder_retrieve_data`: nothing, or the bytes that are copied
back. `shadow` is what the shadow buffer holds by now. No entry refers to a
descriptor outside of the pool. -/
def Builder.retrieveData (env : Env) (shadow : Nat → UInt8) (b : Builder) (sgIndex : Nat) :
    Except Int (Option (List UInt8)) :=
  match b.sgs[sgIndex]? with
  | none => .error (-erange)
  | some sg =>
    match b.descs[sg.desc]? with
    | none => .ok none
    | some d =>
      if env.shadowBuffer ≤ d.addr ∧ d.addr < env.shadowBuffer + shadowBufSize then
        if env.shadowBuffer + shadowBufSize ≤ d.addr + d.length then .error (-einval)
        else .ok (some ((List.range' (d.addr - env.shadowBuffer) d.length).map shadow))
      else .ok none

/-- `scatterlist_builder_retrieve_buffer`, without the copy into the planes. -/
def Builder.retrieveBuffer (env : Env) (shadow : Nat → UInt8) (b : Builder) (sgIndex : Nat)
    (buffer : V4l2Buffer) (origPlanes : UInt64) : Int × V4l2Buffer :=
  match b.retrieveData env shadow sgIndex with
  | .error e => (e, buffer)
  | .ok copied =>
    let buffer := (copied.map v4l2Buffer.dec).getD buffer
    if typeIsMultiplanar buffer.type then
      let buffer := { buffer with m := origPlanes }
      if origPlanes ≠ 0 then
        match b.retrieveData env shadow (sgIndex + 1) with
        | .error e => (e, buffer)
        | .ok _ => (0, buffer)
      else (0, buffer)
    else (0, buffer)

/-- `ctrls->controls = controls_backup`. -/
def restoreControls (ctrls : ExtControls) (backup : UInt64) : ExtControls :=
  { ctrls with controls := backup }

@[simp] theorem restoreControls_count (ctrls : ExtControls) (backup : UInt64) :
    (restoreControls ctrls backup).count = ctrls.count := rfl

@[simp] theorem restoreControls_controls (ctrls : ExtControls) (backup : UInt64) :
    (restoreControls ctrls backup).controls = backup := rfl

/-- `scatterlist_builder_retrieve_ext_ctrls`, without the copy into the array. -/
def Builder.retrieveExtCtrls (env : Env) (shadow : Nat → UInt8) (b : Builder) (sgIndex : Nat)
    (ctrls : ExtControls) : Int × ExtControls :=
  match b.retrieveData env shadow sgIndex with
  | .error e => (e, ctrls)
  | .ok copied =>
    let ctrls := restoreControls ((copied.map extControls.dec).getD ctrls) ctrls.controls
    if ctrls.count ≠ 0 ∧ ctrls.controls ≠ 0 then
      match b.retrieveData env shadow (sgIndex + 1) with
      | .error e => (e, ctrls)
      | .ok _ => (0, ctrls)
    else (0, ctrls)

/-! ### Descriptors that stay -/

/-- The descriptors in use are not changed any more. -/
structure DescsKept (b b' : Builder) : Prop where
  curDesc : b.curDesc ≤ b'.curDesc
  descs : ∀ i < b.curDesc, b'.descs[i]? = b.descs[i]?

namespace DescsKept

variable {b b' b'' : Builder}

theorem refl (b : Builder) : DescsKept b b := ⟨le_rfl, fun _ _ => rfl⟩

theorem trans (h : DescsKept b b') (h' : DescsKept b' b'') : DescsKept b b'' where
  curDesc := h.curDesc.trans h'.curDesc
  descs := fun i hi => by rw [h'.descs i (hi.trans_le h.curDesc), h.descs i hi]

theorem put (b : Builder) (d : Desc) : DescsKept b (b.put d) where
  curDesc := Nat.le_succ _
  descs := fun _ hi => List.getElem?_set_ne (Nat.ne_of_gt hi)

end DescsKept

/-- A change of the last descriptor leaves those below it. -/
theorem getElem?_modify_last {b : Builder} {f : Desc → Desc} {i : Nat}
    (h : i + 1 < b.curDesc) : (b.descs.modify (b.curDesc - 1) f)[i]? = b.descs[i]? := by
  exact List.getElem?_modify_ne f _ (by omega)

/-- The loop over the pages leaves what was there when it began. The first
page fills a descriptor, so a longer last descriptor is one of its own. -/
theorem vmallocLoop_keeps {frame : Nat → Nat} {fuel page offset len lo : Nat}
    {b b' : Builder} (hlo : lo ≤ b.curDesc) (hfirst : page = 0 → len ≠ 0 → startsRun frame 0 = true)
    (hlater : page ≠ 0 → lo < b.curDesc)
    (h : Builder.vmallocLoop frame fuel page offset len (prevPfn frame page) b = .ok b') :
    b.curDesc ≤ b'.curDesc ∧ b'.shadowBufferPos = b.shadowBufferPos ∧
      ∀ i < lo, b'.descs[i]? = b.descs[i]? := by
  induction fuel generalizing page offset len b with
  | zero =>
      rw [Builder.vmallocLoop] at h
      by_cases hz : len = 0 <;> simp only [hz, if_true, if_false] at h <;> cases h <;> simp
  | succ fuel ih =>
      rw [Builder.vmallocLoop] at h
      by_cases hz : len = 0
      · rw [if_pos hz] at h
        cases h
        simp
      · rw [if_neg hz] at h
        simp only at h
        by_cases hfull : b.descs.length ≤ b.curDesc
        · rw [if_pos hfull] at h
          cases h
        · rw [if_neg hfull] at h
          by_cases hrun : Int32.ofNat (frame page) = prevPfn frame page + 1
          · -- the page goes on a run, so it is not the first one
            have hpage : page ≠ 0 := by
              rintro rfl
              have hstarts := hfirst rfl hz
              simp [startsRun, hrun] at hstarts
            have hlt := hlater hpage
            rw [if_pos hrun] at h
            obtain ⟨hcur, hpos, hdescs⟩ := ih (b := b.extendLast _) hlo (by simp)
              (fun _ => hlt) h
            refine ⟨hcur, hpos, fun i hi => ?_⟩
            rw [hdescs i hi]
            exact getElem?_modify_last (by omega)
          · rw [if_neg hrun] at h
            have hput := DescsKept.put b (.page (frame page) (min (pageSize - offset) len) offset)
            obtain ⟨hcur, hpos, hdescs⟩ := ih (hlo.trans hput.curDesc) (by simp)
              (fun _ => Nat.lt_succ_of_le hlo) h
            refine ⟨hput.curDesc.trans hcur, hpos, fun i hi => ?_⟩
            rw [hdescs i hi, hput.descs i (hi.trans_le hlo)]

/-! ### Copies in the shadow buffer -/

/-- The descriptor of a copy at some offset of the shadow buffer. -/
def Desc.shadow (env : Env) (pos len : Nat) : Desc where
  pfn := (env.shadowBuffer + pos) / pageSize
  offset := (env.shadowBuffer + pos) % pageSize
  length := len
  last := true

@[simp] theorem Desc.shadow_addr (env : Env) (pos len : Nat) :
    (Desc.shadow env pos len).addr = env.shadowBuffer + pos := by
  rw [Desc.addr, Desc.shadow, Nat.mul_comm]
  exact Nat.div_add_mod _ _

/-- The bytes of the shadow buffer that a structure takes. -/
def Data.shadowLength (env : Env) (d : Data) : Nat :=
  if d.placement.shadowed env then d.bytes.length else 0

/-- What adding data does to the pool and to the shadow buffer. -/
structure Stages (env : Env) (d : Data) (b b' : Builder) : Prop where
  keeps : DescsKept b b'
  pos : b'.shadowBufferPos = b.shadowBufferPos + d.shadowLength env
  copy : d.placement.shadowed env = true →
    b.shadowBufferPos + d.bytes.length ≤ shadowBufSize ∧
      b'.descs[b.curDesc]? = some (.shadow env b.shadowBufferPos d.bytes.length)

/-- A copy takes its room from the shadow buffer, or there is none left. -/
theorem describe_of_shadowed {env : Env} {d : Data} (b : Builder)
    (h : d.placement.shadowed env = true) :
    b.describe env d =
      if shadowBufSize - b.shadowBufferPos < d.bytes.length then .error (-enospc)
      else .ok { b.put (.page ((env.shadowBuffer + b.shadowBufferPos) / pageSize) d.bytes.length
          ((env.shadowBuffer + b.shadowBufferPos) % pageSize)) with
        shadowBufferPos := b.shadowBufferPos + d.bytes.length } := by
  unfold Builder.describe
  unfold Placement.shadowed at h
  split <;> simp_all

/-- What describing data does, before the end mark is set. -/
theorem describe_stages {env : Env} {d : Data} {b b' : Builder} (hd : d.bytes ≠ [])
    (hfresh : d.StartsFresh env) (hroom : b.curDesc < b.descs.length)
    (h : b.describe env d = .ok b') :
    b.curDesc < b'.curDesc ∧ b'.shadowBufferPos = b.shadowBufferPos + d.shadowLength env ∧
      (∀ i < b.curDesc, b'.descs[i]? = b.descs[i]?) ∧
      (d.placement.shadowed env = true →
        b.shadowBufferPos + d.bytes.length ≤ shadowBufSize ∧ b'.curDesc = b.curDesc + 1 ∧
        b'.descs[b.curDesc]? =
          some { Desc.shadow env b.shadowBufferPos d.bytes.length with last := false }) := by
  have hlen : d.bytes.length ≠ 0 := mt List.eq_nil_of_length_eq_zero hd
  by_cases hs : d.placement.shadowed env = true
  · rw [describe_of_shadowed b hs] at h
    split at h
    · cases h
    · next hfits =>
        cases h
        have hsmall : d.bytes.length % 2 ^ 32 = d.bytes.length := by
          apply Nat.mod_eq_of_lt
          simp only [shadowBufSize] at hfits
          omega
        refine ⟨Nat.lt_succ_self _, by simp [Data.shadowLength, hs], ?_, fun _ => ?_⟩
        · exact (DescsKept.put b _).descs
        · refine ⟨by omega, rfl, ?_⟩
          simp only [Builder.put]
          rw [List.getElem?_set_self hroom, Desc.page, Desc.shadow, hsmall]
  · -- the data is described where it lies
    have hcur : b.curDesc < b'.curDesc := by
      have hnum : 0 < d.numDescs env := hfresh.numDescs_pos hd
      rw [(describe_fills hd hroom h).curDesc]
      omega
    rw [Data.shadowLength, if_neg hs, Nat.add_zero]
    refine ⟨hcur, ?_⟩
    rw [← and_assoc]
    refine ⟨?_, fun h => absurd h hs⟩
    unfold Builder.describe at h
    split at h
    · cases h
      exact ⟨rfl, (DescsKept.put b _).descs⟩
    · next offset frame halways hplace =>
        simp only [Data.StartsFresh, halways, hplace] at hfresh
        exact (vmallocLoop_keeps le_rfl (fun _ _ => hfresh) (by simp) h).2
    · next hdirect hvmalloc => exact absurd (Placement.shadowed_of_not_in_place hdirect hvmalloc) hs

/-- Data that was added is copied, or lies where it was. -/
theorem addData_stages {env : Env} {d : Data} {b b' : Builder} (hd : d.bytes ≠ [])
    (hfresh : d.StartsFresh env) (h : b.addData env d = .ok b') : Stages env d b b' := by
  rw [Builder.addData, if_neg (mt List.eq_nil_of_length_eq_zero hd)] at h
  by_cases hfull : b.descs.length ≤ b.curDesc
  · rw [if_pos hfull] at h
    cases h
  · rw [if_neg hfull] at h
    obtain ⟨b₁, hdesc, hadd⟩ := bind_eq_ok.mp h
    obtain ⟨hcur, hpos, hdescs, hcopy⟩ :=
      describe_stages hd hfresh (Nat.lt_of_not_le hfull) hdesc
    simp only [Builder.addDescriptor] at hadd
    split at hadd
    · cases hadd
    · cases hadd
      refine ⟨⟨hcur.le, fun i hi => ?_⟩, hpos, fun hs => ?_⟩
      · rw [← hdescs i hi]
        exact getElem?_modify_last (by omega)
      · obtain ⟨hfits, hone, hslot⟩ := hcopy hs
        refine ⟨hfits, ?_⟩
        simp only [Builder.markEnd, hone, Nat.add_sub_cancel]
        rw [List.getElem?_modify_eq, hslot]
        rfl

/-- The copies of structures in the shadow buffer follow each other, from
`pos` on; `s` is the first descriptor. -/
def Staged (env : Env) (b : Builder) : Nat → Nat → List Data → Prop
  | _, _, [] => True
  | s, pos, d :: ds =>
    (d.placement.shadowed env = true → pos + d.bytes.length ≤ shadowBufSize ∧
      s < b.curDesc ∧ b.descs[s]? = some (.shadow env pos d.bytes.length)) ∧
    Staged env b (s + d.numDescs env) (pos + d.shadowLength env) ds

theorem Staged.keeps {env : Env} {b b' : Builder} {s pos : Nat} {ds : List Data}
    (h : Staged env b s pos ds) (hk : DescsKept b b') : Staged env b' s pos ds := by
  induction ds generalizing s pos with
  | nil => trivial
  | cons d ds ih =>
      refine ⟨fun hs => ?_, ih h.2⟩
      obtain ⟨hfits, hcur, hcopy⟩ := h.1 hs
      exact ⟨hfits, hcur.trans_le hk.curDesc, by rw [hk.descs s hcur, hcopy]⟩

/-- By induction on the structures. -/
theorem addAll_staged {env : Env} {ds : List Data} {b b' : Builder}
    (hds : ∀ d ∈ ds, d.bytes ≠ []) (hframes : ∀ d ∈ ds, d.FramesFit)
    (h : b.addAll env ds = .ok b') :
    DescsKept b b' ∧ Staged env b' b.curDesc b.shadowBufferPos ds := by
  induction ds generalizing b with
  | nil =>
      cases h
      exact ⟨.refl _, trivial⟩
  | cons d ds ih =>
      obtain ⟨b₁, hadd, h⟩ := bind_eq_ok.mp h
      have hd := hds d List.mem_cons_self
      have hstages := addData_stages hd ((hframes d List.mem_cons_self).startsFresh hd) hadd
      have hcur : b₁.curDesc = b.curDesc + d.numDescs env := by
        obtain ⟨b₂, hfills, rfl⟩ := addData_fills hd hadd
        exact hfills.curDesc
      have hpos : 0 < d.numDescs env := Data.numDescs_pos hd (hframes d List.mem_cons_self)
      obtain ⟨hkeeps, hrest⟩ := ih (fun d hd => hds d (.tail _ hd))
        (fun d hd => hframes d (.tail _ hd)) h
      rw [hcur, hstages.pos] at hrest
      refine ⟨hstages.keeps.trans hkeeps, fun hs => ?_, hrest⟩
      obtain ⟨hfits, hcopy⟩ := hstages.copy hs
      have hlt : b.curDesc < b₁.curDesc := by omega
      exact ⟨hfits, hlt.trans_le hkeeps.curDesc, by rw [hkeeps.descs _ hlt, hcopy]⟩

/-! ### The rest of the chain -/

theorem startsFresh_at (env : Env) (bytes : List UInt8) (addr : Nat) :
    Data.StartsFresh env ⟨bytes, .at addr⟩ := by
  cases halways : env.alwaysUseShadowBuffer <;>
    simp only [Data.StartsFresh, Placement.at, halways]

/-- Descriptors that are there stay. -/
theorem addData_keeps {env : Env} {d : Data} {b b' : Builder} (hfresh : d.StartsFresh env)
    (h : b.addData env d = .ok b') : DescsKept b b' := by
  by_cases hd : d.bytes = []
  · rw [addData_nil hd] at h
    cases h
    exact .refl b
  · exact (addData_stages hd hfresh h).keeps

section Chain

variable {env : Env} {session : SessionData}
  {userptr : UInt64 → UInt32 → Except Int (List SgEntry)} {pool : List Desc}

theorem addUserptr_keeps {b b' : Builder} {entries : Except Int (List SgEntry)}
    (h : b.addUserptr env entries = .ok b') : DescsKept b b' := by
  obtain ⟨entries, -, h⟩ := bind_eq_ok.mp h
  split at h
  · cases h
  · have hkeeps := addData_keeps (startsFresh_at _ _ _) h
    exact ⟨hkeeps.curDesc, hkeeps.descs⟩

theorem addUserptrs_keeps {b b' : Builder} {ptrs : List (UInt64 × UInt32)}
    (h : b.addUserptrs env userptr ptrs = .ok b') : DescsKept b b' :=
  addUserptrs_rel .refl (fun _ _ _ => .trans) (fun _ _ _ => addUserptr_keeps) h

/-- The response part comes behind the command part. -/
theorem addResponse_keeps {c : CommandChain} {b : Builder}
    (h : addResponse env session c = .ok b) : DescsKept c.builder b := by
  obtain ⟨b₁, hresp, h⟩ := bind_eq_ok.mp h
  have hkeeps := addData_keeps (startsFresh_at _ _ _) hresp
  rw [addDescriptors_eq h]
  exact ⟨hkeeps.curDesc, hkeeps.descs⟩

/-- Where the payload starts in the shadow buffer: after the command, if that
is copied too. -/
def Env.payloadPos (env : Env) : Nat := if env.alwaysUseShadowBuffer then 16 else 0

theorem Built.start_pos {ds : List Data} {ptrs : List (UInt64 × UInt32)} {c : CommandChain}
    {start body : Builder} (h : Built env session userptr pool ds ptrs c start body) :
    start.shadowBufferPos = env.payloadPos := by
  have hstages := addData_stages (by simp) (startsFresh_at _ _ _) h.cmd
  rw [hstages.pos, Data.shadowLength, Env.payloadPos]
  simp [Placement.at, Placement.shadowed, Builder.init]

variable {ds : List Data} {ptrs : List (UInt64 × UInt32)} {c : CommandChain}
  {start body b : Builder}

/-- The payload of a finished chain is staged from the first descriptor after
the command on. -/
theorem Built.staged (h : Built env session userptr pool ds ptrs c start body)
    (hds : ∀ d ∈ ds, d.bytes ≠ []) (hframes : ∀ d ∈ ds, d.FramesFit)
    (hb : addResponse env session c = .ok b) : Staged env b 1 env.payloadPos ds := by
  obtain ⟨-, hstaged⟩ := addAll_staged hds hframes h.payload
  rw [h.start.2, h.start_pos] at hstaged
  exact hstaged.keeps ((addUserptrs_keeps h.userptrs).trans (addResponse_keeps hb))

/-- The entry of the response for the structure with a given index. -/
theorem Built.response_entry (h : Built env session userptr pool ds ptrs c start body)
    (hds : ∀ d ∈ ds, d.bytes ≠ []) (hb : addResponse env session c = .ok b) (k : Nat) :
    (b.sgs[c.numCmdSgs + 1 + k]?).map (·.desc) = if k < ds.length then some (1 + k) else none := by
  have hentries := congrArg (·[k]?) (h.response_entries hds hb)
  simp only [List.getElem?_map, List.getElem?_drop] at hentries
  rw [hentries]
  split
  · next hk => rw [List.getElem?_range' hk, Nat.one_mul]
  · next hk => exact List.getElem?_eq_none (by simpa using hk)

/-! ### The two entries that are retrieved -/

/-- Nothing is read back for a structure that was not copied. -/
theorem retrieveData_in_place {shadow : Nat → UInt8} {i k a : Nat}
    (hentry : (b.sgs[i]?).map (·.desc) = some k) (ha : b.addr? k = some a)
    (hapart : a ∉ env.shadowPhys) : b.retrieveData env shadow i = .ok none := by
  obtain ⟨sg, hsg, rfl⟩ := Option.map_eq_some_iff.mp hentry
  obtain ⟨d, hd, rfl⟩ := Option.map_eq_some_iff.mp ha
  have hno : ¬ (env.shadowBuffer ≤ d.addr ∧ d.addr < env.shadowBuffer + shadowBufSize) := hapart
  simp only [Builder.retrieveData, hsg, hd, if_neg hno]

/-- What is read back is the copy. -/
theorem retrieveData_copy {shadow : Nat → UInt8} {i k pos len : Nat}
    (hentry : (b.sgs[i]?).map (·.desc) = some k)
    (hcopy : b.descs[k]? = some (.shadow env pos len)) (hfits : pos + len < shadowBufSize) :
    b.retrieveData env shadow i = .ok (some ((List.range' pos len).map shadow)) := by
  obtain ⟨sg, hsg, rfl⟩ := Option.map_eq_some_iff.mp hentry
  have hin : env.shadowBuffer ≤ env.shadowBuffer + pos ∧
      env.shadowBuffer + pos < env.shadowBuffer + shadowBufSize := by omega
  have hlen : (Desc.shadow env pos len).length = len := rfl
  have hend : ¬ env.shadowBuffer + shadowBufSize ≤ env.shadowBuffer + pos + len := by omega
  simp only [Builder.retrieveData, hsg, hcopy, Desc.shadow_addr, if_pos hin, hlen, if_neg hend,
    Nat.add_sub_cancel_left]

/-- A copy that ends with the shadow buffer is taken for one that goes beyond
it. -/
theorem retrieveData_copy_end {shadow : Nat → UInt8} {i k pos len : Nat}
    (hentry : (b.sgs[i]?).map (·.desc) = some k)
    (hcopy : b.descs[k]? = some (.shadow env pos len)) (hlen : 0 < len)
    (hend : pos + len = shadowBufSize) : b.retrieveData env shadow i = .error (-einval) := by
  obtain ⟨sg, hsg, rfl⟩ := Option.map_eq_some_iff.mp hentry
  have hin : env.shadowBuffer ≤ env.shadowBuffer + pos ∧
      env.shadowBuffer + pos < env.shadowBuffer + shadowBufSize := by omega
  have hlength : (Desc.shadow env pos len).length = len := rfl
  have hle : env.shadowBuffer + shadowBufSize ≤ env.shadowBuffer + pos + len := by omega
  simp only [Builder.retrieveData, hsg, hcopy, Desc.shadow_addr, if_pos hin, hlength, if_pos hle]

/-- A copy is read back unless it ends with the shadow buffer. -/
theorem retrieveData_copy_iff {shadow : Nat → UInt8} {i k pos len : Nat}
    (hentry : (b.sgs[i]?).map (·.desc) = some k)
    (hcopy : b.descs[k]? = some (.shadow env pos len)) (hlen : 0 < len)
    (hfits : pos + len ≤ shadowBufSize) :
    b.retrieveData env shadow i = .ok (some ((List.range' pos len).map shadow)) ↔
      pos + len ≠ shadowBufSize := by
  refine ⟨fun h hend => ?_, fun hend => retrieveData_copy hentry hcopy (by omega)⟩
  rw [retrieveData_copy_end hentry hcopy hlen hend] at h
  cases h

/-- A structure that is not copied is described at addresses of its own. -/
theorem owned_of_not_shadowed {d : Data} (h : ¬ d.placement.shadowed env = true) :
    d.owned env = d.phys := by
  unfold Data.owned
  split
  · rfl
  · rfl
  · next hdirect hvmalloc => exact absurd (Placement.shadowed_of_not_in_place hdirect hvmalloc) h

theorem numDescs_of_shadowed {d : Data} (h : d.placement.shadowed env = true) :
    d.numDescs env = 1 := by
  rw [Placement.shadowed_iff] at h
  unfold Data.numDescs
  split <;> simp_all

/-- The first structure of the payload: its copy, or nothing. -/
theorem Built.retrieve_first {d : Data}
    (h : Built env session userptr pool (d :: ds) ptrs c start body)
    (hds : ∀ d' ∈ d :: ds, d'.bytes ≠ []) (hsep : SeparateObjects env (d :: ds))
    (hb : addResponse env session c = .ok b) (shadow : Nat → UInt8)
    (hsmall : env.payloadPos + d.bytes.length < shadowBufSize) :
    b.retrieveData env shadow (c.numCmdSgs + 1) = .ok
      (if d.placement.shadowed env then
        some ((List.range' env.payloadPos d.bytes.length).map shadow) else none) := by
  have hentry := h.response_entry hds hb 0
  rw [if_pos (by simp)] at hentry
  by_cases hs : d.placement.shadowed env = true
  · rw [if_pos hs]
    have hcopy := ((h.staged hds hsep.frames hb).1 hs).2.2
    exact retrieveData_copy hentry hcopy hsmall
  · rw [if_neg hs]
    have hpos : 0 < d.numDescs env := Data.numDescs_pos (hds d List.mem_cons_self)
      (hsep.frames d List.mem_cons_self)
    obtain ⟨-, a, ha, hai⟩ := (mirrors_iff h hds hb).1.1 1 le_rfl (by omega)
    rw [owned_of_not_shadowed hs] at ha
    exact retrieveData_in_place hentry hai (hsep.shadow d List.mem_cons_self a ha)

/-- The second structure is retrieved without an error, unless its copy ends
with the shadow buffer. -/
theorem Built.retrieve_second {d d' : Data}
    (h : Built env session userptr pool (d :: d' :: ds) ptrs c start body)
    (hds : ∀ x ∈ d :: d' :: ds, x.bytes ≠ []) (hsep : SeparateObjects env (d :: d' :: ds))
    (hb : addResponse env session c = .ok b) (shadow : Nat → UInt8)
    (hend : env.payloadPos + d.shadowLength env + d'.bytes.length ≠ shadowBufSize) :
    ∃ copied, b.retrieveData env shadow (c.numCmdSgs + 1 + 1) = .ok copied := by
  have hentry := h.response_entry hds hb 1
  rw [if_pos (by simp)] at hentry
  have hdesc := (mirrors_iff h hds hb).1
  have hmem : d' ∈ d :: d' :: ds := .tail _ List.mem_cons_self
  by_cases hone : d.numDescs env = 1
  · by_cases hs : d'.placement.shadowed env = true
    · have hstaged := (h.staged hds hsep.frames hb).2.1 hs
      rw [hone] at hstaged
      obtain ⟨hfits, -, hcopy⟩ := hstaged
      exact ⟨_, retrieveData_copy hentry hcopy (by omega)⟩
    · have hpos : 0 < d'.numDescs env := Data.numDescs_pos (hds d' hmem) (hsep.frames d' hmem)
      obtain ⟨-, a, ha, hai⟩ := hdesc.2.1 2 (by omega) (by omega)
      rw [owned_of_not_shadowed hs] at ha
      exact ⟨_, retrieveData_in_place hentry hai (hsep.shadow d' hmem a ha)⟩
  · -- the entry refers to the second page of the first structure
    have hs : ¬ d.placement.shadowed env = true := fun hs => hone (numDescs_of_shadowed hs)
    have hpos : 0 < d.numDescs env := Data.numDescs_pos (hds d List.mem_cons_self)
      (hsep.frames d List.mem_cons_self)
    obtain ⟨-, a, ha, hai⟩ := hdesc.1 2 (by omega) (by omega)
    rw [owned_of_not_shadowed hs] at ha
    exact ⟨_, retrieveData_in_place hentry hai (hsep.shadow d List.mem_cons_self a ha)⟩

/-- There is no second structure to retrieve. -/
theorem Built.retrieve_none {d : Data}
    (h : Built env session userptr pool [d] ptrs c start body)
    (hds : ∀ x ∈ [d], x.bytes ≠ []) (hb : addResponse env session c = .ok b)
    (shadow : Nat → UInt8) :
    b.retrieveData env shadow (c.numCmdSgs + 1 + 1) = .error (-erange) := by
  have hentry := h.response_entry hds hb 1
  rw [if_neg (by simp), Option.map_eq_none_iff] at hentry
  simp only [Builder.retrieveData, hentry]

end Chain

end VirtioMedia.Driver
