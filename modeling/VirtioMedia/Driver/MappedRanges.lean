import VirtioMedia.Driver.Mappings
import VirtioMedia.Lib.Logged

/-!
# The ranges that are mapped and exported

`virtio_media_device_mmap` and `virtio_media_expbuf` once more, with a log of
the 64-bit arithmetic that they make on a returned range, in the order in which
the conditions are evaluated, and of the calls that use the range:
`io_remap_pfn_range` and `virtio_shm_export`.

The checks keep all of it in bounds. What they leave out is the address of the
region: it is added to a page-aligned offset and shifted to a frame number,
which drops the low bits.
-/

namespace VirtioMedia.Driver

open V4l2 Logged

/-- Arithmetic on a range, or a call that gets it. -/
inductive RangeOp where
  | add (a b : UInt64)
  | sub (a b : UInt64)
  | pageAlign (n : UInt64)
  /-- `io_remap_pfn_range`. -/
  | remapPfnRange (vmStart pfn size : UInt64)
  /-- `virtio_shm_export`. -/
  | shmExport (offset len : UInt64)
  deriving DecidableEq, Repr

/-- The arithmetic does not wrap. -/
def RangeOp.Fits : RangeOp → Prop
  | .add a b => a.toNat + b.toNat < 2 ^ 64
  | .sub a b => b.toNat ≤ a.toNat
  | .pageAlign n => n.toNat + 4095 < 2 ^ 64
  | .remapPfnRange _ _ _ | .shmExport _ _ => True

def addLogged (a b : UInt64) : Logged RangeOp UInt64 := do
  tell (.add a b)
  return a + b

def subLogged (a b : UInt64) : Logged RangeOp UInt64 := do
  tell (.sub a b)
  return a - b

def pageAlignLogged (n : UInt64) : Logged RangeOp UInt64 := do
  tell (.pageAlign n)
  return pageAlign n

@[simp] theorem addLogged_val (a b : UInt64) : (addLogged a b).val = a + b := rfl
@[simp] theorem subLogged_val (a b : UInt64) : (subLogged a b).val = a - b := rfl
@[simp] theorem pageAlignLogged_val (n : UInt64) : (pageAlignLogged n).val = pageAlign n := rfl

/-! ### The two functions -/

/-- A condition that is evaluated only if the one before it is false. -/
def orElseLogged (c : Bool) (next : Logged RangeOp Bool) : Logged RangeOp Bool :=
  if c then pure true else next

@[simp] theorem orElseLogged_val (c : Bool) (next : Logged RangeOp Bool) :
    (orElseLogged c next).val = (c || next.val) := by
  cases c <;> rfl

/-- `ShmRegion.excludes`, followed by the conditions in `next`. -/
def ShmRegion.excludesLogged (r : ShmRegion) (resp : MmapResp) (next : Logged RangeOp Bool) :
    Logged RangeOp Bool :=
  orElseLogged (resp.driverAddr % pageBytes != 0 || resp.driverAddr > r.len) do
    let room ← subLogged r.len resp.driverAddr
    orElseLogged (resp.len > room) do
      let top ← subLogged u64Max (pageBytes - 1)
      orElseLogged (resp.len > top) do
        let aligned ← pageAlignLogged resp.len
        let room ← subLogged r.len resp.driverAddr
        orElseLogged (aligned > room) next

theorem ShmRegion.excludesLogged_val (r : ShmRegion) (resp : MmapResp)
    (next : Logged RangeOp Bool) :
    (r.excludesLogged resp next).val = (r.excludes resp || next.val) := by
  simp only [ShmRegion.excludesLogged, ShmRegion.excludes, val_bind, orElseLogged_val,
    Bool.or_assoc]
  rfl

/-- The call of `virtio_shm_export` for the optional backing of a mapping. -/
def exportBacking (shmExport : Bool) (resp : MmapResp) : Logged RangeOp Unit :=
  tellAll (if shmExport then [.shmExport resp.driverAddr resp.len] else [])

/-- `mapAnswer`. -/
def mapAnswerLogged (shmExport : Bool) (vv : Device) (vma : Vma) (env : MmapEnv) :
    Logged RangeOp (Int × Device) := do
  let failed := vv.munmapLocked env.resp.driverAddr env.munmapAnswer
  let excluded ← orElseLogged (env.resp.len == 0) (vv.mmapRegion.excludesLogged env.resp do
    let top ← subLogged u64Max env.resp.driverAddr
    return vv.mmapRegion.addr > top)
  if excluded then return (-einval, failed)
  else
    let addr ← addLogged env.resp.driverAddr vv.mmapRegion.addr
    let vmPgoff := addr >>> 12
    let size ← subLogged vma.vmEnd vma.vmStart
    let aligned ← pageAlignLogged env.resp.len
    if size > aligned then return (-einval, failed)
    else if !env.kzallocOk then return (-enomem, failed)
    else
      exportBacking shmExport env.resp
      match env.takeBacking shmExport with
      | .error e => return (e, failed)
      | .ok backing =>
        let size ← subLogged vma.vmEnd vma.vmStart
        tell (.remapPfnRange vma.vmStart vmPgoff size)
        if env.remapPfnRange != 0 then return (env.remapPfnRange, failed)
        else
          return (0, { vv with
            live := vv.live ++ [⟨1, env.resp.driverAddr, backing⟩]
            mappings := vv.mappings + 1 })

/-- `deviceMmap`. -/
def deviceMmapLogged (shmExport : Bool) (vv : Device) (sessionId : UInt32) (vma : Vma)
    (env : MmapEnv) : Logged RangeOp (Int × Device) :=
  if !vma.shared then pure (-einval, vv)
  else if !(vma.read || vma.write) then pure (-einval, vv)
  else if vv.mmapRegion.len == 0 then pure (-eopnotsupp, vv)
  else
    let (ret, vv) := vv.sendMmap (vma.mmapCmd sessionId) env.answer env.resp
    if ret < 0 then pure (ret, vv) else mapAnswerLogged shmExport vv vma env

/-- `exportAnswer`. -/
def exportAnswerLogged (vv : Device) (sessionId : UInt32) (b : ExportBuffer) (length : UInt64)
    (env : ExpbufEnv) : Logged RangeOp (Int × ExportBuffer × Device) := do
  let failed := vv.munmapLocked env.resp.driverAddr env.munmapAnswer
  let excluded ← orElseLogged (length == 0 || length > env.resp.len)
    (vv.mmapRegion.excludesLogged env.resp (pure false))
  if excluded then return (-einval, b, failed)
  else if !env.kzallocOk then return (-enomem, b, failed)
  else
    tell (.shmExport env.resp.driverAddr env.resp.len)
    return exportAnswer vv sessionId b length env

/-- `expbufNew`. -/
def expbufNewLogged (vv : Device) (sessionId : UInt32) (s : Session) (b : ExportBuffer)
    (env : ExpbufEnv) : Logged RangeOp (Int × ExportBuffer × Device) :=
  let (ret, query) := querybuf s env.queryRet env.queryReply
  if ret != 0 then pure (ret, b, vv)
  else
    match env.plane b query with
    | none => pure (-einval, b, vv)
    | some (offset, length) =>
      let (ret, vv) := vv.sendMmap (b.mmapCmd sessionId offset) env.answer env.resp
      if ret != 0 then pure (ret, b, vv) else exportAnswerLogged vv sessionId b length env

/-- `expbuf`. -/
def expbufLogged (shmExport : Bool) (vv : Device) (sessionId : UInt32) (s : Session)
    (b : ExportBuffer) (env : ExpbufEnv) : Logged RangeOp (Int × ExportBuffer × Device) :=
  if !shmExport then pure (-eopnotsupp, b, vv)
  else if b.invalid s then pure (-einval, b, vv)
  else if env.unusedFd < 0 then pure (env.unusedFd, b, vv)
  else if vv.exports.any (Export.serves sessionId b) then
    pure (0, { b with fd := env.unusedFd }, vv)
  else expbufNewLogged vv sessionId s b env

/-! ### The log changes nothing -/

/-- The log changes nothing. -/
theorem mapAnswerLogged_val (shmExport : Bool) (vv : Device) (vma : Vma) (env : MmapEnv) :
    (mapAnswerLogged shmExport vv vma env).val = mapAnswer shmExport vv vma env := by
  simp only [mapAnswerLogged, mapAnswer, val_bind, val_ite, val_pure, orElseLogged_val,
    ShmRegion.excludesLogged_val, Bool.or_assoc]
  cases env.takeBacking shmExport with
  | error e => rfl
  | ok backing =>
      simp only [val_bind, val_ite, val_pure]
      rfl

/-- The log changes nothing. -/
theorem deviceMmapLogged_val (shmExport : Bool) (vv : Device) (sessionId : UInt32) (vma : Vma)
    (env : MmapEnv) : (deviceMmapLogged shmExport vv sessionId vma env).val =
      deviceMmap shmExport vv sessionId vma env := by
  simp only [deviceMmapLogged, deviceMmap, val_ite, val_pure, mapAnswerLogged_val]

/-- The log changes nothing. -/
theorem exportAnswerLogged_val (vv : Device) (sessionId : UInt32) (b : ExportBuffer)
    (length : UInt64) (env : ExpbufEnv) : (exportAnswerLogged vv sessionId b length env).val =
      exportAnswer vv sessionId b length env := by
  simp only [exportAnswerLogged, val_bind, val_ite, val_pure, orElseLogged_val,
    ShmRegion.excludesLogged_val, Bool.or_false]
  unfold exportAnswer
  split
  · rfl
  · split <;> rfl

/-- The log changes nothing. -/
theorem expbufLogged_val (shmExport : Bool) (vv : Device) (sessionId : UInt32) (s : Session)
    (b : ExportBuffer) (env : ExpbufEnv) : (expbufLogged shmExport vv sessionId s b env).val =
      expbuf shmExport vv sessionId s b env := by
  simp only [expbufLogged, expbuf, expbufNewLogged, expbufNew, val_ite, val_pure]
  cases env.plane b (querybuf s env.queryRet env.queryReply).2 with
  | none => rfl
  | some p => simp only [val_ite, val_pure, exportAnswerLogged_val]

section All

variable {p : RangeOp → Prop}

@[simp] theorem all_addLogged (a b : UInt64) : All p (addLogged a b) ↔ p (.add a b) := by
  simp [addLogged]

@[simp] theorem all_subLogged (a b : UInt64) : All p (subLogged a b) ↔ p (.sub a b) := by
  simp [subLogged]

@[simp] theorem all_pageAlignLogged (n : UInt64) :
    All p (pageAlignLogged n) ↔ p (.pageAlign n) := by
  simp [pageAlignLogged]

@[simp] theorem all_orElseLogged (c : Bool) (next : Logged RangeOp Bool) :
    All p (orElseLogged c next) ↔ (c = false → All p next) := by
  cases c <;> simp [orElseLogged]

end All

/-! ### Checked ranges -/

/-- The next multiple of the page size. -/
def pageUp (n : Nat) : Nat := (n + 4095) / 4096 * 4096

/-- Clearing the low bits rounds down to a page. -/
theorem toNat_clearLow (x : UInt64) : (x &&& ~~~(pageBytes - 1)).toNat = x.toNat / 4096 * 4096 := by
  have hdisjoint : (x.toBitVec &&& ~~~4095#64) &&& (x.toBitVec &&& 4095#64) = 0#64 := by
    rw [BitVec.and_comm x.toBitVec (4095#64), ← BitVec.and_assoc, BitVec.and_assoc x.toBitVec,
      BitVec.not_and_self]
    simp
  have hsum : (x.toBitVec &&& ~~~4095#64).toNat + (x.toBitVec &&& 4095#64).toNat = x.toNat := by
    rw [← BitVec.toNat_add_of_and_eq_zero hdisjoint, BitVec.add_eq_or_of_and_eq_zero _ _ hdisjoint,
      ← BitVec.and_or_distrib_left, BitVec.not_or_self, BitVec.and_allOnes]
    rfl
  have hlow : (x.toBitVec &&& 4095#64).toNat = x.toNat % 4096 := by
    rw [BitVec.toNat_and]
    exact Nat.and_two_pow_sub_one_eq_mod x.toNat 12
  change (x.toBitVec &&& ~~~4095#64).toNat = _
  omega

/-- Rounding up to pages, where it does not wrap. -/
theorem toNat_pageAlign {n : UInt64} (h : n.toNat + 4095 < 2 ^ 64) :
    (pageAlign n).toNat = pageUp n.toNat := by
  have hsum : (n + (pageBytes - 1)).toNat = n.toNat + 4095 := by
    rw [UInt64.toNat_add]
    exact Nat.mod_eq_of_lt h
  rw [pageAlign, toNat_clearLow, hsum, pageUp]

/-- The returned range is page aligned and lies in the region, also when it is
rounded up to pages. -/
structure ShmRegion.Contains (r : ShmRegion) (resp : MmapResp) : Prop where
  aligned : resp.driverAddr.toNat % 4096 = 0
  room : resp.driverAddr.toNat + pageUp resp.len.toNat ≤ r.len.toNat
  short : resp.len.toNat + 4095 < 2 ^ 64

/-- The checks of a response say that its range lies in the region. -/
theorem ShmRegion.contains_of_excludes {r : ShmRegion} {resp : MmapResp}
    (h : r.excludes resp = false) : r.Contains resp := by
  simp only [ShmRegion.excludes, Bool.or_eq_false_iff, bne_eq_false_iff_eq,
    decide_eq_false_iff_not, gt_iff_lt, UInt64.lt_iff_toNat_lt, Nat.not_lt] at h
  obtain ⟨⟨⟨⟨halignment, hstart⟩, hlen⟩, hshort⟩, hpages⟩ := h
  have htop : (u64Max - (pageBytes - 1)).toNat = 2 ^ 64 - 1 - 4095 := rfl
  have hfits : resp.len.toNat + 4095 < 2 ^ 64 := by omega
  have hroom : (r.len - resp.driverAddr).toNat = r.len.toNat - resp.driverAddr.toNat :=
    UInt64.toNat_sub_of_le _ _ (UInt64.le_iff_toNat_le.mpr hstart)
  refine ⟨?_, ?_, hfits⟩
  · have hmod := congrArg UInt64.toNat halignment
    rw [UInt64.toNat_mod] at hmod
    exact hmod
  · rw [toNat_pageAlign hfits, hroom] at hpages
    omega

/-- Each condition is evaluated where its arithmetic fits. -/
theorem all_excludesLogged {p : RangeOp → Prop} {r : ShmRegion} {resp : MmapResp}
    {next : Logged RangeOp Bool} (hsub : ∀ a b, b.toNat ≤ a.toNat → p (.sub a b))
    (halign : ∀ n, n.toNat + 4095 < 2 ^ 64 → p (.pageAlign n))
    (hnext : r.excludes resp = false → All p next) : All p (r.excludesLogged resp next) := by
  simp only [ShmRegion.excludesLogged, all_orElseLogged, all_bind, all_subLogged,
    all_pageAlignLogged, Bool.or_eq_false_iff]
  rintro ⟨halignment, hstart⟩
  have hle : resp.driverAddr.toNat ≤ r.len.toNat := by
    simpa [UInt64.lt_iff_toNat_lt] using hstart
  refine ⟨hsub _ _ hle, fun hlen => ⟨hsub _ _ (by decide), fun hshort => ⟨halign _ ?_,
    hsub _ _ hle, fun hpages => hnext ?_⟩⟩⟩
  · have htop : (u64Max - (pageBytes - 1)).toNat = 2 ^ 64 - 1 - 4095 := rfl
    have hlt : resp.len.toNat ≤ (u64Max - (pageBytes - 1)).toNat := by
      simpa [UInt64.lt_iff_toNat_lt] using hshort
    omega
  · simp only [ShmRegion.excludes, Bool.or_eq_false_iff]
    exact ⟨⟨⟨⟨halignment, hstart⟩, hlen⟩, hshort⟩, hpages⟩

/-! ### What the calls get -/

/-- The frames from `pfn` on begin where the returned range begins, and lie in
the region. -/
structure ShmRegion.RemapsInside (r : ShmRegion) (resp : MmapResp) (pfn size : UInt64) : Prop where
  start : pfn.toNat * 4096 = r.addr.toNat + resp.driverAddr.toNat
  above : r.addr.toNat ≤ pfn.toNat * 4096
  below : pfn.toNat * 4096 + size.toNat ≤ r.addr.toNat + r.len.toNat

/-- The exported range, rounded up to pages, lies in the region. -/
structure ShmRegion.ExportsInside (r : ShmRegion) (offset len : UInt64) : Prop where
  aligned : offset.toNat % 4096 = 0
  below : offset.toNat + pageUp len.toNat ≤ r.len.toNat

/-- What holds of an entry of the log: arithmetic fits, frames are the right
ones exactly if the region is page aligned, and an export is of at least
`least` bytes within the region. -/
def RangeOp.Sound (r : ShmRegion) (resp : MmapResp) (least : Nat) : RangeOp → Prop
  | .remapPfnRange _ pfn size => r.RemapsInside resp pfn size ↔ r.addr.toNat % 4096 = 0
  | .shmExport offset len => r.ExportsInside offset len ∧ least ≤ len.toNat
  | op => op.Fits

theorem ShmRegion.Contains.exportsInside {r : ShmRegion} {resp : MmapResp} (h : r.Contains resp) :
    r.ExportsInside resp.driverAddr resp.len := ⟨h.aligned, h.room⟩

/-- The frame number of the address at which the range begins. Its low bits are
those of the region. -/
theorem ShmRegion.Contains.remapsInside_iff {r : ShmRegion} {resp : MmapResp}
    (h : r.Contains resp) (hwrap : resp.driverAddr.toNat + r.addr.toNat < 2 ^ 64) {size : UInt64}
    (hsize : size.toNat ≤ pageUp resp.len.toNat) :
    r.RemapsInside resp ((resp.driverAddr + r.addr) >>> 12) size ↔ r.addr.toNat % 4096 = 0 := by
  have hpfn : ((resp.driverAddr + r.addr) >>> 12).toNat =
      (resp.driverAddr.toNat + r.addr.toNat) / 4096 := by
    have hsum : (resp.driverAddr + r.addr).toNat = resp.driverAddr.toNat + r.addr.toNat := by
      rw [UInt64.toNat_add]
      exact Nat.mod_eq_of_lt hwrap
    rw [UInt64.toNat_shiftRight, hsum]
    exact Nat.shiftRight_eq_div_pow _ 12
  have haligned := h.aligned
  have hroom := h.room
  constructor
  · intro hin
    have hstart := hin.start
    rw [hpfn] at hstart
    omega
  · intro hregion
    refine ⟨?_, ?_, ?_⟩ <;> rw [hpfn] <;> omega

/-- What `virtio_media_device_mmap` does after the answer. -/
theorem all_mapAnswerLogged (shmExport : Bool) (vv : Device) (vma : Vma) (env : MmapEnv)
    (hvma : vma.vmStart.toNat ≤ vma.vmEnd.toNat) :
    All (RangeOp.Sound vv.mmapRegion env.resp 0) (mapAnswerLogged shmExport vv vma env) := by
  have hbelow : env.resp.driverAddr.toNat ≤ u64Max.toNat := Nat.le_pred_of_lt (UInt64.toNat_lt _)
  unfold mapAnswerLogged
  simp only [all_bind, all_orElseLogged, all_ite, orElseLogged_val, ShmRegion.excludesLogged_val,
    val_bind, val_pure, all_pure, implies_true, true_and, Bool.not_eq_true, Bool.or_eq_false_iff]
  refine ⟨fun _ => ?_, ?_⟩
  · refine all_excludesLogged (fun _ _ h => h) (fun _ h => h) fun _ => ?_
    simp only [all_bind, all_subLogged, all_pure, and_true]
    exact hbelow
  · rintro ⟨-, hexcludes, hwraps⟩
    have hin := ShmRegion.contains_of_excludes hexcludes
    have hwrap : env.resp.driverAddr.toNat + vv.mmapRegion.addr.toNat < 2 ^ 64 := by
      have htop : (u64Max - env.resp.driverAddr).toNat = 2 ^ 64 - 1 - env.resp.driverAddr.toNat :=
        UInt64.toNat_sub_of_le _ _ (UInt64.le_iff_toNat_le.mpr hbelow)
      have hlt : vv.mmapRegion.addr.toNat ≤ (u64Max - env.resp.driverAddr).toNat := by
        simpa [UInt64.lt_iff_toNat_lt] using hwraps
      have haddr := env.resp.driverAddr.toNat_lt
      omega
    refine ⟨(all_addLogged _ _).mpr hwrap, (all_subLogged _ _).mpr hvma,
      (all_pageAlignLogged _).mpr hin.short, fun hfits _ => ⟨?_, ?_⟩⟩
    · unfold exportBacking
      cases shmExport with
      | false => simp
      | true => simpa using ⟨hin.exportsInside, Nat.zero_le _⟩
    · have hsize : (vma.vmEnd - vma.vmStart).toNat ≤ pageUp env.resp.len.toNat := by
        have hle : (vma.vmEnd - vma.vmStart).toNat ≤ (pageAlign env.resp.len).toNat := by
          simpa [UInt64.lt_iff_toNat_lt] using hfits
        rwa [toNat_pageAlign hin.short] at hle
      cases env.takeBacking shmExport with
      | error e => exact all_pure _
      | ok backing =>
          simp only [all_bind, all_ite, all_pure, implies_true, and_true, all_tell]
          exact ⟨(all_subLogged _ _).mpr hvma, hin.remapsInside_iff hwrap hsize⟩

@[simp] theorem sendMmap_mmapRegion (vv : Device) (cmd : MmapCmd) (a : Answer) (resp : MmapResp) :
    (vv.sendMmap cmd a resp).2.mmapRegion = vv.mmapRegion := by
  have hsend : (vv.sendCommand 24 a).2.mmapRegion = vv.mmapRegion := by
    unfold Device.sendCommand
    split
    · rfl
    · cases hstopped : (kickCommand a).2.2 <;> simp only [hstopped] <;> split_ifs <;> rfl
  unfold Device.sendMmap
  split
  rename_i ret vv' hs
  rw [hs] at hsend
  split
  · exact hsend
  · exact hsend

theorem all_deviceMmapLogged (shmExport : Bool) (vv : Device) (sessionId : UInt32) (vma : Vma)
    (env : MmapEnv) (hvma : vma.vmStart.toNat ≤ vma.vmEnd.toNat) :
    All (RangeOp.Sound vv.mmapRegion env.resp 0)
      (deviceMmapLogged shmExport vv sessionId vma env) := by
  unfold deviceMmapLogged
  simp only [all_ite, all_pure, implies_true, true_and]
  intro _ _ _ _
  rw [← sendMmap_mmapRegion vv (vma.mmapCmd sessionId) env.answer env.resp]
  exact all_mapAnswerLogged shmExport _ vma env hvma

/-- What `virtio_media_expbuf` does after the answer. -/
theorem all_exportAnswerLogged (vv : Device) (sessionId : UInt32) (b : ExportBuffer)
    (length : UInt64) (env : ExpbufEnv) :
    All (RangeOp.Sound vv.mmapRegion env.resp length.toNat)
      (exportAnswerLogged vv sessionId b length env) := by
  unfold exportAnswerLogged
  simp only [all_bind, all_orElseLogged, all_ite, orElseLogged_val, ShmRegion.excludesLogged_val,
    val_pure, all_pure, all_tell, implies_true, true_and, and_true, Bool.or_false,
    Bool.not_eq_true, Bool.or_eq_false_iff]
  refine ⟨fun _ => all_excludesLogged (fun _ _ h => h) (fun _ h => h) fun _ => all_pure _, ?_⟩
  rintro ⟨⟨-, hlength⟩, hexcludes⟩ -
  refine ⟨(ShmRegion.contains_of_excludes hexcludes).exportsInside, ?_⟩
  simpa [UInt64.lt_iff_toNat_lt] using hlength

/-- What the calls of `expbuf` get is sound for the length of the plane that is
exported. -/
theorem all_expbufLogged (shmExport : Bool) (vv : Device) (sessionId : UInt32) (s : Session)
    (b : ExportBuffer) (env : ExpbufEnv) :
    All (fun op => ∃ offset length,
        env.plane b (querybuf s env.queryRet env.queryReply).2 = some (offset, length) ∧
        op.Sound vv.mmapRegion env.resp length.toNat)
      (expbufLogged shmExport vv sessionId s b env) := by
  unfold expbufLogged expbufNewLogged
  simp only [all_ite, all_pure, implies_true, true_and]
  intro _ _ _ _ _
  cases hplane : env.plane b (querybuf s env.queryRet env.queryReply).2 with
  | none => exact all_pure _
  | some plane =>
      simp only [all_ite, all_pure, implies_true, true_and]
      intro _ op hop
      have hsound := all_exportAnswerLogged _ sessionId b plane.2 env op hop
      rw [sendMmap_mmapRegion] at hsound
      exact ⟨plane.1, plane.2, rfl, hsound⟩

/-- `mmap` maps the returned range, and nothing outside of the region, exactly
if the region is page aligned. `expbuf` exports a range of whole pages within
the region that is as long as the plane. Neither wraps on the way. -/
theorem mapped_ranges (shmExport : Bool) (vv : Device) (sessionId : UInt32) :
    (∀ (vma : Vma) (env : MmapEnv), vma.vmStart.toNat ≤ vma.vmEnd.toNat →
      ∀ op ∈ (deviceMmapLogged shmExport vv sessionId vma env).log, op.Fits ∧
        ∀ vmStart pfn size, op = .remapPfnRange vmStart pfn size →
          (vv.mmapRegion.RemapsInside env.resp pfn size ↔
            vv.mmapRegion.addr.toNat % 4096 = 0)) ∧
    ∀ (s : Session) (b : ExportBuffer) (env : ExpbufEnv),
      ∀ op ∈ (expbufLogged shmExport vv sessionId s b env).log, op.Fits ∧
        ∀ offset len, op = .shmExport offset len →
          vv.mmapRegion.ExportsInside offset len ∧
          ∃ planeOffset length,
            env.plane b (querybuf s env.queryRet env.queryReply).2 = some (planeOffset, length) ∧
            length.toNat ≤ len.toNat := by
  refine ⟨fun vma env hvma op hop => ⟨?_, ?_⟩, fun s b env op hop => ?_⟩
  · have hsound := all_deviceMmapLogged shmExport vv sessionId vma env hvma op hop
    cases op <;> first | exact hsound | exact trivial
  · rintro vmStart pfn size rfl
    exact all_deviceMmapLogged shmExport vv sessionId vma env hvma _ hop
  · obtain ⟨planeOffset, length, hplane, hsound⟩ :=
      all_expbufLogged shmExport vv sessionId s b env op hop
    refine ⟨?_, ?_⟩
    · cases op <;> first | exact hsound | exact trivial
    · rintro offset len rfl
      exact ⟨hsound.1, planeOffset, length, hplane, hsound.2⟩

/-- A new device with a region of sixteen pages. -/
def sixteenPages (addr : UInt64) : Device := ⟨⟨addr, 0x10000⟩, false, 0, [], [], [], []⟩

/-- A mapping of one page, and an answer that places it at the start of the region. -/
def onePage : Vma := ⟨true, true, false, 0x7000, 0x8000, 0⟩
def onePageEnv : MmapEnv := ⟨.answered 0 24, ⟨0, 0x1000⟩, true, .ok (), 0, .timeout⟩

theorem mapped_ranges_aligned :
    .remapPfnRange 0x7000 0x100000 0x1000 ∈
        (deviceMmapLogged false (sixteenPages 0x100000000) 1 onePage onePageEnv).log ∧
      (sixteenPages 0x100000000).mmapRegion.RemapsInside onePageEnv.resp 0x100000 0x1000 := by
  have hlog : .remapPfnRange 0x7000 0x100000 0x1000 ∈
      (deviceMmapLogged false (sixteenPages 0x100000000) 1 onePage onePageEnv).log := by decide
  have hranges := (mapped_ranges false (sixteenPages 0x100000000) 1).1 onePage onePageEnv
    (by decide) _ hlog
  exact ⟨hlog, (hranges.2 _ _ _ rfl).mpr (by decide)⟩

theorem mapped_ranges_fails_unaligned :
    (sixteenPages 0x100000800).mmapRegion.addr.toNat +
        (sixteenPages 0x100000800).mmapRegion.len.toNat ≤ 2 ^ 64 ∧
      .remapPfnRange 0x7000 0x100000 0x1000 ∈
        (deviceMmapLogged false (sixteenPages 0x100000800) 1 onePage onePageEnv).log ∧
      ¬ (sixteenPages 0x100000800).mmapRegion.RemapsInside onePageEnv.resp 0x100000 0x1000 := by
  refine ⟨by decide, by decide, fun h => ?_⟩
  exact absurd h.start (by decide)

end VirtioMedia.Driver
