import VirtioMedia.Driver.Session

/-!
# DMA-BUF imports of a slot

`driver/virtio_media_dmabuf.c`. The backing provider and the DMA-BUF core are
outside the repository: what they answer for a plane is an input. Each of
them is asked at most once for a plane in one call.
-/

namespace VirtioMedia.Driver

open V4l2

/-- What the provider and `dma_buf_get` answer for one plane. -/
structure PlaneAnswers where
  dmaBufGet : Except Int Nat
  shmImport : Except Int Import
  releaseRet : Int
  prepareRet : Int

/-- A buffer passed to an ioctl with its planes array. -/
structure BufferReq where
  buffer : V4l2Buffer
  planes : List V4l2Plane
  deriving DecidableEq, Repr

def BufferReq.plane (req : BufferReq) (i : Nat) : V4l2Plane := req.planes.getD i default

/-- `virtio_media_complete_imports`. -/
def completeImports (b : MediaBuffer) : MediaBuffer :=
  { b with imports := b.imports.map (Option.map fun i => { i with prepared := false }) }

/-- `virtio_media_release_imports`. -/
def releaseImports (b : MediaBuffer) : MediaBuffer :=
  { b with imports := b.imports.map fun _ => none }

/-- One turn of the import loop of `virtio_media_prepare_imports`: find or
create the import of plane `i`. Failure carries the slot before `fail:`. -/
def importPlane (req : BufferReq) (ans : PlaneAnswers) (b : MediaBuffer) (i : Nat) :
    Except (Int × MediaBuffer) MediaBuffer :=
  let multi := typeIsMultiplanar req.buffer.type
  let length : UInt64 :=
    if multi then (req.plane i).length.toUInt64 else req.buffer.length.toUInt64
  let store (b : MediaBuffer) (imp : Import) : MediaBuffer :=
    { b with imports := b.imports.set i (some imp), uuids := b.uuids.set i imp.uuid }
  let create (b : MediaBuffer) : Except (Int × MediaBuffer) MediaBuffer :=
    match ans.shmImport with
    | .error e => .error (e, b)
    | .ok imp => .ok (store b imp)
  if length == 0 || (multi && (req.plane i).dataOffset != 0) then
    .error (-einval, b)
  else
    match ans.dmaBufGet with
    | .error e => .error (e, b)
    | .ok dbuf =>
      -- one independent reservation per plane
      if (b.imports.take i).any (fun o => o.any fun imp => imp.dbuf == dbuf) then
        .error (-einval, b)
      else
        match (b.imports[i]?).join with
        | none => create b
        | some imp =>
          if imp.dbuf == dbuf && imp.length == length then .ok (store b imp)
          else
            let b := { b with imports := b.imports.set i none }
            if ans.releaseRet != 0 then .error (ans.releaseRet, b) else create b

/-- The import loop over planes `i`, `i + 1`, ... -/
def importPlanes (req : BufferReq) (ans : Nat → PlaneAnswers) :
    Nat → Nat → MediaBuffer → Except (Int × MediaBuffer) MediaBuffer
  | 0, _, b => .ok b
  | n + 1, i, b =>
    match importPlane req (ans i) b i with
    | .error e => .error e
    | .ok b => importPlanes req ans n (i + 1) b

/-- The provider's fence state of the imports selected by their plane index. -/
def setPrepared (b : MediaBuffer) (sel : Nat → Bool) (v : Bool) : MediaBuffer :=
  { b with imports := b.imports.mapIdx fun j o =>
      bif sel j then o.map fun imp => { imp with prepared := v } else o }

/-- The prepare loop. A failure completes the imports prepared before it. -/
def preparePlanes (ans : Nat → PlaneAnswers) : Nat → Nat → MediaBuffer → Int × MediaBuffer
  | 0, _, b => (0, b)
  | n + 1, i, b =>
    if (ans i).prepareRet != 0 then
      ((ans i).prepareRet, setPrepared b (fun j => decide (j < i)) false)
    else
      preparePlanes ans n (i + 1) (setPrepared b (fun j => j == i) true)

/-- The number of planes of a buffer: `b->length`, or one. -/
def BufferReq.planeCount (req : BufferReq) : Nat :=
  if typeIsMultiplanar req.buffer.type then req.buffer.length.toNat else 1

/-- `virtio_media_prepare_imports`. -/
def prepareImports (cfg : Config) (b : MediaBuffer) (req : BufferReq)
    (ans : Nat → PlaneAnswers) : Int × MediaBuffer :=
  if !cfg.canImport then (-eopnotsupp, b)
  else if !typeIsCapture req.buffer.type || req.planeCount == 0 ||
      req.planeCount > videoMaxPlanes then
    (-einval, b)
  else
    match importPlanes req ans req.planeCount 0 b with
    | .error (e, b) => (e, releaseImports b)
    | .ok b => preparePlanes ans req.planeCount 0 b

/-! ### The import calls touch neither the buffer nor its planes -/

/-- The slot a fallible import step leaves behind, in either outcome. -/
private def slotOf : Except (Int × MediaBuffer) MediaBuffer → MediaBuffer
  | .error (_, b) => b
  | .ok b => b

private theorem importPlane_buffer (req : BufferReq) (ans : PlaneAnswers)
    (b : MediaBuffer) (i : Nat) :
    (slotOf (importPlane req ans b i)).buffer = b.buffer ∧
      (slotOf (importPlane req ans b i)).planes = b.planes := by
  simp only [importPlane]
  repeat' split
  all_goals exact ⟨rfl, rfl⟩

private theorem importPlanes_buffer (req : BufferReq) (ans : Nat → PlaneAnswers)
    (n i : Nat) (b : MediaBuffer) :
    (slotOf (importPlanes req ans n i b)).buffer = b.buffer ∧
      (slotOf (importPlanes req ans n i b)).planes = b.planes := by
  induction n generalizing i b with
  | zero => exact ⟨rfl, rfl⟩
  | succ n ih =>
      have hone := importPlane_buffer req (ans i) b i
      simp only [importPlanes]
      cases h : importPlane req (ans i) b i with
      | error e => simpa [h] using hone
      | ok b' =>
          rw [h] at hone
          exact ⟨(ih (i + 1) b').1.trans hone.1, (ih (i + 1) b').2.trans hone.2⟩

private theorem preparePlanes_buffer (ans : Nat → PlaneAnswers) (n i : Nat)
    (b : MediaBuffer) :
    (preparePlanes ans n i b).2.buffer = b.buffer ∧
      (preparePlanes ans n i b).2.planes = b.planes := by
  induction n generalizing i b with
  | zero => exact ⟨rfl, rfl⟩
  | succ n ih =>
      simp only [preparePlanes]
      split
      · exact ⟨rfl, rfl⟩
      · exact ih (i + 1) _

private theorem prepareImports_frame (cfg : Config) (b : MediaBuffer) (req : BufferReq)
    (ans : Nat → PlaneAnswers) :
    (prepareImports cfg b req ans).2.buffer = b.buffer ∧
      (prepareImports cfg b req ans).2.planes = b.planes := by
  have h := importPlanes_buffer req ans req.planeCount 0 b
  unfold prepareImports
  split
  · exact ⟨rfl, rfl⟩
  · split
    · exact ⟨rfl, rfl⟩
    · cases himp : importPlanes req ans req.planeCount 0 b with
      | error e =>
          rw [himp] at h
          exact h
      | ok b' =>
          rw [himp] at h
          have hp := preparePlanes_buffer ans req.planeCount 0 b'
          exact ⟨hp.1.trans h.1, hp.2.trans h.2⟩

@[simp] theorem prepareImports_buffer (cfg : Config) (b : MediaBuffer) (req : BufferReq)
    (ans : Nat → PlaneAnswers) : (prepareImports cfg b req ans).2.buffer = b.buffer :=
  (prepareImports_frame cfg b req ans).1

@[simp] theorem prepareImports_planes (cfg : Config) (b : MediaBuffer) (req : BufferReq)
    (ans : Nat → PlaneAnswers) : (prepareImports cfg b req ans).2.planes = b.planes :=
  (prepareImports_frame cfg b req ans).2

end VirtioMedia.Driver
