import VirtioMedia.Driver.QueueAccounting
import VirtioMedia.Lib.Logged

/-!
# Fences of DMA-BUF imports are paired

An import is prepared before its slot is given to the device and completed
when the slot comes back. The invariant is a property of one slot: if the
device does not own it, or if its queue does not hold imports at all, none of
its imports is prepared. The loops of `virtio_media_prepare_imports` are
followed plane by plane.

The calls of `prepare` are logged with the import they are made on, as it is
at that moment. A new import that the provider returns is not prepared.
-/

namespace VirtioMedia.Driver

open V4l2 Logged

/-! ### The calls of `prepare` -/

/-- `preparePlanes`, with the import each call is made on. -/
def preparePlanesLogged (ans : Nat → PlaneAnswers) :
    Nat → Nat → MediaBuffer → Logged (Option Import) (Int × MediaBuffer)
  | 0, _, b => pure (0, b)
  | n + 1, i, b => do
    tell (b.imports[i]?).join
    if (ans i).prepareRet != 0 then
      pure ((ans i).prepareRet, setPrepared b (fun j => decide (j < i)) false)
    else
      preparePlanesLogged ans n (i + 1) (setPrepared b (fun j => j == i) true)

/-- `prepareImports`, with the calls of `prepare`. -/
def prepareImportsLogged (cfg : Config) (b : MediaBuffer) (req : BufferReq)
    (ans : Nat → PlaneAnswers) : Logged (Option Import) (Int × MediaBuffer) :=
  if !cfg.canImport then pure (-eopnotsupp, b)
  else if !typeIsCapture req.buffer.type || req.planeCount == 0 ||
      req.planeCount > videoMaxPlanes then
    pure (-einval, b)
  else
    match importPlanes req ans req.planeCount 0 b with
    | .error (e, b) => pure (e, releaseImports b)
    | .ok b => preparePlanesLogged ans req.planeCount 0 b

/-- The log changes nothing. -/
theorem preparePlanesLogged_val (ans : Nat → PlaneAnswers) (n i : Nat) (b : MediaBuffer) :
    (preparePlanesLogged ans n i b).val = preparePlanes ans n i b := by
  induction n generalizing i b with
  | zero => rfl
  | succ n ih =>
      unfold preparePlanesLogged preparePlanes
      rw [val_bind]
      split_ifs
      · rfl
      · exact ih (i + 1) _

/-- The log changes nothing. -/
theorem prepareImportsLogged_val (cfg : Config) (b : MediaBuffer) (req : BufferReq)
    (ans : Nat → PlaneAnswers) :
    (prepareImportsLogged cfg b req ans).val = prepareImports cfg b req ans := by
  unfold prepareImportsLogged prepareImports
  split_ifs
  · rfl
  · rfl
  · cases importPlanes req ans req.planeCount 0 b with
    | error e => rfl
    | ok b' => exact preparePlanesLogged_val ans req.planeCount 0 b'

/-- The imports on which an action calls `prepare`, in the order of the calls.
Only a QBUF on an import queue that passes its checks makes any. -/
def Machine.prepareCalls (cfg : Config) (d : Machine) : Action → List (Option Import)
  | .qbufSubmit req ans =>
    if d.inFlight.isSome then []
    else
      match qbufCheck d.session req with
      | .error _ => []
      | .ok (_, b) =>
        if req.buffer.memory == memoryDmabuf then (prepareImportsLogged cfg b req ans).log
        else []
  | _ => []

/-- The provider returns new imports that are not prepared. Every call of
`virtio_shm_import` returns an object of its own ("One independent reservation per
plane"), so a plane holds its import by value, and no other plane has the same. -/
def Action.FreshImports : Action → Prop
  | .qbufSubmit _ ans => ∀ i imp, (ans i).shmImport = .ok imp → imp.prepared = false
  | _ => True

/-! ### Slots without a prepared import -/

/-- No import of the slot is prepared. -/
def MediaBuffer.Unfenced (b : MediaBuffer) : Prop :=
  ∀ (i : Nat) (imp : Import), b.imports[i]? = some (some imp) → imp.prepared = false

/-- `complete` is called for every import that is prepared. -/
theorem unfenced_complete (b : MediaBuffer) : (completeImports b).Unfenced := by
  intro i imp h
  simp only [completeImports, List.getElem?_map, Option.map_eq_some_iff] at h
  obtain ⟨o, -, ho⟩ := h
  obtain ⟨imp', -, rfl⟩ := ho
  rfl

/-- A released slot has no import left. -/
theorem unfenced_release (b : MediaBuffer) : (releaseImports b).Unfenced := by
  intro i imp h
  simp only [releaseImports, List.getElem?_map, Option.map_eq_some_iff] at h
  obtain ⟨o, -, ho⟩ := h
  cases ho

@[simp] theorem length_completeImports (b : MediaBuffer) :
    (completeImports b).imports.length = b.imports.length := by
  simp [completeImports]

@[simp] theorem length_releaseImports (b : MediaBuffer) :
    (releaseImports b).imports.length = b.imports.length := by
  simp [releaseImports]

theorem unfenced_zero : MediaBuffer.zero.Unfenced := by
  intro i imp h
  have hmem := List.mem_of_getElem? h
  cases List.eq_of_mem_replicate hmem

theorem MediaBuffer.Unfenced.congr {b b' : MediaBuffer} (h : b.Unfenced)
    (heq : b'.imports = b.imports) : b'.Unfenced := by
  intro i imp hi
  rw [heq] at hi
  exact h i imp hi

theorem MediaBuffer.Unfenced.setImport {b b' : MediaBuffer} {i : Nat} {o : Option Import}
    (h : b.Unfenced) (heq : b'.imports = b.imports.set i o)
    (ho : ∀ imp, o = some imp → imp.prepared = false) : b'.Unfenced := by
  intro j imp hj
  rw [heq, List.getElem?_set] at hj
  split_ifs at hj
  · exact ho imp (Option.some.inj hj)
  · exact h j imp hj

/-! ### The import loop -/

/-- A slot in the import loop: nothing is prepared, and the planes before `i`
have their imports. -/
structure Importing (i : Nat) (b : MediaBuffer) : Prop where
  unfenced : b.Unfenced
  planes : b.imports.length = videoMaxPlanes
  imported : ∀ j < i, ∃ imp, b.imports[j]? = some (some imp)

/-- A plane is imported, and not prepared. -/
theorem Importing.store {i : Nat} {b : MediaBuffer} (h : Importing i b)
    (hi : i < videoMaxPlanes) {imp : Import} (himp : imp.prepared = false)
    (uuids : List (Vector UInt8 16)) :
    Importing (i + 1) { b with imports := b.imports.set i (some imp), uuids := uuids } where
  unfenced := h.unfenced.setImport rfl fun imp' he => by
    cases he
    exact himp
  planes := List.length_set.trans h.planes
  imported := by
    intro j hj
    change ∃ imp', (b.imports.set i (some imp))[j]? = some (some imp')
    by_cases hji : i = j
    · subst hji
      exact ⟨imp, List.getElem?_set_self (h.planes ▸ hi)⟩
    · rw [List.getElem?_set_ne hji]
      exact h.imported j (by omega)

theorem Importing.forget {i : Nat} {b : MediaBuffer} (h : Importing i b) :
    Importing i { b with imports := b.imports.set i none } where
  unfenced := h.unfenced.setImport rfl fun imp he => by cases he
  planes := List.length_set.trans h.planes
  imported := by
    intro j hj
    change ∃ imp', (b.imports.set i none)[j]? = some (some imp')
    rw [List.getElem?_set_ne (by omega)]
    exact h.imported j hj

/-- One turn of the loop. The slot of a failure is released by the caller. -/
theorem Importing.importPlane {i : Nat} {b b' : MediaBuffer} (h : Importing i b)
    (hi : i < videoMaxPlanes) {req : BufferReq} {ans : PlaneAnswers}
    (hfresh : ∀ imp, ans.shmImport = .ok imp → imp.prepared = false)
    (hok : importPlane req ans b i = .ok b') : Importing (i + 1) b' := by
  -- a new import is stored at plane `i`
  have hcreate : ∀ {b₀ : MediaBuffer} {imp : Import} (uuids), Importing i b₀ →
      ans.shmImport = .ok imp →
      Importing (i + 1) { b₀ with imports := b₀.imports.set i (some imp), uuids := uuids } :=
    fun uuids h₀ himp => h₀.store hi (hfresh _ himp) uuids
  unfold Driver.importPlane at hok
  simp only at hok
  generalize (if typeIsMultiplanar req.buffer.type = true then (req.plane i).length.toUInt64
    else req.buffer.length.toUInt64) = length at hok
  split at hok
  · cases hok
  · split at hok
    · cases hok
    · rename_i dbuf hdbuf
      split at hok
      · cases hok
      · split at hok
        · split at hok
          · cases hok
          · rename_i imp himp
            cases hok
            exact hcreate _ h himp
        · rename_i imp hb
          split at hok
          · cases hok
            exact h.store hi (h.unfenced i imp (Option.join_eq_some_iff.mp hb)) _
          · split at hok
            · cases hok
            · split at hok
              · cases hok
              · rename_i imp' himp
                cases hok
                exact hcreate _ h.forget himp

/-- A turn that fails keeps the number of entries. -/
theorem importPlane_error_length {i : Nat} {b b' : MediaBuffer} {req : BufferReq}
    {ans : PlaneAnswers} {e : Int} (herr : importPlane req ans b i = .error (e, b')) :
    b'.imports.length = b.imports.length := by
  unfold importPlane at herr
  simp only at herr
  generalize (if typeIsMultiplanar req.buffer.type = true then (req.plane i).length.toUInt64
    else req.buffer.length.toUInt64) = length at herr
  repeat' split at herr
  all_goals cases herr
  all_goals first
    | rfl
    | exact List.length_set

/-- By induction on the planes that are left. -/
theorem Importing.importPlanes {req : BufferReq} {ans : Nat → PlaneAnswers}
    (hfresh : ∀ i imp, (ans i).shmImport = .ok imp → imp.prepared = false) {n i : Nat}
    {b b' : MediaBuffer} (h : Importing i b) (hn : i + n ≤ videoMaxPlanes)
    (hok : importPlanes req ans n i b = .ok b') : Importing (i + n) b' := by
  induction n generalizing i b with
  | zero =>
      cases hok
      exact h
  | succ n ih =>
      unfold Driver.importPlanes at hok
      cases hone : Driver.importPlane req (ans i) b i with
      | error e =>
          rw [hone] at hok
          cases hok
      | ok b₁ =>
          rw [hone] at hok
          have hstep := ih (h.importPlane (by omega) (hfresh i) hone) (by omega) hok
          rwa [Nat.add_assoc, Nat.add_comm 1 n] at hstep

/-- The array of imports keeps its length when the loop fails. -/
theorem Importing.length_importPlanes {req : BufferReq} {ans : Nat → PlaneAnswers}
    (hfresh : ∀ i imp, (ans i).shmImport = .ok imp → imp.prepared = false) {n i : Nat}
    {b b' : MediaBuffer} {e : Int} (h : Importing i b) (hn : i + n ≤ videoMaxPlanes)
    (herr : Driver.importPlanes req ans n i b = .error (e, b')) :
    b'.imports.length = videoMaxPlanes := by
  induction n generalizing i b with
  | zero => cases herr
  | succ n ih =>
      unfold Driver.importPlanes at herr
      cases hone : Driver.importPlane req (ans i) b i with
      | error p =>
          rw [hone] at herr
          cases herr
          exact (importPlane_error_length hone).trans h.planes
      | ok b₁ =>
          rw [hone] at herr
          exact ih (h.importPlane (by omega) (hfresh i) hone) (by omega) herr

/-! ### The prepare loop -/

/-- A slot in the prepare loop: every plane below `n` has its import, and those
from `i` on are not prepared. -/
structure Preparing (n i : Nat) (b : MediaBuffer) : Prop where
  planes : b.imports.length = videoMaxPlanes
  imported : ∀ j < n, ∃ imp, b.imports[j]? = some (some imp)
  unfenced : ∀ j imp, i ≤ j → b.imports[j]? = some (some imp) → imp.prepared = false

/-- The prepare loop begins where the import loop ends. -/
theorem Importing.preparing {n : Nat} {b : MediaBuffer} (h : Importing n b) :
    Preparing n 0 b :=
  ⟨h.planes, h.imported, fun j imp _ => h.unfenced j imp⟩

theorem getElem?_setPrepared (b : MediaBuffer) (sel : Nat → Bool) (v : Bool) (j : Nat) :
    (setPrepared b sel v).imports[j]? = (b.imports[j]?).map fun o =>
      bif sel j then o.map fun imp => { imp with prepared := v } else o := by
  simp only [setPrepared, List.getElem?_mapIdx]

/-- One more plane is prepared. -/
theorem Preparing.next {n i : Nat} {b : MediaBuffer} (h : Preparing n i b) :
    Preparing n (i + 1) (setPrepared b (fun j => j == i) true) where
  planes := by simpa [setPrepared] using h.planes
  imported := by
    intro j hj
    obtain ⟨imp, himp⟩ := h.imported j hj
    rw [getElem?_setPrepared, himp]
    cases hji : j == i
    · exact ⟨imp, rfl⟩
    · exact ⟨{ imp with prepared := true }, rfl⟩
  unfenced := by
    intro j imp hj himp
    have hne : (j == i) = false := by simpa using (by omega : j ≠ i)
    rw [getElem?_setPrepared, hne] at himp
    simp only [cond_false, Option.map_id'] at himp
    exact h.unfenced j imp (by omega) himp

/-- The unwinding of a failure leaves nothing prepared. -/
theorem Preparing.unwind {n i : Nat} {b : MediaBuffer} (h : Preparing n i b) :
    (setPrepared b (fun j => decide (j < i)) false).Unfenced := by
  intro j imp himp
  rw [getElem?_setPrepared] at himp
  by_cases hj : j < i
  · rw [decide_eq_true hj] at himp
    simp only [cond_true, Option.map_eq_some_iff] at himp
    obtain ⟨o, -, imp', -, rfl⟩ := himp
    rfl
  · rw [decide_eq_false hj] at himp
    simp only [cond_false, Option.map_id'] at himp
    exact h.unfenced j imp (by omega) himp

theorem Preparing.length_preparePlanes {ans : Nat → PlaneAnswers} {n i k : Nat}
    {b : MediaBuffer} (h : Preparing k i b) :
    (preparePlanes ans n i b).2.imports.length = videoMaxPlanes := by
  induction n generalizing i b with
  | zero => exact h.planes
  | succ n ih =>
      unfold preparePlanes
      split_ifs
      · simpa [setPrepared] using h.planes
      · exact ih h.next

/-- A prepare loop that fails leaves nothing prepared. -/
theorem Preparing.unfenced_of_fail {ans : Nat → PlaneAnswers} {n i k : Nat} {b : MediaBuffer}
    (h : Preparing k i b) (hfail : (preparePlanes ans n i b).1 ≠ 0) :
    (preparePlanes ans n i b).2.Unfenced := by
  induction n generalizing i b with
  | zero => exact absurd rfl hfail
  | succ n ih =>
      unfold preparePlanes at hfail ⊢
      split_ifs at hfail ⊢
      · exact h.unwind
      · exact ih h.next hfail

/-- Every call of the loop finds an import, and finds it unprepared. -/
theorem Preparing.calls {ans : Nat → PlaneAnswers} {n i k : Nat} {b : MediaBuffer}
    (h : Preparing k i b) (hk : i + n ≤ k) :
    All (fun o => ∃ imp : Import, o = some imp ∧ imp.prepared = false)
      (preparePlanesLogged ans n i b) := by
  induction n generalizing i b with
  | zero => exact all_pure _
  | succ n ih =>
      unfold preparePlanesLogged
      rw [all_bind, all_tell]
      constructor
      · obtain ⟨imp, himp⟩ := h.imported i (by omega)
        exact ⟨imp, by rw [himp]; rfl, h.unfenced i imp le_rfl himp⟩
      · split_ifs
        · exact all_pure _
        · exact ih h.next (by omega)

/-! ### `virtio_media_prepare_imports` -/

section PrepareImports

variable {cfg : Config} {b : MediaBuffer} {req : BufferReq} {ans : Nat → PlaneAnswers}
  (hb : b.Unfenced) (hlen : b.imports.length = videoMaxPlanes)
  (hfresh : ∀ i imp, (ans i).shmImport = .ok imp → imp.prepared = false)

include hb hlen hfresh

/-- `prepare` is called on imports that are there and not prepared yet. -/
theorem prepareImports_calls :
    All (fun o => ∃ imp : Import, o = some imp ∧ imp.prepared = false)
      (prepareImportsLogged cfg b req ans) := by
  have hstart : Importing 0 b := ⟨hb, hlen, fun j hj => absurd hj (Nat.not_lt_zero j)⟩
  unfold prepareImportsLogged
  split_ifs with hcan hcount
  · exact all_pure _
  · exact all_pure _
  · have hmax : 0 + req.planeCount ≤ videoMaxPlanes := by
      simp only [Bool.or_eq_true, decide_eq_true_eq, not_or] at hcount
      omega
    cases himp : importPlanes req ans req.planeCount 0 b with
    | error e => exact all_pure _
    | ok b₁ =>
        have h := (hstart.importPlanes hfresh hmax himp).preparing
        exact h.calls le_rfl

/-- What a QBUF finds after the call: the slot keeps its array, a failure
leaves nothing prepared, and too many planes are a failure. -/
theorem prepareImports_spec :
    (prepareImports cfg b req ans).2.imports.length = videoMaxPlanes ∧
      ((prepareImports cfg b req ans).1 ≠ 0 → (prepareImports cfg b req ans).2.Unfenced) ∧
      (videoMaxPlanes < req.planeCount → (prepareImports cfg b req ans).1 ≠ 0) := by
  have hstart : Importing 0 b := ⟨hb, hlen, fun j hj => absurd hj (Nat.not_lt_zero j)⟩
  unfold prepareImports
  split_ifs with hcan hcount
  · exact ⟨hlen, fun _ => hb, fun _ => (by decide : -eopnotsupp ≠ 0)⟩
  · exact ⟨hlen, fun _ => hb, fun _ => (by decide : -einval ≠ 0)⟩
  · have hmax : 0 + req.planeCount ≤ videoMaxPlanes := by
      simp only [Bool.or_eq_true, decide_eq_true_eq, not_or] at hcount
      omega
    cases himp : importPlanes req ans req.planeCount 0 b with
    | error p =>
        obtain ⟨e, b₁⟩ := p
        refine ⟨?_, fun _ => unfenced_release b₁, fun hlt => by omega⟩
        exact (length_releaseImports b₁).trans (hstart.length_importPlanes hfresh hmax himp)
    | ok b₁ =>
        have h := (hstart.importPlanes hfresh hmax himp).preparing
        exact ⟨h.length_preparePlanes, h.unfenced_of_fail, fun hlt => by omega⟩

end PrepareImports

/-! ### The queues -/

/-- The slot has all its import entries, and none of them is prepared if the
device does not own the slot or the queue holds no imports. -/
structure SlotOk (memory : UInt32) (b : MediaBuffer) : Prop where
  unfenced : b.onDevice = false ∨ memory ≠ memoryDmabuf → b.Unfenced
  planes : b.imports.length = videoMaxPlanes

def Fenced (q : QueueState) : Prop := ∀ b ∈ q.buffers, SlotOk q.memory b

theorem SlotOk.ofUnfenced {b : MediaBuffer} (memory : UInt32) (h : b.Unfenced)
    (hlen : b.imports.length = videoMaxPlanes) : SlotOk memory b :=
  ⟨fun _ => h, hlen⟩

theorem Fenced.slot {q : QueueState} {i : Nat} {b : MediaBuffer} (h : Fenced q)
    (hb : q.buffers[i]? = some b) : SlotOk q.memory b :=
  h b (List.mem_of_getElem? hb)

/-- Only the slots and the memory type matter. -/
theorem Fenced.congr {q q' : QueueState} (h : Fenced q) (hb : q'.buffers = q.buffers)
    (hm : q'.memory = q.memory) : Fenced q' := by
  intro b hmem
  rw [hm]
  exact h b (hb ▸ hmem)

theorem Fenced.setBuffer {q : QueueState} {b : MediaBuffer} (h : Fenced q)
    (hb : SlotOk q.memory b) (i : Nat) : Fenced (q.setBuffer i b) := by
  intro c hc
  rcases List.mem_or_eq_of_mem_set hc with hc | rfl
  · exact h c hc
  · exact hb

/-- An accepted completion completes the imports before the slot leaves the
device. -/
theorem Fenced.processDqbuf {q : QueueState} (h : Fenced q) (cfg : Config) (type : UInt32)
    (ev : DqbufEvent) : Fenced (q.processDqbuf cfg type ev) := by
  unfold QueueState.processDqbuf
  cases hb : q.buffers[ev.buffer.index.toNat]? with
  | none => exact h
  | some b =>
      dsimp only
      split_ifs
      · have himp : (completedSlot cfg ev b).imports = (completeImports b).imports := rfl
        have hslot : SlotOk q.memory (completedSlot cfg ev b) :=
          .ofUnfenced q.memory ((unfenced_complete b).congr himp)
            (by rw [himp, length_completeImports, (h.slot hb).planes])
        exact (h.setBuffer hslot ev.buffer.index.toNat).congr rfl rfl
      · exact h

/-- A queue that is cleared completes all its imports. -/
theorem Fenced.clearQueue {q : QueueState} (h : Fenced q) : Fenced (clearQueue q) := by
  intro c hc
  obtain ⟨b, hb, rfl⟩ := List.mem_map.mp hc
  exact .ofUnfenced q.memory ((unfenced_complete b).congr rfl)
    ((length_completeImports b).trans (h b hb).planes)

theorem fenced_reallocQueue (q : QueueState) (reply : RequestBuffers) (ok : Bool) :
    Fenced (reallocQueue q reply ok) := by
  intro c hc
  unfold reallocQueue at hc
  cases ok with
  | false => cases hc
  | true =>
      obtain rfl := List.eq_of_mem_replicate hc
      exact .ofUnfenced _ unfenced_zero List.length_replicate

theorem SlotOk.unfenced_releasedSlot {memory : UInt32} {b : MediaBuffer} (h : SlotOk memory b) :
    (releasedSlot memory b).Unfenced := by
  unfold releasedSlot
  split_ifs with hm
  · exact unfenced_release b
  · exact h.unfenced (.inr (by simpa using hm))

theorem SlotOk.length_releasedSlot {memory : UInt32} {b : MediaBuffer} (h : SlotOk memory b) :
    (releasedSlot memory b).imports.length = videoMaxPlanes := by
  unfold releasedSlot
  split_ifs
  · exact (length_releaseImports b).trans h.planes
  · exact h.planes

/-- The slot of a QBUF that fails is released. -/
theorem Fenced.failQbuf {q : QueueState} (h : Fenced q) (fl : QbufInFlight) :
    Fenced (failQbuf q fl) := by
  unfold Driver.failQbuf
  simp only
  cases hb : q.buffers[fl.slot]? with
  | none => exact h
  | some b =>
      have hslot := h.slot hb
      have hdone : SlotOk q.memory (releasedSlot q.memory b) :=
        .ofUnfenced q.memory hslot.unfenced_releasedSlot hslot.length_releasedSlot
      have hback : SlotOk q.memory ((releasedSlot q.memory b).setFlags fl.oldFlags) :=
        .ofUnfenced q.memory (hslot.unfenced_releasedSlot.congr rfl) hslot.length_releasedSlot
      dsimp only
      split_ifs
      · exact (h.setBuffer hdone fl.slot).congr rfl rfl
      · exact (h.setBuffer hback fl.slot).congr rfl rfl

theorem fenced_setQueue {s : Session} (hs : ∀ t, Fenced (s.queues t)) {t : Fin numQueues}
    {q : QueueState} (hq : Fenced q) (u : Fin numQueues) : Fenced ((s.setQueue t q).queues u) := by
  rw [Session.setQueue_queues]
  split_ifs
  · exact hq
  · exact hs u

/-- An event reaches one queue at most. -/
theorem fenced_processDqbufEvent {s : Session} (hs : ∀ t, Fenced (s.queues t)) (cfg : Config)
    (ev : DqbufEvent) (t : Fin numQueues) : Fenced ((processDqbufEvent cfg s ev).queues t) := by
  rcases processDqbufEvent_queues cfg s ev t with h | h <;> rw [h]
  · exact hs t
  · exact (hs t).processDqbuf cfg ev.buffer.type ev

theorem fenced_processEvents {s : Session} (hs : ∀ t, Fenced (s.queues t)) (cfg : Config)
    (evs : List DqbufEvent) (t : Fin numQueues) :
    Fenced ((processEvents cfg s evs).queues t) := by
  induction evs generalizing s with
  | nil => exact hs t
  | cons ev rest ih => exact ih (fenced_processDqbufEvent hs cfg ev)

/-- A pending slot is DONE, so nothing of it is prepared when it is handed out. -/
theorem fenced_dqbufPop {s s' : Session} {t : Fin numQueues} {req res : BufferReq}
    (hs : ∀ t, Fenced (s.queues t)) (hacc : Accounted (s.queues t))
    (h : dqbufPop s t req = some (res, s')) (u : Fin numQueues) : Fenced (s'.queues u) := by
  unfold dqbufPop at h
  simp only at h
  split at h
  · cases h
  · rename_i i rest hp
    split at h
    · cases h
    · rename_i b hb
      cases h
      obtain ⟨c, hc, hdone⟩ := (hacc.pending i).mp (hp ▸ List.mem_cons_self)
      obtain rfl := Option.some.inj (hb.symm.trans hc)
      have hslot := (hs t).slot hb
      have hun := hslot.unfenced (.inl (onDevice_false_of_done hdone))
      have hout : SlotOk (s.queues t).memory (dequeuedSlot b) :=
        .ofUnfenced (s.queues t).memory (hun.congr rfl) hslot.planes
      refine fenced_setQueue hs ?_ u
      exact ((hs t).setBuffer hout i).congr rfl rfl

/-! ### QBUF -/

theorem SlotOk.ofOnDevice {memory : UInt32} {b : MediaBuffer} (hdev : b.onDevice = true)
    (hplain : memory ≠ memoryDmabuf → b.Unfenced) (hlen : b.imports.length = videoMaxPlanes) :
    SlotOk memory b := by
  refine ⟨fun h => hplain ?_, hlen⟩
  rcases h with h | h
  · rw [hdev] at h
    cases h
  · exact h

/-- The first half of QBUF. The slot it submits may have prepared imports and
is the device's; the slot it refuses has none. -/
theorem fenced_qbufSubmit {cfg : Config} {s : Session} (hs : ∀ t, Fenced (s.queues t))
    {req : BufferReq} {ans : Nat → PlaneAnswers}
    (hfresh : ∀ i imp, (ans i).shmImport = .ok imp → imp.prepared = false) (u : Fin numQueues) :
    Fenced ((qbufSubmit cfg s req ans).2.queues u) := by
  unfold qbufSubmit
  cases hc : qbufCheck s req with
  | error e => exact hs u
  | ok tb =>
      obtain ⟨t, b⟩ := tb
      obtain ⟨hb, hidle, -, hmem, -⟩ := idle_of_qbufCheck hc
      have hslot := (hs t).slot hb
      have hun := hslot.unfenced (.inl hidle.1)
      have hspec := @prepareImports_spec cfg b req ans hun hslot.planes hfresh
      dsimp only
      set prep := if req.buffer.memory == memoryDmabuf then prepareImports cfg b req ans
        else (0, b) with hprep
      have hlen : prep.2.imports.length = videoMaxPlanes := by
        rw [hprep]
        split_ifs
        · exact hspec.1
        · exact hslot.planes
      have hfail : prep.1 ≠ 0 → prep.2.Unfenced := by
        rw [hprep]
        split_ifs
        · exact hspec.2.1
        · exact fun _ => hun
      have hplain : (s.queues t).memory ≠ memoryDmabuf → prep.2.Unfenced := by
        intro hne
        rw [hprep, if_neg (by simpa [hmem] using hne)]
        exact hun
      have hmany : videoMaxPlanes < req.planeCount → prep.1 = 0 → prep.2.Unfenced := by
        rw [hprep]
        split_ifs
        · exact fun hlt hz => absurd hz (hspec.2.2 hlt)
        · exact fun _ _ => hun
      have hset : ∀ {b' : MediaBuffer}, b'.imports = prep.2.imports → prep.2.Unfenced →
          Fenced ((s.setQueue t ((s.queues t).setBuffer req.buffer.index.toNat b')).queues u) := by
        intro b' himp hu
        refine fenced_setQueue hs ((hs t).setBuffer ?_ _) u
        exact .ofUnfenced _ (hu.congr himp) (himp ▸ hlen)
      have henq : ∀ {b' : MediaBuffer}, b'.imports = prep.2.imports →
          Fenced
            ((s.setQueue t (enqueueSlot (s.queues t) req.buffer.index.toNat b')).queues u) := by
        intro b' himp
        have hqueued : SlotOk (s.queues t).memory (b'.setFlags bufFlagQueued) := by
          refine .ofOnDevice ?_ (fun hne => (hplain hne).congr himp) (himp ▸ hlen)
          simp [MediaBuffer.onDevice, MediaBuffer.done]
        refine fenced_setQueue hs ?_ u
        exact ((hs t).setBuffer hqueued _).congr rfl rfl
      split_ifs with herr hprepared hlong
      · exact hset rfl (hfail (by simpa using herr))
      · exact henq rfl
      · refine hset rfl (hmany ?_ (by simpa using herr))
        simp only [Bool.and_eq_true, decide_eq_true_eq] at hlong
        rw [BufferReq.planeCount, if_pos hlong.1]
        exact hlong.2
      · exact henq rfl

/-! ### Runs -/

/-- The accounts of the queues, and the state of the fences. -/
structure FenceInv (d : Machine) : Prop where
  machine : MachineInv d
  fenced : ∀ t, Fenced (d.session.queues t)

/-- One action of the machine; each case is the lemma of its function. -/
theorem fenced_step {cfg : Config} {d d' : Machine} {a : Action} (hd : FenceInv d)
    (hfresh : a.FreshImports) (h : d.step cfg a = some d') (t : Fin numQueues) :
    Fenced (d'.session.queues t) := by
  have hs := hd.fenced
  cases a with
  | event ev =>
      cases h
      exact fenced_processDqbufEvent hs cfg ev t
  | qbufReply ret =>
      obtain ⟨fl, -, rfl⟩ := Machine.step_qbufReply h
      change Fenced ((qbufReply d.session fl ret).2.queues t)
      unfold qbufReply
      split_ifs
      · exact fenced_setQueue hs ((hs fl.queue).failQbuf fl) t
      · exact hs t
  | qbufSubmit req ans =>
      obtain ⟨-, rfl⟩ := Machine.step_qbufSubmit h
      exact fenced_qbufSubmit hs hfresh t
  | dqbuf req =>
      obtain ⟨-, rfl | ⟨u, res, s', hp, rfl⟩⟩ := Machine.step_dqbuf h
      · exact hs t
      · exact fenced_dqbufPop hs (hd.machine.queues u) hp t
  | streamon type ret =>
      obtain ⟨-, rfl⟩ := Machine.step_streamon h
      change Fenced ((streamon d.session type ret).2.queues t)
      unfold streamon
      cases hq : queueIndex type with
      | none => exact hs t
      | some u =>
          dsimp only
          split_ifs
          · exact hs t
          · exact hs t
          · refine fenced_setQueue hs ?_ t
            exact (hs u).congr rfl rfl
  | streamoff type ret drained =>
      obtain ⟨-, rfl⟩ := Machine.step_streamoff h
      change Fenced ((streamoff cfg d.session type ret drained).2.queues t)
      unfold streamoff
      cases hq : queueIndex type with
      | none => exact hs t
      | some u =>
          have hev := fenced_processEvents hs cfg drained
          dsimp only
          split_ifs
          · exact hs t
          · exact fenced_setQueue hev (hev u).clearQueue t
  | reqbufs b ret reply drained ok =>
      obtain ⟨-, r, hr, rfl⟩ := Machine.step_reqbufs h
      change Fenced (r.2.2.queues t)
      rcases reqbufs_cases hr with ⟨-, hr⟩ | ⟨-, u, m, -, hr⟩ <;> rw [hr]
      · exact hs t
      · have hev := fenced_processEvents hs cfg drained
        exact fenced_setQueue hev (fenced_reallocQueue _ reply _) t

/-- The accounts and the fences together. -/
theorem FenceInv.step {cfg : Config} {d d' : Machine} {a : Action} (hd : FenceInv d)
    (hfresh : a.FreshImports) (h : d.step cfg a = some d') : FenceInv d' :=
  ⟨hd.machine.step h, fenced_step hd hfresh h⟩

theorem fenceInv_init (nonblocking : Bool) : FenceInv (.init nonblocking) :=
  ⟨machineInv_init nonblocking, fun _ _ h => absurd h List.not_mem_nil⟩

/-- Every `prepare` is called on an import that is there and not prepared. -/
theorem FenceInv.prepareCalls {cfg : Config} {d : Machine} {a : Action} (hd : FenceInv d)
    (hfresh : a.FreshImports) :
    ∀ o ∈ d.prepareCalls cfg a, ∃ imp : Import, o = some imp ∧ imp.prepared = false := by
  intro o ho
  cases a with
  | qbufSubmit req ans =>
      simp only [Machine.prepareCalls] at ho
      cases hc : qbufCheck d.session req with
      | error e =>
          simp only [hc, ite_self] at ho
          cases ho
      | ok tb =>
          obtain ⟨t, b⟩ := tb
          obtain ⟨hb, hidle, -⟩ := idle_of_qbufCheck hc
          have hslot := (hd.fenced t).slot hb
          simp only [hc] at ho
          split_ifs at ho
          · cases ho
          · exact prepareImports_calls (hslot.unfenced (.inl hidle.1)) hslot.planes hfresh o ho
          · cases ho
  | _ => cases ho

/-- After every run with new imports unprepared, a slot that the device does
not own and for which no QBUF is outstanding has no prepared import; and every
call of `prepare` in the run is made on an import that is not prepared. -/
theorem import_fences_paired (cfg : Config) (nonblocking : Bool) (acts : List Action)
    (d : Machine) (hfresh : ∀ a ∈ acts, a.FreshImports)
    (hrun : Trace.run (Machine.step cfg) (.init nonblocking) acts = some d) :
    (∀ (t : Fin numQueues) (i : Nat) (b : MediaBuffer),
      (d.session.queues t).buffers[i]? = some b →
      (hasFlag b.buffer.flags bufFlagQueued = false ∨ hasFlag b.buffer.flags bufFlagDone = true) →
      (∀ fl, d.inFlight = some fl → ¬(fl.queue = t ∧ fl.slot = i)) →
      ∀ imp, some imp ∈ b.imports → imp.prepared = false) ∧
    Trace.Conforms (Machine.step cfg)
      (fun d a => ∀ o ∈ d.prepareCalls cfg a, ∃ imp : Import, o = some imp ∧ imp.prepared = false)
      (.init nonblocking) acts := by
  have hconf : Trace.Conforms (Machine.step cfg) (fun _ a => a.FreshImports) (.init nonblocking)
      acts := Trace.conforms_of_forall (fun a ha _ => hfresh a ha) _
  constructor
  · have hinv := Trace.run_invariant_of_conforms (fun _ _ _ h hf hs => h.step hf hs)
      (fenceInv_init nonblocking) hconf hrun
    intro t i b hb hown _ imp himp
    have hdev : b.onDevice = false := by
      rcases hown with h | h <;> simp [MediaBuffer.onDevice, MediaBuffer.done, h]
    obtain ⟨j, hj⟩ := List.mem_iff_getElem?.mp himp
    exact ((hinv.fenced t).slot hb).unfenced (.inl hdev) j imp hj
  · exact Trace.conforms_of_invariant (fun _ _ _ h hf hs => h.step hf hs)
      (fun _ _ h hf => h.prepareCalls hf) (fenceInv_init nonblocking) hconf

/-- Answers for a buffer with two planes of its own; `prepareRet` is what the
provider answers to `prepare` for the second one. -/
def twoPlanes (prepareRet : Int) (i : Nat) : PlaneAnswers where
  dmaBufGet := .ok i
  shmImport := .ok ⟨i, 4096, default, false⟩
  releaseRet := 0
  prepareRet := if i = 1 then prepareRet else 0

/-- A multi-planar import queue of one slot. The first QBUF fails at its second
`prepare`, the second one is completed and dequeued, the third has only one
plane and its command fails. -/
def unwoundRun : List Action :=
  let rb : RequestBuffers := ⟨1, 9, memoryDmabuf, 0, 0⟩
  let buf (n : UInt32) : V4l2Buffer :=
    { (default : V4l2Buffer) with type := 9, memory := memoryDmabuf, length := n }
  let planes : List V4l2Plane := List.replicate 2 { (default : V4l2Plane) with length := 4096 }
  [.reqbufs rb 0 rb [] true, .streamon 9 0, .qbufSubmit ⟨buf 2, planes⟩ (twoPlanes (-12)),
    .qbufSubmit ⟨buf 2, planes⟩ (twoPlanes 0), .qbufReply 0, .event ⟨buf 2, planes, 0⟩,
    .dqbuf ⟨buf 2, planes⟩, .qbufSubmit ⟨buf 1, planes⟩ (twoPlanes 0), .qbufReply (-22)]

theorem import_fences_paired_unwound :
    ∃ d, Trace.run (Machine.step ⟨false, false, true⟩) (.init true) unwoundRun = some d ∧
      (d.session.queues 9).buffers.length = 1 ∧
      (∀ b, (d.session.queues 9).buffers[0]? = some b →
        hasFlag b.buffer.flags bufFlagQueued = false →
        ∀ imp, some imp ∈ b.imports → imp.prepared = false) ∧
      Trace.Conforms (Machine.step ⟨false, false, true⟩)
        (fun d a => ∀ o ∈ d.prepareCalls ⟨false, false, true⟩ a,
          ∃ imp : Import, o = some imp ∧ imp.prepared = false)
        (.init true) unwoundRun := by
  have hfresh : ∀ a ∈ unwoundRun, a.FreshImports := by
    intro a ha
    simp only [unwoundRun, List.mem_cons, List.not_mem_nil, or_false] at ha
    rcases ha with rfl | rfl | rfl | rfl | rfl | rfl | rfl | rfl | rfl
    all_goals first
      | trivial
      | intro i imp himp
        cases himp
        rfl
  refine ⟨_, rfl, rfl, ?_⟩
  have h := import_fences_paired ⟨false, false, true⟩ true unwoundRun _ hfresh rfl
  exact ⟨fun b hb hq => h.1 9 0 b hb (.inl hq) (fun fl hfl => by cases hfl), h.2⟩

end VirtioMedia.Driver
