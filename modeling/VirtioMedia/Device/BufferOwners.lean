import VirtioMedia.Device.DecoderCalls
import VirtioMedia.Lib.Custody
import VirtioMedia.Lib.Trace

/-!
# Owners of decoder buffers

A buffer that the guest queues waits in `pending_output_buffers` or is with the
backend, and its QUEUED flag says that it does. QBUF does not look at the flag,
REQBUFS drops buffers without asking who has them, and STREAMOFF of the OUTPUT
queue does not reach the backend. Where a run avoids these, the flags record
the owners.

What a backend holds is a parameter: a list of indices for each of the two
queues, together with what the calls of the backend may do to these lists.
-/

namespace VirtioMedia.Device

open V4l2 Fallible

variable {β S : Type} {B : DecoderBackend β S} {checks : Bool} {d : VideoDecoder}
  {s s' : DecoderSession β S} {held : QueueDirection → β → List UInt32}

def DecoderV4l2Buffer.isQueued (v : DecoderV4l2Buffer) : Bool := hasFlag v.flags bufFlagQueued

/-- What the calls of a backend do to the buffers that it holds. Only `decode`
and `use_as_output` bring one, and an event gives its buffer back. -/
structure DecoderBackend.Custodian (B : DecoderBackend β S)
    (held : QueueDirection → β → List UInt32) : Prop where
  new : ∀ dir b queue i size, (held dir (B.new b queue i size).2).Subperm (held dir b)
  decode_output : ∀ b x i timestamp bytesUsed,
    (held .output (B.decode b x i timestamp bytesUsed).2).Subperm (held .output b ++ [i])
  decode_capture : ∀ b x i timestamp bytesUsed,
    (held .capture (B.decode b x i timestamp bytesUsed).2).Subperm (held .capture b)
  useAsOutput_output : ∀ b i x,
    (held .output (B.useAsOutput b i x).2.2).Subperm (held .output b)
  useAsOutput_capture : ∀ b i x,
    (held .capture (B.useAsOutput b i x).2.2).Subperm (held .capture b ++ [i])
  drain : ∀ dir b, (held dir (B.drain b).2).Subperm (held dir b)
  clearOutputBuffers : ∀ dir b, (held dir (B.clearOutputBuffers b).2).Subperm (held dir b)
  clearOutputBuffers_ok : ∀ b, (B.clearOutputBuffers b).1 = .ok () →
    held .capture (B.clearOutputBuffers b).2 = []
  nextEvent : ∀ dir b, (held dir (B.nextEvent b).2).Subperm (held dir b)
  inputBufferDone : ∀ b ev, (B.nextEvent b).1 = some ev → (held .output b).Nodup →
    ∀ i ∈ ev.inputDone?, i ∉ held .output (B.nextEvent b).2
  frameCompleted : ∀ b ev, (B.nextEvent b).1 = some ev → (held .capture b).Nodup →
    ∀ i ∈ ev.frameDone?, i ∉ held .capture (B.nextEvent b).2
  buffersAllocated : ∀ dir b direction count,
    (held dir (B.buffersAllocated b direction count)).Subperm (held dir b)
  streamingState : ∀ dir b direction streaming,
    (held dir (B.streamingState b direction streaming)).Subperm (held dir b)

/-- The buffers of a queue as the guest sees them. -/
def DecoderSession.views (s : DecoderSession β S) : QueueDirection → List DecoderV4l2Buffer
  | .output => s.inputBuffers.map (·.v4l2Buffer)
  | .capture => s.outputBuffers.map (·.v4l2Buffer)

/-- The buffers of a queue that are pending or with the backend. -/
def DecoderSession.owned (held : QueueDirection → β → List UInt32) (s : DecoderSession β S) :
    QueueDirection → List UInt32
  | .output => held .output s.backendSession
  | .capture => s.pendingOutputBuffers ++ held .capture s.backendSession

/-- Every buffer names its queue and its position. -/
def Numbered (dir : QueueDirection) (vs : List DecoderV4l2Buffer) : Prop :=
  ∀ n (v : DecoderV4l2Buffer), vs[n]? = some v → v.queue.direction = dir ∧ v.index.toNat = n

/-- The QUEUED flags record the owners. -/
structure DecoderSession.Tracked (held : QueueDirection → β → List UInt32)
    (s : DecoderSession β S) : Prop where
  numbered : ∀ dir, Numbered dir (s.views dir)
  tracks : ∀ dir, Custody.Tracks UInt32.toNat (fun v => v.isQueued = true) (s.views dir)
    (s.owned held dir)

/-- What QBUF has the backend decode. -/
def DecoderSession.decoded (B : DecoderBackend β S) (s : DecoderSession β S)
    (host : DecoderBuffer S) (buffer : DecoderV4l2Buffer) : Except Int Unit × β :=
  B.decode s.backendSession host.backing host.v4l2Buffer.index buffer.timestamp buffer.payload

/-- The call does not go where the owners are lost: QBUF is made for a buffer that
is not queued, and if it fails the backend has not kept the buffer, REQBUFS keeps
the buffers that have an owner, STREAMOFF of the OUTPUT queue finds none of them
with the backend, and no buffer is completed that still waits to be sent. -/
def DecoderSession.Careful (B : DecoderBackend β S) (held : QueueDirection → β → List UInt32)
    (s : DecoderSession β S) : DecoderCall → Prop
  | .qbuf buffer => ∀ host ∈ s.accepts buffer, host.v4l2Buffer.isQueued = false ∧
      (buffer.queue = .videoOutputMplane → (s.decoded B host buffer).1.toOption.isSome = false →
        buffer.index ∉ held .output (s.decoded B host buffer).2)
  | .reqbufs queue memory count => memory = .mmap → ∀ bufs ∈ s.buffers queue,
      count.toNat < bufs.length → ∀ i ∈ s.owned held queue.direction, i.toNat < count.toNat
  | .streamoff queue => queue.direction = .output → held .output s.backendSession = []
  | .processEvents => ∀ ev ∈ (B.nextEvent s.backendSession).1, ∀ i ∈ ev.frameDone?,
      i ∉ s.pendingOutputBuffers
  | _ => True

instance instDecidableCareful (B : DecoderBackend β S)
    (held : QueueDirection → β → List UInt32) (s : DecoderSession β S) (c : DecoderCall) :
    Decidable (s.Careful B held c) :=
  match c with
  | .qbuf buffer => inferInstanceAs (Decidable (∀ host ∈ s.accepts buffer, _ ∧ (_ → _ → _)))
  | .reqbufs queue memory count => inferInstanceAs
      (Decidable (memory = .mmap → ∀ bufs ∈ s.buffers queue, count.toNat < bufs.length → _))
  | .streamoff queue => inferInstanceAs (Decidable (queue.direction = .output → _))
  | .processEvents => inferInstanceAs (Decidable (∀ ev ∈ (B.nextEvent s.backendSession).1, _))
  | .streamon _ | .decoderCmd _ | .subscribeEvent _ | .unsubscribeEvent _ | .mmap _ _ _ =>
    .isTrue trivial

/-! ### Buffers -/

theorem toNat_injective : Function.Injective UInt32.toNat := fun _ _ h => UInt32.toNat_inj.mp h

/-- A buffer is replaced by one for the same queue and index. -/
theorem Numbered.set {dir : QueueDirection} {vs : List DecoderV4l2Buffer} (h : Numbered dir vs)
    {n : Nat} {v v' : DecoderV4l2Buffer} (hv : vs[n]? = some v) (hqueue : v'.queue = v.queue)
    (hindex : v'.index = v.index) : Numbered dir (vs.set n v') := by
  intro m w hw
  by_cases hm : n = m
  · subst hm
    rw [List.getElem?_set_self (List.getElem?_eq_some_iff.mp hv).1] at hw
    rw [← Option.some.inj hw, hqueue, hindex]
    exact h n v hv
  · rw [List.getElem?_set_ne hm] at hw
    exact h m w hw

theorem Numbered.take {dir : QueueDirection} {vs : List DecoderV4l2Buffer}
    (h : Numbered dir vs) (n : Nat) : Numbered dir (vs.take n) := by
  intro m w hw
  rw [List.getElem?_take] at hw
  split at hw
  · exact h m w hw
  · cases hw

/-- Buffers added at the end are numbered on. -/
theorem Numbered.append {dir : QueueDirection} {vs news : List DecoderV4l2Buffer}
    (h : Numbered dir vs) (hnews : ∀ j (v : DecoderV4l2Buffer), news[j]? = some v →
      v.queue.direction = dir ∧ v.index.toNat = vs.length + j) :
    Numbered dir (vs ++ news) := by
  intro m w hw
  rw [List.getElem?_append] at hw
  split at hw
  · exact h m w hw
  · obtain ⟨hqueue, hindex⟩ := hnews _ w hw
    exact ⟨hqueue, by omega⟩

theorem map_set_same {α γ : Type} {l : List α} {n : Nat} {a b : α} {f : α → γ}
    (h : l[n]? = some a) (hab : f b = f a) : (l.set n b).map f = l.map f := by
  obtain ⟨hlt, rfl⟩ := List.getElem?_eq_some_iff.mp h
  rw [List.map_set, hab, ← List.getElem_map f (h := by simpa using hlt), List.set_getElem_self]

/-- Clearing QUEUED is all that the guest sees of a flush. -/
theorem views_clearQueued (bufs : List (DecoderBuffer S)) :
    (clearQueued bufs).map (·.v4l2Buffer) =
      (bufs.map (·.v4l2Buffer)).map (·.clearFlags bufFlagQueued) := by
  simp [clearQueued, Function.comp_def]

theorem Numbered.clear {dir : QueueDirection} {vs : List DecoderV4l2Buffer}
    (h : Numbered dir vs) : Numbered dir (vs.map (·.clearFlags bufFlagQueued)) := by
  intro m w hw
  rw [List.getElem?_map] at hw
  obtain ⟨v', hv', heq⟩ := Option.map_eq_some_iff.mp hw
  rw [← heq]
  exact h m v' hv'

theorem hasFlag_queued_of_clear {flags cleared : UInt32}
    (h : ~~~cleared &&& bufFlagQueued = bufFlagQueued) :
    hasFlag (flags &&& ~~~cleared) bufFlagQueued = hasFlag flags bufFlagQueued := by
  simp only [hasFlag, UInt32.and_assoc, h]

/-- QBUF leaves the buffer queued. -/
theorem offer_isQueued (host guest : DecoderV4l2Buffer) : (host.offer guest).isQueued = true := by
  have h : (host.offer guest).flags = (host.flags ||| bufFlagQueued) &&& ~~~bufFlagLast := rfl
  rw [DecoderV4l2Buffer.isQueued, h, hasFlag_queued_of_clear (by decide), hasFlag_or]
  simp

theorem clearFlags_isQueued (v : DecoderV4l2Buffer) :
    (v.clearFlags bufFlagQueued).isQueued = false := hasFlag_and_not _ _ _ (by decide)

/-- A completed OUTPUT buffer is not queued any more. -/
theorem done_isQueued (v : DecoderV4l2Buffer) (error : Int) : (v.done error).isQueued = false := by
  unfold DecoderV4l2Buffer.done
  split
  · exact show hasFlag bufFlagError bufFlagQueued = false by decide
  · exact clearFlags_isQueued v

/-- A completed CAPTURE buffer is not queued any more. -/
theorem complete_isQueued (v : DecoderV4l2Buffer) (sequence : UInt32) (timestamp : Timeval)
    (bytesUsed : List UInt32) (isLast : Bool) :
    (v.complete sequence timestamp bytesUsed isLast).isQueued = false := by
  cases isLast
  · exact show hasFlag bufFlagTimestampCopy bufFlagQueued = false by decide
  · exact show hasFlag bufFlagLast bufFlagQueued = false by decide

theorem done_queue (v : DecoderV4l2Buffer) (error : Int) : (v.done error).queue = v.queue := by
  unfold DecoderV4l2Buffer.done
  split <;> rfl

theorem done_index (v : DecoderV4l2Buffer) (error : Int) : (v.done error).index = v.index := by
  unfold DecoderV4l2Buffer.done
  split <;> rfl

theorem done_memOffset (v : DecoderV4l2Buffer) (error : Int) :
    (v.done error).plane.memOffset = v.plane.memOffset := by
  unfold DecoderV4l2Buffer.done
  split <;> rfl

/-! ### Sessions -/

theorem views_of_buffers {queue : QueueType} {bufs : List (DecoderBuffer S)}
    (h : s.buffers queue = some bufs) : s.views queue.direction = bufs.map (·.v4l2Buffer) := by
  rcases DecoderSession.buffers_cases h with ⟨rfl, rfl⟩ | ⟨rfl, rfl⟩
  · rfl
  · rfl

/-- New buffers of one queue leave the view of the other queue. -/
theorem views_setBuffers (s : DecoderSession β S) (queue : QueueType)
    (bufs : List (DecoderBuffer S)) (dir : QueueDirection) :
    (s.setBuffers queue bufs).views dir =
      if queue.direction = dir then bufs.map (·.v4l2Buffer) else s.views dir := by
  unfold DecoderSession.setBuffers
  cases queue.direction <;> cases dir <;> rfl

/-- A backend that gives up buffers. -/
theorem owned_withBackend {b : β}
    (h : ∀ dir, (held dir b).Subperm (held dir s.backendSession)) (dir : QueueDirection) :
    ((s.withBackend b).owned held dir).Subperm (s.owned held dir) := by
  cases dir with
  | output => exact h .output
  | capture => exact (List.Subperm.refl _).append (h .capture)

/-- Owners may be lost where the guest sees nothing change. -/
theorem DecoderSession.Tracked.of_subperm (hs : s.Tracked held)
    (hviews : ∀ dir, s'.views dir = s.views dir)
    (howned : ∀ dir, (s'.owned held dir).Subperm (s.owned held dir)) : s'.Tracked held := by
  constructor
  · intro dir
    rw [hviews]
    exact hs.numbered dir
  · intro dir
    rw [hviews]
    exact (hs.tracks dir).subperm (howned dir)

theorem DecoderSession.Tracked.same (hs : s.Tracked held)
    (hviews : ∀ dir, s'.views dir = s.views dir)
    (howned : ∀ dir, s'.owned held dir = s.owned held dir) : s'.Tracked held :=
  hs.of_subperm hviews fun dir => (List.Perm.of_eq (howned dir)).subperm

/-- One queue changes, and on the other one owners at most go away. -/
theorem DecoderSession.Tracked.update (hs : s.Tracked held) (dir : QueueDirection)
    (hviews : ∀ dir' ≠ dir, s'.views dir' = s.views dir')
    (howned : ∀ dir' ≠ dir, (s'.owned held dir').Subperm (s.owned held dir'))
    (hnumbered : Numbered dir (s'.views dir))
    (htracks : Custody.Tracks UInt32.toNat (fun v => v.isQueued = true) (s'.views dir)
      (s'.owned held dir)) : s'.Tracked held := by
  constructor
  · intro dir'
    by_cases heq : dir' = dir
    · exact heq ▸ hnumbered
    · rw [hviews dir' heq]
      exact hs.numbered dir'
  · intro dir'
    by_cases heq : dir' = dir
    · exact heq ▸ htracks
    · rw [hviews dir' heq]
      exact (hs.tracks dir').subperm (howned dir' heq)

theorem tracked_new {id : UInt32} {b : β} (h : ∀ dir, held dir b = []) :
    (DecoderSession.new id b : DecoderSession β S).Tracked held := by
  constructor
  · intro dir n v hv
    cases dir <;> cases hv
  · intro dir
    have howned : (DecoderSession.new id b : DecoderSession β S).owned held dir = [] := by
      cases dir <;> exact h _
    exact .of_eq_nil howned

/-! ### Calls -/

/-- The guest does not see that pending buffers go to the backend. -/
theorem sendPending_views {is : List UInt32} {bufs : List (DecoderBuffer S)} {b : β}
    {q : Except Int Unit × List (DecoderBuffer S) × β} (h : sendPending B is bufs b = .ok q) :
    q.2.1.map (·.v4l2Buffer) = bufs.map (·.v4l2Buffer) := by
  induction is generalizing bufs b with
  | nil =>
      cases h
      rfl
  | cons i rest ih =>
      unfold sendPending at h
      split at h
      · cases h
      · rename_i buffer hbuffer
        have hsame := map_set_same (f := (·.v4l2Buffer)) hbuffer
          (b := { buffer with
            backing := (B.useAsOutput b buffer.v4l2Buffer.index buffer.backing).2.1 }) rfl
        dsimp only at h
        split at h
        · cases h
          exact hsame
        · exact (ih h).trans hsame

/-- The backend gets pending buffers, and no others. -/
theorem sendPending_held (hB : B.Custodian held) {is : List UInt32}
    {bufs : List (DecoderBuffer S)} {b : β} {q : Except Int Unit × List (DecoderBuffer S) × β}
    (hbufs : Numbered .capture (bufs.map (·.v4l2Buffer))) (h : sendPending B is bufs b = .ok q) :
    (held .output q.2.2).Subperm (held .output b) ∧
      (held .capture q.2.2).Subperm (held .capture b ++ is) := by
  induction is generalizing bufs b with
  | nil =>
      cases h
      exact ⟨.refl _, by rw [List.append_nil]⟩
  | cons i rest ih =>
      unfold sendPending at h
      split at h
      · cases h
      · rename_i buffer hbuffer
        have hindex : buffer.v4l2Buffer.index = i := by
          apply toNat_injective
          exact (hbufs i.toNat _ (by rw [List.getElem?_map, hbuffer]; rfl)).2
        have hinput := hB.useAsOutput_output b i buffer.backing
        have hcapture := hB.useAsOutput_capture b i buffer.backing
        dsimp only at h
        rw [hindex] at h
        have hrest : held .capture b ++ i :: rest = held .capture b ++ [i] ++ rest := by simp
        split at h
        · cases h
          refine ⟨hinput, hcapture.trans ?_⟩
          rw [hrest]
          exact (List.sublist_append_left _ _).subperm
        · have hsame := map_set_same (f := (·.v4l2Buffer)) hbuffer
            (b := { buffer with backing := (B.useAsOutput b i buffer.backing).2.1 }) rfl
          obtain ⟨hinput', hcapture'⟩ := ih (by rw [hsame]; exact hbufs) h
          refine ⟨hinput'.trans hinput, hcapture'.trans ?_⟩
          rw [hrest]
          exact hcapture.append (.refl _)

theorem trySendPendingOutputBuffers_views {r : Except Int Unit × DecoderSession β S}
    (h : s.trySendPendingOutputBuffers B = .ok r) (dir : QueueDirection) :
    r.2.views dir = s.views dir := by
  rcases trySendPendingOutputBuffers_cases h with ⟨-, rfl⟩ | ⟨-, q, hq, rfl⟩
  · rfl
  · cases dir with
    | output => rfl
    | capture => exact sendPending_views hq

/-- A flush of the pending buffers keeps the owners, also when the backend
refuses one. -/
theorem trySendPendingOutputBuffers_tracked (hB : B.Custodian held) (hs : s.Tracked held)
    {r : Except Int Unit × DecoderSession β S} (h : s.trySendPendingOutputBuffers B = .ok r) :
    r.2.Tracked held := by
  refine hs.of_subperm (trySendPendingOutputBuffers_views h) fun dir => ?_
  rcases trySendPendingOutputBuffers_cases h with ⟨-, rfl⟩ | ⟨-, q, hq, rfl⟩
  · exact .refl _
  · obtain ⟨hinput, hcapture⟩ := sendPending_held hB (hs.numbered .capture) hq
    cases dir with
    | output => exact hinput
    | capture => exact hcapture.trans (List.perm_append_comm).subperm

/-- The backend gets no buffer while buffers are allocated. -/
theorem allocateBuffers_held (hB : B.Custodian held) {queue : QueueType} {size : UInt32}
    {is : List Nat} {b : β} {r : Except Int (List (DecoderBuffer S)) × VideoDecoder × β}
    (h : allocateBuffers B checks queue size is d b = .ok r) (dir : QueueDirection) :
    (held dir r.2.2).Subperm (held dir b) := by
  induction is generalizing d b r with
  | nil =>
      cases h
      exact .refl _
  | cons i rest ih =>
      unfold allocateBuffers at h
      split at h
      · cases h
      · cases h
        exact .refl _
      · have hsub := hB.new dir b queue (.ofNat i) size
        split at h
        · rename_i hnew
          cases h
          rw [hnew] at hsub
          exact hsub
        · rename_i hnew
          obtain ⟨r', hr', rfl⟩ := map_eq_ok.mp h
          rw [hnew] at hsub
          exact (ih hr').trans hsub

/-- The new buffers are numbered from the first free index on. -/
theorem allocateBuffers_news {queue : QueueType} {size : UInt32} {n m : Nat} {b : β}
    {r : Except Int (List (DecoderBuffer S)) × VideoDecoder × β} (hbound : n + m ≤ 2 ^ 32)
    (h : allocateBuffers B checks queue size (List.range' n m) d b = .ok r)
    {news : List (DecoderBuffer S)} (hnews : r.1 = .ok news) {j : Nat} {v : DecoderV4l2Buffer}
    (hv : (news.map (·.v4l2Buffer))[j]? = some v) :
    v.queue = queue ∧ v.index.toNat = n + j ∧ v.isQueued = false := by
  induction m generalizing n d b r news j with
  | zero =>
      cases h
      cases hnews
      cases hv
  | succ m ih =>
      rw [List.range'_succ] at h
      unfold allocateBuffers at h
      split at h
      · cases h
      · cases h
        cases hnews
      · split at h
        · cases h
          cases hnews
        · obtain ⟨r', hr', rfl⟩ := map_eq_ok.mp h
          obtain ⟨rest, hrest, rfl⟩ := map_eq_ok.mp hnews
          cases j with
          | zero =>
              obtain rfl := Option.some.inj hv
              exact ⟨rfl, UInt32.toNat_ofNat_of_lt' (show n < 2 ^ 32 by omega),
                show hasFlag bufFlagTimestampMonotonic bufFlagQueued = false by decide⟩
          | succ j =>
              obtain ⟨hqueue, hindex, hclear⟩ := ih (by omega) hr' hrest hv
              exact ⟨hqueue, by omega, hclear⟩

/-- The OUTPUT queue changes, and on the other one owners at most go away. -/
theorem DecoderSession.Tracked.updateOutput (hs : s.Tracked held)
    (hviews : s'.views .capture = s.views .capture)
    (howned : (s'.owned held .capture).Subperm (s.owned held .capture))
    (hnumbered : Numbered .output (s'.views .output))
    (htracks : Custody.Tracks UInt32.toNat (fun v => v.isQueued = true) (s'.views .output)
      (s'.owned held .output)) : s'.Tracked held := by
  refine hs.update .output (fun dir hne => ?_) (fun dir hne => ?_) hnumbered htracks
  · cases dir with
    | output => exact absurd rfl hne
    | capture => exact hviews
  · cases dir with
    | output => exact absurd rfl hne
    | capture => exact howned

/-- The CAPTURE queue changes, and on the other one owners at most go away. -/
theorem DecoderSession.Tracked.updateCapture (hs : s.Tracked held)
    (hviews : s'.views .output = s.views .output)
    (howned : (s'.owned held .output).Subperm (s.owned held .output))
    (hnumbered : Numbered .capture (s'.views .capture))
    (htracks : Custody.Tracks UInt32.toNat (fun v => v.isQueued = true) (s'.views .capture)
      (s'.owned held .capture)) : s'.Tracked held := by
  refine hs.update .capture (fun dir hne => ?_) (fun dir hne => ?_) hnumbered htracks
  · cases dir with
    | output => exact hviews
    | capture => exact absurd rfl hne
  · cases dir with
    | output => exact howned
    | capture => exact absurd rfl hne

/-- A queue gets other buffers, which keep the owners. -/
theorem DecoderSession.Tracked.resize (hs : s.Tracked held) {queue : QueueType}
    {bufs : List (DecoderBuffer S)} {b : β}
    (hheld : ∀ dir, (held dir b).Subperm (held dir s.backendSession))
    (hnumbered : Numbered queue.direction (bufs.map (·.v4l2Buffer)))
    (htracks : Custody.Tracks UInt32.toNat (fun v => v.isQueued = true) (bufs.map (·.v4l2Buffer))
      (s.owned held queue.direction)) :
    ((s.setBuffers queue bufs).withBackend b).Tracked held := by
  have hviews (dir) : ((s.setBuffers queue bufs).withBackend b).views dir =
      if queue.direction = dir then bufs.map (·.v4l2Buffer) else s.views dir :=
    views_setBuffers s queue bufs dir
  have howned (dir) : (((s.setBuffers queue bufs).withBackend b).owned held dir).Subperm
      (s.owned held dir) := by
    unfold DecoderSession.setBuffers
    split <;> exact owned_withBackend hheld dir
  refine hs.update queue.direction ?_ (fun dir _ => howned dir) ?_ ?_
  · intro dir hne
    rw [hviews, if_neg (Ne.symm hne)]
  · rw [hviews, if_pos rfl]
    exact hnumbered
  · rw [hviews, if_pos rfl]
    exact htracks.subperm (howned _)

/-- REQBUFS, where it forgets no buffer that is still owned. -/
theorem reqbufs_tracked (hB : B.Custodian held) (hs : s.Tracked held) {queue : QueueType}
    {memory : MemoryType} {count : UInt32}
    (hc : s.Careful B held (.reqbufs queue memory count)) {c : Called β S UInt32}
    (h : d.reqbufs B checks s queue memory count = .ok c) : c.session.Tracked held := by
  rcases reqbufs_cases h with rfl | ⟨bufs, hbufs, ⟨⟨hmemory, hlt⟩, rfl⟩ |
    ⟨⟨-, hge⟩, size, r, -, hr, hcase⟩⟩
  · exact hs
  · have hnumbered := hs.numbered queue.direction
    have htracks := hs.tracks queue.direction
    rw [views_of_buffers hbufs] at hnumbered htracks
    refine hs.resize (fun dir => hB.buffersAllocated _ _ _ _) ?_ ?_
    · rw [List.map_take]
      exact hnumbered.take _
    · rw [List.map_take]
      exact htracks.take (hc hmemory bufs hbufs hlt)
  · have hbound : bufs.length + (count.toNat - bufs.length) ≤ 2 ^ 32 := by
      have := count.toNat_lt
      omega
    have hheld := allocateBuffers_held hB hr
    rcases hcase with ⟨e, -, rfl⟩ | ⟨news, hok, rfl⟩
    · exact hs.of_subperm (fun _ => rfl) (owned_withBackend hheld)
    · have hnumbered := hs.numbered queue.direction
      have htracks := hs.tracks queue.direction
      rw [views_of_buffers hbufs] at hnumbered htracks
      refine hs.resize (fun dir => (hB.buffersAllocated _ _ _ _).trans (hheld dir)) ?_ ?_
      · rw [List.map_append]
        refine hnumbered.append fun j v hv => ?_
        obtain ⟨hqueue, hindex, -⟩ := allocateBuffers_news hbound hr hok hv
        rw [List.length_map, hqueue]
        exact ⟨rfl, hindex⟩
      · rw [List.map_append]
        exact htracks.append _

theorem streamon_tracked (hB : B.Custodian held) (hs : s.Tracked held) {queue : QueueType}
    {c : Called β S Unit} (h : d.streamon B s queue = .ok c) : c.session.Tracked held := by
  rcases streamon_cases h with rfl | ⟨state, r, -, hr, rfl⟩
  · exact hs
  · refine trySendPendingOutputBuffers_tracked hB ?_ hr
    exact hs.of_subperm (fun dir => by cases dir <;> rfl) fun dir =>
      owned_withBackend (fun dir => hB.streamingState dir _ _ _) dir

/-- After a STREAMOFF that succeeds nobody owns a buffer of the queue. -/
theorem streamoff_owned (hB : B.Custodian held) {queue : QueueType}
    (hc : s.Careful B held (.streamoff queue)) (hok : (d.streamoff B s queue).result = .ok ()) :
    (d.streamoff B s queue).session.owned held queue.direction = [] := by
  unfold VideoDecoder.streamoff at hok ⊢
  split at hok
  · rename_i hdir
    have hsub := hB.streamingState .output s.backendSession .output false
    rw [hc hdir] at hsub
    rw [hdir]
    exact List.subperm_nil.mp hsub
  · rename_i hdir
    split at hok
    · cases hok
    · rename_i b hclear
      have hsub := hB.streamingState .capture b .capture false
      have hnil := hB.clearOutputBuffers_ok s.backendSession (by rw [hclear])
      rw [hclear] at hnil
      rw [hnil] at hsub
      rw [hdir]
      exact List.subperm_nil.mp hsub

/-- STREAMOFF clears QUEUED of the buffers whose owners it forgets. -/
theorem streamoff_tracked (hB : B.Custodian held) (hs : s.Tracked held) {queue : QueueType}
    (hc : s.Careful B held (.streamoff queue)) :
    (d.streamoff B s queue).session.Tracked held := by
  have howned := streamoff_owned (d := d) hB hc
  unfold VideoDecoder.streamoff at howned ⊢
  split
  · rename_i hdir
    rw [hdir] at howned
    refine hs.updateOutput rfl ?_ ?_ ?_
    · exact (List.Subperm.refl _).append (hB.streamingState _ _ _ _)
    · rw [DecoderSession.views, views_clearQueued]
      exact (hs.numbered .output).clear
    · exact .of_eq_nil (howned rfl)
  · rename_i hdir
    rw [hdir] at howned
    have hheld (dir) : (held dir (B.clearOutputBuffers s.backendSession).2).Subperm
        (held dir s.backendSession) := hB.clearOutputBuffers dir s.backendSession
    split
    · rename_i b hclear
      rw [hclear] at hheld
      exact hs.of_subperm (fun dir => by cases dir <;> rfl) (owned_withBackend hheld)
    · rename_i b hclear
      rw [hclear] at hheld howned
      refine hs.updateCapture rfl ?_ ?_ ?_
      · exact (hB.streamingState _ _ _ _).trans (hheld .output)
      · rw [DecoderSession.views, views_clearQueued]
        exact (hs.numbered .capture).clear
      · exact .of_eq_nil (howned rfl)

/-- QBUF gives the buffer one owner, if it had none. -/
theorem qbuf_tracked (hB : B.Custodian held) (hs : s.Tracked held) {buffer : DecoderV4l2Buffer}
    (hc : s.Careful B held (.qbuf buffer)) {c : Called β S DecoderV4l2Buffer}
    (h : d.qbuf B s buffer = .ok c) : c.session.Tracked held := by
  rcases qbuf_cases h with ⟨-, rfl⟩ |
    ⟨host, haccepts, hqueue, hhost, res, b, hdecode, v, rfl, rfl⟩ |
    ⟨host, haccepts, -, hhost, r, hr, rfl⟩
  · exact hs
  · obtain ⟨hclear, hfailed⟩ := hc host haccepts
    have hview : (s.views .output)[buffer.index.toNat]? = some host.v4l2Buffer := by
      simp [DecoderSession.views, hhost]
    have hindex : host.v4l2Buffer.index = buffer.index :=
      toNat_injective (hs.numbered .output _ _ hview).2
    have hfree := (hs.tracks .output).not_mem hview (by simp [hclear])
    have hdecoded : s.decoded B host buffer = (res, b) := hdecode
    have hoff := hB.decode_output s.backendSession host.backing host.v4l2Buffer.index
      buffer.timestamp buffer.payload
    have hcapture := hB.decode_capture s.backendSession host.backing host.v4l2Buffer.index
      buffer.timestamp buffer.payload
    rw [hdecode] at hoff hcapture
    rw [hindex] at hoff
    refine hs.updateOutput rfl ?_ ?_ ?_
    · exact (List.Subperm.refl _).append hcapture
    · rw [DecoderSession.views, List.map_set]
      refine (hs.numbered .output).set hview ?_ ?_
      · split <;> rfl
      · split <;> rfl
    · rw [DecoderSession.views, List.map_set]
      cases res with
      | ok u =>
          refine ((hs.tracks .output).add toNat_injective hfree ?_ ?_).subperm hoff
          · exact (List.getElem?_eq_some_iff.mp hview).1
          · simp [DecoderV4l2Buffer.isQueued, DecoderV4l2Buffer.addFlags, Except.toOption]
      | error e =>
          rw [hdecoded] at hfailed
          refine ((hs.tracks .output).set toNat_injective hfree _).subperm ?_
          exact Custody.subperm_of_not_mem hoff (hfailed hqueue rfl)
  · obtain ⟨hclear, -⟩ := hc host haccepts
    have hview : (s.views .capture)[buffer.index.toNat]? = some host.v4l2Buffer := by
      simp [DecoderSession.views, hhost]
    have hfree := (hs.tracks .capture).not_mem hview (by simp [hclear])
    refine trySendPendingOutputBuffers_tracked hB (hs.updateCapture ?_ ?_ ?_ ?_) hr
    · rfl
    · exact .refl _
    · rw [DecoderSession.views, List.map_set]
      exact (hs.numbered .capture).set hview rfl rfl
    · rw [DecoderSession.views, List.map_set]
      refine ((hs.tracks .capture).add toNat_injective hfree ?_ ?_).subperm ?_
      · exact (List.getElem?_eq_some_iff.mp hview).1
      · exact offer_isQueued host.v4l2Buffer buffer
      · simp only [DecoderSession.owned, List.append_assoc]
        exact (List.perm_append_comm.append_left _).subperm

/-- STOP, START, PAUSE and RESUME. -/
theorem decoderCmd_tracked (hB : B.Custodian held) (hs : s.Tracked held)
    {cmd : Option DecoderCmd} {c : Called β S DecoderCmd} (h : d.decoderCmd B s cmd = .ok c) :
    c.session.Tracked held := by
  rcases decoderCmd_cases h with ⟨-, hsame⟩ | ⟨-, -, rfl⟩ | ⟨-, s', r, hs', hr, rfl⟩ |
    ⟨-, -, rfl⟩ | ⟨-, -, rfl⟩
  · rw [hsame]
    exact hs
  · exact hs.of_subperm (fun dir => by cases dir <;> rfl) fun dir =>
      owned_withBackend (fun dir => hB.drain dir _) dir
  · refine trySendPendingOutputBuffers_tracked hB ?_ hr
    rcases hs' with ⟨-, rfl⟩ | ⟨i, o, -, -, rfl⟩
    · exact hs.of_subperm (fun dir => by cases dir <;> rfl) fun dir =>
        owned_withBackend (fun dir => hB.streamingState dir _ _ _) dir
    · exact hs
  · exact hs.same (fun dir => by cases dir <;> rfl) fun dir => by cases dir <;> rfl
  · exact hs.same (fun dir => by cases dir <;> rfl) fun dir => by cases dir <;> rfl

/-- Events that the backend has ready complete buffers it owned. -/
theorem processEvents_tracked (hB : B.Custodian held) (hs : s.Tracked held)
    (hc : s.Careful B held .processEvents) {c : Called β S Unit}
    (h : d.processEvents B checks s = .ok c) : c.session.Tracked held := by
  obtain ⟨ev, b, hev, hcase⟩ := processEvents_cases h
  have hheld (dir) : (held dir b).Subperm (held dir s.backendSession) := by
    have hsub := hB.nextEvent dir s.backendSession
    rw [hev] at hsub
    exact hsub
  rcases hcase with ⟨rfl, -⟩ | ⟨bufferId, error, host, rfl, hhost, rfl⟩ | ⟨-, rfl⟩ |
    ⟨bufferId, timestamp, bytesUsed, isLast, host, v, rfl, hhost, rfl, rfl⟩
  · exact hs.of_subperm (fun _ => rfl) (owned_withBackend hheld)
  · have hview : (s.views .output)[bufferId.toNat]? = some host.v4l2Buffer := by
      simp [DecoderSession.views, hhost]
    have hfree := hB.inputBufferDone s.backendSession _ (by rw [hev])
      (hs.tracks .output).nodup bufferId rfl
    rw [hev] at hfree
    refine hs.updateOutput rfl ?_ ?_ ?_
    · exact (List.Subperm.refl _).append (hheld .capture)
    · rw [DecoderSession.views, List.map_set]
      exact (hs.numbered .output).set hview (done_queue _ _) (done_index _ _)
    · rw [DecoderSession.views, List.map_set]
      exact ((hs.tracks .output).subperm (hheld .output)).set toNat_injective hfree _
  · exact hs.of_subperm (fun dir => by cases dir <;> rfl) fun dir => owned_withBackend hheld dir
  · have hview : (s.views .capture)[bufferId.toNat]? = some host.v4l2Buffer := by
      simp [DecoderSession.views, hhost]
    have htracks := hs.tracks .capture
    have hfree := hB.frameCompleted s.backendSession _ (by rw [hev])
      (List.nodup_append.mp htracks.nodup).2.1 bufferId rfl
    have hwaits := hc _ (by rw [hev]; rfl) bufferId rfl
    rw [hev] at hfree
    refine hs.updateCapture rfl ?_ ?_ ?_
    · exact hheld .output
    · rw [DecoderSession.views, List.map_set]
      exact (hs.numbered .capture).set hview rfl rfl
    · rw [DecoderSession.views, List.map_set]
      refine (htracks.subperm ((List.Subperm.refl _).append (hheld .capture))).set
        toNat_injective ?_ _
      intro hmem
      rcases List.mem_append.mp hmem with hmem | hmem
      · exact hwaits hmem
      · exact hfree hmem

/-- Under a careful call the flags keep recording the owners. -/
theorem call_tracked (hB : B.Custodian held) (hs : s.Tracked held) {c : DecoderCall}
    (hc : s.Careful B held c) {p : VideoDecoder × DecoderSession β S}
    (h : VideoDecoder.call B checks d s c = .ok p) : p.2.Tracked held := by
  cases c with
  | reqbufs queue memory count =>
      obtain ⟨c, hcalled, rfl⟩ := map_eq_ok.mp h
      exact reqbufs_tracked hB hs hc hcalled
  | qbuf buffer =>
      obtain ⟨c, hcalled, rfl⟩ := map_eq_ok.mp h
      exact qbuf_tracked hB hs hc hcalled
  | streamon queue =>
      obtain ⟨c, hcalled, rfl⟩ := map_eq_ok.mp h
      exact streamon_tracked hB hs hcalled
  | streamoff queue =>
      cases h
      exact streamoff_tracked hB hs hc
  | decoderCmd cmd =>
      obtain ⟨c, hcalled, rfl⟩ := map_eq_ok.mp h
      exact decoderCmd_tracked hB hs hcalled
  | subscribeEvent event =>
      cases h
      unfold VideoDecoder.subscribeEvent
      split <;> exact hs.same (fun dir => by cases dir <;> rfl) fun dir => by cases dir <;> rfl
  | unsubscribeEvent event =>
      cases h
      unfold VideoDecoder.unsubscribeEvent
      split <;> exact hs.same (fun dir => by cases dir <;> rfl) fun dir => by cases dir <;> rfl
  | mmap flags offset answer =>
      obtain ⟨c, hcalled, rfl⟩ := map_eq_ok.mp h
      rcases doMmap_cases hcalled with rfl | ⟨buffer, fd, rw, -, -, rfl⟩
      · exact hs
      · exact hs
  | processEvents =>
      obtain ⟨c, hcalled, rfl⟩ := map_eq_ok.mp h
      exact processEvents_tracked hB hs hc hcalled

end VirtioMedia.Device
