import VirtioMedia.Device.QueuedFlags
import VirtioMedia.Device.SingleOwner

/-!
# Sending pending buffers to a backend that fails

QBUF of a CAPTURE buffer, STREAMON and DECODER_CMD(START) end by handing the
pending buffers to the backend. The list is drained for that, and a drain that
is dropped early removes what it has not yielded: when the backend refuses a
buffer, the buffers behind it are gone with it. Nothing else loses a buffer
that is queued.
-/

namespace VirtioMedia.Device

open V4l2 Fallible

variable {β S : Type} {B : DecoderBackend β S} {checks : Bool} {d : VideoDecoder}
  {s : DecoderSession β S}

/-! ### What the backend answers -/

/-- How many of the buffers the backend takes before it refuses one. -/
def taken (B : DecoderBackend β S) : List UInt32 → List (DecoderBuffer S) → β → Nat
  | [], _, _ => 0
  | i :: rest, bufs, b =>
    match bufs[i.toNat]? with
    | none => 0
    | some buffer =>
      let r := B.useAsOutput b buffer.v4l2Buffer.index buffer.backing
      match r.1 with
      | .error _ => 0
      | .ok () => taken B rest (bufs.set i.toNat { buffer with backing := r.2.1 }) r.2.2 + 1

/-- The backend refuses one of the buffers, after it has taken those before. -/
def refuses (B : DecoderBackend β S) : List UInt32 → List (DecoderBuffer S) → β → Bool
  | [], _, _ => false
  | i :: rest, bufs, b =>
    match bufs[i.toNat]? with
    | none => false
    | some buffer =>
      let r := B.useAsOutput b buffer.v4l2Buffer.index buffer.backing
      match r.1 with
      | .error _ => true
      | .ok () => refuses B rest (bufs.set i.toNat { buffer with backing := r.2.1 }) r.2.2

/-- Unless a buffer is refused, all of them are taken. -/
theorem sendPending_taken {is : List UInt32} {bufs : List (DecoderBuffer S)} {b : β}
    {q : Except Int Unit × List (DecoderBuffer S) × β} (h : sendPending B is bufs b = .ok q) :
    taken B is bufs b ≤ is.length ∧
      (refuses B is bufs b = true ↔ taken B is bufs b < is.length) := by
  induction is generalizing bufs b with
  | nil => simp [taken, refuses]
  | cons i rest ih =>
      unfold sendPending at h
      simp only [taken, refuses]
      cases hbuffer : bufs[i.toNat]? with
      | none =>
          rw [hbuffer] at h
          cases h
      | some buffer =>
          rw [hbuffer] at h
          dsimp only at h ⊢
          cases hres : (B.useAsOutput b buffer.v4l2Buffer.index buffer.backing).1 with
          | error e => simp
          | ok u =>
              rw [hres] at h
              obtain ⟨hle, hiff⟩ := ih h
              simp only [List.length_cons, hiff]
              omega

/-- The pending buffers that were not handed to the backend. -/
def DecoderSession.unsent (B : DecoderBackend β S) (s : DecoderSession β S) : List UInt32 :=
  if s.state.isOutputStreaming then
    s.pendingOutputBuffers.drop (taken B s.pendingOutputBuffers s.outputBuffers s.backendSession)
  else s.pendingOutputBuffers

/-- A pending buffer is sent and refused. -/
def DecoderSession.refused (B : DecoderBackend β S) (s : DecoderSession β S) : Bool :=
  s.state.isOutputStreaming &&
    refuses B s.pendingOutputBuffers s.outputBuffers s.backendSession

/-- What was not handed over is still pending exactly if nothing was refused. -/
theorem trySendPendingOutputBuffers_keeps_iff {r : Except Int Unit × DecoderSession β S}
    (h : s.trySendPendingOutputBuffers B = .ok r) :
    r.2.pendingOutputBuffers = s.unsent B ↔ s.refused B = false := by
  unfold DecoderSession.unsent DecoderSession.refused
  rcases trySendPendingOutputBuffers_cases h with ⟨hstate, rfl⟩ | ⟨hstate, q, hq, rfl⟩
  · simp [hstate]
  · obtain ⟨hle, hiff⟩ := sendPending_taken hq
    simp only [hstate, if_true, Bool.true_and]
    rw [eq_comm, List.drop_eq_nil_iff, ← Bool.not_eq_true, hiff, not_lt]

/-! ### The calls that send -/

/-- The session that a call leaves when it turns to its pending buffers. -/
def DecoderSession.atFlush (B : DecoderBackend β S) (s : DecoderSession β S) :
    DecoderCall → Option (DecoderSession β S)
  | .qbuf buffer =>
    if buffer.queue = .videoCaptureMplane then
      (s.accepts buffer).map fun host => { s with
        outputBuffers := s.outputBuffers.set buffer.index.toNat
          { host with v4l2Buffer := host.v4l2Buffer.offer buffer }
        pendingOutputBuffers := s.pendingOutputBuffers ++ [buffer.index] }
    else none
  | .streamon queue =>
    match s.buffers queue with
    | some (_ :: _) => some { s with
        state := match queue.direction with
          | .output => s.state.inputStreamon
          | .capture => s.state.outputStreamon
        backendSession := B.streamingState s.backendSession queue.direction true }
    | _ => none
  | .decoderCmd (some .start) =>
    match s.state with
    | .stopped true true => some { s with
        state := .running
        backendSession := B.streamingState s.backendSession .capture true }
    | .stopped _ _ => some s
    | _ => none
  | _ => none

/-- A call that turns to its pending buffers does nothing afterwards. -/
theorem call_atFlush {c : DecoderCall} {s₀ : DecoderSession β S} (h : s.atFlush B c = some s₀) :
    VideoDecoder.call B checks d s c =
      (s₀.trySendPendingOutputBuffers B).map fun r => (d, r.2) := by
  have hafter {α γ : Type} (x : Except Panic α) (f : α → Called β S γ) :
      (x.map f).map (·.after) = x.map fun r => (f r).after := by
    cases x <;> rfl
  unfold DecoderSession.atFlush at h
  split at h
  · rename_i buffer
    split at h
    · rename_i hqueue
      obtain ⟨host, haccepts, rfl⟩ := Option.map_eq_some_iff.mp h
      obtain ⟨hhost, hmemory⟩ := Option.filter_eq_some_iff.mp haccepts
      have hbuffers : s.buffers buffer.queue = some s.outputBuffers := by rw [hqueue]; rfl
      rw [hbuffers, Option.bind_some] at hhost
      have hsame : ¬ buffer.memory ≠ host.v4l2Buffer.memory := by simpa using hmemory
      simp only [VideoDecoder.call, VideoDecoder.qbuf, hbuffers, hhost, if_neg hsame]
      rw [hqueue]
      exact hafter _ _
    · cases h
  · rename_i queue
    split at h
    · rename_i hbufs
      cases h
      simp only [VideoDecoder.call, VideoDecoder.streamon, hbufs]
      exact hafter _ _
    · cases h
  · split at h
    · rename_i hstate
      cases h
      simp only [VideoDecoder.call, VideoDecoder.decoderCmd, DecoderSession.tryDecoderCmd, hstate]
      exact hafter _ _
    · rename_i i o hboth hstate
      cases h
      have hand : (i && o) = false := by
        cases i <;> cases o <;> simp_all
      simp only [VideoDecoder.call, VideoDecoder.decoderCmd, DecoderSession.tryDecoderCmd, hstate,
        hand]
      exact hafter _ _
    · cases h
  · cases h

/-- The pending buffers that the call has not handed over are pending after it,
in their order. -/
theorem call_keeps_unsent_iff {c : DecoderCall} {s₀ : DecoderSession β S}
    (hflush : s.atFlush B c = some s₀) {p : VideoDecoder × DecoderSession β S}
    (h : VideoDecoder.call B checks d s c = .ok p) :
    p.2.pendingOutputBuffers = s₀.unsent B ↔ s₀.refused B = false := by
  rw [call_atFlush hflush] at h
  obtain ⟨r, hr, rfl⟩ := map_eq_ok.mp h
  exact trySendPendingOutputBuffers_keeps_iff hr

/-! ### Queued buffers have an owner -/

/-- A CAPTURE buffer is pending, or it was handed to the backend. -/
def DecoderSession.Owned (s : DecoderSession (β × List UInt32) S) (i : UInt32) : Prop :=
  i ∈ s.pendingOutputBuffers ∨ i ∈ s.backendSession.2

/-- Every CAPTURE buffer whose QUEUED flag is set has an owner. -/
structure DecoderSession.FlagsOwned (s : DecoderSession (β × List UInt32) S) : Prop where
  numbered : Numbered .capture (s.views .capture)
  owned : ∀ v ∈ s.views .capture, v.isQueued = true → s.Owned v.index

section Ledger

variable {s s' : DecoderSession (β × List UInt32) S}

theorem flagsOwned_new (id : UInt32) (b : β) :
    (DecoderSession.new id (b, []) : DecoderSession (β × List UInt32) S).FlagsOwned where
  numbered := by
    intro n v hv
    cases hv
  owned := by
    intro v hv
    cases hv

/-- Buffers that are queued after a step were queued before it, and owners only
go away from buffers that are not queued. -/
theorem DecoderSession.FlagsOwned.of_step (hs : s.FlagsOwned)
    (hnumbered : Numbered .capture (s'.views .capture))
    (hqueued : ∀ v ∈ s'.views .capture, v.isQueued = true → v ∈ s.views .capture)
    (howned : ∀ v ∈ s'.views .capture, v.isQueued = true → s.Owned v.index → s'.Owned v.index) :
    s'.FlagsOwned where
  numbered := hnumbered
  owned := fun v hv hflag => howned v hv hflag (hs.owned v (hqueued v hv hflag) hflag)

theorem DecoderSession.FlagsOwned.same (hs : s.FlagsOwned)
    (hviews : s'.views .capture = s.views .capture)
    (hpending : s'.pendingOutputBuffers = s.pendingOutputBuffers)
    (hledger : s'.backendSession.2 = s.backendSession.2) : s'.FlagsOwned := by
  refine hs.of_step (hviews ▸ hs.numbered) (fun v hv _ => hviews ▸ hv) fun v _ _ h => ?_
  unfold DecoderSession.Owned at h ⊢
  rwa [hpending, hledger]

/-- A queue gets other buffers, of which only old ones are queued. -/
theorem DecoderSession.FlagsOwned.resize (hs : s.FlagsOwned) {queue : QueueType}
    {bufs : List (DecoderBuffer S)} {b : β × List UInt32} (hledger : b.2 = s.backendSession.2)
    (hnumbered : Numbered .capture (((s.setBuffers queue bufs).withBackend b).views .capture))
    (hqueued : queue.direction = .capture → ∀ v ∈ bufs.map (·.v4l2Buffer), v.isQueued = true →
      v ∈ s.views .capture) : ((s.setBuffers queue bufs).withBackend b).FlagsOwned := by
  have hviews : ((s.setBuffers queue bufs).withBackend b).views .capture =
      if queue.direction = .capture then bufs.map (·.v4l2Buffer) else s.views .capture :=
    views_setBuffers s queue bufs .capture
  refine hs.of_step hnumbered ?_ ?_
  · rw [hviews]
    split
    · exact hqueued ‹_›
    · exact fun v hv _ => hv
  · have hpending : ((s.setBuffers queue bufs).withBackend b).pendingOutputBuffers =
        s.pendingOutputBuffers := by
      unfold DecoderSession.setBuffers
      split <;> rfl
    intro v _ _ h
    unfold DecoderSession.Owned at h ⊢
    rwa [hpending, show ((s.setBuffers queue bufs).withBackend b).backendSession.2 = _ from hledger]

/-- Buffers that are taken are in the ledger afterwards. -/
theorem sendPending_ledger {is : List UInt32} {bufs : List (DecoderBuffer S)}
    {b : β × List UInt32} {q : Except Int Unit × List (DecoderBuffer S) × β × List UInt32}
    (hbufs : Numbered .capture (bufs.map (·.v4l2Buffer)))
    (h : sendPending B.ledger is bufs b = .ok q) (hall : refuses B.ledger is bufs b = false) :
    ∀ i, i ∈ is ∨ i ∈ b.2 → i ∈ q.2.2.2 := by
  induction is generalizing bufs b with
  | nil =>
      cases h
      intro i hi
      simpa using hi
  | cons i rest ih =>
      unfold sendPending at h
      unfold refuses at hall
      cases hbuffer : bufs[i.toNat]? with
      | none =>
          rw [hbuffer] at h
          cases h
      | some buffer =>
          have hindex : buffer.v4l2Buffer.index = i := by
            apply toNat_injective
            exact (hbufs i.toNat _ (by rw [List.getElem?_map, hbuffer]; rfl)).2
          have hsame := map_set_same (f := (·.v4l2Buffer)) hbuffer
            (b := { buffer with backing := (B.ledger.useAsOutput b i buffer.backing).2.1 }) rfl
          simp only [hbuffer, hindex] at h hall
          cases hres : (B.ledger.useAsOutput b i buffer.backing).1 with
          | error e =>
              rw [hres] at hall
              cases hall
          | ok u =>
              rw [hres] at h hall
              have hledger : (B.ledger.useAsOutput b i buffer.backing).2.2.2 = b.2 ++ [i] := by
                have hinner : (B.useAsOutput b.1 i buffer.backing).1 = .ok u := hres
                simp [DecoderBackend.ledger, hinner, Except.toOption]
              have hrest := ih (by rw [hsame]; exact hbufs) h hall
              rw [hledger] at hrest
              intro j hj
              apply hrest
              simp only [List.mem_cons, List.mem_append, List.not_mem_nil, or_false] at hj ⊢
              tauto

/-- Sending loses no buffer unless the backend refuses one. -/
theorem trySendPendingOutputBuffers_flagsOwned (hs : s.FlagsOwned)
    (hall : s.refused B.ledger = false)
    {r : Except Int Unit × DecoderSession (β × List UInt32) S}
    (h : s.trySendPendingOutputBuffers B.ledger = .ok r) : r.2.FlagsOwned := by
  have hviews := trySendPendingOutputBuffers_views h .capture
  refine hs.of_step (hviews ▸ hs.numbered) (fun v hv _ => hviews ▸ hv) fun v _ _ howned => ?_
  rcases trySendPendingOutputBuffers_cases h with ⟨-, rfl⟩ | ⟨hstate, q, hq, rfl⟩
  · exact howned
  · simp only [DecoderSession.refused, hstate, Bool.true_and] at hall
    exact .inr (sendPending_ledger hs.numbered hq hall v.index howned)

/-! ### Calls -/

theorem reqbufs_flagsOwned (hs : s.FlagsOwned) {queue : QueueType} {memory : MemoryType}
    {count : UInt32} {c : Called (β × List UInt32) S UInt32}
    (h : d.reqbufs B.ledger checks s queue memory count = .ok c) : c.session.FlagsOwned := by
  have hnumbered := (reqbufs_views h .capture).numbered hs.numbered
  rcases reqbufs_cases h with rfl | ⟨bufs, hbufs, ⟨-, rfl⟩ | ⟨⟨-, hge⟩, size, r, -, hr, hcase⟩⟩
  · exact hs
  · refine hs.resize rfl hnumbered fun hdir v hv _ => ?_
    rw [← hdir, views_of_buffers hbufs]
    rw [List.map_take] at hv
    exact List.mem_of_mem_take hv
  · have hledger : r.2.2.2 = s.backendSession.2 :=
      allocateBuffers_backend (P := fun b => b.2 = s.backendSession.2) (fun _ _ _ _ h => h) rfl hr
    rcases hcase with ⟨e, -, rfl⟩ | ⟨news, hok, rfl⟩
    · exact hs.same rfl rfl hledger
    · refine hs.resize hledger hnumbered fun hdir v hv hflag => ?_
      rw [List.map_append, List.mem_append] at hv
      rcases hv with hv | hv
      · rw [← hdir, views_of_buffers hbufs]
        exact hv
      · have hbound : bufs.length + (count.toNat - bufs.length) ≤ 2 ^ 32 := by
          have := count.toNat_lt
          omega
        obtain ⟨j, hj⟩ := List.mem_iff_getElem?.mp hv
        have hclear := (allocateBuffers_news hbound hr hok hj).2.2
        rw [hflag] at hclear
        cases hclear

/-- QBUF of a CAPTURE buffer makes it pending before it is sent. -/
theorem FlagsOwned.offer (hs : s.FlagsOwned) {buffer : DecoderV4l2Buffer} {host : DecoderBuffer S}
    (hhost : s.outputBuffers[buffer.index.toNat]? = some host) :
    { s with
      outputBuffers := s.outputBuffers.set buffer.index.toNat
        { host with v4l2Buffer := host.v4l2Buffer.offer buffer }
      pendingOutputBuffers := s.pendingOutputBuffers ++ [buffer.index] }.FlagsOwned := by
  have hview : (s.views .capture)[buffer.index.toNat]? = some host.v4l2Buffer := by
    simp [DecoderSession.views, hhost]
  have hindex : (host.v4l2Buffer.offer buffer).index = buffer.index :=
    toNat_injective (hs.numbered _ _ hview).2
  constructor
  · rw [DecoderSession.views, List.map_set]
    exact hs.numbered.set hview rfl rfl
  · intro v hv hflag
    rw [DecoderSession.views, List.map_set] at hv
    rcases List.mem_or_eq_of_mem_set hv with hv | rfl
    · exact (hs.owned v hv hflag).imp (List.mem_append_left _) id
    · exact .inl (List.mem_append_right _ (List.mem_singleton.mpr hindex))

/-- What a call does before it sends loses no buffer. -/
theorem atFlush_flagsOwned (hs : s.FlagsOwned) {c : DecoderCall}
    {s₀ : DecoderSession (β × List UInt32) S} (h : s.atFlush B.ledger c = some s₀) :
    s₀.FlagsOwned := by
  unfold DecoderSession.atFlush at h
  split at h
  · split at h
    · rename_i hqueue
      obtain ⟨host, haccepts, rfl⟩ := Option.map_eq_some_iff.mp h
      obtain ⟨hhost, -⟩ := Option.filter_eq_some_iff.mp haccepts
      rw [hqueue] at hhost
      exact FlagsOwned.offer hs hhost
    · cases h
  · split at h
    · cases h
      exact hs.same rfl rfl rfl
    · cases h
  · split at h
    · cases h
      exact hs.same rfl rfl rfl
    · cases h
      exact hs
    · cases h
  · cases h

/-- Otherwise QBUF is refused or for an OUTPUT buffer. -/
theorem qbuf_flagsOwned (hs : s.FlagsOwned) {buffer : DecoderV4l2Buffer}
    (hflush : s.atFlush B.ledger (.qbuf buffer) = none)
    {c : Called (β × List UInt32) S DecoderV4l2Buffer}
    (h : d.qbuf B.ledger s buffer = .ok c) : c.session.FlagsOwned := by
  rcases qbuf_cases h with ⟨-, rfl⟩ | ⟨host, -, -, -, res, b, hdecode, v, -, rfl⟩ |
    ⟨host, haccepts, hqueue, -, r, -, rfl⟩
  · exact hs
  · exact hs.same rfl rfl (congrArg (fun x => x.2.2) hdecode).symm
  · simp [DecoderSession.atFlush, hqueue, haccepts] at hflush

/-- Otherwise STREAMON is refused. -/
theorem streamon_flagsOwned (hs : s.FlagsOwned) {queue : QueueType}
    (hflush : s.atFlush B.ledger (.streamon queue) = none)
    {c : Called (β × List UInt32) S Unit}
    (h : d.streamon B.ledger s queue = .ok c) : c.session.FlagsOwned := by
  simp only [DecoderSession.atFlush] at hflush
  unfold VideoDecoder.streamon at h
  cases hbufs : s.buffers queue with
  | none =>
      rw [hbufs] at h
      cases h
      exact hs
  | some bufs =>
      rw [hbufs] at h hflush
      cases bufs with
      | nil =>
          cases h
          exact hs
      | cons b rest => cases hflush

theorem streamoff_flagsOwned (hs : s.FlagsOwned) (queue : QueueType) :
    (d.streamoff B.ledger s queue).session.FlagsOwned := by
  have hnumbered := (streamoff_views (B := B.ledger) (d := d) (s := s) queue .capture).numbered
    hs.numbered
  unfold VideoDecoder.streamoff at hnumbered ⊢
  split at hnumbered
  · exact hs.same rfl rfl rfl
  · have hledger : (B.ledger.clearOutputBuffers s.backendSession).2.2 =
        if (B.ledger.clearOutputBuffers s.backendSession).1.toOption.isSome then []
        else s.backendSession.2 := rfl
    split at hnumbered
    · rename_i hclear
      rw [hclear] at hledger
      exact hs.same rfl rfl hledger
    · refine ⟨hnumbered, fun v hv hflag => ?_⟩
      obtain ⟨w, -, rfl⟩ : ∃ w ∈ s.outputBuffers.map (·.v4l2Buffer),
          w.clearFlags bufFlagQueued = v := by
        rw [DecoderSession.views, views_clearQueued] at hv
        exact List.mem_map.mp hv
      rw [clearFlags_isQueued] at hflag
      cases hflag

theorem decoderCmd_flagsOwned (hs : s.FlagsOwned) {cmd : Option DecoderCmd}
    (hflush : s.atFlush B.ledger (.decoderCmd cmd) = none)
    {c : Called (β × List UInt32) S DecoderCmd}
    (h : d.decoderCmd B.ledger s cmd = .ok c) : c.session.FlagsOwned := by
  rcases decoderCmd_cases h with ⟨-, hsame⟩ | ⟨-, -, rfl⟩ | ⟨rfl, s', r, hs', -, -⟩ |
    ⟨-, -, rfl⟩ | ⟨-, -, rfl⟩
  · rw [hsame]
    exact hs
  · exact hs.same rfl rfl rfl
  · obtain ⟨i, o, hstate⟩ : ∃ i o, s.state = .stopped i o := by
      rcases hs' with ⟨hstate, -⟩ | ⟨i, o, hstate, -⟩
      · exact ⟨_, _, hstate⟩
      · exact ⟨i, o, hstate⟩
    cases i <;> cases o <;> simp [DecoderSession.atFlush, hstate] at hflush
  · exact hs.same rfl rfl rfl
  · exact hs.same rfl rfl rfl

/-- An event takes at most its own buffer out of the ledger. -/
theorem ledger_nextEvent_mem {s b : β × List UInt32} {ev : Option BackendEvent} {i : UInt32}
    (h : B.ledger.nextEvent s = (ev, b)) (hi : ∀ j ∈ ev.bind (·.frameDone?), i ≠ j)
    (hmem : i ∈ s.2) : i ∈ b.2 := by
  have hev : (B.nextEvent s.1).1 = ev := congrArg Prod.fst h
  have hb : (ev.bind (·.frameDone?)).elim s.2 s.2.erase = b.2 := by
    rw [← hev]
    exact congrArg (·.2.2) h
  rw [← hb]
  cases hdone : ev.bind (·.frameDone?) with
  | none => exact hmem
  | some j => exact (List.mem_erase_of_ne (hi j hdone)).mpr hmem

/-- A buffer that is still queued after a frame was completed is another one. -/
theorem mem_set_complete {vs : List DecoderV4l2Buffer} {k : Nat} {v host : DecoderV4l2Buffer}
    {sequence : UInt32} {timestamp : Timeval} {bytesUsed : List UInt32} {isLast : Bool}
    (hv : v ∈ vs.set k (host.complete sequence timestamp bytesUsed isLast))
    (hflag : v.isQueued = true) : ∃ n, n ≠ k ∧ vs[n]? = some v := by
  obtain ⟨n, hn⟩ := List.mem_iff_getElem?.mp hv
  rw [List.getElem?_set] at hn
  split at hn
  · split at hn
    · cases hn
      rw [complete_isQueued] at hflag
      cases hflag
    · cases hn
  · exact ⟨n, Ne.symm ‹_›, hn⟩

theorem processEvents_flagsOwned (hs : s.FlagsOwned) {c : Called (β × List UInt32) S Unit}
    (h : d.processEvents B.ledger checks s = .ok c) : c.session.FlagsOwned := by
  have hnumbered := (processEvents_views h .capture).numbered hs.numbered
  obtain ⟨ev, b, hev, hcase⟩ := processEvents_cases h
  rcases hcase with ⟨rfl, hmissing⟩ | ⟨bufferId, error, host, rfl, hhost, rfl⟩ | ⟨rfl, rfl⟩ |
    ⟨bufferId, timestamp, bytesUsed, isLast, host, v, rfl, hhost, rfl, rfl⟩
  · refine hs.of_step hnumbered (fun v hv _ => hv) fun v hv _ howned => ?_
    refine howned.imp id (ledger_nextEvent_mem hev fun j hj hvj => ?_)
    rcases hmissing with rfl | ⟨bufferId, error, rfl, -⟩ |
      ⟨bufferId, timestamp, bytesUsed, isLast, rfl, hnone⟩
    · cases hj
    · cases hj
    · -- every buffer has the number at which it is looked up
      have hj : bufferId = j := Option.some.inj hj
      have hv : v ∈ s.views .capture := hv
      obtain ⟨n, hn⟩ := List.mem_iff_getElem?.mp hv
      have hindex := (hs.numbered n v hn).2
      rw [hvj, ← hj] at hindex
      rw [← hindex, DecoderSession.views, List.getElem?_map] at hn
      rw [hnone] at hn
      cases hn
  · refine hs.of_step hnumbered (fun v hv _ => hv) fun v _ _ howned => ?_
    exact howned.imp id (ledger_nextEvent_mem hev fun j hj => by cases hj)
  · refine hs.of_step hnumbered (fun v hv _ => hv) fun v _ _ howned => ?_
    exact howned.imp id (ledger_nextEvent_mem hev fun j hj => by cases hj)
  · rw [DecoderSession.views, List.map_set] at hnumbered
    refine hs.of_step (by rw [DecoderSession.views, List.map_set]; exact hnumbered) ?_ ?_
    · intro v hv hflag
      rw [DecoderSession.views, List.map_set] at hv
      obtain ⟨n, -, hn⟩ := mem_set_complete hv hflag
      exact List.mem_of_getElem? hn
    · intro v hv hflag howned
      rw [DecoderSession.views, List.map_set] at hv
      obtain ⟨n, hne, hn⟩ := mem_set_complete hv hflag
      refine howned.imp id (ledger_nextEvent_mem hev fun j hj hvj => ?_)
      cases hj
      exact hne ((hs.numbered n v hn).2.symm.trans (congrArg UInt32.toNat hvj))

/-- A call loses no buffer unless the backend refuses one that it sends. -/
theorem call_flagsOwned (hs : s.FlagsOwned) {c : DecoderCall}
    (hall : ∀ s₀, s.atFlush B.ledger c = some s₀ → s₀.refused B.ledger = false)
    {p : VideoDecoder × DecoderSession (β × List UInt32) S}
    (h : VideoDecoder.call B.ledger checks d s c = .ok p) : p.2.FlagsOwned := by
  cases hflush : s.atFlush B.ledger c with
  | some s₀ =>
      rw [call_atFlush hflush] at h
      obtain ⟨r, hr, rfl⟩ := map_eq_ok.mp h
      have howned := atFlush_flagsOwned hs hflush
      exact trySendPendingOutputBuffers_flagsOwned howned (hall s₀ hflush) hr
  | none =>
      cases c with
      | reqbufs queue memory count =>
          obtain ⟨c, hcalled, rfl⟩ := map_eq_ok.mp h
          exact reqbufs_flagsOwned hs hcalled
      | qbuf buffer =>
          obtain ⟨c, hcalled, rfl⟩ := map_eq_ok.mp h
          exact qbuf_flagsOwned hs hflush hcalled
      | streamon queue =>
          obtain ⟨c, hcalled, rfl⟩ := map_eq_ok.mp h
          exact streamon_flagsOwned hs hflush hcalled
      | streamoff queue =>
          cases h
          exact streamoff_flagsOwned hs queue
      | decoderCmd cmd =>
          obtain ⟨c, hcalled, rfl⟩ := map_eq_ok.mp h
          exact decoderCmd_flagsOwned hs hflush hcalled
      | subscribeEvent event =>
          cases h
          unfold VideoDecoder.subscribeEvent
          split <;> exact hs.same rfl rfl rfl
      | unsubscribeEvent event =>
          cases h
          unfold VideoDecoder.unsubscribeEvent
          split <;> exact hs.same rfl rfl rfl
      | mmap flags offset answer =>
          obtain ⟨c, hcalled, rfl⟩ := map_eq_ok.mp h
          rcases doMmap_cases hcalled with rfl | ⟨buffer, fd, rw, -, -, rfl⟩
          · exact hs
          · exact hs
      | processEvents =>
          obtain ⟨c, hcalled, rfl⟩ := map_eq_ok.mp h
          exact processEvents_flagsOwned hs hcalled

end Ledger

/-! ### Runs -/

/-- The backend takes every buffer that the call sends to it. -/
def DecoderSession.FlushAccepted (B : DecoderBackend β S) (s : DecoderSession β S)
    (c : DecoderCall) : Prop :=
  ∀ s₀ ∈ s.atFlush B c, s₀.refused B = false

instance (B : DecoderBackend β S) (s : DecoderSession β S) (c : DecoderCall) :
    Decidable (s.FlushAccepted B c) :=
  inferInstanceAs (Decidable (∀ s₀ ∈ s.atFlush B c, s₀.refused B = false))

/-- For every backend, session and call that sends pending buffers: those not
handed to the backend are still pending afterwards, in order, if and only if
the backend refused none. Along every run in which it refuses none, each
CAPTURE buffer whose QUEUED flag is set is pending or was handed over and not
given back. -/
theorem pending_buffers_kept (B : DecoderBackend β S) (checks : Bool) :
    (∀ (d : VideoDecoder) (s s₀ : DecoderSession β S) (c : DecoderCall)
      (p : VideoDecoder × DecoderSession β S), s.atFlush B c = some s₀ →
      VideoDecoder.call B checks d s c = .ok p →
      (p.2.pendingOutputBuffers = s₀.unsent B ↔ s₀.refused B = false)) ∧
    ∀ (acts : List (DecoderAction β)) (t : Decoder (β × List UInt32) S),
      Trace.Conforms (ledgerNext B checks) (fun t a =>
        t.Calls (DecoderSession.FlushAccepted B.ledger) (a.map fun b => (b, []))) .init acts →
      Trace.run (ledgerNext B checks) .init acts = some t → t.Every DecoderSession.FlagsOwned := by
  refine ⟨fun d s s₀ c p hflush h => call_keeps_unsent_iff hflush h, fun acts t hc hrun => ?_⟩
  refine Trace.run_invariant_of_conforms (P := Decoder.Every DecoderSession.FlagsOwned)
    (fun t a t' ht hok h => ?_) Decoder.every_init hc hrun
  refine ht.next (fun id b ha => ?_) (fun d s c p hs hq hp => call_flagsOwned hs hq hp) hok h
  obtain ⟨b, rfl⟩ := DecoderAction.map_eq_openSession ha
  exact flagsOwned_new id b

theorem pending_buffers_kept_requeue :
    ∃ t, Trace.run (ledgerNext idleBackend true) .init requeueRun = some t ∧
      t.Every DecoderSession.FlagsOwned :=
  ⟨_, rfl, (pending_buffers_kept idleBackend true).2 requeueRun _ (by decide +kernel) rfl⟩

/-- A backend that takes CAPTURE buffer 0 and no other one. -/
def refusingBackend : DecoderBackend Unit Unit :=
  { idleBackend with
    useAsOutput := fun _ i _ => if i = 0 then (.ok (), (), ()) else (.error 5, (), ()) }

/-- Three CAPTURE buffers are queued before the queue streams. -/
def waitingRun : List (DecoderAction Unit) :=
  .openSession 0 (.ok ()) ::
    ([.reqbufs .videoCaptureMplane .mmap 3, .qbuf (guestBuffer .videoCaptureMplane 0),
      .qbuf (guestBuffer .videoCaptureMplane 1),
      .qbuf (guestBuffer .videoCaptureMplane 2)].map (.call 0))

/-- STREAMON hands over buffer 0, and buffers 1 and 2 are queued without an
owner. -/
theorem pending_buffers_kept_fails_refused :
    ∃ t s s₀ p, Trace.run (ledgerNext refusingBackend true) .init waitingRun = some t ∧
      t.sessions 0 = some s ∧
      s.atFlush refusingBackend.ledger (.streamon .videoCaptureMplane) = some s₀ ∧
      VideoDecoder.call refusingBackend.ledger true t.device s
        (.streamon .videoCaptureMplane) = .ok p ∧
      s₀.unsent refusingBackend.ledger = [1, 2] ∧ p.2.pendingOutputBuffers = [] ∧
      ¬ p.2.FlagsOwned := by
  refine ⟨_, _, _, _, rfl, rfl, rfl, rfl, rfl, rfl, fun h => ?_⟩
  have howned : (1 : UInt32) ∈ ([] : List UInt32) ∨ (1 : UInt32) ∈ [0] :=
    h.owned _ (List.mem_of_getElem? (i := 1) rfl) rfl
  exact absurd howned (by decide)

end VirtioMedia.Device
