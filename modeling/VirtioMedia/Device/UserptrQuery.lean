import VirtioMedia.Device.UserptrTable

/-!
# QUERYBUF of USERPTR buffers

The host remembers the user pointers of a buffer after it has been dequeued,
but the proxy drops their entries when it dequeues the buffer, so a QUERYBUF
after that fails. The ledger below has the pointers that the guest gave in the
last successful QBUF of each buffer, and whether the entries of the buffer are
still there. QUERYBUF answers with the pointers of the ledger as long as it is
asked about buffers whose entries are there, or which have no pointers.
-/

namespace VirtioMedia.Device.ProxyQueues

open V4l2

/-! ### Translation of what the host remembers -/

/-- The table has the entry of a pointer under the queue and the index of the
buffer, or the pointer is null. -/
def Entered (table : UserptrTable) (queue : QueueType) (index : UInt32) (h g : UInt64) : Prop :=
  (h = 0 ∧ g = 0) ∨ (h ≠ 0 ∧ ∃ info ∈ table.entries, info.hostAddr = h ∧ info.guestAddr = g ∧
    info.queue = queue ∧ info.index = index.toUInt8)

theorem Entered.restores {table : UserptrTable} {queue : QueueType} {index : UInt32}
    {h g : UInt64} (he : Entered table queue index h g) : Restores table h g := by
  obtain hnull | ⟨hne, info, hinfo, haddr, hguest, -⟩ := he
  · exact .inl hnull
  · exact .inr ⟨hne, info, hinfo, haddr, hguest⟩

/-- It is enough that the entries of the buffer stay. -/
theorem Entered.mono {table table' : UserptrTable} {queue : QueueType} {index : UInt32}
    {h g : UInt64} (he : Entered table queue index h g)
    (hmem : ∀ info ∈ table.entries, info.queue = queue → info.index = index.toUInt8 →
      info ∈ table'.entries) : Entered table' queue index h g := by
  obtain hnull | ⟨hne, info, hinfo, haddr, hguest, hq, hi⟩ := he
  · exact .inl hnull
  · exact .inr ⟨hne, info, hmem info hinfo hq hi, haddr, hguest, hq, hi⟩

/-- Lists of pointers that are related, and null beyond their ends. -/
theorem getD_of_forall₂ {R : UInt64 → UInt64 → Prop} (h0 : R 0 0) {hs gs : List UInt64}
    (h : List.Forall₂ R hs gs) (i : Nat) : R (hs.getD i 0) (gs.getD i 0) := by
  induction h generalizing i with
  | nil => simpa using h0
  | cons hr _ ih =>
      cases i with
      | zero => exact hr
      | succ i => exact ih i

theorem hostV4l2BufferToGuest_withUserptrs {b : Buffer} {table : UserptrTable}
    {hs gs : List UInt64} (hm : b.memory = .userPtr) (h : List.Forall₂ (Restores table) hs gs) :
    hostV4l2BufferToGuest (b.withUserptrs hs) table = some (b.withUserptrs gs) := by
  refine (hostV4l2BufferToGuest_eq_some (b := b.withUserptrs hs) hm).mpr ⟨_, rfl, ?_⟩
  rw [List.forall₂_iff_get]
  refine ⟨by simp [Buffer.withUserptrs], ?_⟩
  intro i h₁ h₂
  refine ⟨gs.getD i 0, ?_, ?_⟩
  · simpa [Buffer.withUserptrs] using getD_of_forall₂ (.inl ⟨rfl, rfl⟩) h i
  · simp [Buffer.withUserptrs]

/-- The pointers of a buffer that was just registered. -/
theorem entered_of_maps {id : Nat} {ps qs : List Plane} {ms : List Mapping}
    (h : Maps id ps qs ms) {table : UserptrTable} {guest : Buffer}
    (hnull : ∀ p ∈ ps, p.length = 0 → p.userptr = 0) (hne : ∀ m ∈ ms, m.addr ≠ 0)
    (hmem : ∀ r ∈ (mappedPlanes ps).zip ms, guest.entry r ∈ table.entries) :
    List.Forall₂ (Entered table guest.queue guest.index) (qs.map Plane.userptr)
      (ps.map Plane.userptr) := by
  induction h with
  | nil id => exact .nil
  | @unmapped id p ps qs ms hp h ih =>
      have h0 := hnull p List.mem_cons_self hp
      rw [mappedPlanes_cons_zero hp] at hmem
      exact .cons (.inl ⟨h0, h0⟩) (ih (fun q hq => hnull q (List.mem_cons_of_mem p hq)) hne hmem)
  | @mapped id p ps qs ms addr hp h ih =>
      rw [mappedPlanes_cons_pos hp, List.zip_cons_cons] at hmem
      refine .cons (.inr ⟨hne _ List.mem_cons_self, guest.entry (p, ⟨id, addr⟩),
        hmem _ List.mem_cons_self, rfl, rfl, rfl, rfl⟩) ?_
      exact ih (fun q hq => hnull q (List.mem_cons_of_mem p hq))
        (fun m hm => hne m (List.mem_cons_of_mem _ hm))
        (fun r hr => hmem r (List.mem_cons_of_mem _ hr))

/-! ### The ledger -/

/-- The buffer of the event shares its queue and the low byte of its index. -/
def Event.drops (queue : QueueType) (index : UInt32) : Event → Bool
  | .dequeueBuffer _ b => b.queue == queue && b.index.toUInt8 == index.toUInt8
  | .error _ _ | .event _ _ => false

/-- A session with the record of the pointers that were queued. -/
structure Queried where
  state : State
  /-- The pointers of the guest in the last successful QBUF of a buffer. -/
  guestPtrs : QueueType → UInt32 → List UInt64
  /-- No buffer of the queue with the same low byte of the index was dequeued
  since then. -/
  fresh : QueueType → UInt32 → Bool

namespace Queried

def init (id : UInt32) (multiplanar : Bool) : Queried :=
  ⟨.init id multiplanar, fun _ _ => [], fun _ _ => true⟩

/-- The buffers that are still fresh after some events. -/
def freshAfter (l : Queried) (sent : List Event) (queue : QueueType) (index : UInt32) : Bool :=
  l.fresh queue index && !sent.any (Event.drops queue index)

/-- The record after a call. -/
def after (l : Queried) (r : Outcome Reply) : Call → Queried
  | .reqbufs queue _ =>
    if r.result.isOk then
      ⟨r.state, fun q i => if q = queue then [] else l.guestPtrs q i,
        fun q i => q == queue || l.freshAfter r.events q i⟩
    else ⟨r.state, l.guestPtrs, l.freshAfter r.events⟩
  | .qbuf req _ _ =>
    if r.result.isOk then
      ⟨r.state, fun q i => if q = req.buffer.queue ∧ i = req.buffer.index then
          req.buffer.userptrs else l.guestPtrs q i,
        fun q i => (q == req.buffer.queue && i == req.buffer.index) || l.freshAfter r.events q i⟩
    else ⟨r.state, l.guestPtrs, l.freshAfter r.events⟩
  | .close => ⟨r.state, fun _ _ => [], fun _ _ => true⟩
  | _ => ⟨r.state, l.guestPtrs, l.freshAfter r.events⟩

def next (l : Queried) (c : Call) : Option Queried := (l.state.call c).map fun r => l.after r c

/-- QUERYBUF of a USERPTR buffer succeeds with the pointers of the ledger. -/
def Answers (l : Queried) (c : Call) : Prop :=
  ∀ b, c = .querybuf (.ok b) → b.memory = .userPtr →
    (l.state.querybuf (.ok b)).result =
      .ok (b.withUserptrs (l.guestPtrs b.queue b.index))

/-- The calls that keep the ledger and the table together: the zero-length
planes of an accepted buffer have no pointers, no registration is out of step,
and QUERYBUF is not asked about a buffer with pointers whose entries may be
gone. -/
def Kept (l : Queried) : Call → Prop
  | .qbuf req outputs answer => req.buffer.Aligned ∧
      (((l.state.dequeueOutputBuffers outputs).state.host.answer req.buffer.queue answer).isOk =
        true → req.buffer.ZeroNull)
  | .prepareBuf req _ => req.buffer.Aligned
  | .querybuf (.ok b) => b.memory = .userPtr → l.fresh b.queue b.index = true ∨
      ∀ h ∈ l.state.host.queuedPtrs b.queue b.index, h = 0
  | _ => True

instance instDecidableKept (l : Queried) : (c : Call) → Decidable (l.Kept c)
  | .qbuf req outputs answer => inferInstanceAs (Decidable (req.buffer.Aligned ∧
      (((l.state.dequeueOutputBuffers outputs).state.host.answer req.buffer.queue answer).isOk =
        true → req.buffer.ZeroNull)))
  | .prepareBuf req _ => inferInstanceAs (Decidable req.buffer.Aligned)
  | .querybuf (.ok b) => inferInstanceAs (Decidable (b.memory = .userPtr →
      l.fresh b.queue b.index = true ∨ ∀ h ∈ l.state.host.queuedPtrs b.queue b.index, h = 0))
  | .querybuf (.error _) | .reqbufs _ _ | .createBufs _ _ _ | .streamon _ _ | .streamoff _ _
  | .decoderCmd _ | .processEvents _ | .close => .isTrue trivial

end Queried

/-! ### The invariant -/

/-- The pointers `ptrs` that the host remembers are translated to `guest` for
the buffers that are `fresh`. -/
structure Translates (table : UserptrTable) (ptrs guest : QueueType → UInt32 → List UInt64)
    (fresh : QueueType → UInt32 → Bool) : Prop where
  keyed : Keyed table
  entered : ∀ q i, fresh q i = true → List.Forall₂ (Entered table q i) (ptrs q i) (guest q i)
  nulls : ∀ q i, List.Forall₂ (fun h g => h = 0 → g = 0) (ptrs q i) (guest q i)

namespace Translates

variable {table : UserptrTable} {ptrs guest : QueueType → UInt32 → List UInt64}
  {fresh : QueueType → UInt32 → Bool}

theorem weaken {fresh' : QueueType → UInt32 → Bool} (h : Translates table ptrs guest fresh)
    (hle : ∀ q i, fresh' q i = true → fresh q i = true) : Translates table ptrs guest fresh' :=
  ⟨h.keyed, fun q i hf => h.entered q i (hle q i hf), h.nulls⟩

/-- Planes are dropped for a buffer that was dequeued. -/
theorem drop {s : Session} (h : Translates s.userptrBuffers ptrs guest fresh)
    (queue : QueueType) (index : UInt32) :
    Translates (s.dropPlanes queue index).userptrBuffers ptrs guest fun q i =>
      fresh q i && !(queue == q && index.toUInt8 == i.toUInt8) where
  keyed := h.keyed.dropPlanes queue index
  entered q i hf := by
    obtain ⟨hfresh, hnot⟩ := Bool.and_eq_true_iff.mp hf
    refine (h.entered q i hfresh).imp fun a b hab => hab.mono ?_
    intro info hinfo hq hi
    refine mem_dropPlanes.mpr ⟨hinfo, ?_⟩
    rintro ⟨hq', hi'⟩
    simp [← hq, ← hq', ← hi, ← hi'] at hnot
  nulls := h.nulls

/-- Planes are registered. -/
theorem register {id : Nat} {req : Request} {host : Buffer} {resources : List Mapping}
    (h : Translates table ptrs guest fresh) (hal : req.buffer.Aligned) (hf : req.Fresh table)
    (hmap : guestV4l2BufferToHost id req = some (host, resources)) :
    Translates (registerUserptrAddresses table host req.buffer resources) ptrs guest fresh where
  keyed := h.keyed.register hmap hal hf
  entered q i hfresh := (h.entered q i hfresh).imp fun _ _ hab => hab.mono fun _ hinfo _ _ =>
    (mem_registerUserptrAddresses hmap h.keyed hal hf).mpr (.inl hinfo)
  nulls := h.nulls

/-- The buffers of a queue are freed. -/
theorem free (h : Translates table ptrs guest fresh) (queue : QueueType) :
    Translates table (fun q i => if q = queue then [] else ptrs q i)
      (fun q i => if q = queue then [] else guest q i) fun q i => q == queue || fresh q i where
  keyed := h.keyed
  entered q i hf := by
    by_cases hq : q = queue
    · simp only [if_pos hq]
      exact .nil
    · simp only [if_neg hq]
      exact h.entered q i (by simpa [hq] using hf)
  nulls q i := by
    by_cases hq : q = queue
    · simp only [if_pos hq]
      exact .nil
    · simp only [if_neg hq]
      exact h.nulls q i

/-- A buffer is queued with new pointers. -/
theorem queue (h : Translates table ptrs guest fresh) {q₀ : QueueType} {i₀ : UInt32}
    {hs gs : List UInt64} (hnew : List.Forall₂ (Entered table q₀ i₀) hs gs) :
    Translates table (fun q i => if q = q₀ ∧ i = i₀ then hs else ptrs q i)
      (fun q i => if q = q₀ ∧ i = i₀ then gs else guest q i)
      fun q i => (q == q₀ && i == i₀) || fresh q i where
  keyed := h.keyed
  entered q i hf := by
    by_cases hqi : q = q₀ ∧ i = i₀
    · simp only [if_pos hqi]
      obtain ⟨rfl, rfl⟩ := hqi
      exact hnew
    · simp only [if_neg hqi]
      refine h.entered q i ?_
      rcases Bool.or_eq_true_iff.mp hf with hf | hf
      · exact absurd (by simpa using hf) hqi
      · exact hf
  nulls q i := by
    by_cases hqi : q = q₀ ∧ i = i₀
    · simp only [if_pos hqi]
      refine hnew.imp ?_
      rintro a b (⟨-, hb⟩ | ⟨hne, -⟩) ha
      · exact hb
      · exact absurd ha hne
    · simp only [if_neg hqi]
      exact h.nulls q i

end Translates

/-- The pointers of an accepted buffer have just been registered. -/
theorem entered_of_register {id : Nat} {req : Request} {host : Buffer} {resources : List Mapping}
    {table : UserptrTable} (hk : Keyed table) (hnull : req.buffer.ZeroNull) (hf : req.Fresh table)
    (hmap : guestV4l2BufferToHost id req = some (host, resources)) :
    List.Forall₂ (Entered (registerUserptrAddresses table host req.buffer resources)
      req.buffer.queue req.buffer.index) host.userptrs req.buffer.userptrs := by
  have hmem := @mem_registerUserptrAddresses _ _ _ _ _ hmap hk hnull.aligned hf
  unfold Buffer.userptrs
  by_cases hm : req.buffer.memory = .userPtr
  · have haddr := Request.addresses_eq hmap hm
    obtain ⟨-, planes, rfl, hmaps, -⟩ | ⟨hnot, -⟩ := guestV4l2BufferToHost_cases hmap
    · rw [if_pos hm, if_pos hm]
      refine entered_of_maps hmaps (hnull hm) ?_ ?_
      · exact fun m hmr => (hf.2 _ (haddr ▸ List.mem_map_of_mem hmr)).1
      · exact fun r hr => hmem.mpr (.inr ⟨hm, List.mem_map_of_mem hr⟩)
    · exact absurd hm hnot
  · rw [(queue_of_guestV4l2BufferToHost hmap).2.2, if_neg hm, if_neg hm]
    exact .nil

namespace Queried

/-- What holds between the calls. -/
def Inv (l : Queried) : Prop :=
  Translates l.state.session.userptrBuffers l.state.host.queuedPtrs l.guestPtrs l.fresh

theorem freshAfter_nil (l : Queried) : l.freshAfter [] = l.fresh := by
  funext q i
  rw [freshAfter, List.any_nil, Bool.not_false, Bool.and_true]

theorem freshAfter_other (l : Queried) {sent new : List Event}
    (hnew : ∀ ev ∈ new, ev.isDequeue = false) :
    l.freshAfter (sent ++ new) = l.freshAfter sent := by
  funext q i
  have hnone : new.any (Event.drops q i) = false := by
    refine List.any_eq_false.mpr fun ev hev => ?_
    cases ev with
    | dequeueBuffer id b => cases hnew _ hev
    | error id errno => simp [Event.drops]
    | event id e => simp [Event.drops]
  rw [freshAfter, List.any_append, hnone, Bool.or_false, freshAfter]

/-- A dequeued buffer drops the planes of the buffers it is not apart from. -/
theorem translates_take {l : Queried} {s : State} {sent : List Event} {queue : QueueType}
    {h : Held} (hq : h.buffer.queue = queue) (st : Status)
    (hs : Translates s.session.userptrBuffers s.host.queuedPtrs l.guestPtrs (l.freshAfter sent)) :
    Translates (s.session.dropPlanes queue h.buffer.index).userptrBuffers s.host.queuedPtrs
      l.guestPtrs (l.freshAfter
        (sent ++ [.dequeueBuffer s.session.id (h.buffer.withStatus st)])) := by
  refine (hs.drop queue h.buffer.index).weaken fun q i hf => ?_
  subst hq
  simp only [freshAfter, List.any_append, List.any_cons, List.any_nil, Bool.or_false,
    Bool.not_or] at hf ⊢
  rwa [Bool.and_assoc]

/-- What holds while buffers are dequeued. -/
theorem keeps (l : Queried) : State.Keeps fun t sent =>
    Translates t.session.userptrBuffers t.host.queuedPtrs l.guestPtrs (l.freshAfter sent) where
  output := fun _ _ _ _ _ st hs _ _ hq => translates_take hq st hs
  other := by
    intro s sent new hs hnew
    rw [l.freshAfter_other hnew]
    exact hs
  capture := by
    rintro s sent s' ev hs - ⟨queue, pos, h, st, session, -, -, hq, hcount, rfl, rfl⟩
    obtain ⟨-, -, -, -, -, -, htable, -⟩ := Session.countDequeued_eq_some hcount
    have htake := translates_take hq st hs
    rw [← htable] at htake
    exact htake

variable {l : Queried}

/-- A call that leaves the table and the host as they are. -/
theorem Inv.of_same (h : l.Inv) {s' : State} (hs : l.state.SameBuffers s') :
    Inv ⟨s', l.guestPtrs, l.freshAfter []⟩ := by
  obtain ⟨ht, hh⟩ := hs
  unfold Inv
  rw [freshAfter_nil, ht, hh]
  exact h

theorem Inv.reqbufs (h : l.Inv) (queue : QueueType) (answer : Except Int UInt32) :
    (l.after ((l.state.reqbufs queue answer).map .count) (.reqbufs queue answer)).Inv := by
  unfold State.reqbufs
  cases l.state.host.answer queue answer with
  | error e => exact h.of_same (.refl l.state)
  | ok n =>
      have hfree : Translates l.state.session.userptrBuffers (l.state.host.free queue).queuedPtrs
          (fun q i => if q = queue then [] else l.guestPtrs q i)
          (fun q i => q == queue || l.freshAfter [] q i) := by
        rw [freshAfter_nil]
        exact Translates.free h queue
      have htable : (if n = 0 then (l.state.session.rememberQueue queue).stop queue
          else l.state.session.rememberQueue queue).userptrBuffers =
            l.state.session.userptrBuffers := by
        split_ifs
        · rw [Session.userptrBuffers_stop, Session.userptrBuffers_rememberQueue]
        · rw [Session.userptrBuffers_rememberQueue]
      rw [← htable] at hfree
      exact hfree

theorem Inv.qbuf (h : l.Inv) {req : Request} {outputs : List DqAnswer}
    {answer : Except Int Status} (hm : l.state.MapperOk (.qbuf req outputs answer))
    (hok : l.Kept (.qbuf req outputs answer)) :
    (l.after ((l.state.qbuf req outputs answer).map .buffer) (.qbuf req outputs answer)).Inv := by
  obtain ⟨hal, hnull⟩ := hok
  have hstart : Translates l.state.session.userptrBuffers l.state.host.queuedPtrs l.guestPtrs
      (l.freshAfter []) := by
    rw [freshAfter_nil]
    exact h
  have hout := l.keeps.dequeueOutputBuffers outputs [] hstart
  rw [List.nil_append] at hout
  rw [State.qbuf_eq]
  obtain ⟨-, heq⟩ | ⟨host, resources, hmap, hcases⟩ :=
    (l.state.dequeueOutputBuffers outputs).state.qbufHost_cases req answer
  · rw [heq]
    exact hout
  · have hsub := hout.register hal hm hmap
    obtain ⟨hqueue, hindex, -⟩ := queue_of_guestV4l2BufferToHost hmap
    obtain ⟨e, -, heq⟩ | ⟨st, hans, hcases⟩ := hcases
    · rw [heq]
      exact hsub
    · have hzero : req.buffer.ZeroNull := hnull (by rw [← hqueue, hans]; rfl)
      obtain ⟨hnone, -⟩ | ⟨out, -, heq⟩ := hcases
      · have hsome := hostV4l2BufferToGuest_registered hmap hzero
          (l.state.dequeueOutputBuffers outputs).state.session.userptrBuffers st
        change (hostV4l2BufferToGuest (host.withStatus st) ((l.state.dequeueOutputBuffers
          outputs).state.submitted host req.buffer resources).session.userptrBuffers).isSome =
            true at hsome
        rw [hnone] at hsome
        cases hsome
      · rw [heq]
        have hnew := hsub.queue (entered_of_register hout.keyed hzero hm hmap)
        have htable : (((l.state.dequeueOutputBuffers outputs).state.submitted host req.buffer
            resources).session.countQueued host.queue).userptrBuffers =
              registerUserptrAddresses
                (l.state.dequeueOutputBuffers outputs).state.session.userptrBuffers host req.buffer
                resources := Session.userptrBuffers_countQueued _ _
        change Translates (((l.state.dequeueOutputBuffers outputs).state.submitted host req.buffer
          resources).session.countQueued host.queue).userptrBuffers
            (fun q i => if q = host.queue ∧ i = host.index then host.userptrs else
              (l.state.dequeueOutputBuffers outputs).state.host.queuedPtrs q i) _ _
        rw [htable]
        simp only [hqueue, hindex]
        exact hnew

theorem Inv.next {l' : Queried} {c : Call} (h : l.Inv) (hm : l.state.MapperOk c) (hok : l.Kept c)
    (hn : l.next c = some l') : l'.Inv := by
  obtain ⟨r, hcall, rfl⟩ := Option.map_eq_some_iff.mp hn
  cases c with
  | reqbufs queue answer =>
      cases hcall
      exact h.reqbufs queue answer
  | createBufs queue count answer =>
      cases hcall
      have hevents : (l.state.createBufs queue count answer).events = [] := by
        unfold State.createBufs
        cases l.state.host.answer queue answer <;> rfl
      change Inv ⟨(l.state.createBufs queue count answer).state, l.guestPtrs,
        l.freshAfter (l.state.createBufs queue count answer).events⟩
      rw [hevents]
      exact h.of_same (l.state.sameBuffers_createBufs queue count answer)
  | querybuf answer =>
      cases hcall
      change Inv ⟨(l.state.querybuf answer).state, l.guestPtrs,
        l.freshAfter (l.state.querybuf answer).events⟩
      rw [State.querybuf_state, State.querybuf_events]
      exact h.of_same (.refl l.state)
  | streamon queue answer =>
      cases hcall
      have hevents : (l.state.streamon queue answer).events = [] := by
        unfold State.streamon
        cases l.state.host.answer queue answer <;> rfl
      change Inv ⟨(l.state.streamon queue answer).state, l.guestPtrs,
        l.freshAfter (l.state.streamon queue answer).events⟩
      rw [hevents]
      exact h.of_same (l.state.sameBuffers_streamon queue answer)
  | streamoff queue answer =>
      cases hcall
      have hevents : (l.state.streamoff queue answer).events = [] := by
        unfold State.streamoff
        cases l.state.host.answer queue answer <;> rfl
      change Inv ⟨(l.state.streamoff queue answer).state, l.guestPtrs,
        l.freshAfter (l.state.streamoff queue answer).events⟩
      rw [hevents]
      obtain hsame | ⟨htable, hhost⟩ := l.state.streamoff_buffers queue answer
      · exact h.of_same hsame
      · unfold Inv
        rw [freshAfter_nil, htable, hhost]
        exact h
  | qbuf req outputs answer =>
      cases hcall
      exact h.qbuf hm hok
  | prepareBuf req answer =>
      cases hcall
      change Inv ⟨(l.state.prepareBuf req answer).state, l.guestPtrs,
        l.freshAfter (l.state.prepareBuf req answer).events⟩
      have hreg : ∀ host resources,
          guestV4l2BufferToHost l.state.nextMapping req = some (host, resources) →
          Inv ⟨l.state.submitted host req.buffer resources, l.guestPtrs, l.freshAfter []⟩ := by
        intro host resources hmap
        unfold Inv
        rw [freshAfter_nil]
        exact Translates.register h hok hm hmap
      obtain ⟨-, heq⟩ | ⟨host, resources, hmap, result, heq, -⟩ :=
        l.state.prepareBuf_cases req answer
      · rw [heq]
        exact h.of_same (.refl l.state)
      · rw [heq]
        exact hreg host resources hmap
  | decoderCmd answer =>
      cases hcall
      exact h.of_same (.refl l.state)
  | processEvents events =>
      obtain ⟨r', hr', rfl⟩ := Option.map_eq_some_iff.mp hcall
      have hstart : Translates l.state.session.userptrBuffers l.state.host.queuedPtrs l.guestPtrs
          (l.freshAfter []) := by
        rw [freshAfter_nil]
        exact h
      exact l.keeps.processEvents [] hstart hr'
  | close =>
      cases hcall
      exact ⟨fun _ h => (by cases h), fun _ _ _ => .nil, fun _ _ => .nil⟩

theorem inv_init (id : UInt32) (multiplanar : Bool) : (Queried.init id multiplanar).Inv :=
  ⟨fun _ h => (by cases h), fun _ _ _ => .nil, fun _ _ => .nil⟩

theorem Inv.answers (h : l.Inv) {c : Call} (hok : l.Kept c) : l.Answers c := by
  rintro b rfl hm
  have hptrs : List.Forall₂ (Restores l.state.session.userptrBuffers)
      (l.state.host.queuedPtrs b.queue b.index) (l.guestPtrs b.queue b.index) := by
    rcases hok hm with hfresh | hnull
    · exact (h.entered b.queue b.index hfresh).imp fun _ _ hab => hab.restores
    · have hall := (List.forall₂_and_left _ _).mpr ⟨hnull, h.nulls b.queue b.index⟩
      exact hall.imp fun a g hag => .inl ⟨hag.1, hag.2 hag.1⟩
  have hans := hostV4l2BufferToGuest_withUserptrs hm hptrs
  simp only [State.querybuf, Host.queried, if_pos hm, hans]

/-- QUERYBUF of USERPTR buffers succeeds with the pointers of the last successful
QBUF in every run that keeps the ledger and the table together. -/
theorem querybuf_answers (id : UInt32) (multiplanar : Bool) (calls : List Call)
    (hmapper : Trace.Conforms Queried.next (fun l c => l.state.MapperOk c)
      (.init id multiplanar) calls)
    (hok : Trace.Conforms Queried.next Queried.Kept (.init id multiplanar) calls) :
    Trace.Conforms Queried.next Queried.Answers (.init id multiplanar) calls :=
  Trace.conforms_of_invariant (P := Queried.Inv)
    (fun _ _ _ h hc hn => h.next hc.1 hc.2 hn) (fun _ _ h hc => h.answers hc.2)
    (inv_init id multiplanar) (Trace.conforms_and hmapper hok)

/-- QUERYBUF of a buffer that is queued, and again after STREAMOFF. -/
def stoppedRun : List Call :=
  [.reqbufs .videoCapture (.ok 1),
    .qbuf (userptrRequest .videoCapture 0 0x1000 0x7f00) [] (.ok (filled 0)),
    .streamon .videoCapture (.ok ()),
    .querybuf (.ok (userptrBuffer .videoCapture 0 0)),
    .streamoff .videoCapture (.ok ()),
    .querybuf (.ok (userptrBuffer .videoCapture 0 0))]

theorem querybuf_answers_stoppedRun :
    Trace.Conforms Queried.next Queried.Kept (.init 0 false) stoppedRun ∧
      Trace.Conforms Queried.next Queried.Answers (.init 0 false) stoppedRun := by
  have hok : Trace.Conforms Queried.next Queried.Kept (.init 0 false) stoppedRun := by decide
  exact ⟨hok, querybuf_answers 0 false stoppedRun (by decide) hok⟩

/-- A buffer is queued and dequeued. -/
def dequeuedRun : List Call :=
  [.reqbufs .videoCapture (.ok 1),
    .qbuf (userptrRequest .videoCapture 0 0x1000 0x7f00) [] (.ok (filled 0)),
    .streamon .videoCapture (.ok ()),
    .processEvents [.captureReady (.buffer 0 (filled 0)) []]]

theorem querybuf_fails_dequeued :
    Trace.Conforms Queried.next (fun l c => l.state.MapperOk c) (.init 0 false)
        (dequeuedRun ++ [.querybuf (.ok (userptrBuffer .videoCapture 0 0))]) ∧
      ¬Trace.Conforms Queried.next Queried.Answers (.init 0 false)
        (dequeuedRun ++ [.querybuf (.ok (userptrBuffer .videoCapture 0 0))]) := by
  refine ⟨by decide, fun h => ?_⟩
  have hans := Trace.conforms_at h rfl (userptrBuffer .videoCapture 0 0) rfl rfl
  cases hans

end Queried

end VirtioMedia.Device.ProxyQueues
