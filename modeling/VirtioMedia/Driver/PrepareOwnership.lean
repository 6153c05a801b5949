import VirtioMedia.Driver.QueueAccounting
import VirtioMedia.Driver.BufferIoctls

/-!
# PREPARE_BUF and the ownership of its slot

QBUF refuses a slot that is queued or done. PREPARE_BUF makes no such check,
and on success it overwrites the flags of the slot. The accounts of the queue
therefore survive exactly the calls that fail and the calls on an idle slot:
on any other slot the flags lose the mark that `queued_bufs` or
`pending_dqbufs` still holds.
-/

namespace VirtioMedia.Driver

open V4l2

/-- `virtio_media_prepare_buf`, with the events that are processed while its
command is outstanding. -/
def prepareBuf (cfg : Config) (s : Session) (req : BufferReq) (evs : List DqbufEvent)
    (ret : Int) : Int × Session :=
  match prepareBufSubmit s req with
  | (.error e, s) => (e, s)
  | (.ok fl, s) => prepareBufReply (processEvents cfg s evs) fl ret

/-- What the events `evs` and nothing else may do to the ownership of a slot:
a done slot stays done, a slot of the device stays the device's or is
completed by an event that names it. -/
def OwnershipKept (evs : List DqbufEvent) (s s' : Session) : Prop :=
  ∀ t i b, (s.queues t).buffers[i]? = some b →
    ∃ b', (s'.queues t).buffers[i]? = some b' ∧ (b.done = true → b'.done = true) ∧
      (b.onDevice = true → b'.onDevice = true ∨ b'.done = true ∧
        ∃ ev ∈ evs, queueIndex ev.buffer.type = some t ∧ ev.buffer.index.toNat = i)

/-- No later run of ioctls and events links a slot into `pending_dqbufs` twice. -/
def LinksOnce (cfg : Config) (s : Session) : Prop :=
  ∀ acts d, Trace.run (Machine.step cfg) ⟨s, none⟩ acts = some d →
    ∀ t, (d.session.queues t).pendingDqbufs.Nodup

theorem linksOnce_of_accounted {s : Session} (hs : ∀ t, Accounted (s.queues t))
    (cfg : Config) : LinksOnce cfg s := by
  intro acts d hrun t
  have hinv : MachineInv d := Trace.run_invariant (P := MachineInv)
    (fun _ _ _ h hd => h.step hd) (.ofIdle hs) hrun
  exact (hinv.queues t).nodup

/-! ### One slot -/

theorem setQueue_setBuffer_slot (s : Session) {t u : Fin numQueues} {i j : Nat}
    {b c : MediaBuffer} (hb : (s.queues t).buffers[i]? = some b)
    (hc : (s.queues u).buffers[j]? = some c) (b' : MediaBuffer) :
    ((s.setQueue t ((s.queues t).setBuffer i b')).queues u).buffers[j]? =
      if u = t ∧ j = i then some b' else some c := by
  rw [Session.setQueue_queues]
  by_cases ht : u = t
  · subst ht
    by_cases hj : j = i
    · subst hj
      simp [QueueState.setBuffer, lt_length_of_slot hb]
    · simp [QueueState.setBuffer, hj, List.getElem?_set_ne (Ne.symm hj), hc]
  · simp [ht, hc]

/-- What an event does to one slot: nothing, or it completes a slot of the device. -/
theorem processDqbufEvent_slot (cfg : Config) (s : Session) (ev : DqbufEvent)
    {t : Fin numQueues} {i : Nat} {b : MediaBuffer}
    (hb : (s.queues t).buffers[i]? = some b) :
    ((processDqbufEvent cfg s ev).queues t).buffers[i]? = some b ∨
      (b.onDevice = true ∧ queueIndex ev.buffer.type = some t ∧
        ev.buffer.index.toNat = i ∧
        ((processDqbufEvent cfg s ev).queues t).buffers[i]? =
          some (completedSlot cfg ev b)) := by
  unfold processDqbufEvent
  cases hu : queueIndex ev.buffer.type with
  | none => exact .inl hb
  | some u =>
      by_cases htu : t = u
      · subst htu
        rw [Session.setQueue_queues_self]
        unfold QueueState.processDqbuf
        cases hc : (s.queues t).buffers[ev.buffer.index.toNat]? with
        | none => exact .inl hb
        | some c =>
            dsimp only
            split
            · rename_i hacc
              rw [QueueState.decQueued_buffers]
              by_cases hi : ev.buffer.index.toNat = i
              · subst hi
                obtain rfl : c = b := Option.some.inj (hc.symm.trans hb)
                right
                refine ⟨onDevice_of_accepts hacc hc, rfl, rfl, ?_⟩
                simp [QueueState.setBuffer, lt_length_of_slot hb]
              · left
                simp only [QueueState.setBuffer]
                rw [List.getElem?_set_ne hi, hb]
            · exact .inl hb
      · left
        rw [Session.setQueue_queues_ne s htu]
        exact hb

/-- Events leave an idle slot alone. -/
theorem processEvents_idle_slot (cfg : Config) {s : Session} (evs : List DqbufEvent)
    {t : Fin numQueues} {i : Nat} {b : MediaBuffer}
    (hb : (s.queues t).buffers[i]? = some b) (hidle : b.idle) :
    ((processEvents cfg s evs).queues t).buffers[i]? = some b := by
  induction evs generalizing s with
  | nil => exact hb
  | cons ev rest ih =>
      apply ih
      rcases processDqbufEvent_slot cfg s ev hb with h | ⟨hon, -⟩
      · exact h
      · simp [hidle.1] at hon

/-! ### Ownership across the parts of the call -/

theorem OwnershipKept.refl (evs : List DqbufEvent) (s : Session) : OwnershipKept evs s s := by
  intro t i b hb
  exact ⟨b, hb, id, .inl⟩

theorem OwnershipKept.trans {evs : List DqbufEvent} {s s' s'' : Session}
    (h : OwnershipKept evs s s') (h' : OwnershipKept evs s' s'') :
    OwnershipKept evs s s'' := by
  intro t i b hb
  obtain ⟨c, hc, hdone, hon⟩ := h t i b hb
  obtain ⟨d, hd, hdone', hon'⟩ := h' t i c hc
  refine ⟨d, hd, fun hb => hdone' (hdone hb), fun hb => ?_⟩
  rcases hon hb with hc | ⟨hc, hev⟩
  · exact hon' hc
  · exact .inr ⟨hdone' hc, hev⟩

theorem OwnershipKept.mono {evs evs' : List DqbufEvent} {s s' : Session}
    (h : OwnershipKept evs s s') (hsub : evs ⊆ evs') : OwnershipKept evs' s s' := by
  intro t i b hb
  obtain ⟨c, hc, hdone, hon⟩ := h t i b hb
  refine ⟨c, hc, hdone, fun hb => (hon hb).imp_right ?_⟩
  rintro ⟨hd, ev, hev, hnames⟩
  exact ⟨hd, ev, hsub hev, hnames⟩

/-- Replacing a slot by one with the same marks. -/
theorem ownershipKept_setBuffer (evs : List DqbufEvent) {s : Session} {t : Fin numQueues}
    {i : Nat} {b b' : MediaBuffer} (hb : (s.queues t).buffers[i]? = some b)
    (hon : b'.onDevice = b.onDevice) (hd : b'.done = b.done) :
    OwnershipKept evs s (s.setQueue t ((s.queues t).setBuffer i b')) := by
  intro u j c hc
  rw [setQueue_setBuffer_slot s hb hc]
  by_cases h : u = t ∧ j = i
  · obtain ⟨rfl, rfl⟩ := h
    obtain rfl : c = b := Option.some.inj (hc.symm.trans hb)
    exact ⟨b', by simp, hd ▸ id, fun h => .inl (hon ▸ h)⟩
  · exact ⟨c, by simp [h], id, .inl⟩

theorem ownershipKept_event (cfg : Config) (s : Session) (ev : DqbufEvent) :
    OwnershipKept [ev] s (processDqbufEvent cfg s ev) := by
  intro t i b hb
  rcases processDqbufEvent_slot cfg s ev hb with h | ⟨hon, ht, hi, h⟩
  · exact ⟨b, h, id, .inl⟩
  · refine ⟨_, h, fun _ => completedSlot_done cfg ev b, fun _ => .inr ?_⟩
    exact ⟨completedSlot_done cfg ev b, ev, List.mem_singleton_self ev, ht, hi⟩

theorem ownershipKept_events (cfg : Config) (s : Session) (evs : List DqbufEvent) :
    OwnershipKept evs s (processEvents cfg s evs) := by
  induction evs generalizing s with
  | nil => exact .refl [] s
  | cons ev rest ih =>
      have hfirst := (ownershipKept_event cfg s ev).mono
        (by simp : [ev] ⊆ ev :: rest)
      exact hfirst.trans ((ih (processDqbufEvent cfg s ev)).mono (List.subset_cons_self ev rest))

/-! ### The call -/

theorem storeM_flags (req : BufferReq) (b : MediaBuffer) :
    (storeM req b).buffer.flags = b.buffer.flags := rfl

theorem slot_of_prepareBufCheck {s : Session} {req : BufferReq} {t : Fin numQueues}
    {b : MediaBuffer} (h : prepareBufCheck s req = .ok (t, b)) :
    (s.queues t).buffers[req.buffer.index.toNat]? = some b := by
  unfold prepareBufCheck at h
  split at h
  · cases h
  · split at h
    · cases h
    · split at h
      · cases h
      · cases h
        assumption

/-- The plane count of a multiplanar request is above the limit of V4L2. -/
def BufferReq.tooManyPlanes (req : BufferReq) : Bool :=
  typeIsMultiplanar req.buffer.type && req.buffer.length.toNat > videoMaxPlanes

/-- Up to the command, PREPARE_BUF replaces at most one slot, by one with the
same flags. -/
theorem prepareBufSubmit_cases (s : Session) (req : BufferReq) :
    (∃ e, prepareBufCheck s req = .error e ∧ prepareBufSubmit s req = (.error e, s)) ∨
    ∃ t b b', prepareBufCheck s req = .ok (t, b) ∧ b'.buffer.flags = b.buffer.flags ∧
      prepareBufSubmit s req =
        (if req.tooManyPlanes then .error (-einval) else .ok ⟨t, req.buffer.index.toNat⟩,
          s.setQueue t ((s.queues t).setBuffer req.buffer.index.toNat b')) := by
  unfold prepareBufSubmit
  cases hc : prepareBufCheck s req with
  | error e => exact .inl ⟨e, rfl, rfl⟩
  | ok tb =>
      obtain ⟨t, b⟩ := tb
      right
      by_cases hp : req.tooManyPlanes = true
      · refine ⟨t, b, { b with buffer := { b.buffer with m := req.buffer.m } }, rfl, rfl, ?_⟩
        rw [if_pos hp]
        unfold BufferReq.tooManyPlanes at hp
        simp only [hp, if_true]
      · refine ⟨t, b, storeM req b, rfl, storeM_flags req b, ?_⟩
        rw [if_neg hp]
        unfold BufferReq.tooManyPlanes at hp
        simp only [hp, if_false, Bool.false_eq_true]

/-- The flags written on success agree with the accounts only over an idle slot. -/
theorem accounted_prepared_iff {q : QueueState} {i : Nat} {b : MediaBuffer}
    (hq : Accounted q) (hb : q.buffers[i]? = some b) :
    Accounted (q.setBuffer i (b.setFlags bufFlagPrepared)) ↔ b.idle := by
  have hidle := prepared_idle b
  constructor
  · intro h
    have hset := countP_set_slot hb (b.setFlags bufFlagPrepared)
    have hcount := h.count
    have hold := hq.count
    simp only [QueueState.setBuffer] at hcount
    refine ⟨?_, ?_⟩
    · -- a slot of the device would no longer be counted
      by_contra hon
      rw [Bool.not_eq_false] at hon
      simp only [hon, hidle.1, if_true, Bool.false_eq_true, if_false] at hset
      omega
    · -- a done slot would stay on the list without its mark
      by_contra hd
      rw [Bool.not_eq_false] at hd
      have hmem : i ∈ q.pendingDqbufs := (hq.pending i).mpr ⟨b, hb, hd⟩
      obtain ⟨c, hc, hcd⟩ := (h.pending i).mp hmem
      simp only [QueueState.setBuffer, lt_length_of_slot hb, List.getElem?_set_self,
        Option.some.injEq] at hc
      subst hc
      simp [hidle.2] at hcd
  · intro h
    exact hq.setBuffer hb (by rw [hidle.1, h.1]) (by rw [hidle.2, h.2])

/-- A slot that is not idle is not idle after any events. -/
theorem busy_after_events (cfg : Config) {s : Session} (evs : List DqbufEvent)
    {t : Fin numQueues} {i : Nat} {b : MediaBuffer}
    (hb : (s.queues t).buffers[i]? = some b) (hbusy : ¬ b.idle) :
    ∃ b', ((processEvents cfg s evs).queues t).buffers[i]? = some b' ∧ ¬ b'.idle := by
  obtain ⟨b', hb', hdone, hon⟩ := ownershipKept_events cfg s evs t i b hb
  refine ⟨b', hb', fun hidle => hbusy ⟨?_, ?_⟩⟩
  · by_contra h
    rw [Bool.not_eq_false] at h
    rcases hon h with h' | ⟨h', -⟩
    · simp [hidle.1] at h'
    · simp [hidle.2] at h'
  · by_contra h
    rw [Bool.not_eq_false] at h
    have := hdone h
    simp [hidle.2] at this

section Reply

variable {s : Session} {fl : PrepareInFlight} {b : MediaBuffer} {ret : Int}

theorem prepareBufReply_success (hb : (s.queues fl.queue).buffers[fl.slot]? = some b) :
    (prepareBufReply s fl 0).2 = s.setQueue fl.queue
      ((s.queues fl.queue).setBuffer fl.slot (b.setFlags bufFlagPrepared)) := by
  simp [prepareBufReply, hb]

theorem prepareBufReply_failure (hr : ret ≠ 0) : (prepareBufReply s fl ret).2 = s := by
  simp [prepareBufReply, hr]

/-- The accounts after the second half of the call. -/
theorem prepareBufReply_accounted_iff (cfg : Config) (hs : ∀ t, Accounted (s.queues t))
    (evs : List DqbufEvent) (hb : (s.queues fl.queue).buffers[fl.slot]? = some b) :
    (∀ t, Accounted ((prepareBufReply (processEvents cfg s evs) fl ret).2.queues t)) ↔
      ret ≠ 0 ∨ b.idle := by
  have hevs := accounted_processEvents hs cfg evs
  by_cases hr : ret = 0
  · subst hr
    constructor
    · intro hall
      by_contra hno
      obtain ⟨c, hc, hbusy⟩ := busy_after_events cfg evs hb
        (fun h => hno (.inr h))
      rw [prepareBufReply_success hc] at hall
      have hq := hall fl.queue
      rw [Session.setQueue_queues_self, accounted_prepared_iff (hevs fl.queue) hc] at hq
      exact hbusy hq
    · intro h
      have hidle : b.idle := h.resolve_left (by simp)
      have hslot := processEvents_idle_slot cfg evs hb hidle
      rw [prepareBufReply_success hslot]
      exact accounted_setQueue hevs fl.queue
        ((accounted_prepared_iff (hevs fl.queue) hslot).mpr hidle)
  · rw [prepareBufReply_failure hr]
    exact iff_of_true hevs (.inl hr)

theorem prepareBufReply_kept (cfg : Config) (evs : List DqbufEvent)
    (hb : (s.queues fl.queue).buffers[fl.slot]? = some b) (hok : ret ≠ 0 ∨ b.idle) :
    OwnershipKept evs s (prepareBufReply (processEvents cfg s evs) fl ret).2 := by
  have hkept := ownershipKept_events cfg s evs
  by_cases hr : ret = 0
  · subst hr
    have hidle : b.idle := hok.resolve_left (by simp)
    have hslot := processEvents_idle_slot cfg evs hb hidle
    have hprep := prepared_idle b
    rw [prepareBufReply_success hslot]
    apply hkept.trans
    apply ownershipKept_setBuffer evs hslot
    · rw [hprep.1, hidle.1]
    · rw [hprep.2, hidle.2]
  · rw [prepareBufReply_failure hr]
    exact hkept

end Reply

/-- The calls of PREPARE_BUF that cannot do harm: the request is refused, the
command fails, or the slot is neither queued nor done. -/
def PrepareHarmless (s : Session) (req : BufferReq) (ret : Int) : Prop :=
  req.tooManyPlanes = true ∨ ret ≠ 0 ∨ ∀ t b, prepareBufCheck s req = .ok (t, b) → b.idle

/-- For every session whose queues keep their accounts, every request, every
answer of the device and every list of events processed meanwhile: after
PREPARE_BUF the accounts still hold, every slot has kept its owner and no
later run links a slot twice, if and only if the request was refused, the
command failed or the slot was idle. -/
theorem prepare_buf_keeps_ownership_iff (cfg : Config) (s : Session) (req : BufferReq)
    (evs : List DqbufEvent) (ret : Int) (hs : ∀ t, Accounted (s.queues t)) :
    ((∀ t, Accounted ((prepareBuf cfg s req evs ret).2.queues t)) ∧
        OwnershipKept evs s (prepareBuf cfg s req evs ret).2 ∧
        LinksOnce cfg (prepareBuf cfg s req evs ret).2) ↔
      PrepareHarmless s req ret := by
  -- the third part follows from the first
  rw [← and_assoc, and_iff_left_of_imp (fun h => linksOnce_of_accounted h.1 cfg)]
  rcases prepareBufSubmit_cases s req with ⟨e, hc, h⟩ | ⟨t, b, b', hc, hf, h⟩
  · have hres : prepareBuf cfg s req evs ret = (e, s) := by simp only [prepareBuf, h]
    rw [hres]
    refine iff_of_true ⟨hs, .refl evs s⟩ (.inr (.inr fun t b h' => ?_))
    rw [hc] at h'
    cases h'
  · have hb := slot_of_prepareBufCheck hc
    set i := req.buffer.index.toNat with hi
    set s₁ := s.setQueue t ((s.queues t).setBuffer i b') with hs₁
    have hacc : ∀ u, Accounted (s₁.queues u) :=
      accounted_setQueue hs t ((hs t).setBuffer_same hb hf)
    have hkept : OwnershipKept evs s s₁ :=
      ownershipKept_setBuffer evs hb (onDevice_congr hf) (done_congr hf)
    by_cases hp : req.tooManyPlanes = true
    · have hres : prepareBuf cfg s req evs ret = (-einval, s₁) := by
        simp only [prepareBuf, h, if_pos hp]
      rw [hres]
      exact iff_of_true ⟨hacc, hkept⟩ (.inl hp)
    · have hres : prepareBuf cfg s req evs ret =
          prepareBufReply (processEvents cfg s₁ evs) ⟨t, i⟩ ret := by
        simp only [prepareBuf, h, if_neg hp]
      set fl : PrepareInFlight := ⟨t, i⟩
      have hfl : (s₁.queues fl.queue).buffers[fl.slot]? = some b' := by
        rw [hs₁, setQueue_setBuffer_slot s hb hb b', if_pos ⟨rfl, rfl⟩]
      have hharm : PrepareHarmless s req ret ↔ ret ≠ 0 ∨ b'.idle := by
        have hidle : b'.idle ↔ b.idle := by
          simp only [MediaBuffer.idle, onDevice_congr hf, done_congr hf]
        simp only [PrepareHarmless, hp, Bool.false_eq_true, false_or, hc, Except.ok.injEq,
          Prod.mk.injEq, and_imp, hidle]
        simp
      rw [hres, hharm]
      constructor
      · rintro ⟨hafter, -⟩
        exact (prepareBufReply_accounted_iff cfg hacc evs hfl).mp hafter
      · intro hok
        refine ⟨(prepareBufReply_accounted_iff cfg hacc evs hfl).mpr hok, ?_⟩
        exact hkept.trans (prepareBufReply_kept cfg evs hfl hok)

def prepareRequest : BufferReq :=
  ⟨{ (default : V4l2Buffer) with type := 1, memory := memoryMmap }, []⟩

/-- PREPARE_BUF fails on the completed slot, and all is as before. -/
theorem prepare_buf_keeps_ownership_iff_failed :
    LinksOnce ⟨false, false, false⟩
      (prepareBuf ⟨false, false, false⟩ completedSlotState prepareRequest [] (-einval)).2 := by
  have h := prepare_buf_keeps_ownership_iff ⟨false, false, false⟩ completedSlotState
    prepareRequest [] (-einval) completedSlotState_accounted
  exact (h.mpr (.inr (.inl (by decide)))).2.2

/-- PREPARE_BUF succeeds on the completed slot. It is on `pending_dqbufs`
without its mark, so it can be queued and completed again, and is then on the
list twice. -/
theorem prepare_buf_loses_done_slot :
    (∀ t, Accounted (completedSlotState.queues t)) ∧
      (prepareBuf ⟨false, false, false⟩ completedSlotState prepareRequest [] 0).1 = 0 ∧
      ¬ (∀ t, Accounted ((prepareBuf ⟨false, false, false⟩ completedSlotState
        prepareRequest [] 0).2.queues t)) ∧
      ∃ d, Trace.run (Machine.step ⟨false, false, false⟩)
          ⟨(prepareBuf ⟨false, false, false⟩ completedSlotState prepareRequest [] 0).2, none⟩
          (completedSlotRun.drop 1) = some d ∧
        (d.session.queues 1).pendingDqbufs = [0, 0] := by
  refine ⟨completedSlotState_accounted, by decide, ?_, _, rfl, by decide⟩
  intro hall
  have hpending := (hall 1).pending 0
  revert hpending
  decide

end VirtioMedia.Driver
