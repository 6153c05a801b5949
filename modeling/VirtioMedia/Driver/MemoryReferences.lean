import VirtioMedia.Driver.MemoryTracking

/-!
# DQBUF returns the memory references that were given

The invariant of `MemoryTracking` is kept by every ioctl and every event of an
undisturbed run, slot by slot. What DQBUF copies back is then what the ioctl
that gave the memory had passed. PREPARE_BUF looks at no flag before it writes
the slot, so a run is disturbed when it names a slot in use.
-/

namespace VirtioMedia.Driver

open V4l2

/-! ### Replacing slots of a session -/

section Slots

variable {P Q : Fin numQueues → Nat → MediaBuffer → Prop} {s : Session}
  {t : Fin numQueues} {q : QueueState}

/-- One slot of one queue is replaced. -/
theorem forall_slots_set {i : Nat} {b : MediaBuffer}
    (hs : ∀ u j c, (s.queues u).buffers[j]? = some c → P u j c)
    (hq : q.buffers = (s.queues t).buffers.set i b)
    (hne : ∀ u j c, ¬(u = t ∧ j = i) → P u j c → Q u j c) (hnew : Q t i b) :
    ∀ u j c, ((s.setQueue t q).queues u).buffers[j]? = some c → Q u j c := by
  intro u j c hc
  rw [Session.setQueue_queues] at hc
  by_cases hu : u = t
  · subst hu
    rw [if_pos rfl, hq] at hc
    by_cases hj : j = i
    · subst hj
      have hlt := (List.getElem?_eq_some_iff.mp hc).1
      rw [List.getElem?_set_self (by simpa using hlt), Option.some.injEq] at hc
      exact hc ▸ hnew
    · rw [List.getElem?_set_ne (Ne.symm hj)] at hc
      exact hne u j c (fun h => hj h.2) (hs u j c hc)
  · rw [if_neg hu] at hc
    exact hne u j c (fun h => hu h.1) (hs u j c hc)

/-- All slots of one queue are replaced. -/
theorem forall_slots_queue
    (hs : ∀ u j c, (s.queues u).buffers[j]? = some c → P u j c)
    (hne : ∀ u j c, u ≠ t → P u j c → Q u j c) (hnew : ∀ j, ∀ c ∈ q.buffers, Q t j c) :
    ∀ u j c, ((s.setQueue t q).queues u).buffers[j]? = some c → Q u j c := by
  intro u j c hc
  rw [Session.setQueue_queues] at hc
  by_cases hu : u = t
  · subst hu
    rw [if_pos rfl] at hc
    exact hnew j c (List.mem_of_getElem? hc)
  · rw [if_neg hu] at hc
    exact hne u j c hu (hs u j c hc)

end Slots

/-- An event replaces the slot it is accepted for, and nothing else. -/
theorem processDqbufEvent_cases (cfg : Config) (s : Session) (ev : DqbufEvent) :
    processDqbufEvent cfg s ev = s ∨
    ∃ t b q, queueIndex ev.buffer.type = some t ∧
      (s.queues t).buffers[ev.buffer.index.toNat]? = some b ∧
      (s.queues t).accepts ev.buffer.type ev = true ∧
      q.buffers = (s.queues t).buffers.set ev.buffer.index.toNat (completedSlot cfg ev b) ∧
      processDqbufEvent cfg s ev = s.setQueue t q := by
  have hself (t : Fin numQueues) : s.setQueue t (s.queues t) = s := by
    simp [Session.setQueue]
  cases ht : queueIndex ev.buffer.type with
  | none => exact .inl (by simp [processDqbufEvent, ht])
  | some t =>
      cases hb : (s.queues t).buffers[ev.buffer.index.toNat]? with
      | none =>
          left
          simp only [processDqbufEvent, ht, QueueState.processDqbuf, hb, hself]
      | some b =>
          by_cases hacc : (s.queues t).accepts ev.buffer.type ev = true
          · right
            refine ⟨t, b, (s.queues t).processDqbuf cfg ev.buffer.type ev, rfl, hb, hacc, ?_, ?_⟩
            · simp [QueueState.processDqbuf, hb, hacc, QueueState.setBuffer]
            · simp only [processDqbufEvent, ht]
          · left
            simp only [processDqbufEvent, ht, QueueState.processDqbuf, hb, hacc,
              Bool.false_eq_true, if_false, hself]

/-- The slot of an outstanding PREPARE_BUF is not touched by an event. -/
theorem TrackerInv.event {s : Tracker} (hs : TrackerInv s) (cfg : Config) (ev : DqbufEvent)
    (hok : completionUnprepared s.driver.session ev = true) :
    TrackerInv { s with
      driver := { s.driver with session := processDqbufEvent cfg s.driver.session ev } } := by
  have hmachine := hs.machine.event cfg ev
  rcases processDqbufEvent_cases cfg s.driver.session ev with h | ⟨t, b, q, ht, hb, hacc, hq, h⟩
  · rw [h]
    exact hs
  · rw [h] at hmachine ⊢
    have hon := onDevice_of_accepts hacc hb
    have hflag : hasFlag ev.buffer.flags bufFlagPrepared = false := by
      simpa [completionUnprepared, ht, hacc] using hok
    refine ⟨hmachine, ?_, hs.inFlight, ?_⟩
    · exact forall_slots_set hs.slots hq (fun u j c _ hc => hc)
        ((hs.slots t _ b hb).complete hon cfg ev hflag)
    · intro fl req hp
      obtain ⟨hin, c, hc, hidle, hold⟩ := hs.preparing fl req hp
      refine ⟨hin, c, ?_, hidle, hold⟩
      have hne : ¬(fl.queue = t ∧ fl.slot = ev.buffer.index.toNat) := by
        rintro ⟨rfl, hslot⟩
        rw [hslot, hb, Option.some.injEq] at hc
        exact not_idle_of_onDevice hon (hc ▸ hidle)
      change ((s.driver.session.setQueue t q).queues fl.queue).buffers[fl.slot]? = some c
      rw [Session.setQueue_queues]
      by_cases hu : fl.queue = t
      · rw [if_pos hu, hq, List.getElem?_set_ne, ← hu, hc]
        exact fun hslot => hne ⟨hu, hslot.symm⟩
      · rw [if_neg hu, hc]

/-- Completions for slots that were not prepared since. -/
theorem TrackerInv.events {s : Tracker} (hs : TrackerInv s) (cfg : Config)
    (evs : List DqbufEvent) (hok : completionsUnprepared cfg s.driver.session evs = true) :
    TrackerInv { s with
      driver := { s.driver with session := processEvents cfg s.driver.session evs } } := by
  simp only [completionsUnprepared, decide_eq_true_eq] at hok
  induction evs generalizing s with
  | nil => exact hs
  | cons ev rest ih => exact ih (hs.event cfg ev hok.1) (hok.2 _ rfl)

/-- The ghosts of the other slots are those before. -/
theorem updateSlot_of_ne {f : Fin numQueues → Nat → Handover} {t u : Fin numQueues}
    {i j : Nat} (h : ¬(u = t ∧ j = i)) (x : Handover) : updateSlot f t i x u j = f u j := by
  by_cases hu : u = t
  · subst hu
    have hj : j ≠ i := fun hj => h ⟨rfl, hj⟩
    simp [updateSlot, hj]
  · simp [updateSlot, hu]

@[simp] theorem updateSlot_self (f : Fin numQueues → Nat → Handover) (t : Fin numQueues)
    (i : Nat) (x : Handover) : updateSlot f t i x t i = x := by
  simp [updateSlot]

/-- A queue whose slots are all emptied, with no command outstanding. -/
theorem TrackerInv.forget {s : Tracker} (hs : TrackerInv s) (hin : s.driver.inFlight = none)
    (hp : s.preparing = none) {t : Fin numQueues} {q : QueueState} {d : Session}
    (hd : ∀ u, d.queues u = (s.driver.session.setQueue t q).queues u)
    (hacc : ∀ u, Accounted (d.queues u))
    (hq : ∀ b ∈ q.buffers, b.planes.length = videoMaxPlanes ∧ b.buffer.flags = 0) :
    TrackerInv { s with driver := ⟨d, none⟩, slots := forgetQueue s.slots t } where
  machine := .ofIdle hacc
  slots := by
    intro u i b hb
    change (d.queues u).buffers[i]? = some b at hb
    rw [hd] at hb
    refine forall_slots_queue (P := s.SlotOk) (Q := Tracker.SlotOk
      { s with driver := ⟨d, none⟩, slots := forgetQueue s.slots t }) hs.slots ?_ ?_ u i b hb
    · intro u j c hu hc
      simpa only [Tracker.SlotOk, forgetQueue, Function.update_of_ne hu, hin] using hc
    · intro j c hc
      simp only [Tracker.SlotOk, forgetQueue, Function.update_self]
      exact .ofIdle (hq c hc).1 (hq c hc).2
  inFlight := by
    intro fl hfl
    cases hfl
  preparing := by
    intro fl req h
    rw [hp] at h
    cases h

/-! ### The ioctls keep the invariant -/

/-- No slot changes and no command is outstanding. -/
theorem TrackerInv.sameSlots {s : Tracker} (hs : TrackerInv s)
    (hin : s.driver.inFlight = none) {d : Session} (hacc : ∀ u, Accounted (d.queues u))
    (hd : ∀ u, (d.queues u).buffers = (s.driver.session.queues u).buffers) :
    TrackerInv { s with driver := ⟨d, none⟩ } where
  machine := .ofIdle hacc
  slots := by
    intro u i b hb
    change (d.queues u).buffers[i]? = some b at hb
    rw [hd] at hb
    simpa only [Tracker.SlotOk, hin] using hs.slots u i b hb
  inFlight := by
    intro fl hfl
    cases hfl
  preparing := by
    intro fl req h
    obtain ⟨-, b, hb, hrest⟩ := hs.preparing fl req h
    exact ⟨rfl, b, by rw [hd]; exact hb, hrest⟩

theorem streamon_buffers (s : Session) (type : UInt32) (ret : Int) (u : Fin numQueues) :
    ((streamon s type ret).2.queues u).buffers = (s.queues u).buffers := by
  unfold streamon
  split
  · rfl
  · split
    · rfl
    · split
      · rfl
      · rw [Session.setQueue_queues]
        split
        · rename_i h
          subst h
          rfl
        · rfl

/-- Slots that are cleared are free. -/
theorem clearQueue_slots {s : Tracker} (hs : TrackerInv s) (t : Fin numQueues) :
    ∀ b ∈ (clearQueue (s.driver.session.queues t)).buffers,
      b.planes.length = videoMaxPlanes ∧ b.buffer.flags = 0 := by
  intro b hb
  obtain ⟨c, hc, rfl⟩ := List.mem_map.mp hb
  obtain ⟨i, hi⟩ := List.mem_iff_getElem?.mp hc
  exact ⟨(hs.slots t i c hi).planes, rfl⟩

theorem reallocQueue_slots (q : QueueState) (reply : RequestBuffers) (ok : Bool) :
    ∀ b ∈ (reallocQueue q reply ok).buffers,
      b.planes.length = videoMaxPlanes ∧ b.buffer.flags = 0 := by
  intro b hb
  cases ok with
  | false => exact absurd hb (by simp [reallocQueue])
  | true =>
      rw [List.eq_of_mem_replicate hb]
      exact ⟨by decide, rfl⟩

/-- STREAMOFF leaves no slot that DQBUF could return. -/
theorem TrackerInv.streamoff {s : Tracker} (hs : TrackerInv s)
    (hin : s.driver.inFlight = none) (hp : s.preparing = none) (cfg : Config)
    (type : UInt32) (ret : Int) (drained : List DqbufEvent)
    (hok : completionsUnprepared cfg s.driver.session drained = true) :
    TrackerInv { s with
      driver := ⟨(Driver.streamoff cfg s.driver.session type ret drained).2, none⟩
      slots := s.slotsAfter cfg ⟨(Driver.streamoff cfg s.driver.session type ret drained).2,
        none⟩ (.streamoff type ret drained) } := by
  have hacc := accounted_streamoff hs.machine.queues cfg type ret drained
  have hsame := hs.sameSlots hin hs.machine.queues fun _ => rfl
  unfold Driver.streamoff at hacc ⊢
  simp only [Tracker.slotsAfter]
  cases ht : queueIndex type with
  | none => exact hsame
  | some t =>
      simp only [ht] at hacc
      by_cases hr : ret < 0
      · simp only [hr, if_true]
        exact hsame
      · simp only [hr, if_false] at hacc ⊢
        have hev := hs.events cfg drained hok
        exact hev.forget hin hp (fun _ => rfl) hacc (clearQueue_slots hev t)

/-- REQBUFS leaves no slot that DQBUF could return. -/
theorem TrackerInv.reqbufs {s : Tracker} (hs : TrackerInv s)
    (hin : s.driver.inFlight = none) (hp : s.preparing = none) {cfg : Config}
    {b reply : RequestBuffers} {ret : Int} {drained : List DqbufEvent} {vzallocOk : Bool}
    (hok : completionsUnprepared cfg s.driver.session drained = true)
    {r : Int × RequestBuffers × Session}
    (h : Driver.reqbufs cfg s.driver.session b ret reply drained vzallocOk = some r) :
    TrackerInv { s with
      driver := ⟨r.2.2, none⟩
      slots := s.slotsAfter cfg ⟨r.2.2, none⟩ (.reqbufs b ret reply drained vzallocOk) } := by
  have hacc := accounted_reqbufs hs.machine.queues h
  have hsame := hs.sameSlots hin hs.machine.queues fun _ => rfl
  simp only [Tracker.slotsAfter]
  rcases reqbufs_cases h with ⟨hrefused, hr⟩ | ⟨hrefused, t, m, ht, hr⟩
  · rw [hr, hrefused, if_pos rfl]
    exact hsame
  · rw [hrefused, ht]
    have hev := hs.events cfg drained hok
    have hslots := reallocQueue_slots
      ((processEvents cfg s.driver.session drained).queues t) reply (vzallocOk || reply.count == 0)
    apply hev.forget hin hp _ hacc hslots
    intro u
    rw [hr]

/-- Everything QBUF can do to its slot before the command. -/
theorem qbufSubmit_slot (cfg : Config) (s : Session) (req : BufferReq)
    (ans : Nat → PlaneAnswers) :
    (∃ e, qbufSubmit cfg s req ans = (.error e, s)) ∨
    (∃ e t b b', qbufCheck s req = .ok (t, b) ∧ b'.buffer.flags = b.buffer.flags ∧
      b'.planes = b.planes ∧
      (b'.buffer.m = b.buffer.m ∨ hasFlag b.buffer.flags bufFlagPrepared = false) ∧
      qbufSubmit cfg s req ans = (.error e,
        s.setQueue t ((s.queues t).setBuffer req.buffer.index.toNat b'))) ∨
    (∃ t b c b', qbufCheck s req = .ok (t, b) ∧ c.buffer = b.buffer ∧ c.planes = b.planes ∧
      b' = (if hasFlag b.buffer.flags bufFlagPrepared then c else storeM req c) ∧
      qbufSubmit cfg s req ans = (.ok ⟨t, req.buffer.index.toNat, b.buffer.flags⟩,
        s.setQueue t (enqueueSlot (s.queues t) req.buffer.index.toNat b'))) := by
  cases hc : qbufCheck s req with
  | error e => exact .inl ⟨e, by simp [qbufSubmit, hc]⟩
  | ok tb =>
      obtain ⟨t, b⟩ := tb
      right
      set prep := if req.buffer.memory == memoryDmabuf then prepareImports cfg b req ans
        else (0, b) with hprep
      have hbuf : prep.2.buffer = b.buffer ∧ prep.2.planes = b.planes := by
        rw [hprep]
        split <;> simp
      simp only [qbufSubmit, hc, ← hprep, hbuf.1]
      split
      · exact .inl ⟨_, t, b, _, rfl, by rw [hbuf.1], hbuf.2, .inl (by rw [hbuf.1]), rfl⟩
      · split
        · rename_i hflag
          exact .inr ⟨t, b, prep.2, _, rfl, hbuf.1, hbuf.2, by rw [if_pos hflag], rfl⟩
        · rename_i hflag
          split
          · exact .inl ⟨_, t, b, { prep.2 with buffer := { b.buffer with m := req.buffer.m } },
              rfl, rfl, hbuf.2, .inr (by simpa using hflag), rfl⟩
          · exact .inr ⟨t, b, prep.2, _, rfl, hbuf.1, hbuf.2, by rw [if_neg hflag], rfl⟩

/-- QBUF stores the references that it was given. -/
theorem TrackerInv.qbufSubmit {s : Tracker} (hs : TrackerInv s)
    (hp : s.preparing = none) (hin : s.driver.inFlight = none) (cfg : Config)
    (req : BufferReq) (ans : Nat → PlaneAnswers) :
    TrackerInv { s with
      driver := ⟨(Driver.qbufSubmit cfg s.driver.session req ans).2,
        (Driver.qbufSubmit cfg s.driver.session req ans).1.toOption⟩
      slots := s.slotsAfter cfg ⟨(Driver.qbufSubmit cfg s.driver.session req ans).2,
        (Driver.qbufSubmit cfg s.driver.session req ans).1.toOption⟩ (.qbufSubmit req ans) } := by
  have hmachine := hs.machine.qbufSubmit cfg req ans
  have hpreparing (fl : PrepareInFlight) (r : BufferReq) : s.preparing ≠ some (fl, r) := by
    simp [hp]
  simp only [Tracker.slotsAfter]
  rcases qbufSubmit_slot cfg s.driver.session req ans with
    ⟨e, h⟩ | ⟨e, t, b, b', hc, hf, hpl, hm, h⟩ | ⟨t, b, c, b', hc, hcb, hcp, hb', h⟩
  · rw [h] at hmachine ⊢
    exact hs.sameSlots hin hs.machine.queues fun _ => rfl
  · rw [h] at hmachine ⊢
    obtain ⟨hb, hidle, -⟩ := idle_of_qbufCheck hc
    refine ⟨hmachine, ?_, fun fl hfl => absurd hfl (by simp [Except.toOption]),
      fun fl r h => absurd h (hpreparing fl r)⟩
    refine forall_slots_set (P := s.SlotOk) hs.slots rfl ?_ ?_
    · intro u j c _ hslot
      simpa only [Tracker.SlotOk, Except.toOption, hin] using hslot
    · have hslot := hs.slots t _ b hb
      simp only [Tracker.SlotOk, hin] at hslot
      exact hslot.idleStore hidle hf (by rw [hpl]) (hm.imp (fun h => ⟨h, hpl⟩) .inr)
  · rw [h] at hmachine ⊢
    obtain ⟨hb, hidle, -, -, ht⟩ := idle_of_qbufCheck hc
    refine ⟨hmachine, ?_, ?_, fun fl r h => absurd h (hpreparing fl r)⟩
    · refine forall_slots_set (P := s.SlotOk) (b := b'.setFlags bufFlagQueued)
        hs.slots rfl ?_ ?_
      · intro u j c hne hslot
        simp only [Tracker.SlotOk, Except.toOption, updateSlot_of_ne hne]
        refine ⟨hslot.planes, hslot.given, hslot.prepared, hslot.flag, ?_, hslot.unprepared⟩
        intro hni _
        apply hslot.consumed hni
        simp [hin]
      · have hnew := (hs.slots t _ b hb).submit hidle (by simp [hp])
          hcb hcp ht
        simp only [Tracker.SlotOk, Except.toOption, updateSlot_self, hb']
        refine ⟨hnew.planes, hnew.given, hnew.prepared, hnew.flag, ?_, hnew.unprepared⟩
        intro _ hfly
        exact absurd ⟨_, rfl, rfl, rfl⟩ hfly
    · intro fl hfl
      simp only [Except.toOption, Option.some.injEq] at hfl
      subst hfl
      simpa [Except.toOption] using (hs.slots t _ b hb).flag hidle

theorem releasedSlot_buffer (memory : UInt32) (b : MediaBuffer) :
    (releasedSlot memory b).buffer = b.buffer ∧ (releasedSlot memory b).planes = b.planes := by
  unfold releasedSlot
  split <;> exact ⟨rfl, rfl⟩

/-- What a failed QBUF leaves of its slot, done or not. -/
theorem failQbuf_buffers {q : QueueState} {fl : QbufInFlight} {b : MediaBuffer}
    (hb : q.buffers[fl.slot]? = some b) :
    (failQbuf q fl).buffers = q.buffers.set fl.slot
      (if b.done then releasedSlot q.memory b
        else (releasedSlot q.memory b).setFlags fl.oldFlags) := by
  simp only [failQbuf, hb]
  split <;> rfl

/-- The slot is with the device, or free again. -/
theorem TrackerInv.qbufReply {s : Tracker} (hs : TrackerInv s) {fl : QbufInFlight}
    (hfl : s.driver.inFlight = some fl) (cfg : Config) (ret : Int) :
    TrackerInv { s with
      driver := ⟨(Driver.qbufReply s.driver.session fl ret).2, none⟩
      slots := s.slotsAfter cfg ⟨(Driver.qbufReply s.driver.session fl ret).2, none⟩
        (.qbufReply ret) } := by
  have hmachine := hs.machine.qbufReply hfl ret
  obtain ⟨⟨b, hb, hown⟩, holdq, holdd⟩ := hs.machine.inFlight fl hfl
  have hni : ¬b.idle := hown.elim not_idle_of_onDevice not_idle_of_done
  have hslot := hs.slots fl.queue fl.slot b hb
  have hother (u : Fin numQueues) (j : Nat) (c : MediaBuffer)
      (hne : ¬(u = fl.queue ∧ j = fl.slot)) (hc : s.SlotOk u j c) :
      SlotInv u False (∃ req, s.preparing = some (⟨u, j⟩, req)) (s.slots u j) c := by
    refine ⟨hc.planes, hc.given, hc.prepared, hc.flag, ?_, hc.unprepared⟩
    intro hnc _
    apply hc.consumed hnc
    rintro ⟨fl', hfl', hq, hsl⟩
    rw [hfl, Option.some.injEq] at hfl'
    subst hfl'
    exact hne ⟨hq.symm, hsl.symm⟩
  have hpreparing (p : PrepareInFlight) (r : BufferReq) : s.preparing ≠ some (p, r) := by
    intro h
    have := (hs.preparing p r h).1
    rw [hfl] at this
    cases this
  simp only [Tracker.slotsAfter, hfl]
  unfold Driver.qbufReply at hmachine ⊢
  by_cases hr : ret = 0
  · subst hr
    refine ⟨hmachine, ?_, fun _ h => absurd h (by simp), fun p r h => absurd h (hpreparing p r)⟩
    intro u j c hc
    change (s.driver.session.queues u).buffers[j]? = some c at hc
    simp only [Tracker.SlotOk, reduceCtorEq, false_and, exists_false, BEq.rfl, Bool.true_or,
      if_true]
    by_cases hne : u = fl.queue ∧ j = fl.slot
    · obtain ⟨rfl, rfl⟩ := hne
      rw [updateSlot_self]
      rw [hb, Option.some.injEq] at hc
      exact hc ▸ hslot.consume hni
    · rw [updateSlot_of_ne hne]
      exact hother u j c hne (hs.slots u j c hc)
  · have hr' : (ret != 0) = true := by simpa using hr
    have hr'' : (ret == 0) = false := by simpa using hr
    rw [if_pos hr'] at hmachine ⊢
    simp only [hr'', Bool.false_or, slotDone, hb, Option.any_some]
    refine ⟨hmachine, ?_, fun _ h => absurd h (by simp), fun p r h => absurd h (hpreparing p r)⟩
    obtain ⟨hrb, hrp⟩ := releasedSlot_buffer (s.driver.session.queues fl.queue).memory b
    refine forall_slots_set (P := s.SlotOk) hs.slots (failQbuf_buffers hb) ?_ ?_
    · intro u j c hne hc
      simp only [Tracker.SlotOk, reduceCtorEq, false_and, exists_false]
      have hslots : (if b.done = true then updateSlot s.slots fl.queue fl.slot
          { s.slots fl.queue fl.slot with prepared := none } else s.slots) u j =
          s.slots u j := by
        split
        · exact updateSlot_of_ne hne _
        · rfl
      rw [hslots]
      exact hother u j c hne hc
    · simp only [Tracker.SlotOk, reduceCtorEq, false_and, exists_false]
      by_cases hd : b.done = true
      · simp only [hd, if_true, updateSlot_self]
        exact (hslot.consume hni).congr (by rw [hrb]) (by rw [hrb]) hrp
      · -- the flags saved before the command are restored
        simp only [hd, Bool.false_eq_true, if_false]
        set b' := (releasedSlot (s.driver.session.queues fl.queue).memory b).setFlags
          fl.oldFlags with hb'
        have hi : b'.idle := by
          simp [hb', MediaBuffer.idle, MediaBuffer.onDevice, MediaBuffer.done, holdq, holdd]
        have hm : b'.buffer.m = b.buffer.m := by rw [← hrb]; rfl
        have hp : b'.planes = b.planes := hrp
        refine ⟨by rw [hp, hslot.planes], fun hn => absurd hi hn, ?_, ?_,
          fun hn => absurd hi hn, fun hdn => absurd hi (not_idle_of_done hdn)⟩
        · intro hnb p hpr
          exact (hslot.prepared hnb p hpr).congr hm fun k => by rw [hp]
        · intro _
          exact hs.inFlight fl hfl

/-- Everything a successful pop does. -/
theorem dqbufPop_cases {s s' : Session} {t : Fin numQueues} {req res : BufferReq}
    (h : dqbufPop s t req = some (res, s')) :
    ∃ i rest b q, (s.queues t).pendingDqbufs = i :: rest ∧
      (s.queues t).buffers[i]? = some b ∧ res = dqbufResult req (dequeuedSlot b) ∧
      q.buffers = (s.queues t).buffers.set i (dequeuedSlot b) ∧ s' = s.setQueue t q := by
  simp only [dqbufPop] at h
  split at h
  · cases h
  · rename_i i rest hp
    split at h
    · cases h
    · rename_i b hb
      simp only [Option.some.injEq, Prod.mk.injEq] at h
      exact ⟨i, rest, b, _, hp, hb, h.1.symm, rfl, h.2.symm⟩

/-- The slot that DQBUF pops is done. -/
theorem done_of_pending {q : QueueState} (hq : Accounted q) {i : Nat} {rest : List Nat}
    (hp : q.pendingDqbufs = i :: rest) {b : MediaBuffer} (hb : q.buffers[i]? = some b) :
    b.done = true := by
  have := (hq.pending i).mp (by simp [hp])
  simpa [hb] using this

/-- DQBUF frees a slot. -/
theorem TrackerInv.dqbufPop {s : Tracker} (hs : TrackerInv s)
    (hin : s.driver.inFlight = none) (hp : s.preparing = none) {t : Fin numQueues}
    {req res : BufferReq} {s' : Session}
    (h : Driver.dqbufPop s.driver.session t req = some (res, s')) :
    TrackerInv { s with driver := ⟨s', none⟩ } := by
  have hacc := Accounted.dqbufPop hs.machine.queues h
  obtain ⟨i, rest, b, q, hpend, hb, -, hq, rfl⟩ := dqbufPop_cases h
  refine ⟨.ofIdle hacc, ?_, fun _ h => absurd h (by simp), fun _ _ h => absurd h (by simp [hp])⟩
  refine forall_slots_set (P := s.SlotOk) hs.slots hq ?_ ?_
  · intro u j c _ hc
    simpa only [Tracker.SlotOk, hin] using hc
  · have hdone := done_of_pending (hs.machine.queues t) hpend hb
    have hslot := hs.slots t i b hb
    simp only [Tracker.SlotOk, hin] at hslot
    exact hslot.dequeue hdone (by simp)

/-- Replacing an idle slot by an idle one keeps the accounts. -/
theorem Accounted.setBuffer_idle {q : QueueState} {i : Nat} {b b' : MediaBuffer}
    (hq : Accounted q) (hb : q.buffers[i]? = some b) (hi : b.idle) (hi' : b'.idle) :
    Accounted (q.setBuffer i b') where
  count := by
    have h := countP_set_slot hb b'
    rw [hi.1, hi'.1] at h
    have := hq.count
    simp only [QueueState.setBuffer]
    omega
  pending := by
    intro j
    rw [QueueState.setBuffer, exists_done_set_iff hb, hq.pending]
    by_cases hj : j = i
    · subst hj
      simp [hb, hi.2, hi'.2]
    · simp [hj]
  nodup := hq.nodup
  noWrap := hq.noWrap
  small := by simpa [QueueState.setBuffer] using hq.small

theorem prepareBufCheck_ok {s : Session} {req : BufferReq} {t : Fin numQueues}
    {b : MediaBuffer} (h : prepareBufCheck s req = .ok (t, b)) :
    queueIndex req.buffer.type = some t ∧
      (s.queues t).buffers[req.buffer.index.toNat]? = some b := by
  unfold prepareBufCheck at h
  split at h
  · cases h
  · split at h
    · cases h
    · rename_i u hu
      split at h
      · cases h
      · rename_i c hc
        cases h
        exact ⟨hu, hc⟩

theorem idle_of_no_flags {b : MediaBuffer}
    (h : hasFlag b.buffer.flags (bufFlagQueued ||| bufFlagDone) = false) : b.idle := by
  simp only [hasFlag_mask_or, Bool.or_eq_false_iff] at h
  exact ⟨by simp [MediaBuffer.onDevice, h.1], h.2⟩

/-- PREPARE_BUF of a slot that is neither queued nor done. -/
theorem TrackerInv.prepareSubmit {s : Tracker} (hs : TrackerInv s)
    (hin : s.driver.inFlight = none) (hp : s.preparing = none) (req : BufferReq)
    (hok : prepareUndisturbed s.driver.session req = true) :
    TrackerInv { s with
      driver := { s.driver with session := (prepareBufSubmit s.driver.session req).2 }
      preparing := (prepareBufSubmit s.driver.session req).1.toOption.map
        fun fl => (fl, req) } := by
  cases hc : prepareBufCheck s.driver.session req with
  | error e =>
      have h : prepareBufSubmit s.driver.session req = (.error e, s.driver.session) := by
        simp only [prepareBufSubmit, hc]
      rw [h]
      exact ⟨hs.machine, by simpa [Tracker.SlotOk, Except.toOption, hp] using hs.slots,
        hs.inFlight, fun _ _ h => absurd h (by simp [Except.toOption])⟩
  | ok tb =>
      obtain ⟨t, b⟩ := tb
      obtain ⟨ht, hb⟩ := prepareBufCheck_ok hc
      simp only [prepareUndisturbed, hc, Bool.and_eq_true, Bool.not_eq_true',
        Bool.and_eq_false_imp] at hok
      have hi := idle_of_no_flags hok.1
      have hslot := hs.slots t _ b hb
      by_cases hlen : (typeIsMultiplanar req.buffer.type &&
          decide (req.buffer.length.toNat > videoMaxPlanes)) = true
      · have h : prepareBufSubmit s.driver.session req = (.error (-einval),
            s.driver.session.setQueue t ((s.driver.session.queues t).setBuffer
              req.buffer.index.toNat
                { b with buffer := { b.buffer with m := req.buffer.m } })) := by
          simp only [prepareBufSubmit, hc, hlen, if_true]
        rw [h]
        refine ⟨⟨accounted_setQueue hs.machine.queues t
              ((hs.machine.queues t).setBuffer_same hb rfl),
            fun fl h => absurd h (by simp [hin])⟩, ?_, fun fl h => absurd h (by simp [hin]),
          fun _ _ h => absurd h (by simp [Except.toOption])⟩
        refine forall_slots_set (P := s.SlotOk) hs.slots rfl ?_ ?_
        · intro u j c _ hc
          simpa [Tracker.SlotOk, Except.toOption, hp] using hc
        · have hnot : hasFlag b.buffer.flags bufFlagPrepared = false := hok.2 (by simpa using hlen)
          have hnew := hslot.idleStore
            (c := { b with buffer := { b.buffer with m := req.buffer.m } })
            hi rfl rfl (.inr (.inr hnot))
          simpa [Tracker.SlotOk, Except.toOption, hp] using hnew
      · have h : prepareBufSubmit s.driver.session req = (.ok ⟨t, req.buffer.index.toNat⟩,
            s.driver.session.setQueue t ((s.driver.session.queues t).setBuffer
              req.buffer.index.toNat (storeM req b))) := by
          simp only [prepareBufSubmit, hc, hlen, Bool.false_eq_true, if_false]
        rw [h]
        refine ⟨⟨accounted_setQueue hs.machine.queues t
              ((hs.machine.queues t).setBuffer_same hb rfl),
            fun fl h => absurd h (by simp [hin])⟩, ?_, fun fl h => absurd h (by simp [hin]), ?_⟩
        · refine forall_slots_set (P := s.SlotOk) hs.slots rfl ?_ ?_
          · intro u j c hne hc
            refine ⟨hc.planes, hc.given, ?_, hc.flag, hc.consumed, hc.unprepared⟩
            intro _
            exact hc.prepared (by simp [hp])
          · have hbusy : SlotInv t
                (∃ fl, s.driver.inFlight = some fl ∧ fl.queue = t ∧
                  fl.slot = req.buffer.index.toNat) True
                (s.slots t req.buffer.index.toNat) b :=
              ⟨hslot.planes, hslot.given, fun hn => absurd trivial hn, hslot.flag, hslot.consumed,
                hslot.unprepared⟩
            have hnew := hbusy.idleStore (c := storeM req b) hi rfl
              (storeM_planes_length req b) (.inr (.inl trivial))
            refine ⟨hnew.planes, hnew.given, ?_, hnew.flag, hnew.consumed, hnew.unprepared⟩
            intro hn
            exact absurd ⟨req, rfl⟩ hn
        · intro fl r h
          simp only [Except.toOption, Option.map_some, Option.some.injEq, Prod.mk.injEq] at h
          obtain ⟨rfl, rfl⟩ := h
          refine ⟨hin, storeM req b, ?_, (idle_congr rfl).mpr hi, holds_storeM ht hslot.planes⟩
          simp [QueueState.setBuffer, lt_length_of_slot hb]

/-- PREPARE_BUF that succeeded, or found nothing prepared. -/
theorem TrackerInv.prepareReply {s : Tracker} (hs : TrackerInv s) {fl : PrepareInFlight}
    {req : BufferReq} (hp : s.preparing = some (fl, req)) (ret : Int)
    (hok : ret = 0 ∨ slotPrepared s.driver.session fl = false) :
    TrackerInv { s with
      driver := { s.driver with session := (prepareBufReply s.driver.session fl ret).2 }
      preparing := none
      slots :=
        if ret == 0 then
          updateSlot s.slots fl.queue fl.slot
            { s.slots fl.queue fl.slot with prepared := some req }
        else s.slots } := by
  obtain ⟨hin, b, hb, hi, hold⟩ := hs.preparing fl req hp
  have hslot := hs.slots fl.queue fl.slot b hb
  have hother (u : Fin numQueues) (j : Nat) (c : MediaBuffer)
      (hne : ¬(u = fl.queue ∧ j = fl.slot)) (hc : s.SlotOk u j c) :
      SlotInv u (∃ f, s.driver.inFlight = some f ∧ f.queue = u ∧ f.slot = j) False
        (s.slots u j) c := by
    refine ⟨hc.planes, hc.given, ?_, hc.flag, hc.consumed, hc.unprepared⟩
    intro _
    apply hc.prepared
    rintro ⟨r, hr⟩
    rw [hp] at hr
    simp only [Option.some.injEq, Prod.mk.injEq] at hr
    exact hne ⟨by rw [hr.1], by rw [hr.1]⟩
  by_cases hr : ret = 0
  · subst hr
    have h : (prepareBufReply s.driver.session fl 0).2 = s.driver.session.setQueue fl.queue
        ((s.driver.session.queues fl.queue).setBuffer fl.slot
          (b.setFlags bufFlagPrepared)) := by
      simp [prepareBufReply, hb]
    rw [h]
    refine ⟨⟨accounted_setQueue hs.machine.queues fl.queue
        ((hs.machine.queues fl.queue).setBuffer_idle hb hi (prepared_idle b)),
        fun f h => absurd h (by simp [hin])⟩, ?_, fun f h => absurd h (by simp [hin]),
      fun _ _ h => absurd h (by simp)⟩
    refine forall_slots_set (P := s.SlotOk) hs.slots rfl ?_ ?_
    · intro u j c hne hc
      simpa [Tracker.SlotOk, updateSlot_of_ne hne] using hother u j c hne hc
    · simpa [Tracker.SlotOk] using hslot.prepare hold
  · have h : (prepareBufReply s.driver.session fl ret).2 = s.driver.session := by
      simp [prepareBufReply, hr]
    rw [h]
    refine ⟨hs.machine, ?_, by simpa [hr] using hs.inFlight, fun _ _ h => absurd h (by simp)⟩
    intro u j c hc
    simp only [Tracker.SlotOk, beq_iff_eq, hr, if_false, reduceCtorEq, exists_false]
    by_cases hne : u = fl.queue ∧ j = fl.slot
    · -- a slot that is not prepared has nothing to lose
      obtain ⟨rfl, rfl⟩ := hne
      change (s.driver.session.queues fl.queue).buffers[fl.slot]? = some c at hc
      rw [hb, Option.some.injEq] at hc
      subst hc
      have hflag : hasFlag b.buffer.flags bufFlagPrepared = false := by
        simpa [slotPrepared, hb] using hok.resolve_left hr
      have hnone : (s.slots fl.queue fl.slot).prepared = none := by
        have := hslot.flag hi
        rw [hflag] at this
        exact Option.isSome_eq_false_iff.mp this.symm |> Option.isNone_iff_eq_none.mp
      refine ⟨hslot.planes, hslot.given, ?_, hslot.flag, hslot.consumed, hslot.unprepared⟩
      intro _ p hpr
      rw [hnone] at hpr
      cases hpr
    · exact hother u j c hne (hs.slots u j c hc)

/-! ### Runs -/

/-- The states in which an ioctl may start. -/
theorem base_step {cfg : Config} {s s' : Tracker} {a : Action} (ha : a.isEvent = false)
    (h : s.step cfg (.base a) = some s') :
    s.preparing = none ∧ ∃ d, s.driver.step cfg a = some d ∧
      s' = { s with driver := d, slots := s.slotsAfter cfg d a } := by
  simp only [Tracker.step, ha, Bool.not_false, Bool.and_true] at h
  split at h
  · cases h
  · rename_i hp
    simp only [Option.map_eq_some_iff] at h
    obtain ⟨d, hd, rfl⟩ := h
    exact ⟨by simpa using hp, d, hd, rfl⟩

/-- The ioctls and events of the queue model. -/
theorem TrackerInv.base {cfg : Config} {s s' : Tracker} {a : Action} (hs : TrackerInv s)
    (hok : undisturbed cfg s (.base a) = true) (h : s.step cfg (.base a) = some s') :
    TrackerInv s' := by
  cases a with
  | event ev =>
      simp only [Tracker.step, Action.isEvent, Bool.not_true, Bool.and_false,
        Bool.false_eq_true, if_false, Machine.step, Option.map_some, Option.some.injEq] at h
      subst h
      exact hs.event cfg ev hok
  | qbufReply ret =>
      obtain ⟨-, d, hd, rfl⟩ := base_step rfl h
      obtain ⟨fl, hfl, rfl⟩ := Machine.step_qbufReply hd
      exact hs.qbufReply hfl cfg ret
  | qbufSubmit req ans =>
      obtain ⟨hp, d, hd, rfl⟩ := base_step rfl h
      obtain ⟨hin, rfl⟩ := Machine.step_qbufSubmit hd
      exact hs.qbufSubmit hp hin cfg req ans
  | dqbuf req =>
      obtain ⟨hp, d, hd, rfl⟩ := base_step rfl h
      obtain ⟨hin, rfl | ⟨t, res, s', hpop, rfl⟩⟩ := Machine.step_dqbuf hd
      · exact hs
      · exact hs.dqbufPop hin hp hpop
  | streamon type ret =>
      obtain ⟨hp, d, hd, rfl⟩ := base_step rfl h
      obtain ⟨hin, rfl⟩ := Machine.step_streamon hd
      exact hs.sameSlots hin (accounted_streamon hs.machine.queues type ret)
        (streamon_buffers _ type ret)
  | streamoff type ret drained =>
      obtain ⟨hp, d, hd, rfl⟩ := base_step rfl h
      obtain ⟨hin, rfl⟩ := Machine.step_streamoff hd
      exact hs.streamoff hin hp cfg type ret drained hok
  | reqbufs b ret reply drained ok =>
      obtain ⟨hp, d, hd, rfl⟩ := base_step rfl h
      obtain ⟨hin, r, hr, rfl⟩ := Machine.step_reqbufs hd
      exact hs.reqbufs hin hp hok hr

/-- Those and PREPARE_BUF. -/
theorem TrackerInv.step {cfg : Config} {s s' : Tracker} {a : TrackerAction}
    (hs : TrackerInv s) (hok : undisturbed cfg s a = true) (h : s.step cfg a = some s') :
    TrackerInv s' := by
  cases a with
  | base a => exact hs.base hok h
  | prepareSubmit req =>
      simp only [Tracker.step] at h
      split at h
      · cases h
      · rename_i hn
        cases h
        simp only [Bool.or_eq_true, not_or, Bool.not_eq_true, Option.isSome_eq_false_iff,
          Option.isNone_iff_eq_none] at hn
        exact hs.prepareSubmit hn.2 hn.1 req hok
  | prepareReply ret =>
      simp only [Tracker.step, Option.map_eq_some_iff] at h
      obtain ⟨⟨fl, req⟩, hp, rfl⟩ := h
      apply hs.prepareReply hp ret
      simpa [undisturbed, hp] using hok
  | dqbufWoken req =>
      simp only [Tracker.step] at h
      split at h
      · cases h
      · rename_i hn
        simp only [Bool.or_eq_true, not_or, Bool.not_eq_true, Option.isSome_eq_false_iff,
          Option.isNone_iff_eq_none] at hn
        simp only [Option.bind_eq_some_iff, Option.map_eq_some_iff] at h
        obtain ⟨t, -, ⟨res, d⟩, hpop, rfl⟩ := h
        have := hs.dqbufPop hn.2 hn.1 hpop
        simpa only [hn.2] using this

theorem trackerInv_init (nonblocking : Bool) : TrackerInv (.init nonblocking) where
  machine := machineInv_init nonblocking
  slots := fun _ _ _ hb =>
    absurd hb (by simp [Tracker.init, Machine.init, Session.init, QueueState.init])
  inFlight := fun _ h => absurd h (by simp [Tracker.init, Machine.init])
  preparing := fun _ _ h => absurd h (by simp [Tracker.init])

theorem queueIndex_inj {a b : UInt32} {t : Fin numQueues} (ha : queueIndex a = some t)
    (hb : queueIndex b = some t) : a = b := by
  unfold queueIndex at ha hb
  split at ha
  · split at hb
    · simp only [Option.some.injEq] at ha hb
      apply UInt32.toNat_inj.mp
      exact (congrArg Fin.val ha).trans (congrArg Fin.val hb).symm
    · cases hb
  · cases ha

/-- What DQBUF copies back has the `m` unions of the slot. -/
theorem Holds.sameM {t : Fin numQueues} {g req : BufferReq} {b : MediaBuffer}
    (h : Holds t g b) (hb : b.planes.length = videoMaxPlanes)
    (ht : queueIndex req.buffer.type = some t) : SameM g req (dqbufResult req b) := by
  have htype := queueIndex_inj h.queue ht
  unfold SameM
  by_cases hm : typeIsMultiplanar g.buffer.type = true
  · rw [if_pos hm]
    intro k hk hn
    have hv : k < videoMaxPlanes := by omega
    rw [htype] at hm
    have hplane : (dqbufResult req b).plane k = b.planes.getD k default := by
      simp only [dqbufResult, hm, if_true, BufferReq.plane, List.getD_eq_getElem?_getD]
      rw [List.getElem?_append_left (by rw [List.length_take]; omega), List.getElem?_take_of_lt hn]
    rw [hplane]
    exact h.planes (htype ▸ hm) k hk hv
  · rw [if_neg hm]
    rw [htype] at hm
    simpa [dqbufResult, hm] using h.buffer

/-- DQBUF returns what the ioctl gave that handed the slot over. -/
theorem TrackerInv.returnsGiven {s : Tracker} (hs : TrackerInv s) (req : BufferReq) :
    ReturnsGiven s req := by
  intro t res s' ht hpop
  obtain ⟨i, rest, b, q, hpend, hb, rfl, -, -⟩ := dqbufPop_cases hpop
  have hslot := hs.slots t i b hb
  have hdone := done_of_pending (hs.machine.queues t) hpend hb
  obtain ⟨g, hg, hold⟩ := hslot.given (not_idle_of_done hdone)
  refine ⟨i, g, by rw [hpend]; rfl, hg, ?_⟩
  have hold' : Holds t g (dequeuedSlot b) := hold.congr rfl fun _ => rfl
  exact hold'.sameM hslot.planes ht

/-- In every run in which no PREPARE_BUF is made on a slot that is queued or
done, none is refused on a slot that is prepared, and no accepted completion
carries PREPARED, every DQBUF returns the `m` unions that userspace passed in
the ioctl that gave the device the memory: the last successful PREPARE_BUF if
the slot was prepared when it was queued, else the QBUF that was completed. -/
theorem dqbuf_returns_given_memory (cfg : Config) (nonblocking : Bool)
    (acts : List TrackerAction)
    (hok : Trace.Conforms (Tracker.step cfg) (fun s a => undisturbed cfg s a = true)
      (.init nonblocking) acts) :
    Trace.Conforms (Tracker.step cfg) DqbufReturnsGiven (.init nonblocking) acts := by
  apply Trace.conforms_of_invariant (fun _ _ _ hs ha h => TrackerInv.step hs ha h) _
    (trackerInv_init nonblocking) hok
  intro s a hs _
  cases a with
  | base a =>
      cases a with
      | dqbuf req => exact hs.returnsGiven req
      | _ => trivial
  | dqbufWoken req => exact hs.returnsGiven req
  | _ => trivial

/-- A buffer argument for slot 0 of a capture MMAP queue. -/
def captureReq (m : UInt64) : BufferReq :=
  ⟨{ (default : V4l2Buffer) with type := 1, memory := memoryMmap, m := m }, []⟩

/-- One slot is prepared with 4096; a QBUF with 8192 is refused and repeated
with 12288, and its completion waits to be dequeued. -/
def preparedRun : List TrackerAction :=
  let rb : RequestBuffers := ⟨1, 1, memoryMmap, 0, 0⟩
  let ans : PlaneAnswers := ⟨.error (-einval), .error (-einval), 0, 0⟩
  [.base (.reqbufs rb 0 rb [] true), .base (.streamon 1 0),
    .prepareSubmit (captureReq 4096), .prepareReply 0,
    .base (.qbufSubmit (captureReq 8192) fun _ => ans), .base (.qbufReply (-einval)),
    .base (.qbufSubmit (captureReq 12288) fun _ => ans), .base (.qbufReply 0),
    .base (.event ⟨(captureReq 0).buffer, [], 0⟩)]

theorem dqbuf_returns_given_memory_prepared :
    Trace.Conforms (Tracker.step ⟨false, false, false⟩) DqbufReturnsGiven (.init false)
        (preparedRun ++ [.base (.dqbuf (captureReq 0))]) ∧
      (Trace.run (Tracker.step ⟨false, false, false⟩) (.init false) preparedRun).any
        (fun s => (s.slots 1 0).given == some (captureReq 4096)) = true :=
  ⟨dqbuf_returns_given_memory ⟨false, false, false⟩ false _ (by decide +kernel),
    by decide +kernel⟩

/-- A slot is queued with 4096. While the device holds it, userspace tries
PREPARE_BUF with 8192, which the device refuses. -/
def refusedPrepareRun : List TrackerAction :=
  let rb : RequestBuffers := ⟨1, 1, memoryMmap, 0, 0⟩
  let ans : PlaneAnswers := ⟨.error (-einval), .error (-einval), 0, 0⟩
  [.base (.reqbufs rb 0 rb [] true), .base (.streamon 1 0),
    .base (.qbufSubmit (captureReq 4096) fun _ => ans), .base (.qbufReply 0),
    .prepareSubmit (captureReq 8192), .prepareReply (-einval),
    .base (.event ⟨(captureReq 0).buffer, [], 0⟩)]

/-- The DQBUF after it returns 8192 for the memory given with 4096. -/
theorem dqbuf_returns_given_memory_fails_refusedPrepare :
    ¬Trace.Conforms (Tracker.step ⟨false, false, false⟩) DqbufReturnsGiven (.init false)
        (refusedPrepareRun ++ [.base (.dqbuf (captureReq 0))]) := by
  intro h
  obtain ⟨s, hs⟩ := Option.isSome_iff_exists.mp (show (Trace.run
    (Tracker.step ⟨false, false, false⟩) (.init false) refusedPrepareRun).isSome = true by
      decide +kernel)
  have hfacts : (Trace.run (Tracker.step ⟨false, false, false⟩) (.init false)
      refusedPrepareRun).any (fun s =>
        (s.slots 1 0).given == some (captureReq 4096) &&
        (s.driver.session.queues 1).pendingDqbufs == [0] &&
        (dqbufPop s.driver.session 1 (captureReq 0)).any
          fun r => r.1.buffer.m == 8192) = true := by
    decide +kernel
  rw [hs, Option.any_some, Bool.and_eq_true, Bool.and_eq_true, beq_iff_eq, beq_iff_eq,
    Option.any_eq_true] at hfacts
  obtain ⟨⟨hgiven, hpend⟩, ⟨res, s'⟩, hpop, hm⟩ := hfacts
  obtain ⟨i, g, hi, hg, hsame⟩ := Trace.conforms_at h hs 1 res s' rfl hpop
  rw [hpend] at hi
  cases hi
  rw [hgiven] at hg
  cases hg
  rw [beq_iff_eq] at hm
  have hm' : res.buffer.m = 4096 := hsame
  rw [hm] at hm'
  exact absurd hm' (by decide)

end VirtioMedia.Driver
