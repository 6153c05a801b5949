import VirtioMedia.Driver.BufferIoctls
import VirtioMedia.Driver.QueueAccounting

/-!
# Memory references through a round trip

The driver keeps the `m` unions of a slot in the slot itself, written by
PREPARE_BUF and by QBUF of a slot that is not prepared. Two ghosts of every
slot say what they should be: the PREPARE_BUF that is in effect, and the ioctl
whose memory the device uses for the submission that is outstanding or
completed. A QBUF that succeeds, or that completes before it is refused, ends
the effect of PREPARE_BUF; STREAMOFF and REQBUFS end it for the whole queue.
-/

namespace VirtioMedia.Driver

open V4l2

/-- The ghosts of one slot. -/
structure Handover where
  prepared : Option BufferReq
  given : Option BufferReq
  deriving DecidableEq, Repr

structure Tracker where
  driver : Machine
  /-- The PREPARE_BUF command that is outstanding, with its argument. -/
  preparing : Option (PrepareInFlight × BufferReq)
  slots : Fin numQueues → Nat → Handover

def Tracker.init (nonblocking : Bool) : Tracker where
  driver := .init nonblocking
  preparing := none
  slots := fun _ _ => ⟨none, none⟩

inductive TrackerAction where
  | base (a : Action)
  | prepareSubmit (req : BufferReq)
  | prepareReply (ret : Int)
  /-- The end of a DQBUF that waited while other ioctls ran. -/
  | dqbufWoken (req : BufferReq)

def Action.isEvent : Action → Bool
  | .event _ => true
  | _ => false

def updateSlot (f : Fin numQueues → Nat → Handover) (t : Fin numQueues) (i : Nat)
    (h : Handover) : Fin numQueues → Nat → Handover :=
  Function.update f t (Function.update (f t) i h)

def forgetQueue (f : Fin numQueues → Nat → Handover) (t : Fin numQueues) :
    Fin numQueues → Nat → Handover :=
  Function.update f t fun _ => ⟨none, none⟩

/-- The slot is DONE. -/
def slotDone (s : Session) (t : Fin numQueues) (i : Nat) : Bool :=
  (s.queues t).buffers[i]?.any MediaBuffer.done

/-- The ghosts after action `a`, which led to `d`. -/
def Tracker.slotsAfter (cfg : Config) (s : Tracker) (d : Machine) :
    Action → Fin numQueues → Nat → Handover
  | .qbufSubmit req _ =>
    match d.inFlight with
    | none => s.slots
    | some fl =>
      let h := s.slots fl.queue fl.slot
      updateSlot s.slots fl.queue fl.slot { h with given := some (h.prepared.getD req) }
  | .qbufReply ret =>
    match s.driver.inFlight with
    | none => s.slots
    | some fl =>
      if ret == 0 || slotDone s.driver.session fl.queue fl.slot then
        updateSlot s.slots fl.queue fl.slot
          { s.slots fl.queue fl.slot with prepared := none }
      else s.slots
  | .streamoff type ret _ =>
    match queueIndex type with
    | none => s.slots
    | some t => if ret < 0 then s.slots else forgetQueue s.slots t
  | .reqbufs b ret reply _ _ =>
    if reqbufsCheck cfg s.driver.session b != 0 || ret != 0 then s.slots
    else
      match queueIndex reply.type with
      | none => s.slots
      | some t => forgetQueue s.slots t
  | _ => s.slots

/-- PREPARE_BUF holds `vlock` until its reply, as QBUF does. -/
def Tracker.step (cfg : Config) (s : Tracker) : TrackerAction → Option Tracker
  | .base a =>
    if s.preparing.isSome && !a.isEvent then none
    else
      (s.driver.step cfg a).map fun d =>
        { s with driver := d, slots := s.slotsAfter cfg d a }
  | .prepareSubmit req =>
    if s.preparing.isSome || s.driver.inFlight.isSome then none
    else
      let r := prepareBufSubmit s.driver.session req
      some { s with
        driver := { s.driver with session := r.2 }
        preparing := r.1.toOption.map fun fl => (fl, req) }
  | .prepareReply ret =>
    s.preparing.map fun p =>
      { s with
        driver := { s.driver with session := (prepareBufReply s.driver.session p.1 ret).2 }
        preparing := none
        slots :=
          if ret == 0 then
            updateSlot s.slots p.1.queue p.1.slot
              { s.slots p.1.queue p.1.slot with prepared := some p.2 }
          else s.slots }
  | .dqbufWoken req =>
    if s.preparing.isSome || s.driver.inFlight.isSome then none
    else
      (queueIndex req.buffer.type).bind fun t =>
        (dqbufPop s.driver.session t req).map fun r =>
          { s with driver := { s.driver with session := r.2 } }

/-! ### What is returned, and when it is what was given -/

/-- The `m` unions of `res` are those of `g`: the union of the buffer, or on a
multi-planar queue those of the planes that `g` passed and `req` has room for.
There the union of the buffer is the caller's own `planes` pointer. -/
def SameM (g req res : BufferReq) : Prop :=
  if typeIsMultiplanar g.buffer.type then
    ∀ k < g.buffer.length.toNat, k < min req.buffer.length.toNat videoMaxPlanes →
      (res.plane k).m = (g.plane k).m
  else res.buffer.m = g.buffer.m

/-- A DQBUF made here returns the `m` unions of the ioctl that gave the memory
of the slot to the device. -/
def ReturnsGiven (s : Tracker) (req : BufferReq) : Prop :=
  ∀ t res s', queueIndex req.buffer.type = some t →
    dqbufPop s.driver.session t req = some (res, s') →
    ∃ i g, (s.driver.session.queues t).pendingDqbufs.head? = some i ∧
      (s.slots t i).given = some g ∧ SameM g req res

def DqbufReturnsGiven (s : Tracker) : TrackerAction → Prop
  | .base (.dqbuf req) => ReturnsGiven s req
  | .dqbufWoken req => ReturnsGiven s req
  | _ => True

/-- A completion that is accepted does not carry the PREPARED flag. -/
def completionUnprepared (s : Session) (ev : DqbufEvent) : Bool :=
  match queueIndex ev.buffer.type with
  | none => true
  | some t =>
    !((s.queues t).accepts ev.buffer.type ev && hasFlag ev.buffer.flags bufFlagPrepared)

/-- The events of a list, one after the other. -/
def eventStep (cfg : Config) (s : Session) (ev : DqbufEvent) : Option Session :=
  some (processDqbufEvent cfg s ev)

def completionsUnprepared (cfg : Config) (s : Session) (evs : List DqbufEvent) : Bool :=
  decide (Trace.Conforms (eventStep cfg) (fun s ev => completionUnprepared s ev = true) s evs)

/-- The slot named by a PREPARE_BUF that passes its checks is neither queued
nor done, and it is not prepared if the plane count is going to be refused. -/
def prepareUndisturbed (s : Session) (req : BufferReq) : Bool :=
  match prepareBufCheck s req with
  | .error _ => true
  | .ok (_, b) =>
    !hasFlag b.buffer.flags (bufFlagQueued ||| bufFlagDone) &&
      !(typeIsMultiplanar req.buffer.type &&
        decide (req.buffer.length.toNat > videoMaxPlanes) &&
        hasFlag b.buffer.flags bufFlagPrepared)

/-- The slot of an outstanding PREPARE_BUF has its PREPARED flag set. -/
def slotPrepared (s : Session) (fl : PrepareInFlight) : Bool :=
  (s.queues fl.queue).buffers[fl.slot]?.any fun b => hasFlag b.buffer.flags bufFlagPrepared

/-- No PREPARE_BUF is made on a slot that is queued or done, none is refused on
a slot that is prepared, and no accepted completion carries PREPARED. -/
def undisturbed (cfg : Config) (s : Tracker) : TrackerAction → Bool
  | .base (.event ev) => completionUnprepared s.driver.session ev
  | .base (.streamoff _ _ drained) => completionsUnprepared cfg s.driver.session drained
  | .base (.reqbufs _ _ _ drained _) => completionsUnprepared cfg s.driver.session drained
  | .prepareSubmit req => prepareUndisturbed s.driver.session req
  | .prepareReply ret =>
    ret == 0 || !(s.preparing.any fun p => slotPrepared s.driver.session p.1)
  | _ => true

/-! ### The invariant of a slot -/

/-- The slot stores the `m` unions that `g` passed. -/
structure Holds (t : Fin numQueues) (g : BufferReq) (b : MediaBuffer) : Prop where
  queue : queueIndex g.buffer.type = some t
  buffer : b.buffer.m = g.buffer.m
  planes : typeIsMultiplanar g.buffer.type = true →
    ∀ k < g.buffer.length.toNat, k < videoMaxPlanes →
      (b.planes.getD k default).m = (g.plane k).m

/-- What the ghosts `h` say about slot `b`. `flying` and `busy` say that a
QBUF or a PREPARE_BUF of the slot is outstanding. -/
structure SlotInv (t : Fin numQueues) (flying busy : Prop) (h : Handover)
    (b : MediaBuffer) : Prop where
  planes : b.planes.length = videoMaxPlanes
  given : ¬b.idle → ∃ g, h.given = some g ∧ Holds t g b
  prepared : ¬busy → ∀ p, h.prepared = some p → Holds t p b
  flag : b.idle → hasFlag b.buffer.flags bufFlagPrepared = h.prepared.isSome
  consumed : ¬b.idle → ¬flying → h.prepared = none
  unprepared : b.done = true → hasFlag b.buffer.flags bufFlagPrepared = false

def Tracker.SlotOk (s : Tracker) (t : Fin numQueues) (i : Nat) (b : MediaBuffer) : Prop :=
  SlotInv t (∃ fl, s.driver.inFlight = some fl ∧ fl.queue = t ∧ fl.slot = i)
    (∃ req, s.preparing = some (⟨t, i⟩, req)) (s.slots t i) b

structure TrackerInv (s : Tracker) : Prop where
  machine : MachineInv s.driver
  slots : ∀ t i b, (s.driver.session.queues t).buffers[i]? = some b → s.SlotOk t i b
  inFlight : ∀ fl, s.driver.inFlight = some fl →
    hasFlag fl.oldFlags bufFlagPrepared = (s.slots fl.queue fl.slot).prepared.isSome
  preparing : ∀ fl req, s.preparing = some (fl, req) →
    s.driver.inFlight = none ∧
      ∃ b, (s.driver.session.queues fl.queue).buffers[fl.slot]? = some b ∧ b.idle ∧
        Holds fl.queue req b

theorem Holds.congr {t : Fin numQueues} {g : BufferReq} {b b' : MediaBuffer}
    (h : Holds t g b) (hm : b'.buffer.m = b.buffer.m)
    (hp : ∀ k, (b'.planes.getD k default).m = (b.planes.getD k default).m) :
    Holds t g b' where
  queue := h.queue
  buffer := hm.trans h.buffer
  planes := fun ht k hk hv => (hp k).trans (h.planes ht k hk hv)

theorem storeM_planes_length (req : BufferReq) (b : MediaBuffer) :
    (storeM req b).planes.length = b.planes.length := by
  simp only [storeM]
  split <;> simp

/-- After the store the slot holds what was passed. -/
theorem holds_storeM {t : Fin numQueues} {req : BufferReq} {b : MediaBuffer}
    (ht : queueIndex req.buffer.type = some t) (hb : b.planes.length = videoMaxPlanes) :
    Holds t req (storeM req b) where
  queue := ht
  buffer := rfl
  planes := by
    intro hm k hk hv
    have hlt : k < b.planes.length := by omega
    simp [storeM, hm, List.getD_eq_getElem?_getD, hlt, hk]

theorem mergePlanes_m (n : Nat) (stored received : List V4l2Plane) (k : Nat) :
    ((mergePlanes n stored received).getD k default).m = (stored.getD k default).m := by
  simp only [mergePlanes, List.getD_eq_getElem?_getD, List.getElem?_mapIdx]
  cases stored[k]? with
  | none => rfl
  | some p =>
      simp only [Option.map_some, Option.getD_some]
      split <;> rfl

theorem completedSlot_m (cfg : Config) (ev : DqbufEvent) (b : MediaBuffer) :
    (completedSlot cfg ev b).buffer.m = b.buffer.m := by
  simp only [completedSlot, overrideTimestamp]
  split <;> rfl

theorem completedSlot_flags (cfg : Config) (ev : DqbufEvent) (b : MediaBuffer) :
    (completedSlot cfg ev b).buffer.flags = ev.buffer.flags ||| bufFlagDone := by
  simp only [completedSlot, overrideTimestamp]
  split <;> rfl

theorem completedSlot_planes_m (cfg : Config) (ev : DqbufEvent) (b : MediaBuffer) (k : Nat) :
    ((completedSlot cfg ev b).planes.getD k default).m = (b.planes.getD k default).m := by
  simp only [completedSlot]
  split
  · exact mergePlanes_m _ _ _ k
  · rfl

theorem completedSlot_planes_length (cfg : Config) (ev : DqbufEvent) (b : MediaBuffer) :
    (completedSlot cfg ev b).planes.length = b.planes.length := by
  simp only [completedSlot]
  split <;> simp [mergePlanes]

theorem not_idle_of_onDevice {b : MediaBuffer} (h : b.onDevice = true) : ¬b.idle := by
  intro hi
  simp [hi.1] at h

theorem not_idle_of_done {b : MediaBuffer} (h : b.done = true) : ¬b.idle := by
  intro hi
  simp [hi.2] at h

theorem idle_congr {a b : MediaBuffer} (h : a.buffer.flags = b.buffer.flags) :
    a.idle ↔ b.idle := by
  simp only [MediaBuffer.idle, onDevice_congr h, done_congr h]

section Slot

variable {t : Fin numQueues} {flying busy : Prop} {h : Handover} {b b' : MediaBuffer}

/-- A change that keeps the flags, the `m` unions and the number of planes. -/
theorem SlotInv.congr (hb : SlotInv t flying busy h b)
    (hf : b'.buffer.flags = b.buffer.flags) (hm : b'.buffer.m = b.buffer.m)
    (hp : b'.planes = b.planes) : SlotInv t flying busy h b' where
  planes := by rw [hp, hb.planes]
  given := by
    intro hi
    obtain ⟨g, hg, hold⟩ := hb.given fun h => hi ((idle_congr hf).mpr h)
    exact ⟨g, hg, hold.congr hm fun k => by rw [hp]⟩
  prepared := fun hn p hpr => (hb.prepared hn p hpr).congr hm fun k => by rw [hp]
  flag := by
    intro hi
    rw [hf]
    exact hb.flag ((idle_congr hf).mp hi)
  consumed := fun hi => hb.consumed fun h => hi ((idle_congr hf).mpr h)
  unprepared := by
    intro hd
    rw [hf]
    exact hb.unprepared ((done_congr hf).symm.trans hd)

/-- Completion of a slot of the device by an event without PREPARED. -/
theorem SlotInv.complete (hb : SlotInv t flying busy h b) (hon : b.onDevice = true)
    (cfg : Config) (ev : DqbufEvent)
    (hev : hasFlag ev.buffer.flags bufFlagPrepared = false) :
    SlotInv t flying busy h (completedSlot cfg ev b) where
  planes := (completedSlot_planes_length cfg ev b).trans hb.planes
  given := by
    intro _
    obtain ⟨g, hg, hold⟩ := hb.given (not_idle_of_onDevice hon)
    exact ⟨g, hg, hold.congr (completedSlot_m cfg ev b) (completedSlot_planes_m cfg ev b)⟩
  prepared := fun hn p hp =>
    (hb.prepared hn p hp).congr (completedSlot_m cfg ev b) (completedSlot_planes_m cfg ev b)
  flag := fun hi => absurd hi (not_idle_of_done (completedSlot_done cfg ev b))
  consumed := fun _ => hb.consumed (not_idle_of_onDevice hon)
  unprepared := by
    intro _
    rw [completedSlot_flags, hasFlag_or, hev]
    decide

/-- A slot that has been emptied: nothing given, nothing prepared. -/
theorem SlotInv.ofIdle (hp : b.planes.length = videoMaxPlanes) (hf : b.buffer.flags = 0) :
    SlotInv t flying busy ⟨none, none⟩ b := by
  have hi : b.idle := by simp [MediaBuffer.idle, MediaBuffer.onDevice, MediaBuffer.done, hf]
  refine ⟨hp, fun hn => absurd hi hn, ?_, ?_, fun hn => absurd hi hn, ?_⟩
  · intro _ p hp
    cases hp
  · intro _
    simp [hf]
  · intro _
    simp [hf]

/-- Dequeue of a completed slot. -/
theorem SlotInv.dequeue (hb : SlotInv t flying busy h b) (hd : b.done = true)
    (hfly : ¬flying) : SlotInv t flying busy h (dequeuedSlot b) := by
  have hnone := hb.consumed (not_idle_of_done hd) hfly
  have hflag : hasFlag (dequeuedSlot b).buffer.flags bufFlagPrepared = false := by
    have hu := hb.unprepared hd
    simp only [hasFlag, bne_eq_false_iff_eq] at hu ⊢
    change b.buffer.flags &&& ~~~(bufFlagDone ||| bufFlagQueued) &&& bufFlagPrepared = 0
    rw [UInt32.and_assoc, UInt32.and_comm (~~~_), ← UInt32.and_assoc, hu, UInt32.zero_and]
  refine ⟨hb.planes, fun hn => absurd (dequeuedSlot_idle b) hn, ?_, ?_,
    fun hn => absurd (dequeuedSlot_idle b) hn, fun _ => hflag⟩
  · intro _ p hp
    rw [hnone] at hp
    cases hp
  · intro _
    rw [hflag, hnone]
    rfl

/-- An idle slot keeps its flags and its planes, and its `m` unless it is not
prepared. -/
theorem SlotInv.idleStore (hb : SlotInv t flying busy h b) (hi : b.idle)
    {c : MediaBuffer} (hf : c.buffer.flags = b.buffer.flags)
    (hp : c.planes.length = b.planes.length)
    (hm : c.buffer.m = b.buffer.m ∧ c.planes = b.planes ∨ busy ∨
      hasFlag b.buffer.flags bufFlagPrepared = false) :
    SlotInv t flying busy h c := by
  have hi' : c.idle := (idle_congr hf).mpr hi
  refine ⟨hp.trans hb.planes, fun hn => absurd hi' hn, ?_, ?_, fun hn => absurd hi' hn, ?_⟩
  · intro hnb p hpr
    rcases hm with hm | hbusy | hnot
    · exact (hb.prepared hnb p hpr).congr hm.1 fun k => by rw [hm.2]
    · exact absurd hbusy hnb
    · have := hb.flag hi
      rw [hnot, hpr] at this
      cases this
  · intro _
    rw [hf]
    exact hb.flag hi
  · intro hd
    exact absurd hi' (not_idle_of_done hd)

/-- Submission of an idle slot: it holds the memory of the PREPARE_BUF in
effect, or else of this QBUF. -/
theorem SlotInv.submit {c : MediaBuffer} {req : BufferReq} (hb : SlotInv t flying busy h b)
    (hi : b.idle) (hnb : ¬busy) (hc : c.buffer = b.buffer) (hcp : c.planes = b.planes)
    (ht : queueIndex req.buffer.type = some t) :
    SlotInv t True busy { h with given := some (h.prepared.getD req) }
      ((if hasFlag b.buffer.flags bufFlagPrepared then c else storeM req c).setFlags
        bufFlagQueued) := by
  have hflag := hb.flag hi
  have hlen : c.planes.length = videoMaxPlanes := by rw [hcp, hb.planes]
  set b' := if hasFlag b.buffer.flags bufFlagPrepared then c else storeM req c with hb'
  have hon : (b'.setFlags bufFlagQueued).onDevice = true := by
    simp [MediaBuffer.onDevice, MediaBuffer.done]
  have hni := not_idle_of_onDevice hon
  have hprep (p : BufferReq) (hp : h.prepared = some p) :
      Holds t p (b'.setFlags bufFlagQueued) := by
    have hset : hasFlag b.buffer.flags bufFlagPrepared = true := by rw [hflag, hp]; rfl
    rw [hb', if_pos hset]
    exact (hb.prepared hnb p hp).congr (by rw [← hc]; rfl) fun k => by rw [← hcp]; rfl
  refine ⟨?_, fun _ => ⟨_, rfl, ?_⟩, fun _ => hprep, fun hid => absurd hid hni,
    fun _ hnt => absurd trivial hnt, ?_⟩
  · change b'.planes.length = videoMaxPlanes
    rw [hb']
    split
    · exact hlen
    · rw [storeM_planes_length, hlen]
  · cases hp : h.prepared with
    | some p => exact hprep p hp
    | none =>
        have hset : hasFlag b.buffer.flags bufFlagPrepared = false := by rw [hflag, hp]; rfl
        rw [hb', hset]
        exact (holds_storeM ht hlen).congr rfl fun k => rfl
  · intro hd
    simp [MediaBuffer.done] at hd

/-- The reply of a QBUF that succeeded or was completed before it failed ends
the effect of PREPARE_BUF. -/
theorem SlotInv.consume (hb : SlotInv t flying busy h b) (hni : ¬b.idle) :
    SlotInv t False busy { h with prepared := none } b where
  planes := hb.planes
  given := hb.given
  prepared := fun _ _ hp => absurd hp (by simp)
  flag := fun hi => absurd hi hni
  consumed := fun _ _ => rfl
  unprepared := hb.unprepared

/-- A successful PREPARE_BUF of an idle slot. -/
theorem SlotInv.prepare {req : BufferReq} (hb : SlotInv t flying busy h b)
    (hold : Holds t req b) :
    SlotInv t flying False { h with prepared := some req } (b.setFlags bufFlagPrepared) where
  planes := hb.planes
  given := fun hn => absurd (prepared_idle b) hn
  prepared := by
    intro _ p hp
    simp only [Option.some.injEq] at hp
    exact hp ▸ hold.congr rfl fun _ => rfl
  flag := fun _ => by simp only [setFlags_flags, Option.isSome_some]; decide
  consumed := fun hn => absurd (prepared_idle b) hn
  unprepared := fun hd => absurd (prepared_idle b) (not_idle_of_done hd)

end Slot

end VirtioMedia.Driver
