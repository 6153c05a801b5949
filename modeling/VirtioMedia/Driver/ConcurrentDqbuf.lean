import VirtioMedia.Driver.QueueAccounting

/-!
# DQBUF from several threads

`virtio_media_dqbuf` makes its checks under `vlock`, releases the lock, waits
until `pending_dqbufs` is seen non-empty, takes the lock again and removes the
first entry without looking again. The steps below are those between which
another thread or the event worker can run. The events that STREAMOFF and
REQBUFS drain are delivered by `event` steps before them: draining and
clearing take `events_lock` separately, so a waiting thread may look in
between.

Each accepted event has a number of its own on its queue, which follows the
slot through `pending_dqbufs` to the DQBUF that returns it. The numbers are
ghosts.
-/

namespace VirtioMedia.Driver

open V4l2

/-- Where a thread is in `virtio_media_dqbuf`. -/
inductive DqbufThread where
  | idle
  /-- In `wait_event_interruptible`, `vlock` released. -/
  | waiting (t : Fin numQueues) (req : BufferReq)
  /-- The wait condition was seen true; `vlock` is not held yet. -/
  | woken (t : Fin numQueues) (req : BufferReq)
  deriving DecidableEq, Repr

/-- The thread is on its way to remove an entry of queue `t`. -/
def DqbufThread.wokenOn (th : DqbufThread) (t : Fin numQueues) : Prop :=
  ∃ req, th = .woken t req

/-- One session and the threads that use it. -/
structure Shared where
  machine : Machine
  threads : Nat → DqbufThread
  /-- Number of completions accepted on a queue so far. -/
  completions : Fin numQueues → Nat
  /-- The completions behind the entries of `pending_dqbufs`, in its order. -/
  tags : Fin numQueues → List Nat
  /-- The completions that a DQBUF returned to its caller. -/
  returned : List (Fin numQueues × Nat)
  /-- An entry was removed from an empty list. -/
  emptyPop : Bool

def Shared.init (nonblocking : Bool) : Shared where
  machine := .init nonblocking
  threads := fun _ => .idle
  completions := fun _ => 0
  tags := fun _ => []
  returned := []
  emptyPop := false

def Shared.queue (s : Shared) (t : Fin numQueues) : QueueState := s.machine.session.queues t

inductive SharedAction where
  | event (ev : DqbufEvent)
  /-- An error event, or the device is disconnected. -/
  | error
  | qbufSubmit (req : BufferReq) (ans : Nat → PlaneAnswers)
  | qbufReply (ret : Int)
  | streamon (type : UInt32) (ret : Int)
  | streamoff (type : UInt32) (ret : Int)
  | reqbufs (b : RequestBuffers) (ret : Int) (reply : RequestBuffers) (vzallocOk : Bool)
  /-- DQBUF makes its checks and releases `vlock`. -/
  | enter (k : Nat) (req : BufferReq)
  | observe (k : Nat)
  | interrupt (k : Nat)
  /-- DQBUF has `vlock` again. -/
  | resume (k : Nat)

def Shared.setThread (s : Shared) (k : Nat) (th : DqbufThread) : Shared :=
  { s with threads := Function.update s.threads k th }

/-- An event, with the number of the completion if it is accepted. -/
def Shared.deliver (cfg : Config) (s : Shared) (ev : DqbufEvent) : Shared :=
  let s' := { s with
    machine := { s.machine with session := processDqbufEvent cfg s.machine.session ev } }
  match queueIndex ev.buffer.type with
  | none => s'
  | some t =>
    if (s.queue t).accepts ev.buffer.type ev then
      { s' with
        completions := Function.update s.completions t (s.completions t + 1)
        tags := Function.update s.tags t (s.tags t ++ [s.completions t]) }
    else s'

/-- The queue whose entries an ioctl throws away, if it does. -/
def Shared.clears (cfg : Config) (s : Shared) : SharedAction → Option (Fin numQueues)
  | .streamoff type ret => if ret < 0 then none else queueIndex type
  | .reqbufs b ret reply _ =>
    if reqbufsCheck cfg s.machine.session b != 0 || ret != 0 then none
    else queueIndex reply.type
  | _ => none

/-- An ioctl is refused once the session is in error. -/
def Shared.ioctl (cfg : Config) (s : Shared) (a : Action) (cleared : Option (Fin numQueues)) :
    Option Shared :=
  if s.machine.session.error then none
  else (s.machine.step cfg a).map fun m =>
    { s with
      machine := m
      tags := fun t => if cleared = some t then [] else s.tags t }

/-- DQBUF from the moment it holds `vlock` again. -/
def Shared.resume (s : Shared) (k : Nat) (t : Fin numQueues) (req : BufferReq) : Shared :=
  if s.machine.session.error then s.setThread k .idle
  else
    match dqbufPop s.machine.session t req with
    | none => { s.setThread k .idle with emptyPop := true }
    | some (_, session) =>
      { s.setThread k .idle with
        machine := { s.machine with session := session }
        tags := Function.update s.tags t (s.tags t).tail
        returned := ((s.tags t).head?.map fun n => (t, n)).toList ++ s.returned }

/-- After an entry was removed from an empty list the state is not defined. -/
def Shared.step (cfg : Config) (s : Shared) (a : SharedAction) : Option Shared :=
  if s.emptyPop then none
  else
    match a with
    | .event ev => some (s.deliver cfg ev)
    | .error => some { s with machine := { s.machine with
        session := { s.machine.session with error := true } } }
    | .qbufSubmit req ans => s.ioctl cfg (.qbufSubmit req ans) none
    | .qbufReply ret => (s.machine.step cfg (.qbufReply ret)).map fun m => { s with machine := m }
    | .streamon type ret => s.ioctl cfg (.streamon type ret) none
    | .streamoff type ret => s.ioctl cfg (.streamoff type ret []) (s.clears cfg a)
    | .reqbufs b ret reply ok => s.ioctl cfg (.reqbufs b ret reply [] ok) (s.clears cfg a)
    | .enter k req =>
      if s.threads k ≠ .idle ∨ s.machine.inFlight.isSome ∨ s.machine.session.error then none
      else
        match dqbufCheck s.machine.session req.buffer.type with
        | .error _ => some s
        | .ok t => some (s.setThread k (.waiting t req))
    | .observe k =>
      match s.threads k with
      | .waiting t req =>
        if (s.queue t).pendingDqbufs ≠ [] ∨ s.machine.session.error then
          some (s.setThread k (.woken t req))
        else none
      | _ => none
    | .interrupt k =>
      match s.threads k with
      | .waiting _ _ => some (s.setThread k .idle)
      | _ => none
    | .resume k =>
      match s.threads k with
      | .woken t req => if s.machine.inFlight.isSome then none else some (s.resume k t req)
      | _ => none

/-! ### The condition -/

/-- The step takes the last entry of queue `t`, or all of them. -/
def Shared.empties (cfg : Config) (s : Shared) (t : Fin numQueues) : SharedAction → Prop
  | .resume k => (s.threads k).wokenOn t ∧ (s.queue t).pendingDqbufs.length ≤ 1
  | a => s.clears cfg a = some t

/-- No step empties a queue while another DQBUF on this queue has seen an
entry and not removed one yet. -/
def Shared.Undisturbed (cfg : Config) (s : Shared) (a : SharedAction) : Prop :=
  s.machine.session.error = true ∨
    ∀ t, s.empties cfg t a → ∀ k, (s.threads k).wokenOn t → a = .resume k

/-! ### What the operations do to `pending_dqbufs` -/

/-- An accepted completion comes at the end of the pending list. -/
theorem processDqbuf_pending (cfg : Config) (type : UInt32) (q : QueueState)
    (ev : DqbufEvent) :
    (q.processDqbuf cfg type ev).pendingDqbufs =
      if q.accepts type ev then q.pendingDqbufs ++ [ev.buffer.index.toNat]
      else q.pendingDqbufs := by
  unfold QueueState.processDqbuf
  cases hb : q.buffers[ev.buffer.index.toNat]? with
  | none => simp [QueueState.accepts, hb]
  | some b =>
      dsimp only
      split
      · unfold QueueState.decQueued
        rfl
      · rfl

theorem setQueue_pending {s : Session} {t : Fin numQueues} {q : QueueState}
    (h : q.pendingDqbufs = (s.queues t).pendingDqbufs) (u : Fin numQueues) :
    ((s.setQueue t q).queues u).pendingDqbufs = (s.queues u).pendingDqbufs := by
  rw [Session.setQueue_queues]
  split
  · rename_i hu
    rw [hu, h]
  · rfl

/-- QBUF does not touch the pending list. -/
theorem qbufSubmit_pending (cfg : Config) (s : Session) (req : BufferReq)
    (ans : Nat → PlaneAnswers) (u : Fin numQueues) :
    ((qbufSubmit cfg s req ans).2.queues u).pendingDqbufs = (s.queues u).pendingDqbufs := by
  rcases qbufSubmit_cases cfg s req ans with
    ⟨e, h⟩ | ⟨e, t, b, b', hc, hf, h⟩ | ⟨t, b, b', hc, h⟩ <;> rw [h]
  · refine setQueue_pending ?_ u
    rfl
  · refine setQueue_pending ?_ u
    unfold enqueueSlot QueueState.incQueued
    rfl

theorem failQbuf_pending (q : QueueState) (fl : QbufInFlight) :
    (failQbuf q fl).pendingDqbufs = q.pendingDqbufs := by
  unfold failQbuf
  dsimp only
  split
  · rfl
  · split
    · rfl
    · unfold QueueState.decQueued
      rfl

theorem qbufReply_pending (s : Session) (fl : QbufInFlight) (ret : Int) (u : Fin numQueues) :
    ((qbufReply s fl ret).2.queues u).pendingDqbufs = (s.queues u).pendingDqbufs ∧
      (qbufReply s fl ret).2.error = s.error := by
  unfold qbufReply
  split
  · exact ⟨setQueue_pending (failQbuf_pending _ fl) u, rfl⟩
  · exact ⟨rfl, rfl⟩

theorem streamon_pending (s : Session) (type : UInt32) (ret : Int) (u : Fin numQueues) :
    ((streamon s type ret).2.queues u).pendingDqbufs = (s.queues u).pendingDqbufs := by
  unfold streamon
  split
  · rfl
  · split
    · rfl
    · split
      · rfl
      · apply setQueue_pending
        rfl

/-- Replacing queue `t` by one with nothing pending. -/
theorem setQueue_cleared {s : Session} {t : Fin numQueues} {q : QueueState}
    (h : q.pendingDqbufs = []) (u : Fin numQueues) :
    ((s.setQueue t q).queues u).pendingDqbufs =
      if some t = some u then [] else (s.queues u).pendingDqbufs := by
  rw [Session.setQueue_queues]
  by_cases hu : u = t
  · simp [hu, h]
  · simp [hu, Ne.symm hu]

/-- The pop of an accounted queue fails only on an empty list. -/
theorem dqbufPop_eq_none_iff {s : Session} {t : Fin numQueues} (hs : Accounted (s.queues t))
    (req : BufferReq) : dqbufPop s t req = none ↔ (s.queues t).pendingDqbufs = [] := by
  cases hp : (s.queues t).pendingDqbufs with
  | nil => simp [dqbufPop, hp]
  | cons i rest =>
      obtain ⟨b, hb, -⟩ := (hs.pending i).mp (by simp [hp])
      simp [dqbufPop, hp, hb]

/-- DQBUF takes the first entry. -/
theorem dqbufPop_pending {s s' : Session} {t : Fin numQueues} {req res : BufferReq}
    (h : dqbufPop s t req = some (res, s')) :
    s'.error = s.error ∧ (s.queues t).pendingDqbufs ≠ [] ∧
      ∀ u, (s'.queues u).pendingDqbufs =
        if u = t then (s.queues t).pendingDqbufs.tail else (s.queues u).pendingDqbufs := by
  simp only [dqbufPop] at h
  split at h
  · cases h
  · rename_i i rest hp
    split at h
    · cases h
    · simp only [Option.some.injEq, Prod.mk.injEq] at h
      obtain ⟨-, rfl⟩ := h
      refine ⟨rfl, by simp [hp], fun u => ?_⟩
      rw [Session.setQueue_queues]
      split
      · simp [hp]
      · rfl

/-! ### The invariant -/

/-- The numbers in `tags` go with the entries of `pending_dqbufs`, and the
numbers that were returned are used up. -/
structure TagsOk (s : Shared) : Prop where
  aligned : ∀ t, (s.tags t).length = (s.queue t).pendingDqbufs.length
  nodup : ∀ t, (s.tags t).Nodup
  tagLt : ∀ t, ∀ n ∈ s.tags t, n < s.completions t
  returnedLt : ∀ p ∈ s.returned, p.2 < s.completions p.1
  gone : ∀ p ∈ s.returned, p.2 ∉ s.tags p.1
  returnedNodup : s.returned.Nodup

structure SharedInv (s : Shared) : Prop where
  machine : MachineInv s.machine
  tags : TagsOk s
  /-- A thread that saw an entry still finds one. -/
  seen : s.machine.session.error = true ∨
    ∀ k t, (s.threads k).wokenOn t → (s.queue t).pendingDqbufs ≠ []
  noEmptyPop : s.emptyPop = false

theorem sharedInv_init (nonblocking : Bool) : SharedInv (.init nonblocking) where
  machine := machineInv_init nonblocking
  tags := by
    constructor <;> simp [Shared.init, Shared.queue, Machine.init, Session.init, QueueState.init]
  seen := .inr (by simp [Shared.init, DqbufThread.wokenOn])
  noEmptyPop := rfl

/-- Some queues lose all their entries, the others keep theirs. -/
theorem TagsOk.clear {s : Shared} (hs : TagsOk s) {m : Machine} {cleared : Option (Fin numQueues)}
    (hp : ∀ t, (m.session.queues t).pendingDqbufs =
      if cleared = some t then [] else (s.queue t).pendingDqbufs) :
    TagsOk { s with machine := m, tags := fun t => if cleared = some t then [] else s.tags t } where
  aligned := by
    intro t
    change (if cleared = some t then [] else s.tags t).length = _
    rw [Shared.queue, hp t]
    split
    · rfl
    · exact hs.aligned t
  nodup := by
    intro t
    dsimp only
    split
    · exact List.nodup_nil
    · exact hs.nodup t
  tagLt := by
    intro t n hn
    dsimp only at hn
    split at hn
    · cases hn
    · exact hs.tagLt t n hn
  returnedLt := hs.returnedLt
  gone := by
    intro p hp
    dsimp only
    split
    · simp
    · exact hs.gone p hp
  returnedNodup := hs.returnedNodup

theorem TagsOk.same {s : Shared} (hs : TagsOk s) {m : Machine}
    (hp : ∀ t, (m.session.queues t).pendingDqbufs = (s.queue t).pendingDqbufs) :
    TagsOk { s with machine := m } where
  aligned := fun t => (hs.aligned t).trans (congrArg List.length (hp t).symm)
  nodup := hs.nodup
  tagLt := hs.tagLt
  returnedLt := hs.returnedLt
  gone := hs.gone
  returnedNodup := hs.returnedNodup

/-- A completion of queue `t` gets the next number. -/
theorem TagsOk.push {s : Shared} (hs : TagsOk s) {m : Machine} {t : Fin numQueues} {i : Nat}
    (hp : ∀ u, (m.session.queues u).pendingDqbufs =
      if u = t then (s.queue t).pendingDqbufs ++ [i] else (s.queue u).pendingDqbufs) :
    TagsOk { s with
      machine := m
      completions := Function.update s.completions t (s.completions t + 1)
      tags := Function.update s.tags t (s.tags t ++ [s.completions t]) } where
  aligned := by
    intro u
    rw [Shared.queue, hp u]
    by_cases hu : u = t
    · subst hu
      simp [hs.aligned u]
    · simp [hu, hs.aligned u]
  nodup := by
    intro u
    by_cases hu : u = t
    · subst hu
      have hnew : s.completions u ∉ s.tags u := fun h => Nat.lt_irrefl _ (hs.tagLt u _ h)
      simp only [Function.update_self]
      exact List.nodup_append.mpr ⟨hs.nodup u, by simp,
        by simpa using fun a ha => ne_of_mem_of_not_mem ha hnew⟩
    · simpa [hu] using hs.nodup u
  tagLt := by
    intro u n hn
    by_cases hu : u = t
    · subst hu
      simp only [Function.update_self, List.mem_append, List.mem_singleton] at hn ⊢
      rcases hn with hn | rfl
      · exact Nat.lt_succ_of_lt (hs.tagLt u n hn)
      · exact Nat.lt_succ_self _
    · simpa [hu] using hs.tagLt u n (by simpa [hu] using hn)
  returnedLt := by
    intro p hp
    have := hs.returnedLt p hp
    by_cases hu : p.1 = t
    · rw [← hu]
      simp only [Function.update_self]
      omega
    · simpa [hu] using this
  gone := by
    intro p hp
    by_cases hu : p.1 = t
    · rw [← hu]
      have := Nat.ne_of_lt (hs.returnedLt p hp)
      simpa [this] using hs.gone p hp
    · simpa [hu] using hs.gone p hp
  returnedNodup := hs.returnedNodup

/-- The first entry of queue `t` is removed and its number returned. -/
theorem TagsOk.pop {s : Shared} (hs : TagsOk s) {m : Machine} {t : Fin numQueues}
    (threads : Nat → DqbufThread)
    (hp : ∀ u, (m.session.queues u).pendingDqbufs =
      if u = t then (s.queue t).pendingDqbufs.tail else (s.queue u).pendingDqbufs) :
    TagsOk { s with
      machine := m
      threads := threads
      tags := Function.update s.tags t (s.tags t).tail
      returned := ((s.tags t).head?.map fun n => (t, n)).toList ++ s.returned } where
  aligned := by
    intro u
    rw [Shared.queue, hp u]
    by_cases hu : u = t
    · subst hu
      simp [hs.aligned u]
    · simp [hu, hs.aligned u]
  nodup := by
    intro u
    by_cases hu : u = t
    · subst hu
      simp only [Function.update_self]
      exact (hs.nodup u).sublist (List.tail_sublist _)
    · simpa [hu] using hs.nodup u
  tagLt := by
    intro u n hn
    by_cases hu : u = t
    · subst hu
      exact hs.tagLt u n (List.mem_of_mem_tail (by simpa using hn))
    · exact hs.tagLt u n (by simpa [hu] using hn)
  returnedLt := by
    intro p hp
    rcases List.mem_append.mp hp with hp | hp
    · simp only [Option.mem_toList, Option.map_eq_some_iff] at hp
      obtain ⟨n, hn, rfl⟩ := hp
      exact hs.tagLt t n (List.mem_of_head? hn)
    · exact hs.returnedLt p hp
  gone := by
    intro p hp
    rcases List.mem_append.mp hp with hp | hp
    · simp only [Option.mem_toList, Option.map_eq_some_iff] at hp
      obtain ⟨n, hn, rfl⟩ := hp
      have hnd := hs.nodup t
      rw [List.eq_cons_of_mem_head? hn] at hnd
      simpa using (List.nodup_cons.mp hnd).1
    · by_cases hu : p.1 = t
      · rw [← hu]
        simpa using fun h => hs.gone p hp (List.mem_of_mem_tail h)
      · simpa [hu] using hs.gone p hp
  returnedNodup := by
    cases htags : s.tags t with
    | nil => simpa using hs.returnedNodup
    | cons n rest =>
        refine List.nodup_cons.mpr ⟨fun hmem => ?_, hs.returnedNodup⟩
        exact hs.gone (t, n) hmem (by simp [htags])

/-- A thread that has seen a pending buffer still sees one. -/
theorem SharedInv.seen_mono {s s' : Shared} (hs : SharedInv s) (hth : s'.threads = s.threads)
    (herr : s'.machine.session.error = s.machine.session.error)
    (hp : ∀ t, (s.queue t).pendingDqbufs ≠ [] → (s'.queue t).pendingDqbufs ≠ []) :
    s'.machine.session.error = true ∨
      ∀ k t, (s'.threads k).wokenOn t → (s'.queue t).pendingDqbufs ≠ [] := by
  rw [hth, herr]
  exact hs.seen.imp_right fun h k t hk => hp t (h k t hk)

/-- A thread moves and nothing else changes. -/
theorem SharedInv.setThread {s : Shared} (hs : SharedInv s) (k : Nat) {th : DqbufThread}
    (hth : s.machine.session.error = true ∨
      ∀ t, th.wokenOn t → (s.queue t).pendingDqbufs ≠ []) : SharedInv (s.setThread k th) where
  machine := hs.machine
  tags := ⟨hs.tags.aligned, hs.tags.nodup, hs.tags.tagLt, hs.tags.returnedLt, hs.tags.gone,
    hs.tags.returnedNodup⟩
  seen := by
    rcases hs.seen with herr | hseen
    · exact .inl herr
    · rcases hth with herr | hth
      · exact .inl herr
      · right
        intro k' t h
        simp only [Shared.setThread, Function.update_apply] at h
        split at h
        · exact hth t h
        · exact hseen k' t h
  noEmptyPop := hs.noEmptyPop

theorem SharedInv.idle {s : Shared} (hs : SharedInv s) (k : Nat) :
    SharedInv (s.setThread k .idle) :=
  hs.setThread k (.inr fun t h => by simp [DqbufThread.wokenOn] at h)

/-- An ioctl under `vlock`, while other threads wait. -/
theorem SharedInv.ioctl {cfg : Config} {s s' : Shared} {a : Action}
    {cleared : Option (Fin numQueues)} (hs : SharedInv s)
    (h : s.ioctl cfg a cleared = some s')
    (hp : ∀ m, s.machine.step cfg a = some m → ∀ t, (m.session.queues t).pendingDqbufs =
      if cleared = some t then [] else (s.queue t).pendingDqbufs)
    (hok : s.machine.session.error = true ∨
      ∀ t, cleared = some t → ∀ k, ¬ (s.threads k).wokenOn t) : SharedInv s' := by
  simp only [Shared.ioctl] at h
  split at h
  · cases h
  · rename_i herr
    simp only [Option.map_eq_some_iff] at h
    obtain ⟨m, hm, rfl⟩ := h
    refine ⟨hs.machine.step hm, hs.tags.clear (hp m hm), .inr fun k t hk => ?_, hs.noEmptyPop⟩
    change (m.session.queues t).pendingDqbufs ≠ []
    rw [hp m hm t]
    split
    · rename_i ht
      exact absurd hk (hok.resolve_left herr t ht k)
    · exact hs.seen.resolve_left herr k t hk

/-- An ioctl that leaves every list alone. -/
theorem SharedInv.ioctlSame {cfg : Config} {s s' : Shared} {a : Action} (hs : SharedInv s)
    (h : s.ioctl cfg a none = some s')
    (hp : ∀ m, s.machine.step cfg a = some m → ∀ t,
      (m.session.queues t).pendingDqbufs = (s.queue t).pendingDqbufs) : SharedInv s' :=
  hs.ioctl h (by simpa using hp) (.inr (by simp))

/-- An event may wake threads. -/
theorem SharedInv.deliver {cfg : Config} {s : Shared} (hs : SharedInv s) (ev : DqbufEvent) :
    SharedInv (s.deliver cfg ev) := by
  have hm := hs.machine.event cfg ev
  unfold Shared.deliver
  cases ht : queueIndex ev.buffer.type with
  | none =>
      have hsame : processDqbufEvent cfg s.machine.session ev = s.machine.session := by
        simp [processDqbufEvent, ht]
      simp only [hsame]
      exact hs
  | some t =>
      have hset : processDqbufEvent cfg s.machine.session ev = s.machine.session.setQueue t
          ((s.queue t).processDqbuf cfg ev.buffer.type ev) := by
        simp [processDqbufEvent, ht, Shared.queue]
      have hpend := processDqbuf_pending cfg ev.buffer.type (s.queue t) ev
      dsimp only
      split
      · rename_i hacc
        rw [if_pos hacc] at hpend
        have hq : ∀ u, ((processDqbufEvent cfg s.machine.session ev).queues u).pendingDqbufs =
            if u = t then (s.queue t).pendingDqbufs ++ [ev.buffer.index.toNat]
            else (s.queue u).pendingDqbufs := by
          intro u
          rw [hset, Session.setQueue_queues]
          split
          · exact hpend
          · rfl
        refine ⟨hm, hs.tags.push hq, hs.seen_mono rfl (by simp [hset]) ?_, hs.noEmptyPop⟩
        intro u hu
        rw [Shared.queue, hq u]
        split
        · simp
        · exact hu
      · rename_i hacc
        rw [if_neg hacc] at hpend
        have hq : ∀ u, ((processDqbufEvent cfg s.machine.session ev).queues u).pendingDqbufs =
            (s.queue u).pendingDqbufs := by
          rw [hset]
          exact setQueue_pending hpend
        refine ⟨hm, hs.tags.same hq, hs.seen_mono rfl (by simp [hset]) ?_, hs.noEmptyPop⟩
        intro u hu
        rwa [Shared.queue, hq u]

/-- A woken thread takes its entry, if no other thread was woken for it. -/
theorem SharedInv.resume {s : Shared} {k : Nat} {t : Fin numQueues} {req : BufferReq}
    (hs : SharedInv s) (hk : s.threads k = .woken t req)
    (hok : s.machine.session.error = true ∨ ((s.queue t).pendingDqbufs.length ≤ 1 →
      ∀ k', (s.threads k').wokenOn t → k' = k)) (hidle : s.machine.inFlight = none) :
    SharedInv (s.resume k t req) := by
  unfold Shared.resume
  split
  · exact hs.idle k
  · rename_i herr
    have hne : (s.queue t).pendingDqbufs ≠ [] := hs.seen.resolve_left herr k t ⟨req, hk⟩
    cases hpop : dqbufPop s.machine.session t req with
    | none => exact absurd ((dqbufPop_eq_none_iff (hs.machine.queues t) req).mp hpop) hne
    | some r =>
        obtain ⟨res, session⟩ := r
        obtain ⟨-, -, hp⟩ := dqbufPop_pending hpop
        refine ⟨⟨Accounted.dqbufPop hs.machine.queues hpop, by simp [hidle]⟩,
          hs.tags.pop _ hp, .inr ?_, hs.noEmptyPop⟩
        intro k' u hk'
        simp only [Shared.setThread, Function.update_apply] at hk'
        split at hk'
        · simp [DqbufThread.wokenOn] at hk'
        · rename_i hkk'
          change (session.queues u).pendingDqbufs ≠ []
          rw [hp u]
          split
          · rename_i hu
            subst hu
            -- a second woken thread is only allowed where two entries wait
            have hlen : ¬ (s.queue u).pendingDqbufs.length ≤ 1 :=
              fun hlen => hkk' (hok.resolve_left herr hlen k' hk')
            intro htail
            have := congrArg List.length htail
            simp only [List.length_tail, List.length_nil] at this
            exact hlen (Nat.sub_eq_zero_iff_le.mp this)
          · exact hs.seen.resolve_left herr k' u hk'

/-- STREAMOFF that succeeds clears the list of its queue. -/
theorem streamoff_pending {cfg : Config} {s : Shared} {type : UInt32} {ret : Int} {m : Machine}
    (h : s.machine.step cfg (.streamoff type ret []) = some m) (t : Fin numQueues) :
    (m.session.queues t).pendingDqbufs =
      if s.clears cfg (.streamoff type ret) = some t then [] else (s.queue t).pendingDqbufs := by
  obtain ⟨-, rfl⟩ := Machine.step_streamoff h
  simp only [Driver.streamoff, Shared.clears]
  rcases Option.eq_none_or_eq_some (queueIndex type) with hq | ⟨u, hq⟩
  · simp [hq, Shared.queue]
  · simp only [hq]
    split
    · simp [Shared.queue]
    · exact setQueue_cleared rfl t

/-- REQBUFS that succeeds clears the list of the queue in its reply. -/
theorem reqbufs_pending {cfg : Config} {s : Shared} {b reply : RequestBuffers} {ret : Int}
    {ok : Bool} {m : Machine}
    (h : s.machine.step cfg (.reqbufs b ret reply [] ok) = some m) (t : Fin numQueues) :
    (m.session.queues t).pendingDqbufs =
      if s.clears cfg (.reqbufs b ret reply ok) = some t then []
      else (s.queue t).pendingDqbufs := by
  obtain ⟨-, r, hr, rfl⟩ := Machine.step_reqbufs h
  rcases reqbufs_cases hr with ⟨hrefused, hr⟩ | ⟨hrefused, u, m, hu, hr⟩
  · have hclears : s.clears cfg (.reqbufs b ret reply ok) = none := by
      simp only [Shared.clears, hrefused, if_true]
    rw [hr, hclears]
    rfl
  · have hclears : s.clears cfg (.reqbufs b ret reply ok) = some u := by
      simp only [Shared.clears, hrefused, hu, Bool.false_eq_true, if_false]
    rw [hr, hclears]
    exact setQueue_cleared rfl t

/-- One step of a thread, an ioctl or an event. -/
theorem SharedInv.step {cfg : Config} {s s' : Shared} {a : SharedAction} (hs : SharedInv s)
    (hok : s.Undisturbed cfg a) (h : s.step cfg a = some s') : SharedInv s' := by
  have hlive : ¬ s.emptyPop = true := by simp [hs.noEmptyPop]
  unfold Shared.step at h
  rw [if_neg hlive] at h
  cases a with
  | event ev =>
      cases h
      exact hs.deliver ev
  | error =>
      cases h
      refine ⟨⟨hs.machine.queues, hs.machine.inFlight⟩, hs.tags.same ?_, .inl rfl,
        hs.noEmptyPop⟩
      exact fun _ => rfl
  | qbufSubmit req ans =>
      apply hs.ioctlSame h
      intro m hm t
      obtain ⟨-, rfl⟩ := Machine.step_qbufSubmit hm
      exact qbufSubmit_pending cfg _ req ans t
  | qbufReply ret =>
      simp only [Option.map_eq_some_iff] at h
      obtain ⟨m, hm, rfl⟩ := h
      have hinv := hs.machine.step hm
      obtain ⟨fl, hfl, rfl⟩ := Machine.step_qbufReply hm
      have hp := qbufReply_pending s.machine.session fl ret
      refine ⟨hinv, hs.tags.same fun t => (hp t).1, hs.seen_mono rfl (hp 0).2 ?_, hs.noEmptyPop⟩
      intro t ht
      exact fun h => ht ((hp t).1.symm.trans h)
  | streamon type ret =>
      apply hs.ioctlSame h
      intro m hm t
      obtain ⟨-, rfl⟩ := Machine.step_streamon hm
      exact streamon_pending _ type ret t
  | streamoff type ret =>
      refine hs.ioctl h (fun m hm => streamoff_pending hm) (hok.imp_right fun hok t ht k hk => ?_)
      cases hok t ht k hk
  | reqbufs b ret reply ok =>
      refine hs.ioctl h (fun m hm => reqbufs_pending hm) (hok.imp_right fun hok t ht k hk => ?_)
      cases hok t ht k hk
  | enter k req =>
      dsimp only at h
      split at h
      · cases h
      · split at h
        · cases h
          exact hs
        · cases h
          exact hs.setThread k (.inr fun t h => by simp [DqbufThread.wokenOn] at h)
  | observe k =>
      dsimp only at h
      split at h
      · rename_i t req hk
        split at h
        · rename_i hcond
          cases h
          apply hs.setThread k
          rcases hcond with hne | herr
          · right
            rintro u ⟨req', hu⟩
            cases hu
            exact hne
          · exact .inl herr
        · cases h
      · cases h
  | interrupt k =>
      dsimp only at h
      split at h
      · cases h
        exact hs.idle k
      · cases h
  | resume k =>
      dsimp only at h
      split at h
      · rename_i t req hk
        split at h
        · cases h
        · rename_i hidle
          cases h
          refine hs.resume hk (hok.imp_right fun hok hlen k' hk' => ?_) (by simpa using hidle)
          have := hok t ⟨⟨req, hk⟩, hlen⟩ k' hk'
          cases this
          rfl
      · cases h

/-- In a run in which no step empties a queue under another DQBUF that has
seen an entry of it, no DQBUF removes an entry from an empty list and no
completion is returned twice. -/
theorem dqbuf_pops_entry (cfg : Config) (nonblocking : Bool) (acts : List SharedAction)
    (s : Shared)
    (hok : Trace.Conforms (Shared.step cfg) (Shared.Undisturbed cfg) (.init nonblocking) acts)
    (hrun : Trace.run (Shared.step cfg) (.init nonblocking) acts = some s) :
    s.emptyPop = false ∧ s.returned.Nodup := by
  have hinv : SharedInv s := Trace.run_invariant_of_conforms (P := SharedInv)
    (fun _ _ _ h ho hs => h.step ho hs) (sharedInv_init nonblocking) hok hrun
  exact ⟨hinv.noEmptyPop, hinv.tags.returnedNodup⟩

/-- A thread that is woken on a queue with nothing pending removes an entry
from an empty list as soon as it has `vlock`. -/
theorem resume_emptyPop {cfg : Config} {s : Shared} {k : Nat} {t : Fin numQueues}
    (hlive : s.emptyPop = false) (hk : (s.threads k).wokenOn t)
    (herr : s.machine.session.error = false) (hidle : s.machine.inFlight = none)
    (hp : (s.queue t).pendingDqbufs = []) :
    ∃ s', s.step cfg (.resume k) = some s' ∧ s'.emptyPop = true := by
  obtain ⟨req, hk⟩ := hk
  have hpop : dqbufPop s.machine.session t req = none := by
    change (s.machine.session.queues t).pendingDqbufs = [] at hp
    simp [dqbufPop, hp]
  refine ⟨{ s.setThread k .idle with emptyPop := true }, ?_, rfl⟩
  simp [Shared.step, hlive, hk, hidle, Shared.resume, herr, hpop]

theorem streamoff_frame {cfg : Config} {d m : Machine} {type : UInt32} {ret : Int}
    (h : d.step cfg (.streamoff type ret []) = some m) :
    m.inFlight = none ∧ m.session.error = d.session.error := by
  obtain ⟨-, rfl⟩ := Machine.step_streamoff h
  refine ⟨rfl, ?_⟩
  simp only [Driver.streamoff]
  repeat' split
  all_goals rfl

theorem reqbufs_frame {cfg : Config} {d m : Machine} {b reply : RequestBuffers} {ret : Int}
    {ok : Bool} (h : d.step cfg (.reqbufs b ret reply [] ok) = some m) :
    m.inFlight = none ∧ m.session.error = d.session.error := by
  obtain ⟨-, r, hr, rfl⟩ := Machine.step_reqbufs h
  refine ⟨rfl, ?_⟩
  rcases reqbufs_cases hr with ⟨-, hr⟩ | ⟨-, u, m, -, hr⟩ <;> rw [hr]
  rfl

/-- The state after an ioctl that throws away what is pending on a queue. -/
theorem ioctl_clears {cfg : Config} {s s' : Shared} {a : Action} {t : Fin numQueues}
    (h : s.ioctl cfg a (some t) = some s')
    (hp : ∀ m, s.machine.step cfg a = some m → (m.session.queues t).pendingDqbufs = [])
    (hf : ∀ m, s.machine.step cfg a = some m →
      m.inFlight = none ∧ m.session.error = s.machine.session.error) :
    s'.emptyPop = s.emptyPop ∧ s'.threads = s.threads ∧ s'.machine.inFlight = none ∧
      s'.machine.session.error = false ∧ (s'.queue t).pendingDqbufs = [] := by
  simp only [Shared.ioctl] at h
  split at h
  · cases h
  · rename_i herr
    simp only [Option.map_eq_some_iff] at h
    obtain ⟨m, hm, rfl⟩ := h
    exact ⟨rfl, rfl, (hf m hm).1, (hf m hm).2.trans (by simpa using herr), hp m hm⟩

/-- The condition is needed at every step: where it fails, some thread can go
on to remove an entry from an empty list. -/
theorem emptyPop_of_disturbed {cfg : Config} {s s' : Shared} {a : SharedAction}
    (hs : SharedInv s) (h : s.step cfg a = some s') (hbad : ¬ s.Undisturbed cfg a) :
    ∃ k s'', s'.step cfg (.resume k) = some s'' ∧ s''.emptyPop = true := by
  simp only [Shared.Undisturbed, not_or, not_forall] at hbad
  obtain ⟨herr, t, hemp, k, hk, hne⟩ := hbad
  cases a with
  | resume j =>
      obtain ⟨⟨req, hj⟩, hlen⟩ := hemp
      have hkj : k ≠ j := fun hkj => hne (by rw [hkj])
      have hidle : s.machine.inFlight = none := by
        cases hfl : s.machine.inFlight with
        | none => rfl
        | some fl => simp [Shared.step, hs.noEmptyPop, hj, hfl] at h
      have hs' : s' = s.resume j t req := by
        simpa [Shared.step, hs.noEmptyPop, hj, hidle, eq_comm] using h
      have hpend : (s.queue t).pendingDqbufs ≠ [] := hs.seen.resolve_left herr j t ⟨req, hj⟩
      cases hpop : dqbufPop s.machine.session t req with
      | none => exact absurd ((dqbufPop_eq_none_iff (hs.machine.queues t) req).mp hpop) hpend
      | some r =>
          obtain ⟨res, session⟩ := r
          obtain ⟨herr', -, hp⟩ := dqbufPop_pending hpop
          refine ⟨k, resume_emptyPop ?_ (t := t) ?_ ?_ ?_ ?_⟩ <;>
            simp only [hs', Shared.resume, herr, hpop, Bool.false_eq_true, if_false]
          · exact hs.noEmptyPop
          · simpa [Shared.setThread, hkj] using hk
          · simpa [herr'] using herr
          · exact hidle
          · change (session.queues t).pendingDqbufs = []
            rw [hp t, if_pos rfl, ← List.length_eq_zero_iff, List.length_tail]
            exact Nat.sub_eq_zero_of_le hlen
  | streamoff type ret =>
      replace hemp : s.clears cfg (.streamoff type ret) = some t := hemp
      have hioctl : s.ioctl cfg (.streamoff type ret []) (some t) = some s' := by
        simpa [Shared.step, hs.noEmptyPop, hemp] using h
      obtain ⟨hlive, hth, hidle, herr', hp⟩ := ioctl_clears hioctl
        (fun m hm => (streamoff_pending hm t).trans (if_pos hemp)) (fun m hm => streamoff_frame hm)
      exact ⟨k, resume_emptyPop (hlive.trans hs.noEmptyPop) (hth ▸ hk) herr' hidle hp⟩
  | reqbufs b ret reply ok =>
      replace hemp : s.clears cfg (.reqbufs b ret reply ok) = some t := hemp
      have hioctl : s.ioctl cfg (.reqbufs b ret reply [] ok) (some t) = some s' := by
        simpa [Shared.step, hs.noEmptyPop, hemp] using h
      obtain ⟨hlive, hth, hidle, herr', hp⟩ := ioctl_clears hioctl
        (fun m hm => (reqbufs_pending hm t).trans (if_pos hemp)) (fun m hm => reqbufs_frame hm)
      exact ⟨k, resume_emptyPop (hlive.trans hs.noEmptyPop) (hth ▸ hk) herr' hidle hp⟩
  | _ => exact nomatch hemp

/-- A queue with one buffer, which is completed after every thread in the list
waits for it; each of them sees the entry before the first one removes it. -/
def oneCompletionRun (threads : List Nat) : List SharedAction :=
  let rb : RequestBuffers := ⟨1, 1, memoryMmap, 0, 0⟩
  let buf : V4l2Buffer := { (default : V4l2Buffer) with type := 1, memory := memoryMmap }
  let ans : PlaneAnswers := ⟨.error (-einval), .error (-einval), 0, 0⟩
  [.reqbufs rb 0 rb true, .streamon 1 0, .qbufSubmit ⟨buf, []⟩ (fun _ => ans), .qbufReply 0] ++
    threads.map (fun k => .enter k ⟨buf, []⟩) ++ [.event ⟨buf, [], 0⟩] ++
    threads.map .observe ++ threads.map .resume

theorem dqbuf_pops_entry_oneThread :
    ∃ s, Trace.run (Shared.step ⟨false, false, false⟩) (.init false) (oneCompletionRun [0]) =
        some s ∧
      s.returned = [(1, 0)] ∧ s.emptyPop = false ∧ s.returned.Nodup := by
  refine ⟨_, rfl, by decide, ?_⟩
  apply dqbuf_pops_entry ⟨false, false, false⟩ false (oneCompletionRun [0]) _ ?_ rfl
  refine ⟨.inr (by simp [Shared.init, DqbufThread.wokenOn]), fun s hs => ?_⟩
  cases hs
  -- no step before the pop takes an entry away
  iterate 6
    refine ⟨.inr (by simp [Shared.empties, Shared.clears]), fun s hs => ?_⟩
    cases hs
  refine ⟨.inr fun t ht k hk => ?_, fun s hs => ?_⟩
  · cases k with
    | zero => rfl
    | succ k =>
        obtain ⟨req, hreq⟩ := hk
        cases hreq
  · cases hs
    trivial

/-- Two threads see the one entry, and both remove the first entry. -/
theorem dqbuf_pops_entry_fails_twoThreads :
    ¬ ∀ (cfg : Config) (nonblocking : Bool) (acts : List SharedAction) (s : Shared),
      Trace.run (Shared.step cfg) (.init nonblocking) acts = some s →
        s.emptyPop = false ∧ s.returned.Nodup := by
  intro h
  have hbad := h ⟨false, false, false⟩ false (oneCompletionRun [0, 1]) _ rfl
  exact absurd hbad.1 (by decide)

end VirtioMedia.Driver
