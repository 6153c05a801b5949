import VirtioMedia.Ffmpeg.Avcodec
import VirtioMedia.Lib.Trace

/-!
# Readiness of the event queue

The methods of `EventQueue` over an eventfd whose calls block as those of the
system do: a read of a counter that is zero, and a write for which there is no
room. A call that blocks stops the device and is `none`. None ever does, since
the counter is one while events are pending and zero otherwise.
-/

namespace VirtioMedia.Ffmpeg

/-! ### The eventfd -/

namespace EventFd

/-- A write adds to the counter, which stays below the largest value. -/
def write (counter n : Nat) : Option Nat :=
  if counter + n < 2 ^ 64 - 1 then some (counter + n) else none

/-- A read takes the counter and resets it. -/
def read (counter : Nat) : Option (Nat × Nat) :=
  if counter = 0 then none else some (counter, 0)

/-- What `poll` reports of the FD. -/
def readable (counter : Nat) : Bool := counter ≠ 0

@[simp] theorem write_zero_one : write 0 1 = some 1 := rfl

@[simp] theorem read_one : read 1 = some (1, 0) := rfl

end EventFd

/-! ### The methods -/

section Sift

variable {T : Type} (p : List T → T → Bool)

/-- What `VecDeque::retain` keeps and removes. The predicate is asked once for
each event, in order, and may depend on the events it saw before. -/
def sift : List T → List T → List T × List T
  | _, [] => ([], [])
  | seen, e :: rest =>
    let r := sift (seen ++ [e]) rest
    if p seen e then (e :: r.1, r.2) else (r.1, e :: r.2)

theorem sift_sublist (seen events : List T) : (sift p seen events).1.Sublist events := by
  induction events generalizing seen with
  | nil => exact .slnil
  | cons e rest ih =>
      unfold sift
      dsimp only
      split
      · exact (ih _).cons_cons e
      · exact (ih _).cons e

theorem sift_perm (seen events : List T) :
    events.Perm ((sift p seen events).1 ++ (sift p seen events).2) := by
  induction events generalizing seen with
  | nil => exact .nil
  | cons e rest ih =>
      unfold sift
      dsimp only
      split
      · exact (ih _).cons e
      · exact ((ih _).cons e).trans List.perm_middle.symm

/-- An event is kept exactly if the predicate, asked after the events before
it, says so. -/
theorem sift_eq_filterIdx (all seen events : List T) (hall : all = seen ++ events) :
    (sift p seen events).1 =
      ((events.zipIdx seen.length).filter fun e => p (all.take e.2) e.1).map Prod.fst := by
  induction events generalizing seen with
  | nil => rfl
  | cons e rest ih =>
      have hseen : all.take seen.length = seen := by rw [hall, List.take_left]
      have hrest := ih (seen ++ [e]) (by rw [hall, List.append_assoc, List.singleton_append])
      rw [List.length_append, List.length_singleton] at hrest
      rw [List.zipIdx_cons]
      unfold sift
      dsimp only
      by_cases h : p seen e = true
      · rw [if_pos h, List.filter_cons_of_pos (by rw [hseen]; exact h), List.map_cons, hrest]
      · rw [if_neg h, List.filter_cons_of_neg (by rw [hseen]; exact h), hrest]

theorem sift_eq_filter (p : T → Bool) (seen events : List T) :
    (sift (fun _ => p) seen events).1 = events.filter p := by
  induction events generalizing seen with
  | nil => rfl
  | cons e rest ih =>
      unfold sift
      cases h : p e with
      | true => simpa [h] using ih _
      | false => simpa [h] using ih _

end Sift

namespace EventQueue

variable {T : Type}

/-- `queue_event` over an eventfd. -/
def queueEventFd (q : EventQueue T) (e : T) : Option (EventQueue T) :=
  let pending := q.pendingEvents ++ [e]
  if pending.length = 1 then
    (EventFd.write q.event 1).map fun event => ⟨event, pending⟩
  else some ⟨q.event, pending⟩

/-- Reset the eventfd. -/
def acknowledge (q : EventQueue T) : Option (EventQueue T) :=
  (EventFd.read q.event).map fun r => { q with event := r.2 }

/-- `dequeue_event` over an eventfd. -/
def dequeueEventFd (q : EventQueue T) : Option (Option T × EventQueue T) :=
  match q.pendingEvents with
  | [] => some (none, q)
  | e :: rest =>
    let q := { q with pendingEvents := rest }
    if rest.isEmpty then q.acknowledge.map fun q => (some e, q) else some (some e, q)

/-- `retain` over an eventfd. -/
def retainFd (q : EventQueue T) (p : List T → T → Bool) : Option (EventQueue T) :=
  let wasEmpty := q.pendingEvents.isEmpty
  let q := { q with pendingEvents := (sift p [] q.pendingEvents).1 }
  if !wasEmpty && q.pendingEvents.isEmpty then q.acknowledge else some q

/-- The counter that the pending events ask for. -/
def Ready (q : EventQueue T) : Prop := q.event = if q.pendingEvents.isEmpty then 0 else 1

/-- Where the write succeeds, `queueEvent` is `queueEventFd`. -/
theorem queueEvent_eq_queueEventFd {q q' : EventQueue T} {e : T} (h : q.queueEventFd e = some q') :
    q.queueEvent e (.ok ()) = (.ok (), q') := by
  unfold queueEventFd at h
  unfold queueEvent
  dsimp only at h ⊢
  split at h
  · rename_i hone
    obtain ⟨event, hwrite, rfl⟩ := Option.map_eq_some_iff.mp h
    rw [if_pos hone]
    unfold EventFd.write at hwrite
    split at hwrite
    · cases hwrite
      rfl
    · cases hwrite
  · rename_i hmany
    cases h
    rw [if_neg hmany]

theorem acknowledge_eq_some {q q' : EventQueue T} (h : q.acknowledge = some q') :
    q' = { q with event := 0 } := by
  unfold acknowledge EventFd.read at h
  split at h
  · cases h
  · cases h
    rfl

theorem dequeueEvent_eq_dequeueEventFd {q : EventQueue T} {r : Option T × EventQueue T}
    (h : q.dequeueEventFd = some r) : q.dequeueEvent = r := by
  obtain ⟨event, pending⟩ := q
  cases pending with
  | nil =>
      cases h
      rfl
  | cons e rest =>
      unfold dequeueEvent
      by_cases hempty : rest.isEmpty = true
      · obtain ⟨q', hq', rfl⟩ := Option.map_eq_some_iff.mp ((if_pos hempty).symm.trans h)
        simp only [acknowledge_eq_some hq', if_pos hempty]
      · obtain rfl := Option.some.inj ((if_neg hempty).symm.trans h)
        simp only [if_neg hempty]

theorem retain_eq_retainFd {q q' : EventQueue T} {p : T → Bool}
    (h : q.retainFd (fun _ => p) = some q') : q.retain p = q' := by
  unfold retainFd at h
  unfold retain
  dsimp only at h ⊢
  rw [sift_eq_filter] at h
  split at h
  · rename_i hempty
    rw [acknowledge_eq_some h, if_pos hempty]
  · rename_i hkept
    cases h
    rw [if_neg hkept]

/-! ### What a call leaves -/

theorem queueEventFd_ready {q : EventQueue T} (h : q.Ready) (e : T) :
    ∃ q', q.queueEventFd e = some q' ∧ q'.Ready ∧ q'.pendingEvents = q.pendingEvents ++ [e] := by
  unfold Ready at h
  unfold queueEventFd
  cases hp : q.pendingEvents with
  | nil =>
      rw [hp] at h
      exact ⟨⟨1, [e]⟩, by simp [h], rfl, rfl⟩
  | cons e' rest =>
      rw [hp] at h
      exact ⟨⟨q.event, e' :: rest ++ [e]⟩, by simp, h, rfl⟩

/-- A queue that lost its events is acknowledged, once. -/
theorem acknowledge_ready {q : EventQueue T} (h : q.event = 1) (hp : q.pendingEvents = []) :
    q.acknowledge = some ⟨0, []⟩ := by
  simp [acknowledge, h, hp]

theorem dequeueEventFd_ready {q : EventQueue T} (h : q.Ready) :
    ∃ q', q.dequeueEventFd = some (q.pendingEvents.head?, q') ∧ q'.Ready ∧
      q'.pendingEvents = q.pendingEvents.tail := by
  unfold Ready at h
  unfold dequeueEventFd
  cases hp : q.pendingEvents with
  | nil =>
      rw [hp] at h
      exact ⟨q, rfl, by simpa [Ready, hp] using h, hp⟩
  | cons e rest =>
      rw [hp] at h
      cases rest with
      | nil =>
          refine ⟨⟨0, []⟩, ?_, rfl, rfl⟩
          simp [acknowledge_ready (q := ⟨q.event, []⟩) h rfl]
      | cons e' rest => exact ⟨⟨q.event, e' :: rest⟩, rfl, h, rfl⟩

theorem retainFd_ready {q : EventQueue T} (h : q.Ready) (p : List T → T → Bool) :
    ∃ q', q.retainFd p = some q' ∧ q'.Ready ∧
      q'.pendingEvents = (sift p [] q.pendingEvents).1 := by
  unfold Ready at h
  unfold retainFd
  cases hp : q.pendingEvents with
  | nil =>
      rw [hp] at h
      exact ⟨⟨q.event, []⟩, rfl, h, rfl⟩
  | cons e rest =>
      rw [hp] at h
      cases hk : (sift p [] (e :: rest)).1 with
      | nil =>
          refine ⟨⟨0, []⟩, ?_, rfl, rfl⟩
          simp [acknowledge_ready (q := ⟨q.event, []⟩) h rfl]
      | cons e' kept => exact ⟨⟨q.event, e' :: kept⟩, by simp, h, rfl⟩

/-! ### Runs -/

/-- What the next call does with the pending events: `queue_event` puts its
event behind them, `dequeue_event` delivers the oldest one, or none if there is
none, and `retain` keeps those its predicate asks for, in their order. -/
structure Serves (q : EventQueue T) : Prop where
  queues : ∀ e, ∃ q', q.queueEventFd e = some q' ∧ q'.pendingEvents = q.pendingEvents ++ [e]
  delivers : ∃ q', q.dequeueEventFd = some (q.pendingEvents.head?, q') ∧
    q'.pendingEvents = q.pendingEvents.tail
  retains : ∀ p, ∃ q', q.retainFd p = some q' ∧
    q'.pendingEvents = ((q.pendingEvents.zipIdx.filter fun e =>
      p (q.pendingEvents.take e.2) e.1).map Prod.fst)

theorem Ready.serves {q : EventQueue T} (h : q.Ready) : q.Serves where
  queues := by
    intro e
    obtain ⟨q', hq', -, hp⟩ := queueEventFd_ready h e
    exact ⟨q', hq', hp⟩
  delivers := by
    obtain ⟨q', hq', -, hp⟩ := dequeueEventFd_ready h
    exact ⟨q', hq', hp⟩
  retains := by
    intro p
    obtain ⟨q', hq', -, hp⟩ := retainFd_ready h p
    exact ⟨q', hq', hp.trans (sift_eq_filterIdx p _ [] _ rfl)⟩

/-- A call. -/
inductive Op (T : Type) where
  | queueEvent (e : T)
  | dequeueEvent
  | retain (p : List T → T → Bool)

/-- An event queue with the history of its events. -/
structure Account (T : Type) where
  queue : EventQueue T
  queued : List T
  delivered : List T
  removed : List T
  deriving DecidableEq

namespace Account

def init : Account T := ⟨.new, [], [], []⟩

def step (a : Account T) : Op T → Option (Account T)
  | .queueEvent e =>
    (a.queue.queueEventFd e).map fun queue => { a with queue, queued := a.queued ++ [e] }
  | .dequeueEvent =>
    a.queue.dequeueEventFd.map fun r =>
      { a with queue := r.2, delivered := a.delivered ++ r.1.toList }
  | .retain p =>
    (a.queue.retainFd p).map fun queue =>
      { a with queue, removed := a.removed ++ (sift p [] a.queue.pendingEvents).2 }

/-- The events that were delivered and those that are pending come in the order
in which they were queued, and only the removed ones are missing. -/
structure Fair (a : Account T) : Prop where
  order : (a.delivered ++ a.queue.pendingEvents).Sublist a.queued
  complete : a.queued.Perm (a.delivered ++ a.queue.pendingEvents ++ a.removed)

theorem step_ready {a : Account T} (h : a.queue.Ready) (hf : a.Fair) (op : Op T) :
    ∃ a', a.step op = some a' ∧ a'.queue.Ready ∧ a'.Fair := by
  cases op with
  | queueEvent e =>
      obtain ⟨q', hq', hready, hp⟩ := queueEventFd_ready h e
      refine ⟨_, by rw [step, hq']; rfl, hready, ?_, ?_⟩
      · dsimp only
        rw [hp, ← List.append_assoc]
        exact hf.order.append (.refl _)
      · dsimp only
        rw [hp, ← List.append_assoc, List.append_assoc _ [e]]
        exact (hf.complete.append_right [e]).trans
          (by rw [List.append_assoc]; exact List.perm_append_comm.append_left _)
  | dequeueEvent =>
      obtain ⟨q', hq', hready, hp⟩ := dequeueEventFd_ready h
      -- The event that is delivered moves from the head of one list to the end of the other.
      have hmove : a.delivered ++ a.queue.pendingEvents.head?.toList ++ q'.pendingEvents =
          a.delivered ++ a.queue.pendingEvents := by
        rw [hp]
        cases a.queue.pendingEvents with
        | nil => simp
        | cons e rest => simp
      refine ⟨_, by rw [step, hq']; rfl, hready, ?_, ?_⟩
      · dsimp only
        rw [hmove]
        exact hf.order
      · dsimp only
        rw [hmove]
        exact hf.complete
  | retain p =>
      obtain ⟨q', hq', hready, hp⟩ := retainFd_ready h p
      refine ⟨_, by rw [step, hq']; rfl, hready, ?_, ?_⟩
      · dsimp only
        rw [hp]
        exact ((sift_sublist p [] _).append_left _).trans hf.order
      · dsimp only
        rw [hp]
        -- The removed events move from the middle to the end.
        calc a.queued.Perm _ := hf.complete
          _ = a.delivered ++ (a.queue.pendingEvents ++ a.removed) := List.append_assoc ..
          List.Perm _ _ := ((sift_perm p [] _).append_right _).append_left _
          List.Perm _ _ := by
            simp only [List.append_assoc]
            exact (List.perm_append_comm.append_left _).append_left _

/-- No call of a run blocks, and every one of them leaves the counter as the
pending events ask for. -/
theorem run_ready (ops : List (Op T)) :
    ∃ a, Trace.run step init ops = some a ∧ a.queue.Ready ∧ a.Fair := by
  induction ops using List.reverseRecOn with
  | nil => exact ⟨init, rfl, rfl, .slnil, .nil⟩
  | append_singleton ops op ih =>
      obtain ⟨a, ha, hready, hfair⟩ := ih
      obtain ⟨a', ha', h⟩ := step_ready hready hfair op
      exact ⟨a', by rw [Trace.run_append, ha]; simp [Trace.run, ha'], h⟩

end Account

/-- After every sequence of calls, none of which blocks, the counter is one if
events are pending and zero otherwise, and the next `dequeue_event` delivers
the oldest of them. The events come out in the order in which they were queued,
less those that `retain` removed. -/
theorem event_queue_ready (ops : List (Op T)) :
    ∃ a, Trace.run Account.step .init ops = some a ∧
      (a.queue.event = if a.queue.pendingEvents = [] then 0 else 1) ∧
      (EventFd.readable a.queue.event = true ↔ a.queue.pendingEvents ≠ []) ∧
      (a.delivered ++ a.queue.pendingEvents).Sublist a.queued ∧
      a.queued.Perm (a.delivered ++ a.queue.pendingEvents ++ a.removed) ∧
      a.queue.Serves := by
  obtain ⟨a, ha, hready, hfair⟩ := Account.run_ready ops
  have hevent : a.queue.event = if a.queue.pendingEvents = [] then 0 else 1 := by
    simpa [Ready, List.isEmpty_iff] using hready
  refine ⟨a, ha, hevent, ?_, hfair.order, hfair.complete, hready.serves⟩
  rw [hevent]
  by_cases hp : a.queue.pendingEvents = [] <;> simp [EventFd.readable, hp]

end EventQueue

end VirtioMedia.Ffmpeg
