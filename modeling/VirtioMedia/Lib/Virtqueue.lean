import Mathlib.Data.List.Perm.Basic

/-!
# A virtqueue and the loop that empties it

The driver gives buffers to the device, and the device returns each of them
through the used ring, with the number of bytes that it wrote. It interrupts the
driver when it returns a buffer to an empty ring while callbacks are enabled,
and it may do so on other occasions.

The driver takes the returned buffers in a loop: `virtqueue_get_buf` until the
ring is empty, then `virtqueue_enable_cb`. If that finds that a buffer was
returned in the meantime, callbacks are disabled and the loop starts again.
Whatever the order of events, no buffer is lost, and a buffer that was returned
does not stay unnoticed.
-/

/-- Where the loop of the driver is. -/
inductive Service (α : Type*) where
  | idle
  | draining
  | handling (a : α) (len : Nat)
  | enabling
  | disabling
  deriving DecidableEq, Repr

/-- The buffer that is being handled. -/
def Service.held {α : Type*} : Service α → List α
  | .handling a _ => [a]
  | _ => []

/-- That buffer with the number of bytes in it. -/
def Service.current {α : Type*} : Service α → Option (α × Nat)
  | .handling a len => some (a, len)
  | _ => none

theorem Service.current_eq_some {α : Type*} {s : Service α} {u : α × Nat} :
    s.current = some u ↔ s = .handling u.1 u.2 := by
  cases s <;> simp [Service.current, Prod.ext_iff]

structure Virtqueue (α : Type*) where
  device : List α
  used : List (α × Nat)
  enabled : Bool
  interrupt : Bool
  service : Service α
  deriving DecidableEq, Repr

namespace Virtqueue

variable {α : Type*}

def init : Virtqueue α := ⟨[], [], true, false, .idle⟩

/-! ### Operations -/

/-- `virtqueue_add_sgs`, when it succeeds, and `virtqueue_kick`. -/
def add (q : Virtqueue α) (a : α) : Virtqueue α := { q with device := q.device ++ [a] }

/-- The device returns a buffer into which it wrote `len` bytes. -/
def complete [DecidableEq α] (q : Virtqueue α) (a : α) (len : Nat) (always : Bool) :
    Option (Virtqueue α) :=
  if a ∈ q.device then
    some { q with
      device := q.device.erase a
      used := q.used ++ [(a, len)]
      interrupt := q.interrupt || (q.enabled && (q.used.isEmpty || always)) }
  else none

/-- The interrupt is taken. -/
def acknowledge (q : Virtqueue α) : Option (Virtqueue α) :=
  if q.interrupt then some { q with interrupt := false } else none

/-- The loop begins. -/
def start (q : Virtqueue α) : Option (Virtqueue α) :=
  match q.service with
  | .idle => some { q with service := .draining }
  | _ => none

/-- `virtqueue_get_buf`. -/
def getBuf (q : Virtqueue α) : Option (Virtqueue α) :=
  match q.service, q.used with
  | .draining, [] => some { q with service := .enabling }
  | .draining, (a, len) :: rest => some { q with used := rest, service := .handling a len }
  | _, _ => none

/-- The loop goes on to the next buffer. -/
def handled (q : Virtqueue α) : Option (Virtqueue α) :=
  match q.service with
  | .handling _ _ => some { q with service := .draining }
  | _ => none

/-- `virtqueue_enable_cb`, which finds the ring empty or not. -/
def enableCb (q : Virtqueue α) : Option (Virtqueue α) :=
  match q.service with
  | .enabling =>
    some { q with enabled := true, service := if q.used.isEmpty then .idle else .disabling }
  | _ => none

/-- `virtqueue_disable_cb`, and back to the start of the loop. -/
def disableCb (q : Virtqueue α) : Option (Virtqueue α) :=
  match q.service with
  | .disabling => some { q with enabled := false, service := .draining }
  | _ => none

section Cases

variable {q q' : Virtqueue α}

/-- A buffer that the device has is returned; the interrupt may be due. -/
theorem complete_eq_some [DecidableEq α] {a : α} {len : Nat} {always : Bool}
    (h : q.complete a len always = some q') :
    a ∈ q.device ∧ q' = { q with
      device := q.device.erase a
      used := q.used ++ [(a, len)]
      interrupt := q.interrupt || (q.enabled && (q.used.isEmpty || always)) } := by
  rw [complete] at h
  split at h
  · rename_i ha
    exact ⟨ha, (Option.some.inj h).symm⟩
  · cases h

theorem acknowledge_eq_some (h : q.acknowledge = some q') :
    q.interrupt = true ∧ q' = { q with interrupt := false } := by
  rw [acknowledge] at h
  split at h
  · rename_i hi
    exact ⟨hi, (Option.some.inj h).symm⟩
  · cases h

theorem start_eq_some (h : q.start = some q') :
    q.service = .idle ∧ q' = { q with service := .draining } := by
  rw [start] at h
  split at h
  · rename_i hs
    exact ⟨hs, (Option.some.inj h).symm⟩
  · cases h

/-- The ring is empty, or its first buffer is taken. -/
theorem getBuf_eq_some (h : q.getBuf = some q') :
    q.service = .draining ∧
      ((q.used = [] ∧ q' = { q with service := .enabling }) ∨
        ∃ a len rest, q.used = (a, len) :: rest ∧
          q' = { q with used := rest, service := .handling a len }) := by
  rw [getBuf] at h
  split at h
  · rename_i hs hu
    exact ⟨hs, .inl ⟨hu, (Option.some.inj h).symm⟩⟩
  · rename_i a len rest hs hu
    exact ⟨hs, .inr ⟨a, len, rest, hu, (Option.some.inj h).symm⟩⟩
  · cases h

/-- A buffer that was handled leaves the loop. -/
theorem handled_eq_some (h : q.handled = some q') :
    (∃ a len, q.service = .handling a len) ∧ q' = { q with service := .draining } := by
  rw [handled] at h
  split at h
  · rename_i a len hs
    exact ⟨⟨a, len, hs⟩, (Option.some.inj h).symm⟩
  · cases h

/-- Callbacks are on, and the loop ends if nothing came in between. -/
theorem enableCb_eq_some (h : q.enableCb = some q') :
    q.service = .enabling ∧
      q' = { q with enabled := true, service := if q.used.isEmpty then .idle else .disabling } := by
  rw [enableCb] at h
  split at h
  · rename_i hs
    exact ⟨hs, (Option.some.inj h).symm⟩
  · cases h

theorem disableCb_eq_some (h : q.disableCb = some q') :
    q.service = .disabling ∧ q' = { q with enabled := false, service := .draining } := by
  rw [disableCb] at h
  split at h
  · rename_i hs
    exact ⟨hs, (Option.some.inj h).symm⟩
  · cases h

end Cases

/-! ### No buffer is lost -/

/-- The buffers, wherever they are. -/
def buffers (q : Virtqueue α) : List α := q.device ++ (q.used.map Prod.fst ++ q.service.held)

section Buffers

variable {q q' : Virtqueue α}

/-- A buffer is added. -/
theorem add_buffers (q : Virtqueue α) (a : α) : ((q.add a).buffers).Perm (a :: q.buffers) := by
  change ((q.device ++ [a]) ++ _).Perm _
  rw [List.append_assoc]
  exact List.perm_middle

/-- A buffer changes hands. -/
theorem complete_buffers [DecidableEq α] {a : α} {len : Nat} {always : Bool}
    (h : q.complete a len always = some q') : q'.buffers.Perm q.buffers := by
  obtain ⟨ha, rfl⟩ := complete_eq_some h
  have hmove : (q.device.erase a ++ (q.used.map Prod.fst ++ [a] ++ q.service.held)).Perm
      (a :: (q.device.erase a ++ (q.used.map Prod.fst ++ q.service.held))) := by
    rw [List.append_assoc (q.used.map Prod.fst)]
    exact (List.perm_middle.append_left _).trans List.perm_middle
  have hback : (a :: (q.device.erase a ++ (q.used.map Prod.fst ++ q.service.held))).Perm
      q.buffers := (List.perm_cons_erase ha).symm.append_right _
  simpa [buffers] using hmove.trans hback

theorem start_buffers (h : q.start = some q') : q'.buffers = q.buffers := by
  obtain ⟨hs, rfl⟩ := start_eq_some h
  simp [buffers, hs, Service.held]

/-- A buffer changes hands. -/
theorem getBuf_buffers (h : q.getBuf = some q') : q'.buffers.Perm q.buffers := by
  obtain ⟨hs, ⟨hu, rfl⟩ | ⟨a, len, rest, hu, rfl⟩⟩ := getBuf_eq_some h
  · simp [buffers, hs, Service.held]
  · simp only [buffers, hs, hu, Service.held, List.map_cons, List.append_nil]
    exact (List.perm_append_singleton a _).append_left _

/-- The buffer that was handled leaves the queue. -/
theorem handled_buffers {a : α} {len : Nat} (hs : q.service = .handling a len)
    (h : q.handled = some q') : q.buffers.Perm (a :: q'.buffers) := by
  obtain ⟨-, rfl⟩ := handled_eq_some h
  simp only [buffers, hs, Service.held, List.append_nil]
  rw [← List.append_assoc]
  exact List.perm_append_singleton a _

theorem enableCb_buffers (h : q.enableCb = some q') : q'.buffers = q.buffers := by
  obtain ⟨hs, rfl⟩ := enableCb_eq_some h
  simp only [buffers, hs]
  cases q.used <;> rfl

theorem disableCb_buffers (h : q.disableCb = some q') : q'.buffers = q.buffers := by
  obtain ⟨hs, rfl⟩ := disableCb_eq_some h
  simp [buffers, hs, Service.held]

end Buffers

/-! ### No buffer stays unnoticed -/

/-- A buffer in the used ring has been noticed: the loop is running, an
interrupt is pending, or the loop is about to run for another reason. -/
structure Attentive (woken : Prop) (q : Virtqueue α) : Prop where
  enabled : q.service = .idle → q.enabled = true
  noticed : q.used ≠ [] → q.service ≠ .idle ∨ q.interrupt = true ∨ woken

namespace Attentive

variable {woken : Prop} {q q' : Virtqueue α}

theorem init : Attentive woken (Virtqueue.init : Virtqueue α) :=
  ⟨fun _ => rfl, fun h => absurd rfl h⟩

/-- A running loop will look at the ring. -/
theorem of_running (h : q.service ≠ .idle) : Attentive woken q :=
  ⟨fun hs => absurd hs h, fun _ => .inl h⟩

/-- More reasons to wake up do no harm. -/
theorem mono {woken' : Prop} (hq : Attentive woken q) (h : woken → woken') : Attentive woken' q :=
  ⟨hq.enabled, fun hu => (hq.noticed hu).imp_right (Or.imp_right h)⟩

theorem add (hq : Attentive woken q) (a : α) : Attentive woken (q.add a) :=
  ⟨hq.enabled, hq.noticed⟩

/-- A buffer that is used raises the interrupt, or finds the loop running. -/
theorem complete [DecidableEq α] (hq : Attentive woken q) {a : α} {len : Nat} {always : Bool}
    (h : q.complete a len always = some q') : Attentive woken q' := by
  obtain ⟨-, rfl⟩ := complete_eq_some h
  refine ⟨hq.enabled, fun _ => ?_⟩
  by_cases hs : q.service = .idle
  · right
    by_cases hu : q.used = []
    · left
      simp [hq.enabled hs, hu]
    · rcases hq.noticed hu with hn | hi | hw
      · exact absurd hs hn
      · exact .inl (by simp [hi])
      · exact .inr hw
  · exact .inl hs

/-- Whoever takes the interrupt has to start the loop. -/
theorem acknowledge (hq : Attentive woken q) {woken' : Prop} (hw : woken')
    (h : q.acknowledge = some q') : Attentive woken' q' := by
  obtain ⟨-, rfl⟩ := acknowledge_eq_some h
  exact ⟨hq.enabled, fun _ => .inr (.inr hw)⟩

theorem start (h : q.start = some q') : Attentive woken q' := by
  obtain ⟨-, rfl⟩ := start_eq_some h
  exact .of_running (by simp)

theorem getBuf (h : q.getBuf = some q') : Attentive woken q' := by
  obtain ⟨-, ⟨-, rfl⟩ | ⟨a, len, rest, -, rfl⟩⟩ := getBuf_eq_some h
  · exact .of_running (by simp)
  · exact .of_running (by simp)

theorem handled (h : q.handled = some q') : Attentive woken q' := by
  obtain ⟨-, rfl⟩ := handled_eq_some h
  exact .of_running (by simp)

/-- The loop ends only when the ring is empty and the device will interrupt. -/
theorem enableCb (h : q.enableCb = some q') : Attentive woken q' := by
  obtain ⟨-, rfl⟩ := enableCb_eq_some h
  refine ⟨fun _ => rfl, fun hu => .inl ?_⟩
  have hempty : q.used.isEmpty = false := by simpa using hu
  simp [hempty]

theorem disableCb (h : q.disableCb = some q') : Attentive woken q' := by
  obtain ⟨-, rfl⟩ := disableCb_eq_some h
  exact .of_running (by simp)

end Attentive

/-! ### The loop ends -/

/-- The work that the loop has left while the device returns nothing. -/
def work (q : Virtqueue α) : Nat :=
  5 * q.used.length +
    match q.service, q.used with
    | .idle, _ => 0
    | .draining, [] => 2
    | .draining, _ :: _ => 1
    | .handling _ _, [] => 3
    | .handling _ _, _ :: _ => 4
    | .enabling, [] => 1
    | .enabling, _ :: _ => 3
    | .disabling, [] => 3
    | .disabling, _ :: _ => 2

section Work

variable {q : Virtqueue α}

/-- Taking a buffer is progress. -/
theorem getBuf_work (h : q.service = .draining) : ∃ q', q.getBuf = some q' ∧ q'.work < q.work := by
  rcases q with ⟨device, used, enabled, interrupt, service⟩
  cases h
  cases used with
  | nil => exact ⟨_, rfl, by simp [work]⟩
  | cons u rest =>
      refine ⟨_, rfl, ?_⟩
      cases rest with
      | nil => simp [work]
      | cons v rest =>
          simp only [work, List.length_cons]
          omega

theorem handled_work {a : α} {len : Nat} (h : q.service = .handling a len) :
    ∃ q', q.handled = some q' ∧ q'.work < q.work := by
  rcases q with ⟨device, used, enabled, interrupt, service⟩
  cases h
  refine ⟨_, rfl, ?_⟩
  cases used <;> simp [work]

/-- Looking at an empty ring is progress. -/
theorem enableCb_work (h : q.service = .enabling) :
    ∃ q', q.enableCb = some q' ∧ q'.work < q.work := by
  rcases q with ⟨device, used, enabled, interrupt, service⟩
  cases h
  refine ⟨_, rfl, ?_⟩
  cases used <;> simp [work]

theorem disableCb_work (h : q.service = .disabling) :
    ∃ q', q.disableCb = some q' ∧ q'.work < q.work := by
  rcases q with ⟨device, used, enabled, interrupt, service⟩
  cases h
  refine ⟨_, rfl, ?_⟩
  cases used <;> simp [work]

end Work

end Virtqueue
