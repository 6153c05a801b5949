import VirtioMedia.Driver.Mappings
import VirtioMedia.Lib.Reach
import VirtioMedia.Lib.Trace
import VirtioMedia.Lib.Virtqueue

/-!
# The command queue and its teardown

`virtio_media_kick_command`, `commandq_callback` and `virtio_media_stop_queues`,
as steps of any number of callers, of the callback and of the removal of the
device. Callers hold `vlock`, which is left out: nothing below depends on it, as
long as the storage of one command is not used for another one.

The parameter of a callback lies on the stack of its caller, and the device
writes into the caller's storage. `fault` records that one of them was used
after the caller had returned, or the queue after it was deleted. `del_vqs`
waits for a callback that is running, and none runs after it.
-/

namespace VirtioMedia.Driver

/-- `struct virtio_media_cmd_callback_param` without its pointer. -/
structure CallbackParam where
  done : Bool
  respLen : Nat
  deriving DecidableEq, Repr

/-- Where a caller is. -/
inductive CallPhase where
  /-- It is about to take `command_lock`. -/
  | entered
  | locked
  | waiting
  /-- Its wait has timed out. -/
  | timedOut
  /-- It has marked the device as disconnected. -/
  | stopping
  /-- `none` is the refusal because the device is disconnected. -/
  | returned (a : Option Answer)
  deriving DecidableEq, Repr

/-- `status` is that of the response in the storage of a caller, `stored` says
that the callback has stored the length of the response that it handles, and
`answers` is what the device answered, newest first. -/
structure Commands where
  disconnected : Bool
  queuesStopped : Bool
  removing : Bool
  commandLock : Option Nat
  commandq : Option (Virtqueue Nat)
  stored : Bool
  phase : Nat → Option CallPhase
  param : Nat → CallbackParam
  status : Nat → UInt32
  answers : List (Nat × UInt32 × Nat)
  fault : Bool

def Commands.init : Commands where
  disconnected := false
  queuesStopped := false
  removing := false
  commandLock := none
  commandq := some .init
  stored := false
  phase := fun _ => none
  param := fun _ => ⟨false, 0⟩
  status := fun _ => 0
  answers := []
  fault := false

inductive CommandAction where
  | call (c : Nat)
  | lock (c : Nat)
  /-- `ret` is the value of `virtqueue_add_sgs`. -/
  | submit (c : Nat) (ret : Int)
  /-- The device writes a response of `len` bytes and returns the command. -/
  | complete (c : Nat) (status : UInt32) (len : Nat) (always : Bool)
  | interrupt
  | getBuf
  | storeLen
  | storeDone
  | enableCb
  | disableCb
  | wake (c : Nat)
  | timeout (c : Nat)
  | disconnect (c : Nat)
  | stop (c : Nat)
  | remove
  | removeStop
  deriving DecidableEq, Repr

/-- A thread of the driver that is already there does it. -/
def CommandAction.own : CommandAction → Prop
  | .call _ | .complete .. | .interrupt | .remove | .removeStop => False
  | _ => True

namespace Commands

def setPhase (s : Commands) (c : Nat) (p : CallPhase) : Commands :=
  { s with phase := Function.update s.phase c (some p) }

/-- The storage of a caller is gone, or not there yet. -/
def dead (s : Commands) (c : Nat) : Bool :=
  match s.phase c with
  | none | some (.returned _) => true
  | some _ => false

/-- The callback does something to the queue. -/
def onQueue (s : Commands) (f : Virtqueue Nat → Option (Virtqueue Nat)) : Option Commands :=
  (s.commandq.bind f).map fun q => { s with commandq := some q }

/-- The command whose answer the callback handles, with its length. -/
def current (s : Commands) : Option (Nat × Nat) := s.commandq.bind (·.service.current)

/-- What `virtio_media_stop_queues` does while it holds `command_lock`. -/
def stopQueues (s : Commands) : Option Commands :=
  if s.commandLock = none then
    if s.queuesStopped then some s
    else if s.commandq.all (·.service = .idle) then
      some { s with commandq := none, queuesStopped := true }
    else none
  else none

def step (s : Commands) : CommandAction → Option Commands
  | .call c =>
    if s.phase c = none then
      some { s.setPhase c (if s.disconnected then .returned none else .entered) with
        param := Function.update s.param c ⟨false, 0⟩ }
    else none
  | .lock c =>
    if s.phase c = some .entered ∧ s.commandLock = none then
      if s.disconnected then some (s.setPhase c (.returned none))
      else some { s.setPhase c .locked with commandLock := some c }
    else none
  | .submit c ret =>
    if s.phase c = some .locked then
      match s.commandq with
      | none => some { s with fault := true }
      | some q =>
        if ret ≠ 0 then
          some { s.setPhase c (.returned (some (.rejected ret))) with commandLock := none }
        else
          some { s.setPhase c .waiting with commandLock := none, commandq := some (q.add c) }
    else none
  | .complete c status len always =>
    (s.onQueue (·.complete c len always)).map fun s =>
      { s with
        status := Function.update s.status c status
        answers := (c, status, len) :: s.answers
        fault := s.fault || s.dead c }
  | .interrupt => s.onQueue fun q => q.acknowledge.bind Virtqueue.start
  | .getBuf => s.onQueue Virtqueue.getBuf
  | .storeLen =>
    s.current.bind fun (c, len) =>
      if s.stored then none
      else
        some { s with
          param := Function.update s.param c { s.param c with respLen := len }
          stored := true
          fault := s.fault || s.dead c }
  | .storeDone =>
    s.current.bind fun (c, _) =>
      if s.stored then
        (s.onQueue Virtqueue.handled).map fun s =>
          { s with
            param := Function.update s.param c { s.param c with done := true }
            stored := false
            fault := s.fault || s.dead c }
      else none
  | .enableCb => s.onQueue Virtqueue.enableCb
  | .disableCb => s.onQueue Virtqueue.disableCb
  | .wake c =>
    if s.phase c = some .waiting ∧ ((s.param c).done || s.queuesStopped) then
      some (s.setPhase c (.returned (some
        (if s.queuesStopped then .stopped else .answered (s.status c) (s.param c).respLen))))
    else none
  | .timeout c =>
    if s.phase c = some .waiting ∧ !((s.param c).done || s.queuesStopped) then
      some (s.setPhase c .timedOut)
    else none
  | .disconnect c =>
    if s.phase c = some .timedOut then some { s.setPhase c .stopping with disconnected := true }
    else none
  | .stop c =>
    if s.phase c = some .stopping then
      s.stopQueues.map fun s => s.setPhase c (.returned (some .timeout))
    else none
  | .remove => some { s with disconnected := true, removing := true }
  | .removeStop => if s.removing then s.stopQueues else none

end Commands

/-! ### What holds of the queue -/

/-- The caller has not given its command to the queue. -/
def CallPhase.unsent : Option CallPhase → Bool
  | none | some .entered | some .locked => true
  | _ => false

/-- The caller has given its command to the queue and has not returned. -/
def CallPhase.pending : Option CallPhase → Bool
  | some .waiting | some .timedOut | some .stopping => true
  | _ => false

theorem CallPhase.unsent_of_pending {p : Option CallPhase} (h : CallPhase.pending p = true) :
    CallPhase.unsent p = false := by
  cases p with
  | none => cases h
  | some p => cases p <;> first | rfl | cases h

/-- Every command is in the queue once, as long as its caller is there and has
not been told that it is done. The queue, the parameters and the responses agree
with what the device answered. -/
structure QueueInv (phase : Nat → Option CallPhase) (param : Nat → CallbackParam)
    (status : Nat → UInt32) (answers : List (Nat × UInt32 × Nat)) (stored : Bool)
    (q : Virtqueue Nat) : Prop where
  nodup : q.buffers.Nodup
  pending : ∀ c ∈ q.buffers, CallPhase.pending (phase c) = true
  undone : ∀ c ∈ q.buffers, (param c).done = false
  kept : ∀ c, phase c = some .waiting → (param c).done = false → c ∈ q.buffers
  unanswered : ∀ c ∈ q.device, c ∉ answers.map Prod.fst
  used : ∀ u ∈ q.used, (u.1, status u.1, u.2) ∈ answers
  current : ∀ u, q.service.current = some u →
    (u.1, status u.1, u.2) ∈ answers ∧ (stored = true → (param u.1).respLen = u.2)
  unstored : q.service.current = none → stored = false
  attentive : q.Attentive False

structure Commands.Inv (s : Commands) : Prop where
  fault : s.fault = false
  lock : ∀ c, s.commandLock = some c ↔ s.phase c = some .locked
  deleted : s.commandq = none ↔ s.queuesStopped = true
  disconnected : s.queuesStopped = true → s.disconnected = true ∧ s.commandLock = none
  removing : s.removing = true → s.disconnected = true
  stopping : ∀ c, s.phase c = some .stopping → s.disconnected = true
  queue : ∀ q, s.commandq = some q →
    QueueInv s.phase s.param s.status s.answers s.stored q
  unsent : ∀ c, CallPhase.unsent (s.phase c) = true →
    (s.param c).done = false ∧ c ∉ s.answers.map Prod.fst
  done : ∀ c, (s.param c).done = true →
    (c, s.status c, (s.param c).respLen) ∈ s.answers
  once : (s.answers.map Prod.fst).Nodup
  answered : ∀ c status len, s.phase c = some (.returned (some (.answered status len))) →
    (c, status, len) ∈ s.answers
  stopped : ∀ c, s.phase c = some (.returned (some .timeout)) ∨
    s.phase c = some (.returned (some .stopped)) → s.queuesStopped = true

theorem Commands.inv_init : Commands.Inv .init where
  fault := rfl
  lock := by simp [Commands.init]
  deleted := by simp [Commands.init]
  disconnected := by simp [Commands.init]
  removing := by simp [Commands.init]
  stopping := by simp [Commands.init]
  queue := by
    intro q hq
    obtain rfl := Option.some.inj hq
    exact ⟨List.nodup_nil, by simp [Virtqueue.buffers, Virtqueue.init, Service.held],
      by simp [Virtqueue.buffers, Virtqueue.init, Service.held], by simp [Commands.init],
      by simp [Virtqueue.init], by simp [Virtqueue.init],
      by simp [Virtqueue.init, Service.current], fun _ => rfl, .init⟩
  unsent := by simp [Commands.init]
  done := by simp [Commands.init]
  once := List.nodup_nil
  answered := by simp [Commands.init]
  stopped := by simp [Commands.init]

namespace QueueInv

variable {phase : Nat → Option CallPhase} {param : Nat → CallbackParam} {status : Nat → UInt32}
  {answers : List (Nat × UInt32 × Nat)} {stored : Bool} {q q' : Virtqueue Nat} {c : Nat}

theorem not_mem_of_not_pending (h : QueueInv phase param status answers stored q)
    (hc : CallPhase.pending (phase c) = false) : c ∉ q.buffers := fun hmem => by
  have := h.pending c hmem
  rw [hc] at this
  cases this

/-- A command whose caller was told that it is done is not in the queue. -/
theorem not_mem_of_done (h : QueueInv phase param status answers stored q)
    (hc : (param c).done = true) : c ∉ q.buffers := fun hmem => by
  have := h.undone c hmem
  rw [hc] at this
  cases this

theorem mem_of_current (hs : q.service.current = some (c, n)) : c ∈ q.buffers := by
  rw [Service.current_eq_some] at hs
  simp [Virtqueue.buffers, hs, Service.held]

/-- A caller goes on; it does not return while the queue has its command. -/
theorem setPhase (h : QueueInv phase param status answers stored q) {p : CallPhase}
    (hp : p ≠ .waiting) (hc : c ∈ q.buffers → CallPhase.pending (some p) = true) :
    QueueInv (Function.update phase c (some p)) param status answers stored q where
  nodup := h.nodup
  pending := by
    intro d hd
    rw [Function.update_apply]
    split
    · rename_i hdc
      exact hc (hdc ▸ hd)
    · exact h.pending d hd
  undone := h.undone
  kept := by
    intro d hd
    rw [Function.update_apply] at hd
    split at hd
    · exact absurd (Option.some.inj hd) hp
    · exact h.kept d hd
  unanswered := h.unanswered
  used := h.used
  current := h.current
  unstored := h.unstored
  attentive := h.attentive

/-- The parameter of a command that is not in the queue is written. -/
theorem setParam (h : QueueInv phase param status answers stored q) {v : CallbackParam}
    (hc : c ∉ q.buffers) (hw : phase c ≠ some .waiting) :
    QueueInv phase (Function.update param c v) status answers stored q where
  nodup := h.nodup
  pending := h.pending
  undone := by
    intro d hd
    rw [Function.update_of_ne (ne_of_mem_of_not_mem hd hc)]
    exact h.undone d hd
  kept := by
    intro d hd hdone
    have hne : d ≠ c := by
      rintro rfl
      exact hw hd
    rw [Function.update_of_ne hne] at hdone
    exact h.kept d hd hdone
  unanswered := h.unanswered
  used := h.used
  current := by
    intro u hu
    rw [Function.update_of_ne (ne_of_mem_of_not_mem (mem_of_current hu) hc)]
    exact h.current u hu
  unstored := h.unstored
  attentive := h.attentive

/-- A caller adds its command. -/
theorem add (h : QueueInv phase param status answers stored q)
    (hnew : CallPhase.pending (phase c) = false) (hdone : (param c).done = false)
    (hc : c ∉ answers.map Prod.fst) :
    QueueInv (Function.update phase c (some .waiting)) param status answers stored (q.add c) := by
  have hnot := h.not_mem_of_not_pending hnew
  have hmem : ∀ d, d ∈ (q.add c).buffers ↔ d = c ∨ d ∈ q.buffers := fun d => by
    rw [(q.add_buffers c).mem_iff, List.mem_cons]
  refine ⟨(q.add_buffers c).nodup_iff.mpr (List.nodup_cons.mpr ⟨hnot, h.nodup⟩), fun d hd => ?_,
    fun d hd => ?_, fun d hd hd' => ?_, fun d hd => ?_, h.used, h.current, h.unstored,
    h.attentive.add c⟩
  · rw [Function.update_apply]
    split
    · rfl
    · rename_i hne
      exact h.pending d (((hmem d).mp hd).resolve_left hne)
  · rcases (hmem d).mp hd with rfl | hd
    · exact hdone
    · exact h.undone d hd
  · by_cases hne : d = c
    · exact (hmem d).mpr (.inl hne)
    · rw [Function.update_of_ne hne] at hd
      exact (hmem d).mpr (.inr (h.kept d hd hd'))
  · rcases List.mem_append.mp hd with hd | hd
    · exact h.unanswered d hd
    · rw [List.mem_singleton.mp hd]
      exact hc

/-- The device answers a command. -/
theorem complete (h : QueueInv phase param status answers stored q) {len : Nat} {always : Bool}
    (hq : q.complete c len always = some q') (v : UInt32) :
    c ∈ q.buffers ∧ c ∉ answers.map Prod.fst ∧
      QueueInv phase param (Function.update status c v) ((c, v, len) :: answers) stored q' := by
  have hperm := Virtqueue.complete_buffers hq
  have hattentive := h.attentive.complete hq
  obtain ⟨hc, rfl⟩ := Virtqueue.complete_eq_some hq
  have hbuf : c ∈ q.buffers := List.mem_append_left _ hc
  have hnew := h.unanswered c hc
  -- the device answers a command once, so what it answered before is of others
  have hother : ∀ u : Nat × Nat, (u.1, status u.1, u.2) ∈ answers →
      (u.1, Function.update status c v u.1, u.2) ∈ (c, v, len) :: answers := by
    intro u hu
    have hne : u.1 ≠ c := fun he => hnew (he ▸ List.mem_map_of_mem hu)
    rw [Function.update_of_ne hne]
    exact List.mem_cons_of_mem _ hu
  refine ⟨hbuf, hnew, hperm.nodup_iff.mpr h.nodup, fun d hd => h.pending d (hperm.mem_iff.mp hd),
    fun d hd => h.undone d (hperm.mem_iff.mp hd),
    fun d hd hd' => hperm.mem_iff.mpr (h.kept d hd hd'), fun d hd => ?_, fun u hu => ?_,
    fun u hu => ⟨hother u (h.current u hu).1, (h.current u hu).2⟩, h.unstored, hattentive⟩
  · have hnodup : q.device.Nodup := h.nodup.sublist (List.sublist_append_left _ _)
    have hne : d ≠ c := fun he => (hnodup.mem_erase_iff.mp (he ▸ hd)).1 rfl
    simp only [List.map_cons, List.mem_cons, not_or]
    exact ⟨hne, h.unanswered d (List.mem_of_mem_erase hd)⟩
  · rcases List.mem_append.mp hu with hu | hu
    · exact hother u (h.used u hu)
    · rw [List.mem_singleton.mp hu]
      simp

/-- The loop of the callback makes a step that touches no buffer. -/
theorem moved (h : QueueInv phase param status answers stored q) (hbuf : q'.buffers = q.buffers)
    (hdevice : q'.device = q.device) (hused : q'.used = q.used)
    (hcurrent : q.service.current = none) (hcurrent' : q'.service.current = none)
    (hattentive : q'.Attentive False) : QueueInv phase param status answers stored q' where
  nodup := hbuf ▸ h.nodup
  pending := hbuf ▸ h.pending
  undone := hbuf ▸ h.undone
  kept := hbuf ▸ h.kept
  unanswered := hdevice ▸ h.unanswered
  used := hused ▸ h.used
  current := by
    intro u hu
    rw [hcurrent'] at hu
    cases hu
  unstored := fun _ => h.unstored hcurrent
  attentive := hattentive

/-- The callback starts. -/
theorem interrupt (h : QueueInv phase param status answers stored q)
    (hq : (q.acknowledge.bind Virtqueue.start) = some q') :
    QueueInv phase param status answers stored q' := by
  obtain ⟨q₁, hack, hstart⟩ := Option.bind_eq_some_iff.mp hq
  have hattentive : q'.Attentive False := .start hstart
  obtain ⟨-, rfl⟩ := Virtqueue.acknowledge_eq_some hack
  have hbuf := Virtqueue.start_buffers hstart
  obtain ⟨hs, rfl⟩ := Virtqueue.start_eq_some hstart
  have hidle : q.service = .idle := hs
  exact h.moved hbuf rfl rfl (by rw [hidle]; rfl) rfl hattentive

theorem enableCb (h : QueueInv phase param status answers stored q)
    (hq : q.enableCb = some q') : QueueInv phase param status answers stored q' := by
  have hattentive : q'.Attentive False := .enableCb hq
  have hbuf := Virtqueue.enableCb_buffers hq
  obtain ⟨hs, rfl⟩ := Virtqueue.enableCb_eq_some hq
  refine h.moved hbuf rfl rfl (by rw [hs]; rfl) ?_ hattentive
  cases hu : q.used <;> simp [Service.current]

theorem disableCb (h : QueueInv phase param status answers stored q)
    (hq : q.disableCb = some q') : QueueInv phase param status answers stored q' := by
  have hattentive : q'.Attentive False := .disableCb hq
  have hbuf := Virtqueue.disableCb_buffers hq
  obtain ⟨hs, rfl⟩ := Virtqueue.disableCb_eq_some hq
  exact h.moved hbuf rfl rfl (by rw [hs]; rfl) rfl hattentive

/-- The callback takes the oldest answered command. -/
theorem getBuf (h : QueueInv phase param status answers stored q)
    (hq : q.getBuf = some q') : QueueInv phase param status answers stored q' := by
  have hattentive : q'.Attentive False := .getBuf hq
  have hperm := Virtqueue.getBuf_buffers hq
  obtain ⟨hs, ⟨hu, rfl⟩ | ⟨a, len, rest, hu, rfl⟩⟩ := Virtqueue.getBuf_eq_some hq
  · refine h.moved ?_ rfl rfl (by rw [hs]; rfl) rfl hattentive
    simp [Virtqueue.buffers, hs, Service.held]
  · have hstored : stored = false := h.unstored (by rw [hs]; rfl)
    refine ⟨hperm.nodup_iff.mpr h.nodup, fun d hd => h.pending d (hperm.mem_iff.mp hd),
      fun d hd => h.undone d (hperm.mem_iff.mp hd),
      fun d hd hd' => hperm.mem_iff.mpr (h.kept d hd hd'), h.unanswered,
      fun u hu' => h.used u (by rw [hu]; exact List.mem_cons_of_mem _ hu'), fun u hu' => ?_,
      fun hu' => absurd hu' (by simp [Service.current]), hattentive⟩
    obtain rfl := Option.some.inj hu'
    exact ⟨h.used (a, len) (by rw [hu]; exact List.mem_cons_self),
      fun hst => absurd (hstored.symm.trans hst) (by decide)⟩

/-- The callback stores the length. -/
theorem storeLen (h : QueueInv phase param status answers stored q) {len : Nat}
    (hs : q.service.current = some (c, len)) :
    QueueInv phase (Function.update param c { param c with respLen := len }) status answers true
      q := by
  have hdone : ∀ d, (Function.update param c { param c with respLen := len } d).done =
      (param d).done := fun d => by
    rw [Function.update_apply]
    split
    · rename_i hd
      rw [hd]
    · rfl
  refine ⟨h.nodup, h.pending, fun d hd => (hdone d).trans (h.undone d hd),
    fun d hd hd' => h.kept d hd ((hdone d).symm.trans hd'), h.unanswered, h.used, fun u hu => ?_,
    fun hn => absurd (hn.symm.trans hs) (by simp), h.attentive⟩
  obtain rfl := Option.some.inj (hs.symm.trans hu)
  refine ⟨(h.current _ hs).1, fun _ => ?_⟩
  rw [Function.update_self]

/-- The callback tells the caller that its command is done. -/
theorem storeDone (h : QueueInv phase param status answers true q) {len : Nat}
    (hs : q.service.current = some (c, len)) (hq : q.handled = some q') :
    c ∈ q.buffers ∧ (c, status c, (param c).respLen) ∈ answers ∧
      QueueInv phase (Function.update param c { param c with done := true }) status answers false
        q' := by
  have hattentive : q'.Attentive False := .handled hq
  have hservice := Service.current_eq_some.mp hs
  have hperm := Virtqueue.handled_buffers hservice hq
  obtain ⟨-, rfl⟩ := Virtqueue.handled_eq_some hq
  have hnodup := hperm.nodup_iff.mp h.nodup
  have hnot := (List.nodup_cons.mp hnodup).1
  have hmem : ∀ d, d ∈ ({ q with service := .draining } : Virtqueue Nat).buffers →
      d ≠ c ∧ d ∈ q.buffers := fun d hd =>
    ⟨ne_of_mem_of_not_mem hd hnot, hperm.mem_iff.mpr (List.mem_cons_of_mem _ hd)⟩
  obtain ⟨hanswer, hlen⟩ := h.current _ hs
  refine ⟨mem_of_current hs, ?_, (List.nodup_cons.mp hnodup).2,
    fun d hd => h.pending d (hmem d hd).2, fun d hd => ?_, fun d hd hd' => ?_, h.unanswered, h.used,
    fun u hu => absurd hu (by simp [Service.current]), fun _ => rfl, hattentive⟩
  · rw [hlen rfl]
    exact hanswer
  · rw [Function.update_of_ne (hmem d hd).1]
    exact h.undone d (hmem d hd).2
  · have hne : d ≠ c := by
      rintro rfl
      rw [Function.update_self] at hd'
      cases hd'
    rw [Function.update_of_ne hne] at hd'
    exact (List.mem_cons.mp (hperm.mem_iff.mp (h.kept d hd hd'))).resolve_left hne

end QueueInv

/-! ### Every step keeps it -/

namespace Commands

variable {s s' : Commands} {c : Nat}

theorem dead_of_pending (h : CallPhase.pending (s.phase c) = true) : s.dead c = false := by
  unfold dead
  split
  · rename_i hp
    rw [hp] at h
    cases h
  · rename_i hp
    rw [hp] at h
    cases h
  · rfl

theorem onQueue_eq_some {f : Virtqueue Nat → Option (Virtqueue Nat)}
    (h : s.onQueue f = some s') :
    ∃ q q', s.commandq = some q ∧ f q = some q' ∧ s' = { s with commandq := some q' } := by
  obtain ⟨q', hq', rfl⟩ := Option.map_eq_some_iff.mp h
  obtain ⟨q, hq, hf⟩ := Option.bind_eq_some_iff.mp hq'
  exact ⟨q, q', hq, hf, rfl⟩

theorem current_eq_some {u : Nat × Nat} (h : s.current = some u) :
    ∃ q, s.commandq = some q ∧ q.service.current = some u :=
  Option.bind_eq_some_iff.mp h

/-- A caller goes on, with the lock or without it. -/
theorem Inv.goto (h : s.Inv) {p : CallPhase} {l : Option Nat} {commandq : Option (Virtqueue Nat)}
    (hlock : ∀ d, l = some d ↔ Function.update s.phase c (some p) d = some .locked)
    (hfree : s.queuesStopped = true → l = none) (hdeleted : commandq = none ↔ s.commandq = none)
    (hqueue : ∀ q, commandq = some q → QueueInv (Function.update s.phase c (some p)) s.param
      s.status s.answers s.stored q)
    (hunsent : CallPhase.unsent (some p) = true →
      (s.param c).done = false ∧ c ∉ s.answers.map Prod.fst)
    (hstopping : p = .stopping → s.disconnected = true)
    (hanswered : ∀ status len, p = .returned (some (.answered status len)) →
      (c, status, len) ∈ s.answers)
    (hstopped : p = .returned (some .timeout) ∨ p = .returned (some .stopped) →
      s.queuesStopped = true) :
    Inv { s.setPhase c p with commandLock := l, commandq } where
  fault := h.fault
  lock := hlock
  deleted := hdeleted.trans h.deleted
  disconnected := fun hs => ⟨(h.disconnected hs).1, hfree hs⟩
  removing := h.removing
  stopping := by
    intro d hd
    change Function.update s.phase c (some p) d = some .stopping at hd
    rw [Function.update_apply] at hd
    split at hd
    · exact hstopping (Option.some.inj hd)
    · exact h.stopping d hd
  queue := hqueue
  unsent := by
    intro d hd
    change CallPhase.unsent (Function.update s.phase c (some p) d) = true at hd
    rw [Function.update_apply] at hd
    split at hd
    · rename_i hdc
      subst hdc
      exact hunsent hd
    · exact h.unsent d hd
  done := h.done
  once := h.once
  answered := by
    intro d status len hd
    change Function.update s.phase c (some p) d = _ at hd
    rw [Function.update_apply] at hd
    split at hd
    · rename_i hdc
      subst hdc
      exact hanswered status len (Option.some.inj hd)
    · exact h.answered d status len hd
  stopped := by
    intro d hd
    change Function.update s.phase c (some p) d = _ ∨ Function.update s.phase c (some p) d = _ at hd
    rw [Function.update_apply] at hd
    split at hd
    · exact hstopped (hd.imp Option.some.inj Option.some.inj)
    · exact h.stopped d hd

/-- A caller that does not hold the lock goes on without it. -/
theorem Inv.move (h : s.Inv) {p : CallPhase} (hold : s.phase c ≠ some .locked)
    (hlock : p ≠ .locked) (hwait : p ≠ .waiting)
    (hqueue : ∀ q, s.commandq = some q → c ∈ q.buffers → CallPhase.pending (some p) = true)
    (hunsent : CallPhase.unsent (some p) = true →
      (s.param c).done = false ∧ c ∉ s.answers.map Prod.fst)
    (hstopping : p = .stopping → s.disconnected = true)
    (hanswered : ∀ status len, p = .returned (some (.answered status len)) →
      (c, status, len) ∈ s.answers)
    (hstopped : p = .returned (some .timeout) ∨ p = .returned (some .stopped) →
      s.queuesStopped = true) : (s.setPhase c p).Inv := by
  refine h.goto (l := s.commandLock) (fun d => ?_) (fun hs => (h.disconnected hs).2) Iff.rfl
    (fun q hq => (h.queue q hq).setPhase hwait (hqueue q hq)) hunsent hstopping hanswered hstopped
  rw [Function.update_apply]
  split
  · rename_i hd
    subst hd
    rw [h.lock]
    exact iff_of_false hold fun hp => hlock (Option.some.inj hp)
  · exact h.lock d

/-- A caller enters `virtio_media_kick_command`. -/
theorem Inv.call (h : s.Inv) (hstep : s.step (.call c) = some s') : s'.Inv := by
  simp only [step] at hstep
  split at hstep
  · rename_i hnone
    cases hstep
    have hun := h.unsent c (by rw [hnone]; rfl)
    have hnot : ∀ q, s.commandq = some q → c ∉ q.buffers := fun q hq =>
      (h.queue q hq).not_mem_of_not_pending (by rw [hnone]; rfl)
    -- the parameter is initialised before anything knows of the call
    have hparam : Inv { s with param := Function.update s.param c ⟨false, 0⟩ } := by
      refine ⟨h.fault, h.lock, h.deleted, h.disconnected, h.removing, h.stopping, fun q hq =>
        (h.queue q hq).setParam (hnot q hq) (by rw [hnone]; simp), fun d hd => ?_, fun d hd => ?_,
        h.once, h.answered, h.stopped⟩
      · refine ⟨?_, (h.unsent d hd).2⟩
        change (Function.update s.param c ⟨false, 0⟩ d).done = false
        rw [Function.update_apply]
        split
        · rfl
        · exact (h.unsent d hd).1
      · change (Function.update s.param c ⟨false, 0⟩ d).done = true at hd
        change (d, s.status d, (Function.update s.param c ⟨false, 0⟩ d).respLen) ∈ s.answers
        rw [Function.update_apply] at hd ⊢
        split at hd
        · cases hd
        · rename_i hne
          rw [if_neg hne]
          exact h.done d hd
    have hun' := hparam.unsent c (by simp [hnone, CallPhase.unsent])
    refine hparam.move (p := if s.disconnected then .returned none else .entered)
      (by simp [hnone]) ?_ ?_ (fun q hq hmem => absurd hmem (hnot q hq)) (fun _ => hun') ?_ ?_ ?_
    all_goals split <;> simp
  · cases hstep

theorem Inv.lockStep (h : s.Inv) (hstep : s.step (.lock c) = some s') : s'.Inv := by
  simp only [step] at hstep
  split at hstep
  · rename_i hentered
    obtain ⟨hphase, hfree⟩ := hentered
    have hun := h.unsent c (by rw [hphase]; rfl)
    have hnot : ∀ q, s.commandq = some q → c ∉ q.buffers := fun q hq =>
      (h.queue q hq).not_mem_of_not_pending (by rw [hphase]; rfl)
    split at hstep
    · cases hstep
      exact h.move (by simp [hphase]) (by simp) (by simp)
        (fun q hq hmem => absurd hmem (hnot q hq)) (by simp [CallPhase.unsent]) (by simp) (by simp)
        (by simp)
    · rename_i hconnected
      cases hstep
      refine h.goto (fun d => ?_) (fun hs => absurd (h.disconnected hs).1 hconnected) Iff.rfl
        (fun q hq => (h.queue q hq).setPhase (by simp) fun hmem => absurd hmem (hnot q hq))
        (fun _ => hun) (by simp) (by simp) (by simp)
      rw [Function.update_apply]
      split
      · rename_i hd
        simp [hd]
      · rename_i hd
        rw [← h.lock, hfree]
        simpa using Ne.symm hd
  · cases hstep

/-- The command goes to the queue, or the queue has no room. -/
theorem Inv.submit (h : s.Inv) {ret : Int} (hstep : s.step (.submit c ret) = some s') :
    s'.Inv := by
  simp only [step] at hstep
  split at hstep
  · rename_i hphase
    have hholds := (h.lock c).mpr hphase
    have hrunning : s.queuesStopped ≠ true := fun hs => by
      have := (h.disconnected hs).2
      rw [hholds] at this
      cases this
    have hun := h.unsent c (by rw [hphase]; rfl)
    have hlock : ∀ (p : CallPhase), p ≠ .locked → ∀ d, (none : Option Nat) = some d ↔
        Function.update s.phase c (some p) d = some .locked := by
      intro p hp d
      rw [Function.update_apply]
      split
      · simp [hp]
      · rename_i hd
        rw [← h.lock, hholds]
        simpa using Ne.symm hd
    split at hstep
    · rename_i hnone
      exact absurd (h.deleted.mp hnone) hrunning
    · rename_i q hq
      have hinv := h.queue q hq
      have hnot : c ∉ q.buffers := hinv.not_mem_of_not_pending (by rw [hphase]; rfl)
      split at hstep
      · cases hstep
        refine h.goto (hlock _ (by simp)) (fun _ => rfl) Iff.rfl (fun q' hq' => ?_)
          (by simp [CallPhase.unsent]) (by simp) (by simp) (by simp)
        obtain rfl := Option.some.inj (hq.symm.trans hq')
        exact hinv.setPhase (by simp) fun hmem => absurd hmem hnot
      · cases hstep
        refine h.goto (hlock _ (by simp)) (fun _ => rfl) (by simp [hq]) (fun q' hq' => ?_)
          (by simp [CallPhase.unsent]) (by simp) (by simp) (by simp)
        obtain rfl := Option.some.inj hq'
        exact hinv.add (by rw [hphase]; rfl) hun.1 hun.2
  · cases hstep

/-- The device answers a command that it was given. -/
theorem Inv.complete (h : s.Inv) {status : UInt32} {len : Nat} {always : Bool}
    (hstep : s.step (.complete c status len always) = some s') : s'.Inv := by
  obtain ⟨s₁, hs₁, rfl⟩ := Option.map_eq_some_iff.mp hstep
  obtain ⟨q, q', hq, hq', rfl⟩ := onQueue_eq_some hs₁
  obtain ⟨hmem, hnew, hinv⟩ := (h.queue q hq).complete hq' status
  have hpending := (h.queue q hq).pending c hmem
  have hother : ∀ d, d ∈ s.answers.map Prod.fst → d ≠ c := fun d hd he => hnew (he ▸ hd)
  refine ⟨?_, h.lock, ?_, h.disconnected, h.removing, h.stopping, fun q₁ hq₁ => ?_, fun d hd => ?_,
    fun d hd => ?_, List.nodup_cons.mpr ⟨hnew, h.once⟩,
    fun d st n hd => List.mem_cons_of_mem _ (h.answered d st n hd), h.stopped⟩
  · change (s.fault || s.dead c) = false
    rw [h.fault, dead_of_pending hpending]
    rfl
  · rw [← h.deleted, hq]
    simp
  · obtain rfl := Option.some.inj hq₁
    exact hinv
  · obtain ⟨hdone, hkeys⟩ := h.unsent d hd
    refine ⟨hdone, ?_⟩
    rw [List.map_cons, List.mem_cons, not_or]
    refine ⟨?_, hkeys⟩
    rintro rfl
    -- the command of a caller that has not sent it is not in the queue
    have hunsent : CallPhase.unsent (s.phase d) = true := hd
    rw [CallPhase.unsent_of_pending hpending] at hunsent
    cases hunsent
  · have hanswer := h.done d hd
    have hne := hother d (List.mem_map_of_mem hanswer)
    change (d, Function.update s.status c status d, (s.param d).respLen) ∈
      (c, status, len) :: s.answers
    rw [Function.update_of_ne hne]
    exact List.mem_cons_of_mem _ hanswer

/-- A step of the loop of the callback. -/
theorem Inv.onQueue (h : s.Inv) {f : Virtqueue Nat → Option (Virtqueue Nat)}
    (hf : ∀ q q', QueueInv s.phase s.param s.status s.answers s.stored q → f q = some q' →
      QueueInv s.phase s.param s.status s.answers s.stored q')
    (hstep : s.onQueue f = some s') : s'.Inv := by
  obtain ⟨q, q', hq, hq', rfl⟩ := onQueue_eq_some hstep
  refine ⟨h.fault, h.lock, ?_, h.disconnected, h.removing, h.stopping, fun q₁ hq₁ => ?_, h.unsent,
    h.done, h.once, h.answered, h.stopped⟩
  · rw [← h.deleted, hq]
    simp
  · obtain rfl := Option.some.inj hq₁
    exact hf q q' (h.queue q hq) hq'

/-- The callback stores the length of the response with the command of a caller
that is still there. -/
theorem Inv.storeLen (h : s.Inv) (hstep : s.step .storeLen = some s') : s'.Inv := by
  obtain ⟨⟨c, len⟩, hcurrent, hstep⟩ := Option.bind_eq_some_iff.mp hstep
  obtain ⟨q, hq, hservice⟩ := current_eq_some hcurrent
  have hinv := h.queue q hq
  have hmem := QueueInv.mem_of_current hservice
  dsimp only at hstep
  split at hstep
  · cases hstep
  · cases hstep
    have hdone : ∀ d, (Function.update s.param c { s.param c with respLen := len } d).done =
        (s.param d).done := fun d => by
      rw [Function.update_apply]
      split
      · rename_i hd
        rw [hd]
      · rfl
    refine ⟨?_, h.lock, h.deleted, h.disconnected, h.removing, h.stopping, fun q₁ hq₁ => ?_,
      fun d hd => ⟨(hdone d).trans (h.unsent d hd).1, (h.unsent d hd).2⟩, fun d hd => ?_, h.once,
      h.answered, h.stopped⟩
    · change (s.fault || s.dead c) = false
      rw [h.fault, dead_of_pending (hinv.pending c hmem)]
      rfl
    · obtain rfl := Option.some.inj (hq.symm.trans hq₁)
      exact hinv.storeLen hservice
    · have hd' := (hdone d).symm.trans hd
      have hne : d ≠ c := by
        rintro rfl
        rw [hinv.undone d hmem] at hd'
        cases hd'
      change (d, s.status d, (Function.update s.param c _ d).respLen) ∈ s.answers
      rw [Function.update_of_ne hne]
      exact h.done d hd'

/-- The callback wakes the caller, which may return from then on. -/
theorem Inv.storeDone (h : s.Inv) (hstep : s.step .storeDone = some s') : s'.Inv := by
  obtain ⟨⟨c, len⟩, hcurrent, hstep⟩ := Option.bind_eq_some_iff.mp hstep
  obtain ⟨q, hq, hservice⟩ := current_eq_some hcurrent
  dsimp only at hstep
  split at hstep
  · rename_i hstored
    obtain ⟨s₁, hs₁, rfl⟩ := Option.map_eq_some_iff.mp hstep
    obtain ⟨q₀, q', hq₀, hq', rfl⟩ := onQueue_eq_some hs₁
    obtain rfl := Option.some.inj (hq.symm.trans hq₀)
    have hinv := hstored ▸ h.queue q hq
    obtain ⟨hmem, hanswer, hinv'⟩ := hinv.storeDone hservice hq'
    have hpending := hinv.pending c hmem
    have hother : ∀ d, d ≠ c →
        Function.update s.param c { s.param c with done := true } d = s.param d := fun d hd =>
      Function.update_of_ne hd _ _
    refine ⟨?_, h.lock, ?_, h.disconnected, h.removing, h.stopping, fun q₁ hq₁ => ?_,
      fun d hd => ?_, fun d hd => ?_, h.once, h.answered, h.stopped⟩
    · change (s.fault || s.dead c) = false
      rw [h.fault, dead_of_pending hpending]
      rfl
    · rw [← h.deleted, hq]
      simp
    · obtain rfl := Option.some.inj hq₁
      exact hinv'
    · have hne : d ≠ c := by
        rintro rfl
        exact (h.unsent d hd).2 (List.mem_map_of_mem hanswer)
      change (Function.update s.param c _ d).done = false ∧ _
      rw [hother d hne]
      exact h.unsent d hd
    · change (Function.update s.param c _ d).done = true at hd
      change (d, s.status d, (Function.update s.param c _ d).respLen) ∈ s.answers
      by_cases hne : d = c
      · subst hne
        rw [Function.update_self]
        exact hanswer
      · rw [hother d hne] at hd ⊢
        exact h.done d hd
  · cases hstep

theorem Inv.wake (h : s.Inv) (hstep : s.step (.wake c) = some s') : s'.Inv := by
  simp only [step] at hstep
  split at hstep
  · rename_i hwait
    obtain ⟨hphase, hready⟩ := hwait
    cases hstep
    cases hs : s.queuesStopped with
    | true =>
        have hnone := h.deleted.mpr hs
        exact h.move (by simp [hphase]) (by simp) (by simp)
          (fun q hq => by rw [hnone] at hq; cases hq) (by simp [CallPhase.unsent]) (by simp)
          (by simp) fun _ => hs
    | false =>
        have hdone : (s.param c).done = true := by simpa [hs] using hready
        refine h.move (by simp [hphase]) (by simp) (by simp)
          (fun q hq hmem => absurd hmem ((h.queue q hq).not_mem_of_done hdone))
          (by simp [CallPhase.unsent]) (by simp) (fun status len heq => ?_) (by simp)
        simp only [Bool.false_eq_true, if_false, CallPhase.returned.injEq, Option.some.injEq,
          Answer.answered.injEq] at heq
        rw [← heq.1, ← heq.2]
        exact h.done c hdone
  · cases hstep

/-- The caller stops waiting; its command may still be in the queue. -/
theorem Inv.timeout (h : s.Inv) (hstep : s.step (.timeout c) = some s') : s'.Inv := by
  simp only [step] at hstep
  split at hstep
  · rename_i hwait
    cases hstep
    exact h.move (by simp [hwait.1]) (by simp) (by simp) (fun _ _ _ => rfl)
      (by simp [CallPhase.unsent]) (by simp) (by simp) (by simp)
  · cases hstep

/-- The device is marked as disconnected. -/
theorem Inv.mark (h : s.Inv) (removing : Bool) :
    Inv { s with disconnected := true, removing } :=
  ⟨h.fault, h.lock, h.deleted, fun hs => ⟨rfl, (h.disconnected hs).2⟩, fun _ => rfl,
    fun _ _ => rfl, h.queue, h.unsent, h.done, h.once, h.answered, h.stopped⟩

/-- The queues have to be stopped before the caller returns. -/
theorem Inv.disconnect (h : s.Inv) (hstep : s.step (.disconnect c) = some s') : s'.Inv := by
  simp only [step] at hstep
  split at hstep
  · rename_i hphase
    cases hstep
    exact (h.mark s.removing).move (by simp [hphase]) (by simp) (by simp) (fun _ _ _ => rfl)
      (by simp [CallPhase.unsent]) (fun _ => rfl) (by simp) (by simp)
  · cases hstep

/-- Stopping the queues takes every command out of them. -/
theorem Inv.stopQueues (h : s.Inv) (hd : s.disconnected = true)
    (hstep : s.stopQueues = some s') :
    s'.Inv ∧ s'.queuesStopped = true ∧ s'.phase = s.phase := by
  unfold Commands.stopQueues at hstep
  split at hstep
  · rename_i hfree
    split at hstep
    · rename_i hs
      cases hstep
      exact ⟨h, hs, rfl⟩
    · split at hstep
      · cases hstep
        exact ⟨⟨h.fault, h.lock, by simp, fun _ => ⟨hd, hfree⟩, h.removing, h.stopping,
          (fun q hq => by cases hq), h.unsent, h.done, h.once, h.answered, fun _ _ => rfl⟩,
          rfl, rfl⟩
      · cases hstep
  · cases hstep

theorem Inv.stop (h : s.Inv) (hstep : s.step (.stop c) = some s') : s'.Inv := by
  simp only [step] at hstep
  split at hstep
  · rename_i hphase
    obtain ⟨s₁, hs₁, rfl⟩ := Option.map_eq_some_iff.mp hstep
    obtain ⟨hinv, hstopped, hsame⟩ := h.stopQueues (h.stopping c hphase) hs₁
    have hnone := hinv.deleted.mpr hstopped
    exact hinv.move (by simp [hsame, hphase]) (by simp) (by simp)
      (fun q hq => by rw [hnone] at hq; cases hq) (by simp [CallPhase.unsent]) (by simp) (by simp)
      fun _ => hstopped
  · cases hstep

/-- One step of anybody; each case is the lemma of its action. -/
theorem Inv.step (h : s.Inv) {a : CommandAction} (hstep : s.step a = some s') : s'.Inv := by
  cases a with
  | call c => exact h.call hstep
  | lock c => exact h.lockStep hstep
  | submit c ret => exact h.submit hstep
  | complete c status len always => exact h.complete hstep
  | interrupt => exact h.onQueue (fun q q' hq hq' => hq.interrupt hq') hstep
  | getBuf => exact h.onQueue (fun q q' hq hq' => hq.getBuf hq') hstep
  | storeLen => exact h.storeLen hstep
  | storeDone => exact h.storeDone hstep
  | enableCb => exact h.onQueue (fun q q' hq hq' => hq.enableCb hq') hstep
  | disableCb => exact h.onQueue (fun q q' hq hq' => hq.disableCb hq') hstep
  | wake c => exact h.wake hstep
  | timeout c => exact h.timeout hstep
  | disconnect c => exact h.disconnect hstep
  | stop c => exact h.stop hstep
  | remove =>
      cases hstep
      exact h.mark true
  | removeStop =>
      simp only [Commands.step] at hstep
      split at hstep
      · rename_i hr
        exact (h.stopQueues (h.removing hr) hstep).1
      · cases hstep

theorem inv_of_run {acts : List CommandAction}
    (hrun : Trace.run Commands.step .init acts = some s) : s.Inv :=
  Trace.run_invariant (P := Inv) (fun _ _ _ h hs => h.step hs) inv_init hrun

/-! ### Every caller can return -/

/-- The caller returns, by what the driver does without the device. -/
def CanReturn (s : Commands) (c : Nat) : Prop :=
  ∃ t a, Trace.CanReach Commands.step CommandAction.own s t ∧ t.phase c = some (.returned a)

/-- What the driver can do later it can do from here. -/
theorem CanReturn.of_reach {t : Commands} (h : Trace.CanReach Commands.step CommandAction.own s t)
    (ht : t.CanReturn c) : s.CanReturn c := by
  obtain ⟨u, a, hu, hphase⟩ := ht
  exact ⟨u, a, h.trans hu, hphase⟩

theorem CanReturn.of_step {t : Commands} {a : CommandAction} (ha : a.own) (h : s.step a = some t)
    (ht : t.CanReturn c) : s.CanReturn c := .of_reach (.single ha h) ht

/-- Whoever holds the lock gives it up. -/
theorem Inv.unlock (h : s.Inv) : ∃ t, Trace.CanReach Commands.step CommandAction.own s t ∧ t.Inv ∧
    t.commandLock = none ∧ ∀ d, s.phase d ≠ some .locked → t.phase d = s.phase d := by
  cases hl : s.commandLock with
  | none => exact ⟨s, .refl s, h, hl, fun _ _ => rfl⟩
  | some d =>
      have hphase := (h.lock d).mp hl
      cases hq : s.commandq with
      | none =>
          have := (h.disconnected (h.deleted.mp hq)).2
          rw [hl] at this
          cases this
      | some q =>
          have hstep : s.step (.submit d 0) = some { s.setPhase d .waiting with
              commandLock := none, commandq := some (q.add d) } := by
            simp [Commands.step, hphase, hq]
          refine ⟨_, .single (by trivial) hstep, h.step hstep, rfl, fun e he => ?_⟩
          have hne : e ≠ d := by
            rintro rfl
            exact he hphase
          exact Function.update_of_ne hne _ _

/-- The work that the callback has left. -/
def callbackWork (s : Commands) : Nat :=
  s.commandq.elim 0 fun q => 2 * q.work + if s.stored then 0 else 1

/-- The callback comes to its end. -/
theorem Inv.settle (h : s.Inv) (hlock : s.commandLock = none) :
    ∃ t, Trace.CanReach Commands.step CommandAction.own s t ∧
      (t.Inv ∧ t.commandLock = none ∧ t.phase = s.phase) ∧
      t.commandq.all (·.service = .idle) = true := by
  refine Trace.CanReach.of_measure (P := fun t => t.Inv ∧ t.commandLock = none ∧ t.phase = s.phase)
    callbackWork (fun t ht hbusy => ?_) ⟨h, hlock, rfl⟩
  obtain ⟨hinv, hfree, hphase⟩ := ht
  cases hq : t.commandq with
  | none => simp [hq] at hbusy
  | some q =>
      have hservice : q.service ≠ .idle := by simpa [hq] using hbusy
      have hmove : ∀ {a : CommandAction} {f : Virtqueue Nat → Option (Virtqueue Nat)}, a.own →
          t.step a = t.onQueue f → (∃ q', f q = some q' ∧ q'.work < q.work) →
          ∃ a t', a.own ∧ t.step a = some t' ∧
            (t'.Inv ∧ t'.commandLock = none ∧ t'.phase = s.phase) ∧
            t'.callbackWork < t.callbackWork := by
        rintro a f ha hstep ⟨q', hq', hlt⟩
        have hsome : t.step a = some { t with commandq := some q' } := by
          rw [hstep, Commands.onQueue, hq]
          simp [hq']
        refine ⟨a, _, ha, hsome, ⟨hinv.step hsome, hfree, hphase⟩, ?_⟩
        simp only [callbackWork, hq, Option.elim_some]
        omega
      cases hs : q.service with
      | idle => exact absurd hs hservice
      | draining => exact hmove (a := .getBuf) trivial rfl (Virtqueue.getBuf_work hs)
      | enabling => exact hmove (a := .enableCb) trivial rfl (Virtqueue.enableCb_work hs)
      | disabling => exact hmove (a := .disableCb) trivial rfl (Virtqueue.disableCb_work hs)
      | handling d len =>
          have hcurrent : t.current = some (d, len) := by simp [current, hq, hs, Service.current]
          cases hstored : t.stored with
          | false =>
              have hsome : ∃ t', t.step .storeLen = some t' ∧ t'.commandq = t.commandq ∧
                  t'.stored = true ∧ t'.commandLock = t.commandLock ∧ t'.phase = t.phase := by
                simp only [Commands.step, hcurrent, Option.bind_some, hstored]
                exact ⟨_, rfl, rfl, rfl, rfl, rfl⟩
              obtain ⟨t', hstep, hq', hst', hl', hp'⟩ := hsome
              refine ⟨.storeLen, t', trivial, hstep, ⟨hinv.step hstep, hl'.trans hfree,
                hp'.trans hphase⟩, ?_⟩
              simp [callbackWork, hq', hq, hst', hstored]
          | true =>
              obtain ⟨q', hq', hlt⟩ := Virtqueue.handled_work hs
              have hsome : ∃ t', t.step .storeDone = some t' ∧ t'.commandq = some q' ∧
                  t'.stored = false ∧ t'.commandLock = t.commandLock ∧ t'.phase = t.phase := by
                simp only [Commands.step, hcurrent, Option.bind_some, hstored, if_true,
                  Commands.onQueue, hq,
                  hq', Option.map_some]
                exact ⟨_, rfl, rfl, rfl, rfl, rfl⟩
              obtain ⟨t', hstep, hq'', hst', hl', hp'⟩ := hsome
              refine ⟨.storeDone, t', trivial, hstep, ⟨hinv.step hstep, hl'.trans hfree,
                hp'.trans hphase⟩, ?_⟩
              simp only [callbackWork, hq'', hq, hst', hstored, Option.elim_some, if_true]
              simp only [Bool.false_eq_true, if_false]
              omega

/-- A caller that stops the queues returns. -/
theorem Inv.canReturn_stopping (h : s.Inv) (hphase : s.phase c = some .stopping) :
    s.CanReturn c := by
  obtain ⟨t, hreach, hinv, hfree, hkeep⟩ := h.unlock
  have hphase' : t.phase c = some .stopping := (hkeep c (by simp [hphase])).trans hphase
  obtain ⟨u, hreach', ⟨-, hfree', hsame⟩, hidle⟩ := hinv.settle hfree
  refine .of_reach (hreach.trans hreach') ?_
  obtain ⟨v, hv⟩ : ∃ v, u.stopQueues = some v := by
    simp only [Commands.stopQueues, hfree', if_true, hidle]
    split <;> exact ⟨_, rfl⟩
  have hstep : u.step (.stop c) = some (v.setPhase c (.returned (some .timeout))) := by
    simp [Commands.step, hsame, hphase', hv]
  exact ⟨_, _, .single (by trivial) hstep, Function.update_self _ _ _⟩

/-- A caller that waits returns when it is done, or after its wait has timed
out. -/
theorem Inv.canReturn_waiting (h : s.Inv) (hphase : s.phase c = some .waiting) :
    s.CanReturn c := by
  by_cases hready : ((s.param c).done || s.queuesStopped) = true
  · have hstep : s.step (.wake c) = some (s.setPhase c (.returned (some
        (if s.queuesStopped then .stopped else .answered (s.status c) (s.param c).respLen)))) :=
      if_pos ⟨hphase, hready⟩
    exact ⟨_, _, .single (by trivial) hstep, Function.update_self _ _ _⟩
  · have htimeout : s.step (.timeout c) = some (s.setPhase c .timedOut) :=
      if_pos ⟨hphase, by simpa using hready⟩
    have hdisconnect : (s.setPhase c .timedOut).step (.disconnect c) =
        some { (s.setPhase c .timedOut).setPhase c .stopping with disconnected := true } :=
      if_pos (Function.update_self _ _ _)
    refine .of_step (by trivial) htimeout (.of_step (by trivial) hdisconnect ?_)
    exact ((h.step htimeout).step hdisconnect).canReturn_stopping (Function.update_self _ _ _)

/-- A caller that has `command_lock` sends its command or is refused. -/
theorem Inv.canReturn_locked (h : s.Inv) (hphase : s.phase c = some .locked) :
    s.CanReturn c := by
  cases hq : s.commandq with
  | none =>
      have := (h.disconnected (h.deleted.mp hq)).2
      rw [(h.lock c).mpr hphase] at this
      cases this
  | some q =>
      have hstep : s.step (.submit c 0) = some { s.setPhase c .waiting with
          commandLock := none, commandq := some (q.add c) } := by
        simp [Commands.step, hphase, hq]
      exact .of_step (by trivial) hstep
        ((h.step hstep).canReturn_waiting (Function.update_self _ _ _))

theorem Inv.canReturn_entered (h : s.Inv) (hphase : s.phase c = some .entered) :
    s.CanReturn c := by
  obtain ⟨t, hreach, hinv, hfree, hkeep⟩ := h.unlock
  have hphase' : t.phase c = some .entered := (hkeep c (by simp [hphase])).trans hphase
  refine .of_reach hreach ?_
  cases hd : t.disconnected with
  | true =>
      have hstep : t.step (.lock c) = some (t.setPhase c (.returned none)) := by
        simp [Commands.step, hphase', hfree, hd]
      exact ⟨_, _, .single (by trivial) hstep, Function.update_self _ _ _⟩
  | false =>
      have hstep : t.step (.lock c) = some { t.setPhase c .locked with commandLock := some c } := by
        simp [Commands.step, hphase', hfree, hd]
      exact .of_step (by trivial) hstep
        ((hinv.step hstep).canReturn_locked (Function.update_self _ _ _))

/-! ### Runs -/

/-- In every run, neither the device nor the callback uses the storage of a
caller that is not there, and the queue is not used after it was deleted. What a
caller that has returned had given to the queue is in it no more. -/
theorem command_storage_safe (acts : List CommandAction)
    (hrun : Trace.run Commands.step .init acts = some s) :
    s.fault = false ∧ ∀ c a, s.phase c = some (.returned a) →
      ∀ q, s.commandq = some q → c ∉ q.buffers := by
  have h := inv_of_run hrun
  refine ⟨h.fault, fun c a hc q hq => (h.queue q hq).not_mem_of_not_pending ?_⟩
  rw [hc]
  rfl

/-- Of two commands one is answered while the wait for the other one times out.
The queues are stopped when the callback has come to its end; a third caller
finds the device disconnected. -/
def teardownRun : List CommandAction :=
  [.call 0, .lock 0, .submit 0 0, .call 1, .lock 1, .submit 1 0, .complete 0 5 24 false,
    .interrupt, .getBuf, .timeout 1, .disconnect 1, .storeLen, .storeDone, .call 2, .wake 0,
    .getBuf, .enableCb, .stop 1]

theorem command_storage_safe_teardown :
    ∃ s, Trace.run Commands.step .init teardownRun = some s ∧
      s.phase 1 = some (.returned (some .timeout)) ∧ s.fault = false ∧
      ∀ c a, s.phase c = some (.returned a) → ∀ q, s.commandq = some q → c ∉ q.buffers :=
  ⟨_, rfl, by decide, command_storage_safe teardownRun rfl⟩

/-- What the callers and the device agree on. -/
structure Faithful (s : Commands) : Prop where
  /-- A caller is told what the device answered to its command, once. -/
  answered : ∀ c status len, s.phase c = some (.returned (some (.answered status len))) →
    (c, status, len) ∈ s.answers ∧ ∀ status' len', (c, status', len') ∈ s.answers →
      status' = status ∧ len' = len
  /-- It is told of a stop or of a timeout only after the queues were stopped. -/
  stopped : ∀ c, s.phase c = some (.returned (some .timeout)) ∨
    s.phase c = some (.returned (some .stopped)) → s.commandq = none ∧ s.disconnected = true
  /-- A command that somebody waits for is in the queue. -/
  kept : ∀ q c, s.commandq = some q → s.phase c = some .waiting → (s.param c).done = false →
    c ∈ q.buffers
  /-- An answer in the used ring has been noticed. -/
  noticed : ∀ q, s.commandq = some q → q.used ≠ [] → q.service ≠ .idle ∨ q.interrupt = true

/-- In every reached state, whatever callers, device, callback, timeouts and
removal have done in between. -/
theorem commands_faithful (acts : List CommandAction)
    (hrun : Trace.run Commands.step .init acts = some s) : s.Faithful := by
  have h := inv_of_run hrun
  refine ⟨fun c status len hc => ⟨h.answered c status len hc, fun status' len' hanswer => ?_⟩,
    fun c hc => ?_, fun q c hq => (h.queue q hq).kept c, fun q hq hu => ?_⟩
  · have heq := List.inj_on_of_nodup_map h.once hanswer (h.answered c status len hc) rfl
    simpa using heq
  · have hs := h.stopped c hc
    exact ⟨h.deleted.mpr hs, (h.disconnected hs).1⟩
  · simpa using (h.queue q hq).attentive.noticed hu

theorem commands_faithful_teardown :
    ∃ s, Trace.run Commands.step .init teardownRun = some s ∧
      s.phase 0 = some (.returned (some (.answered 5 24))) ∧ s.Faithful :=
  ⟨_, rfl, by decide, commands_faithful teardownRun rfl⟩

/-- From every state of every run, every call can come to its end without the
device, whatever the other callers, the callback and the removal are at. -/
theorem command_can_return (acts : List CommandAction)
    (hrun : Trace.run Commands.step .init acts = some s) (hcall : s.phase c ≠ none) :
    s.CanReturn c := by
  have h := inv_of_run hrun
  obtain ⟨p, hp⟩ := Option.ne_none_iff_exists'.mp hcall
  cases p with
  | entered => exact h.canReturn_entered hp
  | locked => exact h.canReturn_locked hp
  | waiting => exact h.canReturn_waiting hp
  | timedOut =>
      have hstep : s.step (.disconnect c) =
          some { s.setPhase c .stopping with disconnected := true } := if_pos hp
      exact .of_step (by trivial) hstep
        ((h.step hstep).canReturn_stopping (Function.update_self _ _ _))
  | stopping => exact h.canReturn_stopping hp
  | returned a => exact ⟨s, a, .refl s, hp⟩

theorem command_can_return_teardown :
    ∃ s, Trace.run Commands.step .init (teardownRun.take 12) = some s ∧
      s.phase 1 = some .stopping ∧ s.current = some (0, 24) ∧ s.CanReturn 1 :=
  ⟨_, rfl, by decide, by decide, command_can_return (teardownRun.take 12) rfl (by decide)⟩

end Commands

end VirtioMedia.Driver
