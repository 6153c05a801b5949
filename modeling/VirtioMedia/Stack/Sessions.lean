import VirtioMedia.Driver.EventDispatch
import VirtioMedia.Stack.SessionCommands

/-!
# Sessions of the driver and of the host

`virtio_media_device_open` and `virtio_media_session_close` together with the
runner. The commands travel as bytes; any of them may be refused by the command
queue, or end without an answer. `vlock` is held from the command on, until the
session is in the list of the device or out of it; the events go on meanwhile.

The list `opened` records the IDs that the driver was told, with the numbers of the
sessions that the runner had created for them, and `orphans` the IDs of the
sessions that the runner keeps although no file can reach them.
-/

namespace VirtioMedia.Stack

open V4l2 Device Driver

/-! ### The two sides together -/

/-- How a command of the driver ends, and whether the device got it. -/
inductive Fate where
  | answered
  | rejected (ret : Int)
  | timeout (served : Bool)
  | stopped (served : Bool)
  deriving DecidableEq, Repr

namespace Fate

def served : Fate → Bool
  | .answered => true
  | .rejected _ => false
  | .timeout served | .stopped served => served

/-- The queues are stopped when the command ends. -/
def stops : Fate → Bool
  | .answered | .rejected _ => false
  | .timeout _ | .stopped _ => true

/-- What `virtio_media_kick_command` makes of a response. -/
def answer (response : List UInt8) : Fate → Answer
  | .answered => Stack.answer response
  | .rejected ret => .rejected ret
  | .timeout _ => .timeout
  | .stopped _ => .stopped

end Fate

/-- Who has `vlock`. -/
inductive VLock where
  | free
  /-- OPEN was successful, and the session is not allocated yet. -/
  | opened (id : UInt32) (nonblocking : Bool)
  /-- CLOSE is over, and the session is not freed yet. -/
  | closing (id : UInt32)
  deriving DecidableEq, Repr

structure SessionStack (D S P : Type) where
  events : Events
  runner : Runner D S P
  vlock : VLock
  opened : List (UInt32 × Nat)
  orphans : List UInt32

inductive SessionAction where
  /-- Events, and the ioctls of sessions. -/
  | event (a : EventAction)
  /-- A command that is neither OPEN nor CLOSE. -/
  | command (input : List UInt8) (room : Nat)
  | openCommand (fate : Fate) (nonblocking : Bool) (pad : UInt32)
  /-- `virtio_media_session_alloc`. -/
  | alloc (success : Bool)
  | closeCommand (id : UInt32) (fate : Fate) (pad padding : UInt32)
  /-- `virtio_media_session_free`. -/
  | free

/-- The command is an OPEN. -/
def SessionAction.opens : SessionAction → Bool
  | .openCommand .. => true
  | _ => false

/-- A session is added or removed. -/
def addsOrRemoves : EventAction → Bool
  | .open _ _ | .close _ => true
  | _ => false

variable {D S P : Type}

namespace SessionStack

/-- The IDs of the sessions of the driver. -/
def ids (st : SessionStack D S P) : List UInt32 := st.events.sessions.map (·.id)

/-- A file has the session with this ID, or is about to get it. -/
def Serves (st : SessionStack D S P) (id : UInt32) : Prop :=
  (id ∈ st.ids ∧ st.vlock ≠ .closing id) ∨ ∃ nonblocking, st.vlock = .opened id nonblocking

/-- The queues are stopped, or not. -/
def stop (events : Events) (stops : Bool) : Events :=
  { events with disconnected := events.disconnected || stops }

def init (device : D) (poller : P) : SessionStack D S P :=
  ⟨.init, .new device poller, .free, [], []⟩

section Steps

variable (env : RunnerEnv D S P Writer) (overflowChecks : Bool) (cfg : Config)

/-- The device handles the command, if it gets it. -/
def serve (r : Runner D S P) (fate : Fate) (input : List UInt8) (room : Nat) :
    Option (Runner D S P × List UInt8) :=
  if fate.served then command env overflowChecks r input room else some (r, [])

/-- OPEN is over. The value is 0 if the response is long enough and has no error. -/
def afterOpen (st : SessionStack D S P) (fate : Fate) (nonblocking : Bool)
    (r : Runner D S P) (response : List UInt8) : SessionStack D S P :=
  let st' := { st with events := stop st.events fate.stops, runner := r }
  if (sendCommandLen false 16 0 (fate.answer response)).1 = 0 then
    { st' with
      vlock := .opened (respOpenId response) nonblocking
      opened := (respOpenId response, st.runner.ledger.created) :: st.opened }
  else if r.sessionIdCounter = st.runner.sessionIdCounter then st'
  else { st' with orphans := st.runner.sessionIdCounter :: st.orphans }

/-- CLOSE is over. The session is freed whatever came of it. -/
def afterClose (st : SessionStack D S P) (id : UInt32) (fate : Fate) (r : Runner D S P) :
    SessionStack D S P :=
  { st with
    events := stop st.events fate.stops
    runner := r
    vlock := .closing id
    orphans := if fate.served then st.orphans else id :: st.orphans }

def step (st : SessionStack D S P) : SessionAction → Option (SessionStack D S P)
  | .event a =>
    if addsOrRemoves a then none
    else (st.events.step cfg a).map fun events => { st with events := events }
  | .command input room =>
    if opensOrCloses input then none
    else (command env overflowChecks st.runner input room).map fun (r, _) =>
      { st with runner := r }
  | .openCommand fate nonblocking pad =>
    match st.vlock with
    | .free =>
      if st.events.disconnected then some st
      else (serve env overflowChecks st.runner fate (openBytes pad) 16).map fun (r, response) =>
        st.afterOpen fate nonblocking r response
    | _ => none
  | .alloc success =>
    match st.vlock with
    | .opened id nonblocking =>
      if success then
        (st.events.step cfg (.open id nonblocking)).map fun events =>
          { st with events := events, vlock := .free }
      else some { st with vlock := .free, orphans := id :: st.orphans }
    | _ => none
  | .closeCommand id fate pad padding =>
    match st.vlock with
    | .free =>
      if id ∈ st.ids then
        if st.events.disconnected then
          some { st with vlock := .closing id, orphans := id :: st.orphans }
        else (serve env overflowChecks st.runner fate (closeBytes pad id padding) 0).map
          fun (r, _) => st.afterClose id fate r
      else none
    | _ => none
  | .free =>
    match st.vlock with
    | .closing id =>
      (st.events.step cfg (.close id)).map fun events =>
        { st with events := events, vlock := .free }
    | _ => none

/-- What the driver does to its sessions and to its event queue. -/
def label (st : SessionStack D S P) : SessionAction → List EventAction
  | .event a => [a]
  | .command _ _ => []
  | .openCommand fate _ _ =>
    if st.events.disconnected = false ∧ fate.stops = true then [.disconnect] else []
  | .alloc success =>
    match st.vlock with
    | .opened id nonblocking => if success then [.open id nonblocking] else []
    | _ => []
  | .closeCommand _ fate _ _ =>
    if st.events.disconnected = false ∧ fate.stops = true then [.disconnect] else []
  | .free =>
    match st.vlock with
    | .closing id => [.close id]
    | _ => []

end Steps

/-! ### The IDs that were given -/

/-- What the runner and the driver know of the IDs: they are below the next one,
each was given once, and a session that was created for an ID is stored under it
or nowhere. -/
structure Given (r : Runner D S P) (log : List (UInt32 × Nat)) : Prop where
  host : Runner.SessionsInv r
  below : ∀ id k, r.serials id = some k → id.toNat < r.sessionIdCounter.toNat
  given : ∀ e ∈ log, e.1.toNat < r.sessionIdCounter.toNat ∧ e.2 < r.ledger.created ∧
    (r.serials e.1 = some e.2 ∨ (r.serials e.1 = none ∧ ¬r.Stored e.2))
  nodup : (log.map Prod.fst).Nodup

section Given

variable {r r' : Runner D S P} {log : List (UInt32 × Nat)}

theorem created_le {r r' : Runner D S P} (h : Runner.Quiet r r') :
    r.ledger.created ≤ r'.ledger.created := by
  cases h with
  | same h hl => exact (congrArg Ledger.created hl).ge
  | closed id h hl => exact (congrArg Ledger.created hl).ge
  | refused h hl => exact (Nat.le_succ _).trans (congrArg Ledger.created hl).ge

/-- No ID was given. -/
theorem Given.same (h : Given r log) (hr : SameSessions r r') : Given r' log where
  host := h.host.quiet hr.quiet
  below := by
    rw [hr.serials, hr.counter]
    exact h.below
  given := by
    intro e he
    obtain ⟨hlt, hcreated, hstored⟩ := h.given e he
    rw [hr.serials, hr.counter, Runner.stored_congr hr.serials]
    exact ⟨hlt, hcreated.trans_le (created_le hr.quiet), hstored⟩
  nodup := h.nodup

/-- An ID that was given is not given back. -/
theorem Given.close (h : Given r log) {id : UInt32} (hr : ClosesSession id r r') :
    Given r' log where
  host := h.host.quiet hr.quiet
  below := by
    intro u k hu
    rw [hr.serials] at hu
    rw [hr.counter]
    by_cases hid : u = id
    · rw [hid, Function.update_self] at hu
      cases hu
    · rw [Function.update_of_ne hid] at hu
      exact h.below u k hu
  given := by
    intro e he
    obtain ⟨hlt, hcreated, hstored⟩ := h.given e he
    have hback : r'.Stored e.2 → ∃ u, u ≠ id ∧ r.serials u = some e.2 := by
      rintro ⟨u, hu⟩
      rw [hr.serials] at hu
      by_cases hid : u = id
      · rw [hid, Function.update_self] at hu
        cases hu
      · rw [Function.update_of_ne hid] at hu
        exact ⟨u, hid, hu⟩
    refine ⟨hr.counter ▸ hlt, hcreated.trans_le (created_le hr.quiet), ?_⟩
    rw [hr.serials]
    by_cases hid : e.1 = id
    · -- the session of this ID, which is stored under no other one
      rw [hid, Function.update_self]
      refine .inr ⟨rfl, fun hs => ?_⟩
      obtain ⟨u, hne, hu⟩ := hback hs
      rcases hstored with hsome | ⟨-, hnot⟩
      · exact hne ((h.host.inj u e.1 e.2 hu hsome).trans hid)
      · exact hnot ⟨u, hu⟩
    · rw [Function.update_of_ne hid]
      refine hstored.imp_right fun ⟨hnone, hnot⟩ => ⟨hnone, fun hs => ?_⟩
      obtain ⟨u, -, hu⟩ := hback hs
      exact hnot ⟨u, hu⟩
  nodup := h.nodup

/-- The next ID is free. -/
theorem Given.free (h : Given r log) : r.serials r.sessionIdCounter = none := by
  cases hs : r.serials r.sessionIdCounter with
  | none => rfl
  | some k => exact absurd (h.below _ k hs) (lt_irrefl _)

/-- The next ID is a new one. -/
theorem Given.ne_counter (h : Given r log) {id : UInt32} {k : Nat} (he : (id, k) ∈ log) :
    id ≠ r.sessionIdCounter := by
  rintro rfl
  exact absurd (h.given _ he).1 (lt_irrefl _)

/-- A session is created, under an ID that is not the last one. -/
theorem Given.opened (h : Given r log) (hr : Runner.Opened r r' true)
    (hcounter : r'.sessionIdCounter = r.sessionIdCounter + 1)
    (hlast : r.sessionIdCounter.toNat + 1 < 2 ^ 32) :
    Given r' log ∧ Given r' ((r.sessionIdCounter, r.ledger.created) :: log) := by
  have hnext : r'.sessionIdCounter.toNat = r.sessionIdCounter.toNat + 1 := by
    rw [hcounter, UInt32.toNat_add]
    exact Nat.mod_eq_of_lt hlast
  have hsame : ∀ u, u ≠ r.sessionIdCounter → r'.serials u = r.serials u := fun u hu => by
    rw [hr.serials, Function.update_of_ne hu]
  have hnew : r'.serials r.sessionIdCounter = some r.ledger.created := by
    rw [hr.serials, Function.update_self]
  have hbelow : ∀ id k, r'.serials id = some k → id.toNat < r'.sessionIdCounter.toNat := by
    intro id k hk
    rw [hnext]
    by_cases hid : id = r.sessionIdCounter
    · rw [hid]
      exact Nat.lt_succ_self _
    · exact (h.below id k (hsame id hid ▸ hk)).trans (Nat.lt_succ_self _)
  have hold : ∀ e ∈ log, e.1.toNat < r'.sessionIdCounter.toNat ∧ e.2 < r'.ledger.created ∧
      (r'.serials e.1 = some e.2 ∨ (r'.serials e.1 = none ∧ ¬r'.Stored e.2)) := by
    intro e he
    obtain ⟨hlt, hcreated, hstored⟩ := h.given e he
    rw [hnext, hr.created, hsame e.1 (h.ne_counter he)]
    refine ⟨hlt.trans (Nat.lt_succ_self _), hcreated.trans (Nat.lt_succ_self _),
      hstored.imp_right fun ⟨hnone, hnot⟩ => ⟨hnone, ?_⟩⟩
    rintro ⟨u, hu⟩
    by_cases hid : u = r.sessionIdCounter
    · rw [hid, hnew] at hu
      exact absurd (Option.some.inj hu) hcreated.ne'
    · exact hnot ⟨u, hsame u hid ▸ hu⟩
  have hhost : Runner.SessionsInv r' := h.host.opened hr h.free
  refine ⟨⟨hhost, hbelow, hold, h.nodup⟩, hhost, hbelow, ?_, ?_⟩
  · intro e he
    rcases List.mem_cons.mp he with rfl | he
    · rw [hnext, hr.created]
      exact ⟨Nat.lt_succ_self _, Nat.lt_succ_self _, .inl hnew⟩
    · exact hold e he
  · refine List.nodup_cons.mpr ⟨fun hmem => ?_, h.nodup⟩
    obtain ⟨e, he, heq⟩ := List.mem_map.mp hmem
    exact h.ne_counter he heq

end Given

/-! ### The invariant -/

/-- Who has which session. A session of the runner serves a file or is an orphan. -/
structure Inv (st : SessionStack D S P) : Prop extends Given st.runner st.opened where
  distinct : st.ids.Nodup
  known : ∀ id ∈ st.ids, ∃ k, (id, k) ∈ st.opened
  served : ∀ id, st.Serves id → ∃ k, (id, k) ∈ st.opened ∧ st.runner.serials id = some k
  pending : ∀ id nonblocking, st.vlock = .opened id nonblocking → id ∉ st.ids
  closing : ∀ id, st.vlock = .closing id → id ∈ st.ids
  accounted : ∀ id, st.runner.serials id ≠ none ↔ st.Serves id ∨ id ∈ st.orphans
  separate : ∀ id ∈ st.orphans, ¬st.Serves id

theorem inv_init (device : D) (poller : P) : (init device poller : SessionStack D S P).Inv where
  host := Runner.sessionsInv_new device poller
  below := by simp [init, Runner.new, Runner.serials]
  given := by simp [init]
  nodup := by simp [init]
  distinct := by simp [init, ids, Events.init]
  known := by simp [init, ids, Events.init]
  served := by simp [Serves, init, ids, Events.init]
  pending := by simp [init]
  closing := by simp [init]
  accounted := by simp [Serves, init, ids, Events.init, Runner.new, Runner.serials]
  separate := by simp [init]

section Invariant

variable {st st' : SessionStack D S P} {id : UInt32}

/-- Between commands the sessions served are those of the driver. -/
theorem serves_free (h : st.vlock = .free) (u : UInt32) : st.Serves u ↔ u ∈ st.ids := by
  simp [Serves, h]

/-- An ID that is on its way to a file is served. -/
theorem serves_opened {nonblocking : Bool} (h : st.vlock = .opened id nonblocking) (u : UInt32) :
    st.Serves u ↔ u ∈ st.ids ∨ u = id := by
  simp [Serves, h, eq_comm]

/-- A session that is being closed is not served any more. -/
theorem serves_closing (h : st.vlock = .closing id) (u : UInt32) :
    st.Serves u ↔ u ∈ st.ids ∧ u ≠ id := by
  simp [Serves, h, eq_comm]

/-- Nothing happens to the sessions. -/
theorem Inv.frame (h : st.Inv) (hr : SameSessions st.runner st'.runner) (hids : st'.ids = st.ids)
    (hvlock : st'.vlock = st.vlock) (hopened : st'.opened = st.opened)
    (horphans : st'.orphans = st.orphans) : st'.Inv where
  toGiven := hopened ▸ h.toGiven.same hr
  distinct := hids ▸ h.distinct
  known := by
    rw [hids, hopened]
    exact h.known
  served := by
    simp only [Serves, hids, hvlock, hopened, hr.serials]
    exact h.served
  pending := by
    rw [hids, hvlock]
    exact h.pending
  closing := by
    rw [hids, hvlock]
    exact h.closing
  accounted := by
    simp only [Serves, hids, hvlock, horphans, hr.serials]
    exact h.accounted
  separate := by
    simp only [Serves, hids, hvlock, horphans]
    exact h.separate

/-- The driver moves a session into its list or out of it, and serves the same
ones. -/
theorem Inv.move (h : st.Inv) (hrunner : st'.runner = st.runner) (hopened : st'.opened = st.opened)
    (horphans : st'.orphans = st.orphans) (hfree : st'.vlock = .free)
    (hserves : ∀ u, st'.Serves u ↔ st.Serves u) (hdistinct : st'.ids.Nodup) : st'.Inv where
  toGiven := by
    rw [hrunner, hopened]
    exact h.toGiven
  distinct := hdistinct
  known := by
    intro u hu
    obtain ⟨k, hk, -⟩ := h.served u ((hserves u).mp ((serves_free hfree u).mpr hu))
    exact ⟨k, hopened ▸ hk⟩
  served := by
    intro u hu
    rw [hrunner, hopened]
    exact h.served u ((hserves u).mp hu)
  pending := by simp [hfree]
  closing := by simp [hfree]
  accounted := by
    intro u
    rw [hrunner, horphans, hserves]
    exact h.accounted u
  separate := by
    intro u hu
    rw [hserves]
    exact h.separate u (horphans ▸ hu)

/-- The driver gives a session up, and the runner keeps it. -/
theorem Inv.abandon (h : st.Inv) (hrunner : st'.runner = st.runner)
    (hopened : st'.opened = st.opened) (horphans : st'.orphans = id :: st.orphans)
    (hid : st.Serves id) (hserves : ∀ u, st'.Serves u ↔ st.Serves u ∧ u ≠ id)
    (hids : st'.ids = st.ids) (hpending : ∀ u nonblocking, st'.vlock ≠ .opened u nonblocking)
    (hclosing : ∀ u, st'.vlock = .closing u → u ∈ st.ids) : st'.Inv where
  toGiven := by
    rw [hrunner, hopened]
    exact h.toGiven
  distinct := hids ▸ h.distinct
  known := by
    rw [hids, hopened]
    exact h.known
  served := by
    intro u hu
    rw [hrunner, hopened]
    exact h.served u ((hserves u).mp hu).1
  pending := fun u nonblocking hu => absurd hu (hpending u nonblocking)
  closing := hids ▸ hclosing
  accounted := by
    intro u
    rw [hrunner, horphans, hserves, h.accounted u, List.mem_cons]
    by_cases hu : u = id
    · simp [hu, hid]
    · simp [hu]
  separate := by
    intro u hu hs
    obtain ⟨hserved, hne⟩ := (hserves u).mp hs
    rcases List.mem_cons.mp (horphans ▸ hu) with rfl | hu
    · exact hne rfl
    · exact h.separate u hu hserved

/-- A session of the driver is closed at the runner. -/
theorem Inv.close (h : st.Inv) (hfree : st.vlock = .free) (hid : id ∈ st.ids)
    (hr : ClosesSession id st.runner st'.runner) (hids : st'.ids = st.ids)
    (hvlock : st'.vlock = .closing id) (hopened : st'.opened = st.opened)
    (horphans : st'.orphans = st.orphans) : st'.Inv := by
  have hserves : ∀ u, st'.Serves u ↔ st.Serves u ∧ u ≠ id := fun u => by
    rw [serves_closing hvlock, serves_free hfree, hids]
  have hsame : ∀ u, u ≠ id → st'.runner.serials u = st.runner.serials u := fun u hu => by
    rw [hr.serials, Function.update_of_ne hu]
  have horphan : ∀ u ∈ st.orphans, u ≠ id := by
    rintro u hu rfl
    exact h.separate u hu ((serves_free hfree u).mpr hid)
  exact {
    toGiven := hopened ▸ h.toGiven.close hr
    distinct := hids ▸ h.distinct
    known := by
      rw [hids, hopened]
      exact h.known
    served := by
      intro u hu
      obtain ⟨hserved, hne⟩ := (hserves u).mp hu
      rw [hopened, hsame u hne]
      exact h.served u hserved
    pending := by simp [hvlock]
    closing := by
      intro u hu
      rw [hvlock] at hu
      cases hu
      exact hids ▸ hid
    accounted := by
      intro u
      rw [horphans, hserves]
      by_cases hu : u = id
      · rw [hu, hr.serials, Function.update_self]
        exact ⟨fun hne => absurd rfl hne, fun hor => hor.elim (fun hs => absurd rfl hs.2)
          fun ho => absurd rfl (horphan id ho)⟩
      · rw [hsame u hu, h.accounted u]
        simp [hu]
    separate := by
      intro u hu hs
      exact h.separate u (horphans ▸ hu) ((hserves u).mp hs).1 }

/-- A session is created. The driver serves it, or it is an orphan. -/
theorem Inv.create (h : st.Inv) (hfree : st.vlock = .free)
    (hr : Runner.Opened st.runner st'.runner true)
    (hcounter : st'.runner.sessionIdCounter = st.runner.sessionIdCounter + 1)
    (hlast : st.runner.sessionIdCounter.toNat + 1 < 2 ^ 32) (hids : st'.ids = st.ids)
    (htold : (∃ nonblocking, st'.vlock = .opened st.runner.sessionIdCounter nonblocking) ∧
        st'.opened = (st.runner.sessionIdCounter, st.runner.ledger.created) :: st.opened ∧
        st'.orphans = st.orphans ∨
      st'.vlock = .free ∧ st'.opened = st.opened ∧
        st'.orphans = st.runner.sessionIdCounter :: st.orphans) : st'.Inv := by
  set c := st.runner.sessionIdCounter with hc
  obtain ⟨hgiven, hgiven'⟩ := h.toGiven.opened hr hcounter hlast
  have hsame : ∀ u, u ≠ c → st'.runner.serials u = st.runner.serials u := fun u hu => by
    rw [hr.serials, Function.update_of_ne hu]
  have hnew : st'.runner.serials c = some st.runner.ledger.created := by
    rw [hr.serials, Function.update_self]
  have hfresh : ∀ u, st.Serves u ∨ u ∈ st.orphans → u ≠ c := by
    rintro u hu rfl
    exact (h.accounted _).mpr hu h.toGiven.free
  have hfreshId : ∀ u ∈ st.ids, u ≠ c := fun u hu =>
    hfresh u (.inl ((serves_free hfree u).mpr hu))
  have hold : ∀ u, st.Serves u → ∃ k, (u, k) ∈ st.opened ∧ st'.runner.serials u = some k := by
    intro u hu
    rw [hsame u (hfresh u (.inl hu))]
    exact h.served u hu
  have hknown : ∀ u, st'.runner.serials u ≠ none ↔ u = c ∨ st.Serves u ∨ u ∈ st.orphans := by
    intro u
    by_cases hu : u = c
    · simp [hu, hnew]
    · rw [hsame u hu, h.accounted u]
      simp [hu]
  rcases htold with ⟨⟨nonblocking, hvlock⟩, hopened, horphans⟩ | ⟨hvlock, hopened, horphans⟩
  · have hserves : ∀ u, st'.Serves u ↔ st.Serves u ∨ u = c := fun u => by
      rw [serves_opened hvlock, serves_free hfree, hids]
    exact {
      toGiven := hopened ▸ hgiven'
      distinct := hids ▸ h.distinct
      known := by
        rw [hids, hopened]
        exact fun u hu => (h.known u hu).imp fun k hk => List.mem_cons_of_mem _ hk
      served := by
        intro u hu
        rw [hopened]
        rcases (hserves u).mp hu with hu | rfl
        · exact (hold u hu).imp fun k hk => ⟨List.mem_cons_of_mem _ hk.1, hk.2⟩
        · exact ⟨_, List.mem_cons_self, hnew⟩
      pending := by
        intro u b hu
        rw [hvlock] at hu
        cases hu
        rw [hids]
        exact fun hmem => hfreshId c hmem rfl
      closing := by simp [hvlock]
      accounted := by
        intro u
        rw [hknown, horphans, hserves]
        tauto
      separate := by
        intro u hu hs
        rw [horphans] at hu
        rcases (hserves u).mp hs with hs | hs
        · exact h.separate u hu hs
        · exact hfresh u (.inr hu) hs }
  · have hserves : ∀ u, st'.Serves u ↔ st.Serves u := fun u => by
      rw [serves_free hvlock, serves_free hfree, hids]
    exact {
      toGiven := hopened ▸ hgiven
      distinct := hids ▸ h.distinct
      known := by
        rw [hids, hopened]
        exact h.known
      served := by
        intro u hu
        rw [hopened]
        exact hold u ((hserves u).mp hu)
      pending := by simp [hvlock]
      closing := by simp [hvlock]
      accounted := by
        intro u
        rw [hknown, horphans, hserves, List.mem_cons]
        tauto
      separate := by
        intro u hu hs
        rw [hserves] at hs
        rcases List.mem_cons.mp (horphans ▸ hu) with hu | hu
        · exact hfresh u (.inl hs) hu
        · exact h.separate u hu hs }

end Invariant

/-! ### Steps -/

section Verdict

/-- The driver takes an OPEN for successful if it gets the ID. -/
theorem verdict_openResp (id : UInt32) :
    (sendCommandLen false 16 0 (Fate.answered.answer (openResp id))).1 = 0 := by
  rw [Fate.answer, answer_openResp]
  rfl

/-- A response that is only a header is too short, whatever its status. -/
theorem verdict_respHeader (e : Int) :
    (sendCommandLen false 16 0 (Fate.answered.answer (respHeader e))).1 ≠ 0 := by
  rw [Fate.answer, answer_respHeader, sendCommandLen]
  simp only [Bool.false_eq_true, if_false]
  split
  · omega
  · decide

/-- Without an answer the driver takes an OPEN for failed. -/
theorem verdict_unanswered {fate : Fate} (h : fate ≠ .answered) (response : List UInt8) :
    (sendCommandLen false 16 0 (fate.answer response)).1 ≠ 0 := by
  cases fate with
  | answered => exact absurd rfl h
  | rejected ret =>
      by_cases hret : ret < 0
      · simp [Fate.answer, sendCommandLen, kickCommand, hret, hret.ne]
      · simp [Fate.answer, sendCommandLen, kickCommand, hret, einval]
  | timeout served => simp [Fate.answer, sendCommandLen, kickCommand, etimedout]
  | stopped served => simp [Fate.answer, sendCommandLen, kickCommand, enodev]

end Verdict

section Step

variable {env : RunnerEnv D S P Writer} {overflowChecks : Bool} {cfg : Config}
  {st st' : SessionStack D S P}

/-- The device has handled the command, or never got it. -/
theorem serve_cases {r r' : Runner D S P} {fate : Fate} {input response : List UInt8} {room : Nat}
    (h : serve env overflowChecks r fate input room = some (r', response)) :
    (fate.served = true ∧ command env overflowChecks r input room = some (r', response)) ∨
      (fate.served = false ∧ r' = r) := by
  unfold serve at h
  split at h
  · rename_i hserved
    exact .inl ⟨hserved, h⟩
  · rename_i hserved
    cases h
    exact .inr ⟨by simpa using hserved, rfl⟩

/-- The events leave the IDs of the sessions alone. -/
theorem ids_event {s s' : Events} {a : EventAction} (ha : addsOrRemoves a = false)
    (h : s.step cfg a = some s') : s'.sessions.map (·.id) = s.sessions.map (·.id) := by
  by_cases hquiet : a.quiet = true
  · rw [((Events.step_effect h).2 hquiet).1]
  · cases a with
    | «open» | close => cases ha
    | ioctl id f =>
        simp only [Events.step] at h
        split at h
        · cases h
          exact ids_updateSession (by simp) _
        · cases h
    | dispatch nowNs =>
        obtain ⟨u, -, h⟩ := Option.bind_eq_some_iff.mp h
        split at h
        · cases h
        · cases h
          dsimp only [Events.route]
          split
          · rfl
          · exact ids_updateSession (fun t => t.receive_id cfg nowNs _) _
    | _ => exact absurd rfl hquiet

/-- OPEN is over. -/
theorem Inv.afterOpen (h : st.Inv) (hwrite : env.write = Writer.write) (hfree : st.vlock = .free)
    (hlast : st.runner.sessionIdCounter.toNat + 1 < 2 ^ 32) {fate : Fate} {nonblocking : Bool}
    {pad : UInt32} {r : Runner D S P} {response : List UInt8}
    (hserve : serve env overflowChecks st.runner fate (openBytes pad) 16 = some (r, response)) :
    (st.afterOpen fate nonblocking r response).Inv := by
  have hkeeps : SameSessions st.runner r →
      (sendCommandLen false 16 0 (fate.answer response)).1 ≠ 0 →
      (st.afterOpen fate nonblocking r response).Inv := by
    intro hr hret
    rw [SessionStack.afterOpen, if_neg hret, if_pos hr.counter]
    exact h.frame hr rfl rfl rfl rfl
  rcases serve_cases hserve with ⟨hserved, hcmd⟩ | ⟨hserved, rfl⟩
  · cases command_open hwrite hcmd with
    | opened hopened hcounter =>
        have hne : r.sessionIdCounter ≠ st.runner.sessionIdCounter := by
          simp [hcounter]
        by_cases hfate : fate = .answered
        · subst hfate
          rw [SessionStack.afterOpen, if_pos (verdict_openResp _), respOpenId_openResp]
          exact h.create hfree hopened hcounter hlast rfl (.inl ⟨⟨nonblocking, rfl⟩, rfl, rfl⟩)
        · rw [SessionStack.afterOpen, if_neg (verdict_unanswered hfate _), if_neg hne]
          exact h.create hfree hopened hcounter hlast rfl (.inr ⟨hfree, rfl, rfl⟩)
    | refused e hr =>
        by_cases hfate : fate = .answered
        · subst hfate
          exact hkeeps hr (verdict_respHeader e)
        · exact hkeeps hr (verdict_unanswered hfate _)
  · have hfate : fate ≠ .answered := by
      rintro rfl
      cases hserved
    exact hkeeps (.refl _) (verdict_unanswered hfate _)

/-- The driver has the ID, and memory for the session or not. -/
theorem Inv.alloc (h : st.Inv) {success : Bool}
    (hstep : st.step env overflowChecks cfg (.alloc success) = some st') : st'.Inv := by
  simp only [step] at hstep
  cases hvlock : st.vlock with
  | free | closing => simp [hvlock] at hstep
  | opened id nonblocking =>
      rw [hvlock] at hstep
      have hid : st.Serves id := (serves_opened hvlock id).mpr (.inr rfl)
      have hnew : id ∉ st.ids := h.pending id nonblocking hvlock
      cases success with
      | true =>
          simp only [if_true, Events.step, Option.map_some] at hstep
          cases hstep
          have hids : ids { st with
              events := { st.events with
                sessions := st.events.sessions ++ [⟨id, .init nonblocking, []⟩] }
              vlock := .free } = st.ids ++ [id] := by
            simp [ids]
          refine h.move rfl rfl rfl rfl (fun u => ?_) ?_
          · rw [serves_free rfl, hids, serves_opened hvlock]
            simp
          · rw [hids]
            exact h.distinct.append (List.nodup_singleton id) (by simpa using hnew)
      | false =>
          simp only [Bool.false_eq_true, if_false] at hstep
          cases hstep
          refine h.abandon rfl rfl rfl hid (fun u => ?_) rfl (by simp) (by simp)
          rw [serves_free rfl, serves_opened hvlock]
          change u ∈ st.ids ↔ _
          constructor
          · intro hu
            exact ⟨.inl hu, fun heq => hnew (heq ▸ hu)⟩
          · rintro ⟨hu | hu, hne⟩
            · exact hu
            · exact absurd hu hne

/-- The session is gone on the device if the command got there. -/
theorem Inv.closeCommand (h : st.Inv) {id : UInt32} {fate : Fate} {pad padding : UInt32}
    (hstep : st.step env overflowChecks cfg (.closeCommand id fate pad padding) = some st') :
    st'.Inv := by
  simp only [step] at hstep
  cases hfree : st.vlock with
  | opened | closing => simp [hfree] at hstep
  | free =>
      rw [hfree] at hstep
      dsimp only at hstep
      split_ifs at hstep with hid hd
      · -- no command is sent
        cases hstep
        refine h.abandon rfl rfl rfl ((serves_free hfree id).mpr hid) (fun u => ?_) rfl (by simp) ?_
        · rw [serves_closing rfl, serves_free hfree]
          rfl
        · rintro u hu
          cases hu
          exact hid
      · obtain ⟨⟨r, response⟩, hserve, rfl⟩ := Option.map_eq_some_iff.mp hstep
        rcases serve_cases hserve with ⟨hserved, hcmd⟩ | ⟨hserved, rfl⟩
        · refine h.close hfree hid (command_close hcmd) rfl rfl rfl ?_
          simp [afterClose, hserved]
        · have horphans : (afterClose st id fate st.runner).orphans = id :: st.orphans := by
            simp [afterClose, hserved]
          refine h.abandon rfl rfl horphans ((serves_free hfree id).mpr hid) (fun u => ?_) rfl
            (by simp [afterClose]) ?_
          · rw [serves_closing rfl, serves_free hfree]
            rfl
          · rintro u hu
            cases hu
            exact hid

/-- The session is gone on the driver in any case. -/
theorem Inv.free (h : st.Inv) (hstep : st.step env overflowChecks cfg .free = some st') :
    st'.Inv := by
  simp only [step] at hstep
  cases hvlock : st.vlock with
  | free | opened => simp [hvlock] at hstep
  | closing id =>
      rw [hvlock] at hstep
      obtain ⟨events, hevents, rfl⟩ := Option.map_eq_some_iff.mp hstep
      simp only [Events.step] at hevents
      split at hevents
      · cases hevents
        have hids : ids { st with
            events := { st.events with
              sessions := st.events.sessions.eraseP (·.id == id) }
            vlock := .free } = st.ids.erase id := by
          rw [List.erase_eq_eraseP', ids, ids, List.eraseP_map]
          rfl
        refine h.move rfl rfl rfl rfl (fun u => ?_) ?_
        · rw [serves_free rfl, hids, serves_closing hvlock, h.distinct.mem_erase_iff]
          exact And.comm
        · rw [hids]
          exact h.distinct.erase id
      · cases hevents

/-- A step keeps the invariant, if an OPEN finds an ID that is not the last one. -/
theorem Inv.step (h : st.Inv) (hwrite : env.write = Writer.write) {a : SessionAction}
    (hlast : a.opens = true → st.runner.sessionIdCounter.toNat + 1 < 2 ^ 32)
    (hstep : st.step env overflowChecks cfg a = some st') : st'.Inv := by
  cases a with
  | event a =>
      simp only [SessionStack.step] at hstep
      split_ifs at hstep with ha
      obtain ⟨events, hevents, rfl⟩ := Option.map_eq_some_iff.mp hstep
      exact h.frame (.refl _) (ids_event (by simpa using ha) hevents) rfl rfl rfl
  | command input room =>
      simp only [SessionStack.step] at hstep
      split_ifs at hstep with hother
      obtain ⟨⟨r, response⟩, hcmd, rfl⟩ := Option.map_eq_some_iff.mp hstep
      exact h.frame (command_same (by simpa using hother) hcmd) rfl rfl rfl rfl
  | openCommand fate nonblocking pad =>
      simp only [SessionStack.step] at hstep
      cases hfree : st.vlock with
      | opened | closing => simp [hfree] at hstep
      | free =>
          rw [hfree] at hstep
          dsimp only at hstep
          split_ifs at hstep
          · cases hstep
            exact h
          · obtain ⟨⟨r, response⟩, hserve, rfl⟩ := Option.map_eq_some_iff.mp hstep
            exact h.afterOpen hwrite hfree (hlast rfl) hserve
  | alloc success => exact h.alloc hstep
  | closeCommand id fate pad padding => exact h.closeCommand hstep
  | free => exact h.free hstep

end Step

/-! ### Runs -/

section Runs

variable {env : RunnerEnv D S P Writer} {overflowChecks : Bool} {cfg : Config}
  {st st' : SessionStack D S P}

/-- The next ID is not the last one, if the command is an OPEN. -/
def BeforeLast (st : SessionStack D S P) (a : SessionAction) : Prop :=
  a.opens = true → st.runner.sessionIdCounter.toNat + 1 < 2 ^ 32

/-- At most one ID is given in a step. -/
theorem counter_step (hwrite : env.write = Writer.write) {a : SessionAction}
    (hlast : st.BeforeLast a) (hstep : st.step env overflowChecks cfg a = some st') :
    st'.runner.sessionIdCounter.toNat ≤
      st.runner.sessionIdCounter.toNat + if a.opens then 1 else 0 := by
  cases a with
  | event a =>
      simp only [step] at hstep
      split_ifs at hstep
      obtain ⟨events, -, rfl⟩ := Option.map_eq_some_iff.mp hstep
      exact Nat.le_add_right _ _
  | command input room =>
      simp only [step] at hstep
      split_ifs at hstep with hother
      obtain ⟨⟨r, response⟩, hcmd, rfl⟩ := Option.map_eq_some_iff.mp hstep
      exact (congrArg UInt32.toNat (command_same (by simpa using hother) hcmd).counter).le
  | openCommand fate nonblocking pad =>
      simp only [step] at hstep
      split at hstep
      · split_ifs at hstep
        · cases hstep
          exact Nat.le_add_right _ _
        · obtain ⟨⟨r, response⟩, hserve, rfl⟩ := Option.map_eq_some_iff.mp hstep
          have hrunner : (st.afterOpen fate nonblocking r response).runner = r := by
            unfold afterOpen
            dsimp only
            split_ifs <;> rfl
          rw [hrunner]
          rcases serve_cases hserve with ⟨-, hcmd⟩ | ⟨-, rfl⟩
          · cases command_open hwrite hcmd with
            | opened hopened hcounter =>
                rw [hcounter, UInt32.toNat_add]
                exact (Nat.mod_eq_of_lt (hlast rfl)).le
            | refused e hr =>
                rw [hr.counter]
                exact Nat.le_add_right _ _
          · exact Nat.le_add_right _ _
      · cases hstep
  | alloc success =>
      simp only [step] at hstep
      split at hstep
      · split_ifs at hstep
        · obtain ⟨events, -, rfl⟩ := Option.map_eq_some_iff.mp hstep
          exact Nat.le_add_right _ _
        · cases hstep
          exact Nat.le_add_right _ _
      · cases hstep
  | closeCommand id fate pad padding =>
      simp only [step] at hstep
      split at hstep
      · split_ifs at hstep
        · cases hstep
          exact Nat.le_add_right _ _
        · obtain ⟨⟨r, response⟩, hserve, rfl⟩ := Option.map_eq_some_iff.mp hstep
          rcases serve_cases hserve with ⟨-, hcmd⟩ | ⟨-, rfl⟩
          · exact (congrArg UInt32.toNat (command_close hcmd).counter).le
          · exact Nat.le_add_right _ _
      · cases hstep
  | free =>
      simp only [step] at hstep
      split at hstep
      · obtain ⟨events, -, rfl⟩ := Option.map_eq_some_iff.mp hstep
        exact Nat.le_add_right _ _
      · cases hstep

/-- With fewer than 2³² OPENs, none comes to the last ID. -/
theorem conforms_beforeLast (hwrite : env.write = Writer.write) {acts : List SessionAction}
    (hopens : st.runner.sessionIdCounter.toNat + acts.countP SessionAction.opens < 2 ^ 32) :
    Trace.Conforms (step env overflowChecks cfg) BeforeLast st acts := by
  induction acts generalizing st with
  | nil => trivial
  | cons a rest ih =>
      rw [List.countP_cons] at hopens
      have hlast : st.BeforeLast a := by
        intro ha
        rw [ha, if_pos rfl] at hopens
        omega
      refine ⟨hlast, fun st' hstep => ih ?_⟩
      have hle := counter_step hwrite hlast hstep
      omega

/-- As long as the IDs last. -/
theorem inv_of_run (hwrite : env.write = Writer.write) {device : D} {poller : P}
    {acts : List SessionAction} (hopens : acts.countP SessionAction.opens < 2 ^ 32)
    (hrun : Trace.run (step env overflowChecks cfg) (init device poller) acts = some st) :
    st.Inv :=
  Trace.run_invariant_of_conforms (fun _ _ _ h hlast hstep => h.step hwrite hlast hstep)
    (inv_init device poller) (conforms_beforeLast hwrite (by simpa [init, Runner.new] using hopens))
    hrun

/-- The driver gets an answer to its commands and memory for its sessions. -/
def smooth (st : SessionStack D S P) : SessionAction → Bool
  | .openCommand fate _ _ => fate = .answered
  | .alloc success => success
  | .closeCommand _ fate _ _ => fate = .answered && !st.events.disconnected
  | _ => true

/-- Where every command is answered and memory is there, no session is lost. -/
theorem orphans_step (hwrite : env.write = Writer.write) {a : SessionAction}
    (hsmooth : st.smooth a = true) (hstep : st.step env overflowChecks cfg a = some st') :
    st'.orphans = st.orphans := by
  cases a with
  | event a =>
      simp only [step] at hstep
      split_ifs at hstep
      obtain ⟨events, -, rfl⟩ := Option.map_eq_some_iff.mp hstep
      rfl
  | command input room =>
      simp only [step] at hstep
      split_ifs at hstep
      obtain ⟨⟨r, response⟩, -, rfl⟩ := Option.map_eq_some_iff.mp hstep
      rfl
  | openCommand fate nonblocking pad =>
      obtain rfl : fate = .answered := by simpa [smooth] using hsmooth
      simp only [step] at hstep
      split at hstep
      · split_ifs at hstep
        · cases hstep
          rfl
        · obtain ⟨⟨r, response⟩, hserve, rfl⟩ := Option.map_eq_some_iff.mp hstep
          rcases serve_cases hserve with ⟨-, hcmd⟩ | ⟨hserved, -⟩
          · cases command_open hwrite hcmd with
            | opened => rw [afterOpen, if_pos (verdict_openResp _)]
            | refused e hr => rw [afterOpen, if_neg (verdict_respHeader e), if_pos hr.counter]
          · cases hserved
      · cases hstep
  | alloc success =>
      obtain rfl : success = true := hsmooth
      simp only [step, if_true] at hstep
      split at hstep
      · obtain ⟨events, -, rfl⟩ := Option.map_eq_some_iff.mp hstep
        rfl
      · cases hstep
  | closeCommand id fate pad padding =>
      obtain ⟨rfl, hconn⟩ : fate = .answered ∧ st.events.disconnected = false := by
        simpa [smooth] using hsmooth
      simp only [step, hconn, Bool.false_eq_true, if_false] at hstep
      split at hstep
      · split_ifs at hstep
        obtain ⟨⟨r, response⟩, -, rfl⟩ := Option.map_eq_some_iff.mp hstep
        rfl
      · cases hstep
  | free =>
      simp only [step] at hstep
      split at hstep
      · obtain ⟨events, -, rfl⟩ := Option.map_eq_some_iff.mp hstep
        rfl
      · cases hstep

/-- The sessions of the two sides. -/
structure Matched (st : SessionStack D S P) : Prop where
  /-- No two sessions of the driver have the same ID. -/
  distinct : st.ids.Nodup
  /-- The runner serves a file with the session that it created for its OPEN, and
  has not closed that session. -/
  served : ∀ id, st.Serves id → ∃ k, (id, k) ∈ st.opened ∧ st.runner.serials id = some k ∧
    st.runner.ledger.closed.count k = 0
  /-- It has no other sessions, but for the orphans. -/
  accounted : ∀ id, (st.runner.sessions id).isSome = true ↔ st.Serves id ∨ id ∈ st.orphans
  separate : ∀ id ∈ st.orphans, ¬st.Serves id
  /-- When the file is closed, its session is closed once. -/
  closed : ∀ e ∈ st.opened, ¬st.Serves e.1 → e.1 ∉ st.orphans →
    st.runner.ledger.closed.count e.2 = 1

/-- The sessions of the two sides differ by the orphans. -/
theorem Inv.matched (h : st.Inv) : st.Matched where
  distinct := h.distinct
  served := by
    intro id hid
    obtain ⟨k, hopened, hk⟩ := h.served id hid
    have hfate := h.host.fate k (h.host.below id k hk)
    exact ⟨k, hopened, hk, (hfate.resolve_right fun hn => hn.1 ⟨id, hk⟩).2⟩
  accounted := by
    intro id
    rw [← h.accounted, Runner.sessions_isSome, Option.isSome_iff_ne_none]
  separate := h.separate
  closed := by
    intro e he hserves horphan
    obtain ⟨-, hcreated, hstored⟩ := h.given e he
    have hnone : ¬st.runner.serials e.1 ≠ none := fun hne =>
      ((h.accounted e.1).mp hne).elim hserves horphan
    rcases hstored with hsome | ⟨-, hnot⟩
    · exact absurd (by simp [hsome]) hnone
    · exact ((h.host.fate e.2 hcreated).resolve_left fun hs => hnot hs.1).2

/-- In every run with fewer than 2³² OPENs, the sessions of the driver and of the
runner are the same, but for the orphans; and there are no orphans if the driver
got an answer to each OPEN and each CLOSE and had memory for its sessions. -/
theorem sessions_match (hwrite : env.write = Writer.write) (device : D) (poller : P)
    (acts : List SessionAction) (hopens : acts.countP SessionAction.opens < 2 ^ 32)
    (hrun : Trace.run (step env overflowChecks cfg) (init device poller) acts = some st) :
    st.Matched ∧
      (Trace.Conforms (step env overflowChecks cfg) (fun st a => st.smooth a = true)
        (init device poller) acts → st.orphans = []) := by
  refine ⟨(inv_of_run hwrite hopens hrun).matched, fun hsmooth => ?_⟩
  exact Trace.run_invariant_of_conforms (P := fun st : SessionStack D S P => st.orphans = [])
    (fun _ _ _ h hs hstep => (orphans_step hwrite hs hstep).trans h) rfl hsmooth hrun

theorem stop_label (events : Events) (stops : Bool) (hconn : events.disconnected = false) :
    Trace.run (Events.step cfg) events
        (if events.disconnected = false ∧ stops = true then [.disconnect] else []) =
      some (stop events stops) := by
  cases stops with
  | true =>
      rw [if_pos ⟨hconn, rfl⟩]
      simp [Events.step, stop, Trace.run_nil]
  | false =>
      rw [if_neg (by simp)]
      simp [Trace.run_nil, stop]

/-- A step does to the events what its label says, and the driver adds no session
whose ID it has already. -/
theorem Inv.label (h : st.Inv) {a : SessionAction}
    (hstep : st.step env overflowChecks cfg a = some st') :
    Trace.run (Events.step cfg) st.events (st.label a) = some st'.events ∧
      Trace.Conforms (Events.step cfg) Events.FreshIds st.events (st.label a) := by
  have hstop : ∀ {fate : Fate}, Trace.Conforms (Events.step cfg) Events.FreshIds st.events
      (if st.events.disconnected = false ∧ fate.stops = true then [.disconnect] else []) := by
    intro fate
    split
    · exact ⟨trivial, fun _ _ => trivial⟩
    · trivial
  cases a with
  | event a =>
      simp only [SessionStack.step] at hstep
      split_ifs at hstep with ha
      obtain ⟨events, hevents, rfl⟩ := Option.map_eq_some_iff.mp hstep
      refine ⟨by simp [SessionStack.label, hevents, Trace.run_nil], ?_, fun _ _ => trivial⟩
      cases a with
      | «open» id nonblocking => exact absurd rfl ha
      | _ => trivial
  | command input room =>
      simp only [SessionStack.step] at hstep
      split_ifs at hstep
      obtain ⟨⟨r, response⟩, -, rfl⟩ := Option.map_eq_some_iff.mp hstep
      exact ⟨rfl, trivial⟩
  | openCommand fate nonblocking pad =>
      refine ⟨?_, hstop⟩
      simp only [SessionStack.step] at hstep
      split at hstep
      · split_ifs at hstep with hd
        · cases hstep
          rw [SessionStack.label, if_neg (by simp [hd])]
          rfl
        · obtain ⟨⟨r, response⟩, -, rfl⟩ := Option.map_eq_some_iff.mp hstep
          rw [SessionStack.label, stop_label st.events fate.stops (by simpa using hd)]
          unfold SessionStack.afterOpen
          dsimp only
          split_ifs <;> rfl
      · cases hstep
  | alloc success =>
      simp only [SessionStack.step] at hstep
      cases hvlock : st.vlock with
      | free | closing => simp [hvlock] at hstep
      | opened id nonblocking =>
          rw [hvlock] at hstep
          cases success with
          | true =>
              simp only [if_true] at hstep
              obtain ⟨events, hevents, rfl⟩ := Option.map_eq_some_iff.mp hstep
              simp only [SessionStack.label, hvlock]
              refine ⟨by simp [hevents, Trace.run_nil], ?_, fun _ _ => trivial⟩
              exact findSession_eq_none.mpr (h.pending id nonblocking hvlock)
          | false =>
              cases hstep
              simp only [SessionStack.label, hvlock]
              exact ⟨rfl, trivial⟩
  | closeCommand id fate pad padding =>
      refine ⟨?_, hstop⟩
      simp only [SessionStack.step] at hstep
      split at hstep
      · split_ifs at hstep with hid hd
        · cases hstep
          rw [SessionStack.label, if_neg (by simp [hd])]
          rfl
        · obtain ⟨⟨r, response⟩, -, rfl⟩ := Option.map_eq_some_iff.mp hstep
          exact stop_label st.events fate.stops (by simpa using hd)
      · cases hstep
  | free =>
      simp only [SessionStack.step] at hstep
      cases hvlock : st.vlock with
      | free | opened => simp [hvlock] at hstep
      | closing id =>
          rw [hvlock] at hstep
          obtain ⟨events, hevents, rfl⟩ := Option.map_eq_some_iff.mp hstep
          simp only [SessionStack.label, hvlock]
          exact ⟨by simp [hevents, Trace.run_nil], trivial, fun _ _ => trivial⟩

/-- What such a run does to the events is a run of the event queue in which no
session gets the ID of another one. -/
theorem open_ids_fresh (hwrite : env.write = Writer.write) (device : D) (poller : P)
    (acts : List SessionAction) (hopens : acts.countP SessionAction.opens < 2 ^ 32)
    (hrun : Trace.run (step env overflowChecks cfg) (init device poller) acts = some st) :
    let events := Trace.labels (step env overflowChecks cfg) label (init device poller) acts
    Trace.run (Events.step cfg) .init events = some st.events ∧
      Trace.Conforms (Events.step cfg) Events.FreshIds .init events := by
  have hsimulates : Trace.Simulates (step env overflowChecks cfg) BeforeLast (Events.step cfg)
      label fun (st : SessionStack D S P) t => st.Inv ∧ st.events = t :=
    .of_abs fun _ _ _ h hlast hstep => ⟨(h.label hstep).1, h.step hwrite hlast hstep⟩
  have hconforms : Trace.Conforms (step env overflowChecks cfg) BeforeLast
      (init device poller : SessionStack D S P) acts :=
    conforms_beforeLast hwrite (by simpa [init, Runner.new] using hopens)
  have hinit : (init device poller : SessionStack D S P).Inv ∧
      (init device poller : SessionStack D S P).events = .init := ⟨inv_init device poller, rfl⟩
  obtain ⟨t, ht, -, rfl⟩ := hsimulates.run hinit hconforms hrun
  refine ⟨ht, hsimulates.conforms (fun st a st' t hrel _ hstep => ?_) hinit hconforms hrun⟩
  obtain ⟨hst, rfl⟩ := hrel
  exact (hst.label hstep).2

/-! ### Two files -/

/-- A device whose sessions need no polling. -/
def idleEnv : RunnerEnv Unit Unit Unit Writer where
  newSession _ _ := (.ok (), ())
  closeSession _ _ := ()
  pollFd _ := none
  doIoctl _ _ _ _ w := (true, (), (), w)
  doMmap _ _ _ _ := (.error einval, (), ())
  doMunmap _ _ := (.error einval, ())
  addSession _ _ _ := (.ok (), ())
  removeSession _ _ := ()
  write := Writer.write

/-- Of three sessions one cannot be allocated and one is closed. An error arrives
for the other one. -/
def twoFiles : List SessionAction :=
  [.event (.fill 0 true), .openCommand .answered false 0, .alloc true,
    .openCommand .answered true 0, .alloc false, .openCommand .answered true 0,
    .event (.send 0 (Event.encode 2 (.error 5)) false), .alloc true, .event .interrupt,
    .closeCommand 0 .answered 0 0, .event .work, .event .enter, .event .getBuf,
    .event (.dispatch 0)]

/-- The steps of the two sides on this device. -/
def idleStep : SessionStack Unit Unit Unit → SessionAction → Option (SessionStack Unit Unit Unit) :=
  step idleEnv true ⟨false, false, false⟩

theorem sessions_match_twoFiles :
    ∃ st, Trace.run idleStep (init () ()) twoFiles = some st ∧ st.ids = [0, 2] ∧
      st.vlock = .closing 0 ∧ st.orphans = [1] ∧ st.Matched := by
  have hrun : ((Trace.run idleStep (init () ()) twoFiles).any fun st =>
      st.ids = [0, 2] && st.vlock = .closing 0 && st.orphans = [1]) = true := by
    decide +kernel
  obtain ⟨st, hst, hend⟩ := (Option.any_eq_true _ _).mp hrun
  simp only [Bool.and_eq_true, decide_eq_true_eq] at hend
  exact ⟨st, hst, hend.1.1, hend.1.2, hend.2,
    (sessions_match rfl () () twoFiles (by decide) hst).1⟩

theorem open_ids_fresh_twoFiles :
    ∃ st, Trace.run idleStep (init () ()) twoFiles = some st ∧
      let events := Trace.labels idleStep label (init () ()) twoFiles
      events.length = 9 ∧
        Trace.run (Events.step ⟨false, false, false⟩) .init events = some st.events ∧
        Trace.Conforms (Events.step ⟨false, false, false⟩) Events.FreshIds .init events := by
  have hrun : ((Trace.run idleStep (init () ()) twoFiles).any fun _ =>
      (Trace.labels idleStep label (init () ()) twoFiles).length = 9) = true := by
    decide +kernel
  obtain ⟨st, hst, hend⟩ := (Option.any_eq_true _ _).mp hrun
  exact ⟨st, hst, by simpa using hend, open_ids_fresh rfl () () twoFiles (by decide) hst⟩

end Runs

end SessionStack

end VirtioMedia.Stack
