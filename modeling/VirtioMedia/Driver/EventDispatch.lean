import VirtioMedia.Driver.SendIoctls
import VirtioMedia.Lib.Reach
import VirtioMedia.Lib.Refinement
import VirtioMedia.Lib.Virtqueue
import VirtioMedia.Wire

/-!
# The event queue and its dispatch

`virtio_media_process_events` with its callback, its worker and its direct
callers, the event buffers that circulate between driver and device, and the
sessions to which the events go. `events_lock` is held by whoever runs the loop
over the event queue, and by a session that is being closed.

The list `sent` is what the device sent, oldest first, and `handled` what the
driver has dispatched.
-/

namespace VirtioMedia.Driver

open V4l2

/-! ### Events -/

/-- The events of the protocol without their headers; the `v4l2_event` of a
session event is only passed on. -/
inductive Event where
  | error (errno : UInt32)
  | dqbuf (buffer : V4l2Buffer) (planes : List V4l2Plane)
  | event (v4l2Event : Vector UInt8 136)
  deriving DecidableEq, Repr

/-- `VIRTIO_MEDIA_EVENT_MAX_SIZE`. -/
def eventMaxSize : Nat := 608

/-- `VIRTIO_MEDIA_NUM_EVENT_BUFS`. -/
def numEventBufs : Nat := 16

/-- The checks of `virtio_media_process_events` on an event of `len` bytes, and
what it reads from the buffer. -/
def parseEvent (len : Nat) (mem : List UInt8) : Option (UInt32 × Event) :=
  if len < 8 then none
  else
    ((Codec.pair Codec.u32 Codec.u32).read mem).bind fun ((event, sessionId), rest) =>
      match event with
      | 0 =>
        if len < 16 then none
        else (Codec.u32.read rest).map fun r => (sessionId, .error r.1)
      | 1 =>
        if len < 608 then none
        else
          (Wire.v4l2Buffer.read rest).bind fun b =>
            (Wire.v4l2Plane.readMany videoMaxPlanes b.2).map fun ps =>
              (sessionId, .dqbuf b.1 ps.1)
      | 2 =>
        if len < 144 then none
        else ((Codec.bytes 136).read rest).map fun r => (sessionId, .event r.1)
      | _ => none

/-- The bytes of an event. -/
def Event.encode (sessionId : UInt32) : Event → List UInt8
  | .error errno => (Codec.pair Codec.u32 Codec.u32).enc (0, sessionId) ++
      (Codec.u32.enc errno ++ Codec.u32.enc 0)
  | .dqbuf buffer planes => (Codec.pair Codec.u32 Codec.u32).enc (1, sessionId) ++
      (Wire.v4l2Buffer.enc buffer ++ planes.flatMap Wire.v4l2Plane.enc)
  | .event v4l2Event => (Codec.pair Codec.u32 Codec.u32).enc (2, sessionId) ++
      (Codec.bytes 136).enc v4l2Event

/-- A buffer has `VIDEO_MAX_PLANES` planes on the wire. -/
def Event.WellFormed : Event → Prop
  | .dqbuf _ planes => planes.length = videoMaxPlanes
  | _ => True

theorem Event.encode_length (sessionId : UInt32) {e : Event} (he : e.WellFormed) :
    (e.encode sessionId).length = match e with
      | .error _ => 16
      | .dqbuf .. => 608
      | .event _ => 144 := by
  cases e with
  | error errno => simp only [encode, List.length_append, Codec.length_enc]; rfl
  | dqbuf buffer planes =>
      simp only [encode, List.length_append, Codec.length_enc, Codec.length_flatMap_enc,
        show planes.length = videoMaxPlanes from he]
      rfl
  | event v4l2Event => simp only [encode, List.length_append, Codec.length_enc]; rfl

/-- The driver reads what was written, whatever the buffer held before. -/
theorem parseEvent_encode (sessionId : UInt32) {e : Event} (he : e.WellFormed)
    (stale : List UInt8) :
    parseEvent (e.encode sessionId).length (e.encode sessionId ++ stale) = some (sessionId, e) := by
  rw [Event.encode_length sessionId he]
  cases e with
  | error errno =>
      simp [parseEvent, Event.encode, List.append_assoc]
  | dqbuf buffer planes =>
      have hread := Codec.readMany_flatMap_enc_append Wire.v4l2Plane planes stale
      rw [show planes.length = videoMaxPlanes from he] at hread
      simp only [parseEvent, Event.encode, List.append_assoc, Codec.read_enc_append,
        Option.bind_some, hread]
      rfl
  | event v4l2Event =>
      simp [parseEvent, Event.encode, List.append_assoc]

/-! ### Sessions -/

/-- A session with the events given to `v4l2_event_queue_fh`. -/
structure EventSession where
  id : UInt32
  session : Session
  queued : List (Vector UInt8 136)

/-- What an event does to its session. -/
def EventSession.receive (cfg : Config) (nowNs : Nat) (s : EventSession) : Event → EventSession
  | .error _ => { s with session := { s.session with error := true } }
  | .dqbuf buffer planes =>
    { s with session := processDqbufEvent cfg s.session ⟨buffer, planes, nowNs⟩ }
  | .event v4l2Event => { s with queued := s.queued ++ [v4l2Event] }

/-- An event does not change the ID of its session. -/
theorem EventSession.receive_id (cfg : Config) (nowNs : Nat) (s : EventSession) (e : Event) :
    (s.receive cfg nowNs e).id = s.id := by
  cases e <;> rfl

/-- `virtio_media_find_session`. -/
def findSession (id : UInt32) (sessions : List EventSession) : Option EventSession :=
  sessions.find? (·.id == id)

/-- Something happens to the session that `virtio_media_find_session` finds. -/
def updateSession (id : UInt32) (g : EventSession → EventSession) :
    List EventSession → List EventSession
  | [] => []
  | s :: rest => if s.id = id then g s :: rest else s :: updateSession id g rest

section Sessions

variable {id : UInt32} {g : EventSession → EventSession}

/-- An update is seen by the session it is for. -/
theorem findSession_updateSession (hg : ∀ s, (g s).id = s.id) (j : UInt32)
    (sessions : List EventSession) :
    findSession j (updateSession id g sessions) =
      if j = id then (findSession id sessions).map g else findSession j sessions := by
  induction sessions with
  | nil => simp [updateSession, findSession]
  | cons s rest ih =>
      simp only [findSession] at ih
      by_cases hs : s.id = id
      · by_cases hj : j = id
        · simp [updateSession, findSession, hs, hg, hj]
        · have hne : ¬id = j := fun h => hj h.symm
          simp [updateSession, findSession, hs, hg, hj, hne]
      · by_cases hj : s.id = j
        · have hne : ¬j = id := fun h => hs (hj.trans h)
          simp [updateSession, findSession, hj, hne]
        · simp [updateSession, findSession, hs, hj, ih]

theorem ids_updateSession (hg : ∀ s, (g s).id = s.id) (sessions : List EventSession) :
    (updateSession id g sessions).map (·.id) = sessions.map (·.id) := by
  induction sessions with
  | nil => rfl
  | cons s rest ih =>
      rw [updateSession]
      split
      · simp [hg]
      · simp [ih]

theorem findSession_eq_none {sessions : List EventSession} :
    findSession id sessions = none ↔ id ∉ sessions.map (·.id) := by
  simp [findSession, List.find?_eq_none]

/-- A new session is found behind the ones that were there. -/
theorem findSession_concat (j : UInt32) (s : EventSession) (sessions : List EventSession) :
    findSession j (sessions ++ [s]) =
      (findSession j sessions).or (if s.id = j then some s else none) := by
  rw [findSession, List.find?_append]
  congr 1
  by_cases h : s.id = j <;> simp [h]

/-- Without the session, nobody else has its ID. -/
theorem findSession_eraseP {sessions : List EventSession} (h : (sessions.map (·.id)).Nodup)
    (j : UInt32) : findSession j (sessions.eraseP (·.id == id)) =
      if j = id then none else findSession j sessions := by
  induction sessions with
  | nil => simp [findSession]
  | cons s rest ih =>
      obtain ⟨hs, hrest⟩ := List.nodup_cons.mp h
      by_cases hid : s.id = id
      · rw [List.eraseP_cons_of_pos (by simpa using hid)]
        split
        · rename_i hj
          rw [hj, findSession_eq_none, ← hid]
          exact hs
        · rename_i hj
          have hne : ¬id = j := fun h => hj h.symm
          simp [findSession, hid, hne]
      · rw [List.eraseP_cons_of_neg (by simpa using hid)]
        by_cases hj : s.id = j
        · have hne : ¬j = id := fun h => hid (hj.trans h)
          simp [findSession, hj, hne]
        · have ih := ih hrest
          simp only [findSession] at ih
          simp [findSession, hj, ih]

end Sessions

/-! ### The event queue -/

/-- `probing` says that probing still adds buffers, `filled` is the number of those
that it has added, `scheduled` says
that `eventq_work` is pending, and `waiting` counts the callers of
`virtio_media_process_events` that have not got `events_lock`. `dispatched` says
that the event of the buffer at hand has been dispatched, and `lost` that a
buffer could not be given back to the device. -/
structure Events where
  disconnected : Bool
  eventq : Option (Virtqueue Nat)
  memory : Nat → List UInt8
  probing : Bool
  filled : Nat
  scheduled : Bool
  waiting : Nat
  dispatched : Bool
  lost : Bool
  sessions : List EventSession
  sent : List (Option (UInt32 × Event))
  handled : List (Option (UInt32 × Event))

def Events.init : Events where
  disconnected := false
  eventq := some .init
  memory := fun _ => List.replicate eventMaxSize 0
  probing := true
  filled := 0
  scheduled := false
  waiting := 0
  dispatched := false
  lost := false
  sessions := []
  sent := []
  handled := []

inductive EventAction where
  /-- Probing adds a buffer; `ret` is the value of `virtqueue_add_sgs`, and `kicked`
  that of `virtqueue_kick`. A run ends if the queue was deleted before. -/
  | fill (ret : Int) (kicked : Bool)
  /-- The device writes an event into a buffer and returns it. -/
  | send (i : Nat) (bytes : List UInt8) (always : Bool)
  | interrupt
  | work
  | processEvents
  | enter
  | getBuf
  | dispatch (nowNs : Nat)
  | sendEventBuffer (ret : Int)
  | enableCb
  | disableCb
  | open (id : UInt32) (nonblocking : Bool)
  | close (id : UInt32)
  | ioctl (id : UInt32) (f : Session → Session)
  | disconnect
  | stopQueues

/-- What the driver does by itself, with room in the event queue for a buffer
that comes back to it. -/
def EventAction.own : EventAction → Prop
  | .interrupt | .work | .enter | .getBuf | .dispatch _ | .enableCb | .disableCb => True
  | .sendEventBuffer ret => ret = 0
  | _ => False

/-- Nothing happens to a session. -/
def EventAction.quiet : EventAction → Bool
  | .open _ _ | .close _ | .ioctl _ _ | .dispatch _ => false
  | _ => true

/-- The bytes that the device writes. -/
def EventAction.written : EventAction → Option (List UInt8)
  | .send _ bytes _ => some bytes
  | _ => none

namespace Events

def onQueue (s : Events) (f : Virtqueue Nat → Option (Virtqueue Nat)) : Option Events :=
  (s.eventq.bind f).map fun q => { s with eventq := some q }

/-- The buffer that was taken from the queue, with its length. -/
def current (s : Events) : Option (Nat × Nat) := s.eventq.bind (·.service.current)

/-- Nobody runs the loop. -/
def idle (s : Events) : Bool := s.eventq.all (·.service = .idle)

/-- The event in a buffer. -/
def read (s : Events) (u : Nat × Nat) : Option (UInt32 × Event) := parseEvent u.2 (s.memory u.1)

/-- Dispatch an event; one that is invalid, or for no session, is ignored. -/
def route (cfg : Config) (nowNs : Nat) (e : Option (UInt32 × Event))
    (sessions : List EventSession) : List EventSession :=
  match e with
  | none => sessions
  | some (id, e) => updateSession id (fun s => s.receive cfg nowNs e) sessions

def step (cfg : Config) (s : Events) : EventAction → Option Events
  | .fill ret kicked =>
    if s.probing ∧ s.filled < numEventBufs then
      if ret ≠ 0 then some { s with probing := false, disconnected := true }
      else
        s.eventq.map fun q => { s with
          eventq := some (q.add s.filled)
          filled := s.filled + 1
          probing := kicked
          disconnected := s.disconnected || !kicked }
    else none
  | .send i bytes always =>
    if bytes.length ≤ eventMaxSize then
      (s.onQueue (·.complete i bytes.length always)).map fun s =>
        let mem := bytes ++ (s.memory i).drop bytes.length
        { s with
          memory := Function.update s.memory i mem
          sent := s.sent ++ [parseEvent bytes.length mem] }
    else none
  | .interrupt => (s.onQueue Virtqueue.acknowledge).map fun s => { s with scheduled := true }
  | .work =>
    if s.scheduled then some { s with scheduled := false, waiting := s.waiting + 1 } else none
  | .processEvents => some { s with waiting := s.waiting + 1 }
  | .enter =>
    if 0 < s.waiting ∧ s.idle then
      if s.disconnected then some { s with waiting := s.waiting - 1 }
      else (s.onQueue Virtqueue.start).map fun s => { s with waiting := s.waiting - 1 }
    else none
  | .getBuf => s.onQueue Virtqueue.getBuf
  | .dispatch nowNs =>
    s.current.bind fun u =>
      if s.dispatched then none
      else
        some { s with
          sessions := route cfg nowNs (s.read u) s.sessions
          handled := s.handled ++ [s.read u]
          dispatched := true }
  | .sendEventBuffer ret =>
    s.current.bind fun (i, _) =>
      if s.dispatched then
        (s.onQueue fun q => q.handled.map fun q => if ret ≠ 0 then q else q.add i).map fun s =>
          { s with dispatched := false, lost := s.lost || ret != 0 }
      else none
  | .enableCb => s.onQueue Virtqueue.enableCb
  | .disableCb => s.onQueue Virtqueue.disableCb
  | .open id nonblocking =>
    some { s with sessions := s.sessions ++ [⟨id, .init nonblocking, []⟩] }
  | .close id =>
    if s.idle ∧ (findSession id s.sessions).isSome then
      some { s with sessions := s.sessions.eraseP (·.id == id) }
    else none
  | .ioctl id f =>
    if (findSession id s.sessions).isSome then
      some { s with
        sessions := updateSession id (fun t => { t with session := f t.session }) s.sessions }
    else none
  | .disconnect => some { s with disconnected := true }
  | .stopQueues =>
    if s.disconnected ∧ s.idle then some { s with eventq := none, scheduled := false } else none

/-- The events that the device has sent and that have not been dispatched. -/
def unread (s : Events) : List (Option (UInt32 × Event)) :=
  s.eventq.elim [] fun q =>
    ((if s.dispatched then [] else q.service.current.toList) ++ q.used).map s.read

/-! ### What every step keeps -/

/-- The buffers are where they belong, and hold what was sent. -/
structure QueueOk (s : Events) (q : Virtqueue Nat) : Prop where
  nodup : q.buffers.Nodup
  filled : ∀ i ∈ q.buffers, i < s.filled
  all : s.lost = false → ∀ i < s.filled, i ∈ q.buffers
  dispatched : q.service.current = none → s.dispatched = false
  attentive : q.Attentive (s.disconnected = true ∨ s.scheduled = true ∨ 0 < s.waiting)
  order : s.sent = s.handled ++ s.unread

structure Inv (s : Events) : Prop where
  queue : ∀ q, s.eventq = some q → s.QueueOk q
  stopped : s.eventq = none → s.disconnected = true ∧ s.handled <+: s.sent
  small : s.filled ≤ numEventBufs

theorem inv_init : Events.Inv .init where
  queue := by
    intro q hq
    obtain rfl := Option.some.inj hq
    exact ⟨List.nodup_nil, by simp [Virtqueue.buffers, Virtqueue.init, Service.held],
      by simp [Events.init], fun _ => rfl, .init, rfl⟩
  stopped := by simp [Events.init]
  small := Nat.zero_le _

section Step

variable {cfg : Config} {s s' : Events} {q q' : Virtqueue Nat}

theorem onQueue_eq_some {f : Virtqueue Nat → Option (Virtqueue Nat)}
    (h : s.onQueue f = some s') :
    ∃ q q', s.eventq = some q ∧ f q = some q' ∧ s' = { s with eventq := some q' } := by
  obtain ⟨q', hq', rfl⟩ := Option.map_eq_some_iff.mp h
  obtain ⟨q, hq, hf⟩ := Option.bind_eq_some_iff.mp hq'
  exact ⟨q, q', hq, hf, rfl⟩

theorem current_eq_some {u : Nat × Nat} (h : s.current = some u) :
    ∃ q, s.eventq = some q ∧ q.service.current = some u :=
  Option.bind_eq_some_iff.mp h

/-- What is left to dispatch: the buffer in the hand of the loop, and then the
used ones. -/
theorem unread_of_queue (h : s.eventq = some q) : s.unread =
    ((if s.dispatched then [] else q.service.current.toList) ++ q.used).map s.read := by
  rw [unread, h]
  rfl

/-- Nothing is dispatched that was not sent. -/
theorem Inv.handled_isPrefix (h : s.Inv) : s.handled <+: s.sent := by
  cases hq : s.eventq with
  | none => exact (h.stopped hq).2
  | some q =>
      rw [(h.queue q hq).order]
      exact List.prefix_append _ _

/-- Neither the queue nor its buffers change, and whoever was about to run the
loop still is. -/
theorem Inv.frame (h : s.Inv) (hqueue : s'.eventq = s.eventq) (hfilled : s'.filled = s.filled)
    (hlost : s'.lost = s.lost) (hdispatched : s'.dispatched = s.dispatched)
    (hmemory : s'.memory = s.memory) (hsent : s'.sent = s.sent) (hhandled : s'.handled = s.handled)
    (hdisconnected : s.disconnected = true → s'.disconnected = true)
    (hwoken : s.scheduled = true ∨ 0 < s.waiting →
      s'.disconnected = true ∨ s'.scheduled = true ∨ 0 < s'.waiting) : s'.Inv where
  queue := by
    intro q hq
    rw [hqueue] at hq
    obtain ⟨hnodup, hfill, hall, hcurrent, hattentive, horder⟩ := h.queue q hq
    refine ⟨hnodup, hfilled ▸ hfill, ?_, hdispatched ▸ hcurrent, hattentive.mono fun hw => ?_, ?_⟩
    · rw [hlost, hfilled]
      exact hall
    · exact hw.elim (fun hd => .inl (hdisconnected hd)) hwoken
    · have hread : s'.read = s.read := by
        funext u
        rw [read, read, hmemory]
      rw [hsent, hhandled, horder, unread_of_queue hq, unread_of_queue (hqueue.trans hq),
        hdispatched, hread]
  stopped := by
    intro hq
    rw [hsent, hhandled]
    exact (h.stopped (hqueue ▸ hq)).imp_left hdisconnected
  small := hfilled ▸ h.small

/-- The queue changes to another one that is in order. -/
theorem inv_of_queue (hfilled : s'.filled ≤ numEventBufs)
    (hq' : s'.eventq = some q') (hok : s'.QueueOk q') : s'.Inv where
  queue := by
    intro q hq
    obtain rfl := Option.some.inj (hq'.symm.trans hq)
    exact hok
  stopped := by
    intro hq
    rw [hq'] at hq
    cases hq
  small := hfilled

theorem Inv.fill (h : s.Inv) {ret : Int} {kicked : Bool}
    (hstep : s.step cfg (.fill ret kicked) = some s') : s'.Inv := by
  simp only [step] at hstep
  split at hstep
  · rename_i hroom
    split at hstep
    · cases hstep
      exact h.frame rfl rfl rfl rfl rfl rfl rfl (fun _ => rfl) (fun _ => .inl rfl)
    · obtain ⟨q, hq, rfl⟩ := Option.map_eq_some_iff.mp hstep
      have hok := h.queue q hq
      have hmem : ∀ i, i ∈ (q.add s.filled).buffers ↔ i = s.filled ∨ i ∈ q.buffers := fun i => by
        rw [(q.add_buffers s.filled).mem_iff, List.mem_cons]
      have hnew : s.filled ∉ q.buffers := fun hi => lt_irrefl _ (hok.filled _ hi)
      refine inv_of_queue hroom.2 rfl ⟨(q.add_buffers s.filled).nodup_iff.mpr
        (List.nodup_cons.mpr ⟨hnew, hok.nodup⟩), fun i hi => ?_, fun hlost i hi => ?_,
        hok.dispatched, (hok.attentive.mono fun hw => ?_).add s.filled, ?_⟩
      · rcases (hmem i).mp hi with rfl | hi
        · exact Nat.lt_succ_self _
        · exact Nat.lt_succ_of_lt (hok.filled i hi)
      · rcases Nat.lt_succ_iff_lt_or_eq.mp hi with hi | hi
        · exact (hmem i).mpr (.inr (hok.all hlost i hi))
        · exact (hmem i).mpr (.inl hi)
      · exact hw.imp_left fun hd => by simp [hd]
      · refine hok.order.trans (congrArg (s.handled ++ ·) ?_)
        rw [unread_of_queue hq]
        rfl
  · cases hstep

/-- The device writes to no buffer that the driver has yet to read. -/
theorem ne_of_device (hnodup : q.buffers.Nodup) {i : Nat} (hi : i ∈ q.device) {u : Nat × Nat}
    (hu : u ∈ q.service.current.toList ++ q.used) : u.1 ≠ i := by
  rintro rfl
  refine (List.nodup_append.mp hnodup).2.2 _ hi _ ?_ rfl
  rcases List.mem_append.mp hu with hu | hu
  · have hservice := Service.current_eq_some.mp (Option.mem_toList.mp hu)
    simp [hservice, Service.held]
  · exact List.mem_append_left _ (List.mem_map_of_mem hu)

/-- The device writes an event into a buffer that it was given. -/
theorem Inv.send (h : s.Inv) {i : Nat} {bytes : List UInt8} {always : Bool}
    (hstep : s.step cfg (.send i bytes always) = some s') : s'.Inv := by
  simp only [step] at hstep
  split at hstep
  · obtain ⟨s₁, hs₁, rfl⟩ := Option.map_eq_some_iff.mp hstep
    obtain ⟨q, q', hq, hq', rfl⟩ := onQueue_eq_some hs₁
    have hok := h.queue q hq
    have hperm := Virtqueue.complete_buffers hq'
    have hattentive := hok.attentive.complete hq'
    obtain ⟨hi, rfl⟩ := Virtqueue.complete_eq_some hq'
    set mem := bytes ++ (s.memory i).drop bytes.length with hmem
    have hold : ∀ u ∈ q.service.current.toList ++ q.used,
        parseEvent u.2 (Function.update s.memory i mem u.1) = s.read u := fun u hu => by
      rw [Function.update_of_ne (ne_of_device hok.nodup hi hu)]
      rfl
    refine inv_of_queue h.small rfl ⟨hperm.nodup_iff.mpr hok.nodup,
      fun j hj => hok.filled j (hperm.mem_iff.mp hj),
      fun hlost j hj => hperm.mem_iff.mpr (hok.all hlost j hj), hok.dispatched, hattentive, ?_⟩
    have hsplit : ((if s.dispatched then [] else q.service.current.toList) ++ q.used).map
        (fun u => parseEvent u.2 (Function.update s.memory i mem u.1)) = s.unread := by
      rw [unread_of_queue hq]
      refine List.map_congr_left fun u hu => hold u ?_
      split at hu
      · exact List.mem_append_right _ hu
      · exact hu
    change s.sent ++ _ = s.handled ++
      ((if s.dispatched then [] else q.service.current.toList) ++
        (q.used ++ [(i, bytes.length)])).map
        (fun u => parseEvent u.2 (Function.update s.memory i mem u.1))
    rw [← List.append_assoc, List.map_append, hsplit, hok.order]
    simp
  · cases hstep

/-- The callback schedules the work, or it is already there. -/
theorem Inv.interrupt (h : s.Inv) (hstep : s.step cfg .interrupt = some s') : s'.Inv := by
  obtain ⟨s₁, hs₁, rfl⟩ := Option.map_eq_some_iff.mp hstep
  obtain ⟨q, q', hq, hq', rfl⟩ := onQueue_eq_some hs₁
  have hok := h.queue q hq
  have hattentive : q'.Attentive (s.disconnected = true ∨ true = true ∨ 0 < s.waiting) :=
    hok.attentive.acknowledge (.inr (.inl rfl)) hq'
  obtain ⟨-, rfl⟩ := Virtqueue.acknowledge_eq_some hq'
  refine inv_of_queue h.small rfl ⟨hok.nodup, hok.filled, hok.all, hok.dispatched, hattentive,
    hok.order.trans (congrArg (s.handled ++ ·) ?_)⟩
  rw [unread_of_queue hq]
  rfl

/-- The loop makes a step that takes no buffer. -/
theorem Inv.loop (h : s.Inv) {waiting : Nat} (hq : s.eventq = some q)
    (hbuf : q'.buffers = q.buffers) (hused : q'.used = q.used)
    (hcurrent : q.service.current = none) (hcurrent' : q'.service.current = none)
    (hattentive : q'.Attentive (s.disconnected = true ∨ s.scheduled = true ∨ 0 < waiting)) :
    Inv { s with eventq := some q', waiting } := by
  have hok := h.queue q hq
  have hdispatched := hok.dispatched hcurrent
  refine inv_of_queue h.small rfl ⟨hbuf ▸ hok.nodup, hbuf ▸ hok.filled, hbuf ▸ hok.all,
    fun _ => hdispatched, hattentive, ?_⟩
  have horder := hok.order
  rw [unread_of_queue hq, hcurrent] at horder
  refine horder.trans ?_
  simp only [unread, Option.elim_some, hcurrent', hused]
  rfl

/-- The loop begins, with callbacks disabled. -/
theorem Inv.enter (h : s.Inv) (hstep : s.step cfg .enter = some s') : s'.Inv := by
  simp only [step] at hstep
  split at hstep
  · split at hstep
    · rename_i hd
      cases hstep
      exact h.frame rfl rfl rfl rfl rfl rfl rfl (fun h => h) (fun _ => .inl hd)
    · obtain ⟨s₁, hs₁, rfl⟩ := Option.map_eq_some_iff.mp hstep
      obtain ⟨q, q', hq, hq', rfl⟩ := onQueue_eq_some hs₁
      have hbuf := Virtqueue.start_buffers hq'
      have hattentive : q'.Attentive (s.disconnected = true ∨ s.scheduled = true ∨
        0 < s.waiting - 1) := .start hq'
      obtain ⟨hs, rfl⟩ := Virtqueue.start_eq_some hq'
      exact h.loop hq hbuf rfl (by rw [hs]; rfl) rfl hattentive
  · cases hstep

/-- The ring is found empty, and the callbacks are on again. -/
theorem Inv.enableCb (h : s.Inv) (hstep : s.step cfg .enableCb = some s') : s'.Inv := by
  obtain ⟨q, q', hq, hq', rfl⟩ := onQueue_eq_some hstep
  have hbuf := Virtqueue.enableCb_buffers hq'
  have hattentive : q'.Attentive (s.disconnected = true ∨ s.scheduled = true ∨ 0 < s.waiting) :=
    .enableCb hq'
  obtain ⟨hs, rfl⟩ := Virtqueue.enableCb_eq_some hq'
  refine h.loop hq hbuf rfl (by rw [hs]; rfl) ?_ hattentive
  cases q.used <;> rfl

theorem Inv.disableCb (h : s.Inv) (hstep : s.step cfg .disableCb = some s') : s'.Inv := by
  obtain ⟨q, q', hq, hq', rfl⟩ := onQueue_eq_some hstep
  have hbuf := Virtqueue.disableCb_buffers hq'
  have hattentive : q'.Attentive (s.disconnected = true ∨ s.scheduled = true ∨ 0 < s.waiting) :=
    .disableCb hq'
  obtain ⟨hs, rfl⟩ := Virtqueue.disableCb_eq_some hq'
  exact h.loop hq hbuf rfl (by rw [hs]; rfl) rfl hattentive

/-- The loop takes the oldest used buffer. -/
theorem Inv.getBuf (h : s.Inv) (hstep : s.step cfg .getBuf = some s') : s'.Inv := by
  obtain ⟨q, q', hq, hq', rfl⟩ := onQueue_eq_some hstep
  have hok := h.queue q hq
  have hperm := Virtqueue.getBuf_buffers hq'
  have hattentive : q'.Attentive (s.disconnected = true ∨ s.scheduled = true ∨ 0 < s.waiting) :=
    .getBuf hq'
  obtain ⟨hs, ⟨hu, rfl⟩ | ⟨i, len, rest, hu, rfl⟩⟩ := Virtqueue.getBuf_eq_some hq'
  · refine h.loop hq ?_ rfl (by rw [hs]; rfl) rfl hattentive
    simp [Virtqueue.buffers, hs, Service.held]
  · have hdispatched : s.dispatched = false := hok.dispatched (by rw [hs]; rfl)
    refine inv_of_queue h.small rfl ⟨hperm.nodup_iff.mpr hok.nodup,
      fun j hj => hok.filled j (hperm.mem_iff.mp hj),
      fun hlost j hj => hperm.mem_iff.mpr (hok.all hlost j hj), fun _ => hdispatched, hattentive,
      hok.order.trans (congrArg (s.handled ++ ·) ?_)⟩
    rw [unread_of_queue hq]
    simp only [unread, Option.elim_some, hs, hu, hdispatched, Service.current]
    rfl

/-- The event in the buffer is dispatched before anything else is read. -/
theorem Inv.dispatch (h : s.Inv) {nowNs : Nat}
    (hstep : s.step cfg (.dispatch nowNs) = some s') : s'.Inv := by
  obtain ⟨u, hu, hstep⟩ := Option.bind_eq_some_iff.mp hstep
  obtain ⟨q, hq, hcurrent⟩ := current_eq_some hu
  have hok := h.queue q hq
  split at hstep
  · cases hstep
  · rename_i hdispatched
    cases hstep
    refine inv_of_queue h.small hq ⟨hok.nodup, hok.filled, hok.all,
      fun hnone => absurd (hnone.symm.trans hcurrent) (by simp), hok.attentive, ?_⟩
    have horder := hok.order
    rw [unread_of_queue hq, hcurrent, if_neg hdispatched] at horder
    simp only [unread, hq, Option.elim_some, if_true]
    rw [horder]
    simp only [Option.toList_some, List.map_cons, List.append_assoc, List.cons_append,
      List.nil_append]
    rfl

/-- The buffer goes back to the device, or is lost with the queue. -/
theorem Inv.sendEventBuffer (h : s.Inv) {ret : Int}
    (hstep : s.step cfg (.sendEventBuffer ret) = some s') : s'.Inv := by
  obtain ⟨⟨i, len⟩, hu, hstep⟩ := Option.bind_eq_some_iff.mp hstep
  obtain ⟨q, hq, hcurrent⟩ := current_eq_some hu
  have hok := h.queue q hq
  dsimp only at hstep
  split at hstep
  · rename_i hdispatched
    obtain ⟨s₁, hs₁, rfl⟩ := Option.map_eq_some_iff.mp hstep
    obtain ⟨q₀, q₁, hq₀, hq₁, rfl⟩ := onQueue_eq_some hs₁
    obtain rfl := Option.some.inj (hq.symm.trans hq₀)
    obtain ⟨q', hq', rfl⟩ := Option.map_eq_some_iff.mp hq₁
    have hperm := Virtqueue.handled_buffers (Service.current_eq_some.mp hcurrent) hq'
    have hattentive : q'.Attentive (s.disconnected = true ∨ s.scheduled = true ∨
      0 < s.waiting) := .handled hq'
    obtain ⟨-, rfl⟩ := Virtqueue.handled_eq_some hq'
    have horder : s.sent = s.handled ++ q.used.map s.read := by
      rw [hok.order, unread_of_queue hq, if_pos hdispatched]
      rfl
    have hnodup := hperm.nodup_iff.mp hok.nodup
    split
    · rename_i hret
      refine inv_of_queue h.small rfl ⟨(List.nodup_cons.mp hnodup).2,
        fun j hj => hok.filled j (hperm.mem_iff.mpr (List.mem_cons_of_mem _ hj)), fun hlost => ?_,
        fun _ => rfl, hattentive, horder⟩
      simp [hret] at hlost
    · rename_i hret
      set q₁ : Virtqueue Nat := { q with service := .draining }
      have hback : (q₁.add i).buffers.Perm q.buffers := (q₁.add_buffers i).trans hperm.symm
      refine inv_of_queue h.small rfl ⟨hback.nodup_iff.mpr hok.nodup,
        fun j hj => hok.filled j (hback.mem_iff.mp hj), fun hlost j hj => ?_, fun _ => rfl,
        hattentive.add i, horder⟩
      have hkept : s.lost = false := by
        simp only [Bool.or_eq_false_iff] at hlost
        exact hlost.1
      exact hback.mem_iff.mpr (hok.all hkept j hj)
  · cases hstep

/-- One step of anybody; each case is the lemma of its action. -/
theorem Inv.step (h : s.Inv) {a : EventAction} (hstep : s.step cfg a = some s') : s'.Inv := by
  cases a with
  | fill ret kicked => exact h.fill hstep
  | send i bytes always => exact h.send hstep
  | interrupt => exact h.interrupt hstep
  | work =>
      simp only [Events.step] at hstep
      split at hstep
      · cases hstep
        exact h.frame rfl rfl rfl rfl rfl rfl rfl (fun h => h)
          (fun _ => .inr (.inr (Nat.succ_pos _)))
      · cases hstep
  | processEvents =>
      cases hstep
      exact h.frame rfl rfl rfl rfl rfl rfl rfl (fun h => h)
        (fun _ => .inr (.inr (Nat.succ_pos _)))
  | enter => exact h.enter hstep
  | getBuf => exact h.getBuf hstep
  | dispatch nowNs => exact h.dispatch hstep
  | sendEventBuffer ret => exact h.sendEventBuffer hstep
  | enableCb => exact h.enableCb hstep
  | disableCb => exact h.disableCb hstep
  | «open» id nonblocking =>
      cases hstep
      exact h.frame rfl rfl rfl rfl rfl rfl rfl (fun h => h) .inr
  | close id =>
      simp only [Events.step] at hstep
      split at hstep
      · cases hstep
        exact h.frame rfl rfl rfl rfl rfl rfl rfl (fun h => h) .inr
      · cases hstep
  | ioctl id f =>
      simp only [Events.step] at hstep
      split at hstep
      · cases hstep
        exact h.frame rfl rfl rfl rfl rfl rfl rfl (fun h => h) .inr
      · cases hstep
  | disconnect =>
      cases hstep
      exact h.frame rfl rfl rfl rfl rfl rfl rfl (fun _ => rfl) (fun _ => .inl rfl)
  | stopQueues =>
      simp only [Events.step] at hstep
      split at hstep
      · rename_i hd
        cases hstep
        exact ⟨fun q hq => absurd hq (by simp), fun _ => ⟨hd.1, h.handled_isPrefix⟩, h.small⟩
      · cases hstep

theorem inv_of_run {acts : List EventAction}
    (hrun : Trace.run (Events.step cfg) .init acts = some s) : s.Inv :=
  Trace.run_invariant (fun _ _ _ h hstep => h.step hstep) inv_init hrun

/-! ### What a step leaves as it is -/

/-- What the device sends in a step. -/
def sends (s : Events) : EventAction → List (Option (UInt32 × Event))
  | .send i bytes _ => [parseEvent bytes.length (bytes ++ (s.memory i).drop bytes.length)]
  | _ => []

/-- Only the device sends, and only a few actions change sessions. -/
theorem step_effect {a : EventAction} (hstep : s.step cfg a = some s') :
    s'.sent = s.sent ++ s.sends a ∧
      (a.quiet = true → s'.sessions = s.sessions ∧ s'.handled = s.handled) := by
  have hqueue : ∀ {f : Virtqueue Nat → Option (Virtqueue Nat)} {t : Events},
      s.onQueue f = some t →
      t.sent = s.sent ∧ t.sessions = s.sessions ∧ t.handled = s.handled := by
    intro f t ht
    obtain ⟨q, q', -, -, rfl⟩ := onQueue_eq_some ht
    exact ⟨rfl, rfl, rfl⟩
  cases a with
  | fill ret kicked =>
      simp only [Events.step] at hstep
      split at hstep
      · split at hstep
        · cases hstep
          exact ⟨(List.append_nil _).symm, fun _ => ⟨rfl, rfl⟩⟩
        · obtain ⟨q, -, rfl⟩ := Option.map_eq_some_iff.mp hstep
          exact ⟨(List.append_nil _).symm, fun _ => ⟨rfl, rfl⟩⟩
      · cases hstep
  | send i bytes always =>
      simp only [Events.step] at hstep
      split at hstep
      · obtain ⟨s₁, hs₁, rfl⟩ := Option.map_eq_some_iff.mp hstep
        obtain ⟨q, q', -, -, rfl⟩ := onQueue_eq_some hs₁
        exact ⟨rfl, fun _ => ⟨rfl, rfl⟩⟩
      · cases hstep
  | interrupt =>
      obtain ⟨s₁, hs₁, rfl⟩ := Option.map_eq_some_iff.mp hstep
      obtain ⟨hsent, hkeep⟩ := hqueue hs₁
      exact ⟨hsent.trans (List.append_nil _).symm, fun _ => hkeep⟩
  | work =>
      simp only [Events.step] at hstep
      split at hstep
      · cases hstep
        exact ⟨(List.append_nil _).symm, fun _ => ⟨rfl, rfl⟩⟩
      · cases hstep
  | enter =>
      simp only [Events.step] at hstep
      split at hstep
      · split at hstep
        · cases hstep
          exact ⟨(List.append_nil _).symm, fun _ => ⟨rfl, rfl⟩⟩
        · obtain ⟨s₁, hs₁, rfl⟩ := Option.map_eq_some_iff.mp hstep
          obtain ⟨hsent, hkeep⟩ := hqueue hs₁
          exact ⟨hsent.trans (List.append_nil _).symm, fun _ => hkeep⟩
      · cases hstep
  | getBuf | enableCb | disableCb =>
      obtain ⟨hsent, hkeep⟩ := hqueue hstep
      exact ⟨hsent.trans (List.append_nil _).symm, fun _ => hkeep⟩
  | dispatch nowNs =>
      obtain ⟨u, -, hstep⟩ := Option.bind_eq_some_iff.mp hstep
      split at hstep
      · cases hstep
      · cases hstep
        exact ⟨(List.append_nil _).symm, fun h => by cases h⟩
  | sendEventBuffer ret =>
      obtain ⟨⟨i, len⟩, -, hstep⟩ := Option.bind_eq_some_iff.mp hstep
      dsimp only at hstep
      split at hstep
      · obtain ⟨s₁, hs₁, rfl⟩ := Option.map_eq_some_iff.mp hstep
        obtain ⟨hsent, hkeep⟩ := hqueue hs₁
        exact ⟨hsent.trans (List.append_nil _).symm, fun _ => hkeep⟩
      · cases hstep
  | processEvents | disconnect =>
      cases hstep
      exact ⟨(List.append_nil _).symm, fun _ => ⟨rfl, rfl⟩⟩
  | «open» id nonblocking =>
      cases hstep
      exact ⟨(List.append_nil _).symm, fun h => by cases h⟩
  | close id | ioctl id f =>
      simp only [Events.step] at hstep
      split at hstep
      · cases hstep
        exact ⟨(List.append_nil _).symm, fun h => by cases h⟩
      · cases hstep
  | stopQueues =>
      simp only [Events.step] at hstep
      split at hstep
      · cases hstep
        exact ⟨(List.append_nil _).symm, fun _ => ⟨rfl, rfl⟩⟩
      · cases hstep

/-- The driver reads what the device writes. -/
theorem sent_of_run {acts : List EventAction} {evs : List (UInt32 × Event)}
    (hwf : ∀ e ∈ evs, e.2.WellFormed)
    (hwritten : acts.filterMap EventAction.written = evs.map fun e => e.2.encode e.1)
    (hrun : Trace.run (Events.step cfg) s acts = some s') : s'.sent = s.sent ++ evs.map some := by
  induction acts generalizing s evs with
  | nil =>
      obtain rfl := Option.some.inj hrun
      obtain rfl := List.map_eq_nil_iff.mp hwritten.symm
      simp
  | cons a rest ih =>
      obtain ⟨s₁, hstep, htail⟩ := Trace.run_cons_eq_some.mp hrun
      have hsent := (step_effect hstep).1
      cases hbytes : a.written with
      | none =>
          have hsends : s.sends a = [] := by cases a <;> first | rfl | cases hbytes
          rw [List.filterMap_cons_none hbytes] at hwritten
          rw [ih hwf hwritten htail, hsent, hsends, List.append_nil]
      | some bytes =>
          rw [List.filterMap_cons_some hbytes] at hwritten
          obtain ⟨e, evs, rfl, hencode, hrest⟩ := List.map_eq_cons_iff.mp hwritten.symm
          have hsends : s.sends a = [some e] := by
            cases a with
            | send i b always =>
                obtain rfl : b = bytes := Option.some.inj hbytes
                rw [sends, ← hencode, parseEvent_encode e.1 (hwf e List.mem_cons_self)]
            | _ => cases hbytes
          rw [ih (fun e he => hwf e (List.mem_cons_of_mem _ he)) hrest.symm htail, hsent, hsends,
            List.append_assoc]
          rfl

/-! ### The loop comes to its end -/

/-- The loop runs, or there is nothing for it to do. -/
def Served (s : Events) : Prop :=
  ∃ q, s.eventq = some q ∧ (q.service = .idle → q.used = [])

/-- The work that the loop has left. -/
def loopWork (s : Events) : Nat :=
  s.eventq.elim 0 fun q => 2 * q.work + if s.dispatched then 0 else 1

/-- From a callback that waits, the loop runs to its end. -/
theorem Inv.enters (h : s.Inv) (cfg : Config) (hq : s.eventq = some q)
    (hd : s.disconnected = false) (hs : q.service = .idle) (hw : 0 < s.waiting) :
    ∃ t, Trace.CanReach (Events.step cfg) EventAction.own s t ∧ t.Inv ∧ t.Served ∧
      t.sent = s.sent := by
  have hstart : q.start = some { q with service := .draining } := by simp [Virtqueue.start, hs]
  have hstep : s.step cfg .enter = some { s with
      eventq := some { q with service := .draining }, waiting := s.waiting - 1 } := by
    simp [Events.step, hw, idle, hq, hs, hd, Events.onQueue, hstart]
  exact ⟨_, .single (by trivial) hstep, h.step hstep, ⟨_, rfl, fun hidle => by cases hidle⟩, rfl⟩

/-- From work that is scheduled, the loop runs to its end. -/
theorem Inv.works (h : s.Inv) (cfg : Config) (hq : s.eventq = some q)
    (hd : s.disconnected = false) (hs : q.service = .idle) (hw : s.scheduled = true) :
    ∃ t, Trace.CanReach (Events.step cfg) EventAction.own s t ∧ t.Inv ∧ t.Served ∧
      t.sent = s.sent := by
  have hstep : s.step cfg .work =
      some { s with scheduled := false, waiting := s.waiting + 1 } := by
    simp [Events.step, hw]
  obtain ⟨t, hreach, ht⟩ := (h.step hstep).enters cfg hq hd hs (Nat.succ_pos _)
  exact ⟨t, (Trace.CanReach.single (by trivial) hstep).trans hreach, ht⟩

/-- An event in the used ring brings the loop to run. -/
theorem Inv.served (h : s.Inv) (cfg : Config) (hq : s.eventq = some q)
    (hd : s.disconnected = false) :
    ∃ t, Trace.CanReach (Events.step cfg) EventAction.own s t ∧ t.Inv ∧ t.Served ∧
      t.sent = s.sent := by
  by_cases hs : q.service = .idle ∧ q.used ≠ []
  · obtain ⟨hs, hu⟩ := hs
    rcases (h.queue q hq).attentive.noticed hu with hn | hi | hdead | hw | hw
    · exact absurd hs hn
    · have hack : q.acknowledge = some { q with interrupt := false } := if_pos hi
      have hstep : s.step cfg .interrupt = some { s with
          eventq := some { q with interrupt := false }, scheduled := true } := by
        simp [Events.step, Events.onQueue, hq, hack]
      obtain ⟨t, hreach, ht⟩ := (h.step hstep).works cfg rfl hd hs rfl
      exact ⟨t, (Trace.CanReach.single (by trivial) hstep).trans hreach, ht⟩
    · rw [hd] at hdead
      cases hdead
    · exact h.works cfg hq hd hs hw
    · exact h.enters cfg hq hd hs hw
  · refine ⟨s, .refl s, h, ⟨q, hq, fun hidle => ?_⟩, rfl⟩
    by_contra hu
    exact hs ⟨hidle, hu⟩

/-- A loop that runs comes to its end. -/
theorem Inv.settle (h : s.Inv) (cfg : Config) (hserved : s.Served) :
    ∃ t, Trace.CanReach (Events.step cfg) EventAction.own s t ∧
      (t.Inv ∧ t.Served ∧ t.sent = s.sent) ∧ t.idle = true := by
  refine Trace.CanReach.of_measure (P := fun t => t.Inv ∧ t.Served ∧ t.sent = s.sent)
    loopWork (fun t ht hbusy => ?_) ⟨h, hserved, rfl⟩
  obtain ⟨hinv, ⟨q, hq, hempty⟩, hsent⟩ := ht
  have hservice : q.service ≠ .idle := by simpa [idle, hq] using hbusy
  have hmove : ∀ {a : EventAction} {f : Virtqueue Nat → Option (Virtqueue Nat)}, a.own →
      t.step cfg a = t.onQueue f → (∃ q', f q = some q' ∧ q'.work < q.work) →
      (∀ q', f q = some q' → q'.service = .idle → q'.used = []) →
      ∃ a t', a.own ∧ t.step cfg a = some t' ∧
        (t'.Inv ∧ t'.Served ∧ t'.sent = s.sent) ∧ t'.loopWork < t.loopWork := by
    rintro a f ha hstep ⟨q', hq', hlt⟩ hend
    have hsome : t.step cfg a = some { t with eventq := some q' } := by
      rw [hstep, Events.onQueue, hq]
      simp [hq']
    refine ⟨a, _, ha, hsome, ⟨hinv.step hsome, ⟨q', rfl, hend q' hq'⟩, hsent⟩, ?_⟩
    simp only [loopWork, hq, Option.elim_some]
    omega
  cases hs : q.service with
  | idle => exact absurd hs hservice
  | draining =>
      refine hmove (a := .getBuf) trivial rfl (Virtqueue.getBuf_work hs) fun q' hq' hidle => ?_
      obtain ⟨-, ⟨-, rfl⟩ | ⟨i, len, rest, -, rfl⟩⟩ := Virtqueue.getBuf_eq_some hq'
      · cases hidle
      · cases hidle
  | enabling =>
      refine hmove (a := .enableCb) trivial rfl (Virtqueue.enableCb_work hs) fun q' hq' hidle => ?_
      obtain ⟨-, rfl⟩ := Virtqueue.enableCb_eq_some hq'
      by_contra hu
      have hfull : q.used.isEmpty = false := by simpa using hu
      simp [hfull] at hidle
  | disabling =>
      refine hmove (a := .disableCb) trivial rfl (Virtqueue.disableCb_work hs)
        fun q' hq' hidle => ?_
      obtain ⟨-, rfl⟩ := Virtqueue.disableCb_eq_some hq'
      cases hidle
  | handling i len =>
      have hcurrent : t.current = some (i, len) := by simp [current, hq, hs, Service.current]
      cases hdispatched : t.dispatched with
      | false =>
          have hstep : t.step cfg (.dispatch 0) = some { t with
              sessions := route cfg 0 (t.read (i, len)) t.sessions
              handled := t.handled ++ [t.read (i, len)]
              dispatched := true } := by
            simp [Events.step, hcurrent, hdispatched]
          refine ⟨.dispatch 0, _, trivial, hstep, ⟨hinv.step hstep, ⟨q, hq, hempty⟩, hsent⟩, ?_⟩
          simp [loopWork, hq, hdispatched]
      | true =>
          obtain ⟨q', hq', hlt⟩ := Virtqueue.handled_work hs
          have hstep : t.step cfg (.sendEventBuffer 0) = some { t with
              eventq := some (q'.add i), dispatched := false } := by
            simp [Events.step, hcurrent, hdispatched, Events.onQueue, hq, hq']
          refine ⟨.sendEventBuffer 0, _, rfl, hstep, ⟨hinv.step hstep, ⟨_, rfl, ?_⟩, hsent⟩, ?_⟩
          · obtain ⟨-, rfl⟩ := Virtqueue.handled_eq_some hq'
            intro hidle
            cases hidle
          · have hadd : (q'.add i).work = q'.work := rfl
            simp only [loopWork, hq, hdispatched, hadd, Option.elim_some, if_true]
            simp only [Bool.false_eq_true, if_false]
            omega

end Step

/-! ### What a session gets -/

/-- What happens to one session. -/
inductive SessionOp where
  | open (nonblocking : Bool)
  | close
  | ioctl (f : Session → Session)
  | event (nowNs : Nat) (e : Event)

/-- A session ID on a device of its own. The events are those that were
dispatched to the ID, oldest first, also while there was no session. -/
structure Alone where
  session : Option EventSession
  events : List Event

def Alone.step (cfg : Config) (id : UInt32) (s : Alone) : SessionOp → Option Alone
  | .open nonblocking =>
    s.session.elim (some { s with session := some ⟨id, .init nonblocking, []⟩ }) fun _ => none
  | .close => s.session.map fun _ => { s with session := none }
  | .ioctl f => s.session.map fun t =>
      { s with session := some { t with session := f t.session } }
  | .event nowNs e => some
      { s with session := s.session.map (·.receive cfg nowNs e), events := s.events ++ [e] }

/-- The event, if it is for the ID. -/
def eventFor (id : UInt32) (e : Option (UInt32 × Event)) : Option Event :=
  e.bind fun (j, e) => if j = id then some e else none

/-- What an action does to the sessions with an ID. -/
def label (id : UInt32) (s : Events) : EventAction → List SessionOp
  | .open j nonblocking => if j = id then [.open nonblocking] else []
  | .close j => if j = id then [.close] else []
  | .ioctl j f => if j = id then [.ioctl f] else []
  | .dispatch nowNs => ((s.current.bind fun u => eventFor id (s.read u)).map
      (SessionOp.event nowNs)).toList
  | _ => []

/-- The part of the state that is about an ID. -/
def alone (id : UInt32) (s : Events) : Alone :=
  ⟨findSession id s.sessions, s.handled.filterMap (eventFor id)⟩

/-- The device gives no session the ID of another one. -/
def FreshIds (s : Events) : EventAction → Prop
  | .open id _ => findSession id s.sessions = none
  | _ => True

instance (s : Events) (a : EventAction) : Decidable (FreshIds s a) := by
  cases a <;> unfold FreshIds <;> infer_instance

section Alone

variable {cfg : Config} {s s' : Events} {id : UInt32}

/-- The IDs of the sessions are distinct. -/
def IdsNodup (s : Events) : Prop := (s.sessions.map (·.id)).Nodup

/-- The step is seen by the sessions with an ID as what its label says. -/
def Seen (cfg : Config) (id : UInt32) (s : Events) (a : EventAction) (s' : Events) : Prop :=
  Trace.run (Alone.step cfg id) (s.alone id) (s.label id a) = some (s'.alone id) ∧ s'.IdsNodup

theorem label_of_quiet {a : EventAction} (ha : a.quiet = true) : s.label id a = [] := by
  cases a with
  | «open» j nonblocking => cases ha
  | close j => cases ha
  | ioctl j f => cases ha
  | dispatch nowNs => cases ha
  | _ => rfl

/-- A step that changes no session is seen as nothing. -/
theorem Seen.frame (h : s.IdsNodup) {a : EventAction} (hlabel : s.label id a = [])
    (hsessions : s'.sessions = s.sessions) (hhandled : s'.handled = s.handled) :
    Seen cfg id s a s' := by
  refine ⟨?_, ?_⟩
  · rw [hlabel, alone, alone, hsessions, hhandled]
    rfl
  · rw [IdsNodup, hsessions]
    exact h

/-- An OPEN with a fresh ID is seen by this ID alone. -/
theorem Seen.open (h : s.IdsNodup) {j : UInt32} {nonblocking : Bool}
    (hfresh : findSession j s.sessions = none)
    (hstep : s.step cfg (.open j nonblocking) = some s') :
    Seen cfg id s (.open j nonblocking) s' := by
  cases hstep
  refine ⟨?_, ?_⟩
  · by_cases hj : j = id
    · subst hj
      simp [Trace.run_nil, label, alone, Alone.step, findSession_concat, hfresh]
    · simp [Trace.run_nil, label, alone, findSession_concat, hj]
  · have hnew : j ∉ s.sessions.map (·.id) := findSession_eq_none.mp hfresh
    simp only [IdsNodup, List.map_append, List.map_cons, List.map_nil]
    exact List.nodup_append.mpr ⟨h, List.nodup_singleton _, fun i hi k hk hik => by
      obtain rfl := List.mem_singleton.mp hk
      exact hnew (hik ▸ hi)⟩

/-- A CLOSE is seen by its ID alone. -/
theorem Seen.close (h : s.IdsNodup) {j : UInt32} (hstep : s.step cfg (.close j) = some s') :
    Seen cfg id s (.close j) s' := by
  simp only [Events.step] at hstep
  split at hstep
  · rename_i hguard
    cases hstep
    obtain ⟨t, ht⟩ := Option.isSome_iff_exists.mp hguard.2
    refine ⟨?_, h.sublist ((List.eraseP_sublist).map _)⟩
    by_cases hj : j = id
    · subst hj
      simp [Trace.run_nil, label, alone, Alone.step, findSession_eraseP h, ht]
    · have hne : ¬id = j := fun h => hj h.symm
      simp [Trace.run_nil, label, alone, findSession_eraseP h, hj, hne]
  · cases hstep

/-- An ioctl is seen by its session alone. -/
theorem Seen.ioctl (h : s.IdsNodup) {j : UInt32} {f : Session → Session}
    (hstep : s.step cfg (.ioctl j f) = some s') : Seen cfg id s (.ioctl j f) s' := by
  simp only [Events.step] at hstep
  split at hstep
  · rename_i hsome
    cases hstep
    obtain ⟨t, ht⟩ := Option.isSome_iff_exists.mp hsome
    refine ⟨?_, ?_⟩
    · by_cases hj : j = id
      · subst hj
        simp [Trace.run_nil, label, alone, Alone.step, findSession_updateSession, ht]
      · have hne : ¬id = j := fun h => hj h.symm
        simp [Trace.run_nil, label, alone, findSession_updateSession, hj, hne]
    · rw [IdsNodup, ids_updateSession]
      · exact h
      · intro t
        rfl
  · cases hstep

/-- An event is dispatched to the session that it names, and to no other one. -/
theorem Seen.dispatch (h : s.IdsNodup) {nowNs : Nat}
    (hstep : s.step cfg (.dispatch nowNs) = some s') : Seen cfg id s (.dispatch nowNs) s' := by
  obtain ⟨u, hu, hstep⟩ := Option.bind_eq_some_iff.mp hstep
  split at hstep
  · cases hstep
  · cases hstep
    have hlabel : s.label id (.dispatch nowNs) =
        ((eventFor id (s.read u)).map (SessionOp.event nowNs)).toList := by
      simp [label, hu]
    rw [Seen, hlabel]
    cases hread : s.read u with
    | none => exact ⟨by simp [Trace.run_nil, alone, route, eventFor], h⟩
    | some e =>
        obtain ⟨j, e⟩ := e
        have hid := fun t => EventSession.receive_id cfg nowNs t e
        refine ⟨?_, ?_⟩
        · by_cases hj : j = id
          · subst hj
            simp [Trace.run_nil, alone, route, eventFor, Alone.step, findSession_updateSession hid]
          · have hne : ¬id = j := fun h => hj h.symm
            simp [Trace.run_nil, alone, route, eventFor, findSession_updateSession hid, hj, hne]
        · rw [IdsNodup, route, ids_updateSession hid]
          exact h

/-- Every step, if the device gives no ID twice. -/
theorem Seen.of_step (h : s.IdsNodup) {a : EventAction} (hfresh : s.FreshIds a)
    (hstep : s.step cfg a = some s') : Seen cfg id s a s' := by
  by_cases hquiet : a.quiet = true
  · obtain ⟨hsessions, hhandled⟩ := (step_effect hstep).2 hquiet
    exact .frame h (label_of_quiet hquiet) hsessions hhandled
  · cases a with
    | «open» j nonblocking => exact .open h hfresh hstep
    | close j => exact .close h hstep
    | ioctl j f => exact .ioctl h hstep
    | dispatch nowNs => exact .dispatch h hstep
    | _ => exact absurd rfl hquiet

/-- The sessions of an ID follow a device that has only this one. -/
theorem alone_simulates (cfg : Config) (id : UInt32) :
    Trace.Simulates (Events.step cfg) FreshIds (Alone.step cfg id) (label id)
      fun s t => s.IdsNodup ∧ s.alone id = t :=
  .of_abs fun _ _ _ h hfresh hstep => Seen.of_step h hfresh hstep

end Alone

/-! ### Runs -/

section Runs

variable {cfg : Config} {s : Events}

/-- The second event arrives while the first one is dispatched, and the callback
finds the loop running. -/
def dispatchRun : List EventAction :=
  [.fill 0 true, .fill 0 true, .open 7 false, .send 1 (Event.encode 7 (.error 5)) false,
    .interrupt, .work, .enter, .getBuf, .send 0 (Event.encode 8 (.error 3)) false, .dispatch 0,
    .open 8 true]

/-- What the device writes is what the driver dispatches, in the same order, up to
what is still in the event queue. -/
theorem events_arrive (acts : List EventAction) (evs : List (UInt32 × Event))
    (hwf : ∀ e ∈ evs, e.2.WellFormed)
    (hwritten : acts.filterMap EventAction.written = evs.map fun e => e.2.encode e.1)
    (hrun : Trace.run (Events.step cfg) .init acts = some s) :
    s.handled <+: evs.map some ∧
      (s.eventq.isSome = true → s.handled ++ s.unread = evs.map some) := by
  have h := inv_of_run hrun
  have hsent : s.sent = evs.map some := sent_of_run hwf hwritten hrun
  refine ⟨hsent ▸ h.handled_isPrefix, fun hsome => ?_⟩
  obtain ⟨q, hq⟩ := Option.isSome_iff_exists.mp hsome
  rw [← hsent, (h.queue q hq).order]

set_option maxRecDepth 4000 in
theorem events_arrive_dispatchRun :
    ∃ s, Trace.run (Events.step ⟨false, false, false⟩) .init dispatchRun = some s ∧
      s.handled <+: [(7, .error 5), (8, .error 3)].map some ∧
      (s.eventq.isSome = true →
        s.handled ++ s.unread = [(7, .error 5), (8, .error 3)].map some) :=
  ⟨_, rfl, events_arrive dispatchRun [(7, .error 5), (8, .error 3)] (by simp [Event.WellFormed])
    rfl rfl⟩

/-- What the driver does with the events and with their buffers. -/
structure Orderly (s : Events) : Prop where
  /-- What is dispatched was sent, in that order, and nothing is left out. -/
  order : s.handled <+: s.sent
  /-- What is missing is still in the event queue. -/
  unread : ∀ q, s.eventq = some q → s.sent = s.handled ++ s.unread
  /-- Each buffer is in one place. -/
  buffers : ∀ q, s.eventq = some q → s.lost = false → q.buffers.Perm (List.range s.filled)
  /-- An event in the used ring has been noticed. -/
  noticed : ∀ q, s.eventq = some q → s.disconnected = false → q.used ≠ [] →
    q.service ≠ .idle ∨ q.interrupt = true ∨ s.scheduled = true ∨ 0 < s.waiting

/-- In every reached state, whatever device, callback, work and sessions have
done in between. -/
theorem events_in_order (acts : List EventAction)
    (hrun : Trace.run (Events.step cfg) .init acts = some s) : s.Orderly := by
  have h := inv_of_run hrun
  refine ⟨h.handled_isPrefix, fun q hq => (h.queue q hq).order, fun q hq hlost => ?_,
    fun q hq hd hu => ?_⟩
  · have hok := h.queue q hq
    refine (List.perm_ext_iff_of_nodup hok.nodup List.nodup_range).mpr fun i => ?_
    rw [List.mem_range]
    exact ⟨hok.filled i, hok.all hlost i⟩
  · simpa [hd] using (h.queue q hq).attentive.noticed hu

set_option maxRecDepth 4000 in
theorem events_in_order_dispatchRun :
    ∃ s, Trace.run (Events.step ⟨false, false, false⟩) .init dispatchRun = some s ∧
      s.handled = [some (7, .error 5)] ∧ s.unread = [some (8, .error 3)] ∧ s.Orderly :=
  ⟨_, rfl, by decide, by decide, events_in_order dispatchRun rfl⟩

/-- A session gets what it would get on a device of its own: the events that name
it, in the order in which they were sent. -/
theorem sessions_are_independent (acts : List EventAction)
    (hfresh : Trace.Conforms (Events.step cfg) FreshIds .init acts)
    (hrun : Trace.run (Events.step cfg) .init acts = some s) (id : UInt32) :
    Trace.run (Alone.step cfg id) ⟨none, []⟩
          (Trace.labels (Events.step cfg) (label id) .init acts) =
        some ⟨findSession id s.sessions, s.handled.filterMap (eventFor id)⟩ ∧
      s.handled.filterMap (eventFor id) <+: s.sent.filterMap (eventFor id) := by
  have hinit : IdsNodup .init := List.nodup_nil
  obtain ⟨t, ht, -, rfl⟩ := (alone_simulates cfg id).run ⟨hinit, rfl⟩ hfresh hrun
  exact ⟨ht, (inv_of_run hrun).handled_isPrefix.filterMap _⟩

set_option maxRecDepth 4000 in
theorem sessions_are_independent_dispatchRun :
    ∃ s, Trace.run (Events.step ⟨false, false, false⟩) .init dispatchRun = some s ∧
      (findSession 7 s.sessions).map (·.session.error) = some true ∧
      Trace.run (Alone.step ⟨false, false, false⟩ 7) ⟨none, []⟩
          (Trace.labels (Events.step ⟨false, false, false⟩) (label 7) .init dispatchRun) =
        some ⟨findSession 7 s.sessions, s.handled.filterMap (eventFor 7)⟩ ∧
      s.handled.filterMap (eventFor 7) <+: s.sent.filterMap (eventFor 7) :=
  ⟨_, rfl, by decide, sessions_are_independent dispatchRun (by decide) rfl 7⟩

/-- From every state of every run, the driver can dispatch by itself all that was
sent. -/
theorem events_can_be_dispatched (acts : List EventAction)
    (hrun : Trace.run (Events.step cfg) .init acts = some s) (hd : s.disconnected = false) :
    ∃ t, Trace.CanReach (Events.step cfg) EventAction.own s t ∧ t.handled = s.sent ∧
      t.idle = true := by
  have h := inv_of_run hrun
  cases hq : s.eventq with
  | none => exact absurd ((h.stopped hq).1.symm.trans hd) (by simp)
  | some q =>
      obtain ⟨t, hreach, hinv, hserved, hsent⟩ := h.served cfg hq hd
      obtain ⟨u, hreach', ⟨hinv', ⟨q', hq', hempty⟩, hsent'⟩, hidle⟩ := hinv.settle cfg hserved
      refine ⟨u, hreach.trans hreach', ?_, hidle⟩
      have hservice : q'.service = .idle := by simpa [idle, hq'] using hidle
      have hunread : u.unread = [] := by
        rw [unread_of_queue hq', hempty hservice, hservice]
        simp [Service.current]
      rw [← hsent, ← hsent', (hinv'.queue q' hq').order, hunread, List.append_nil]

theorem events_can_be_dispatched_dispatchRun :
    ∃ s, Trace.run (Events.step ⟨false, false, false⟩) .init dispatchRun = some s ∧
      ∃ t, Trace.CanReach (Events.step ⟨false, false, false⟩) EventAction.own s t ∧
        t.handled = s.sent ∧ t.idle = true :=
  ⟨_, rfl, events_can_be_dispatched dispatchRun rfl rfl⟩

end Runs

end Events

end VirtioMedia.Driver
