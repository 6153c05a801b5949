import VirtioMedia.Driver.Mappings
import VirtioMedia.Driver.QueueAccounting
import VirtioMedia.Lib.Logged

/-!
# Array indices after a reply of the device

The handlers once more, from the reply or the event on, with a log of every
index they use into `session->queues`, into `queue->buffers` and into the
arrays of planes. A read-write ioctl lets the device overwrite the structure
that was checked before the command, so a handler must check again or use what
it saved. The logged handlers return what the handlers return.
-/

namespace VirtioMedia.Driver

open V4l2 Logged

/-- `VIRTIO_MEDIA_LAST_QUEUE`. -/
def lastQueue : Nat := 14

/-- An index into `session->queues`, into a `buffers` array of the given
length, or into an array of planes. -/
inductive Access where
  | queue (i : Nat)
  | buffer (i allocated : Nat)
  | plane (i : Nat)
  deriving DecidableEq, Repr

def Access.inBounds : Access → Bool
  | .queue i => i ≤ lastQueue
  | .buffer i allocated => i < allocated
  | .plane i => i < videoMaxPlanes

/-- A loop over the planes below `n`. -/
def planeSweep (n : Nat) : List Access := (List.range n).map .plane

/-- A loop over all slots of a queue and, in each, over its imports. -/
def slotSweep (allocated : Nat) : List Access :=
  (List.range allocated).flatMap fun i => .buffer i allocated :: planeSweep videoMaxPlanes

/-! ### The handlers -/

/-- `virtio_media_process_dqbuf_event`. -/
def processDqbufEventLogged (cfg : Config) (s : Session) (ev : DqbufEvent) :
    Logged Access Session :=
  match queueIndex ev.buffer.type with
  | none => pure s
  | some t => do
    tell (.queue ev.buffer.type.toNat)
    let q := s.queues t
    match q.buffers[ev.buffer.index.toNat]? with
    | none => pure s
    | some _ => do
      tell (.buffer ev.buffer.index.toNat q.buffers.length)
      if q.accepts ev.buffer.type ev then do
        -- `virtio_media_complete_imports`
        tellAll (planeSweep videoMaxPlanes)
        tellAll (if typeIsMultiplanar ev.buffer.type then planeSweep ev.buffer.length.toNat
          else [])
        pure (processDqbufEvent cfg s ev)
      else pure s

def processEventsLogged (cfg : Config) : Session → List DqbufEvent → Logged Access Session
  | s, [] => pure s
  | s, ev :: rest => do
    let s ← processDqbufEventLogged cfg s ev
    processEventsLogged cfg s rest

/-- `virtio_media_reqbufs` from the reply on. The imports of all slots are
released, then `virtio_media_clear_queue` visits all slots once more. -/
def reqbufsLogged (cfg : Config) (s : Session) (b : RequestBuffers) (ret : Int)
    (reply : RequestBuffers) (drained : List DqbufEvent) (vzallocOk : Bool) :
    Logged Access (Option (Int × RequestBuffers × Session)) :=
  if reqbufsCheck cfg s b != 0 || ret != 0 then
    pure (reqbufs cfg s b ret reply drained vzallocOk)
  else do
    tell (.queue reply.type.toNat)
    match queueIndex reply.type with
    | none => pure none
    | some t => do
      let s' ← processEventsLogged cfg s drained
      tellAll (slotSweep (s'.queues t).buffers.length)
      tellAll (slotSweep (s'.queues t).buffers.length)
      pure (reqbufs cfg s b ret reply drained vzallocOk)

/-- `virtio_media_querybuf` from the reply on. -/
def querybufLogged (s : Session) (ret : Int) (reply : V4l2Buffer) :
    Logged Access (Int × V4l2Buffer) :=
  if ret != 0 then pure (ret, reply)
  else
    match queueIndex reply.type with
    | none => pure (-einval, reply)
    | some t => do
      tell (.queue reply.type.toNat)
      match (s.queues t).buffers[reply.index.toNat]? with
      | none => pure (-einval, reply)
      | some b => do
        tell (.buffer reply.index.toNat (s.queues t).buffers.length)
        pure (0, { reply with flags := reply.flags ||| (b.buffer.flags &&& bufFlagDone) })

/-- `virtio_media_create_bufs` from the reply on. Every old slot is copied to
the same index of the new array. -/
def createBufsLogged (s : Session) (b : CreateBuffers) (ret : Int) (reply : CreateBuffers)
    (vzallocOk : Bool) : Logged Access (Option (Int × CreateBuffers × Session)) :=
  match createBufsCheck b with
  | .error e => pure (some (e, b, s))
  | .ok t =>
    if ret != 0 then pure (some (ret, reply, s))
    else if reply.count == 0 then pure (some (0, reply, s))
    else if !vzallocOk || reply.newLength == 0 then pure (some (-enomem, reply, s))
    else do
      tellAll ((List.range (s.queues t).buffers.length).map (.buffer · reply.newLength))
      pure (createBufs s b ret reply vzallocOk)

/-- `virtio_media_prepare_buf`, with the events processed while its command is
outstanding. The slot is the one found before the command; the reply goes to
the caller. -/
def prepareBufLogged (cfg : Config) (s : Session) (req : BufferReq) (evs : List DqbufEvent)
    (ret : Int) (reply : BufferReq) : Logged Access (Int × BufferReq × Session) :=
  match prepareBufSubmit s req with
  | (.error e, s) => pure (e, req, s)
  | (.ok fl, s) => do
    let s ← processEventsLogged cfg s evs
    tellAll (if ret != 0 then [] else
      [.buffer fl.slot (s.queues fl.queue).buffers.length])
    pure ((prepareBufReply s fl ret).1, reply, (prepareBufReply s fl ret).2)

/-- `virtio_media_qbuf`, with the events processed while its command is
outstanding. Only a failed command touches the slot again. -/
def qbufLogged (cfg : Config) (s : Session) (req : BufferReq) (ans : Nat → PlaneAnswers)
    (evs : List DqbufEvent) (ret : Int) (reply : BufferReq) :
    Logged Access (Int × BufferReq × Session) :=
  match qbufSubmit cfg s req ans with
  | (.error e, s) => pure (e, req, s)
  | (.ok fl, s) => do
    let s ← processEventsLogged cfg s evs
    tellAll (if ret != 0 then
      .buffer fl.slot (s.queues fl.queue).buffers.length ::
        (if (s.queues fl.queue).memory == memoryDmabuf then planeSweep videoMaxPlanes else [])
      else [])
    pure ((qbufReply s fl ret).1, reply, (qbufReply s fl ret).2)

/-- `virtio_media_expbuf` with its QUERYBUF, the array of planes of which is on
the stack. The index of the plane is the caller's. -/
def expbufPlanesLogged (shmExport : Bool) (vv : Device) (sessionId : UInt32) (s : Session)
    (b : ExportBuffer) (env : ExpbufEnv) : Logged Access (Int × ExportBuffer × Device) :=
  if !shmExport then pure (-eopnotsupp, b, vv)
  else if b.invalid s then pure (-einval, b, vv)
  else if env.unusedFd < 0 then pure (env.unusedFd, b, vv)
  else if vv.exports.any (Export.serves sessionId b) then
    pure (0, { b with fd := env.unusedFd }, vv)
  else do
    let r ← querybufLogged s env.queryRet env.queryReply
    if r.1 != 0 then pure (r.1, b, vv)
    else do
      tellAll (if r.2.memory == memoryMmap && typeIsMultiplanar b.type &&
        decide (b.plane < r.2.length) then [.plane b.plane.toNat] else [])
      pure (expbufNew vv sessionId s b env)

/-! ### They return what the handlers return -/

theorem processDqbufEventLogged_val (cfg : Config) (s : Session) (ev : DqbufEvent) :
    (processDqbufEventLogged cfg s ev).val = processDqbufEvent cfg s ev := by
  have hself (t : Fin numQueues) : s.setQueue t (s.queues t) = s := by
    simp [Session.setQueue]
  simp only [processDqbufEventLogged, processDqbufEvent]
  cases ht : queueIndex ev.buffer.type with
  | none => rfl
  | some t =>
      simp only [val_bind, QueueState.processDqbuf]
      cases hb : (s.queues t).buffers[ev.buffer.index.toNat]? with
      | none => simp only [val_pure, hself]
      | some b =>
          simp only [val_bind]
          by_cases hacc : (s.queues t).accepts ev.buffer.type ev = true
          · simp only [hacc, if_true, val_bind, val_pure]
          · simp only [hacc, Bool.false_eq_true, if_false, val_pure, hself]

theorem processEventsLogged_val (cfg : Config) (s : Session) (evs : List DqbufEvent) :
    (processEventsLogged cfg s evs).val = processEvents cfg s evs := by
  induction evs generalizing s with
  | nil => rfl
  | cons ev rest ih =>
      simp only [processEventsLogged, val_bind, processDqbufEventLogged_val, ih]
      rfl

theorem reqbufsLogged_val (cfg : Config) (s : Session) (b : RequestBuffers) (ret : Int)
    (reply : RequestBuffers) (drained : List DqbufEvent) (vzallocOk : Bool) :
    (reqbufsLogged cfg s b ret reply drained vzallocOk).val =
      reqbufs cfg s b ret reply drained vzallocOk := by
  unfold reqbufsLogged
  split
  · rfl
  · rename_i h
    simp only [Bool.or_eq_true, not_or, Bool.not_eq_true] at h
    cases ht : queueIndex reply.type with
    | none => simp only [val_bind, val_pure, reqbufs, h.1, h.2, ht, Bool.false_eq_true, if_false]
    | some t => simp only [val_bind, val_pure]

theorem querybufLogged_val (s : Session) (ret : Int) (reply : V4l2Buffer) :
    (querybufLogged s ret reply).val = querybuf s ret reply := by
  unfold querybufLogged querybuf
  split
  · rfl
  · cases ht : queueIndex reply.type with
    | none => rfl
    | some t =>
        simp only [val_bind]
        cases hb : (s.queues t).buffers[reply.index.toNat]? with
        | none => rfl
        | some b => rfl

theorem createBufsLogged_val (s : Session) (b : CreateBuffers) (ret : Int)
    (reply : CreateBuffers) (vzallocOk : Bool) :
    (createBufsLogged s b ret reply vzallocOk).val = createBufs s b ret reply vzallocOk := by
  unfold createBufsLogged
  cases hc : createBufsCheck b with
  | error e => simp only [val_pure, createBufs, hc]
  | ok t =>
      simp only
      split
      · rename_i hr
        simp only [val_pure, createBufs, hc, hr, if_true]
      · rename_i hr
        split
        · rename_i h0
          simp only [val_pure, createBufs, hc, hr, h0, Bool.false_eq_true, if_true, if_false]
        · rename_i h0
          split
          · rename_i hv
            simp only [val_pure, createBufs, hc, hr, h0, hv, Bool.false_eq_true, if_true,
              if_false]
          · rfl

theorem prepareBufLogged_val {cfg : Config} {s s' : Session} {req reply : BufferReq}
    {fl : PrepareInFlight} (h : prepareBufSubmit s req = (.ok fl, s'))
    (evs : List DqbufEvent) (ret : Int) :
    (prepareBufLogged cfg s req evs ret reply).val.2.2 =
      (prepareBufReply (processEvents cfg s' evs) fl ret).2 := by
  simp only [prepareBufLogged, h, val_bind, val_pure, processEventsLogged_val]

/-- The log changes nothing. -/
theorem qbufLogged_val {cfg : Config} {s s' : Session} {req reply : BufferReq}
    {ans : Nat → PlaneAnswers} {fl : QbufInFlight}
    (h : qbufSubmit cfg s req ans = (.ok fl, s')) (evs : List DqbufEvent) (ret : Int) :
    (qbufLogged cfg s req ans evs ret reply).val.2.2 =
      (qbufReply (processEvents cfg s' evs) fl ret).2 := by
  simp only [qbufLogged, h, val_bind, val_pure, processEventsLogged_val]

/-- The log changes nothing. -/
theorem expbufPlanesLogged_val (shmExport : Bool) (vv : Device) (sessionId : UInt32)
    (s : Session) (b : ExportBuffer) (env : ExpbufEnv) :
    (expbufPlanesLogged shmExport vv sessionId s b env).val =
      expbuf shmExport vv sessionId s b env := by
  unfold expbufPlanesLogged expbuf
  split
  · rfl
  · split
    · rfl
    · split
      · rfl
      · split
        · rfl
        · simp only [val_bind, querybufLogged_val]
          by_cases hret : ((querybuf s env.queryRet env.queryReply).1 != 0) = true
          · simp only [hret, if_true, val_pure, expbufNew]
          · simp only [hret, Bool.false_eq_true, if_false, val_bind, val_pure]

/-! ### Which of their indices are in bounds -/

/-- Every index of a log is in bounds. -/
def InBounds {α : Type} (x : Logged Access α) : Prop := All (fun a => a.inBounds = true) x

theorem planeSweep_inBounds {n : Nat} (h : n ≤ videoMaxPlanes) :
    ∀ a ∈ planeSweep n, a.inBounds = true := by
  intro a ha
  obtain ⟨i, hi, rfl⟩ := List.mem_map.mp ha
  have := List.mem_range.mp hi
  simp only [Access.inBounds, decide_eq_true_eq]
  omega

/-- The loops over the slots are bounded by the array. -/
theorem slotSweep_inBounds (n : Nat) : ∀ a ∈ slotSweep n, a.inBounds = true := by
  intro a ha
  obtain ⟨i, hi, ha⟩ := List.mem_flatMap.mp ha
  rcases List.mem_cons.mp ha with rfl | ha
  · simpa [Access.inBounds] using List.mem_range.mp hi
  · exact planeSweep_inBounds le_rfl a ha

/-- A queue index is in bounds for the types that have a queue. -/
theorem inBounds_queue_iff (type : UInt32) :
    (Access.queue type.toNat).inBounds = true ↔ (queueIndex type).isSome = true := by
  have hlast : type.toNat ≤ lastQueue ↔ type.toNat < numQueues := by
    simp only [lastQueue, numQueues]
    omega
  simp only [Access.inBounds, queueIndex, decide_eq_true_eq, hlast]
  split
  · simp_all
  · simp_all

/-- The number of planes of an accepted event has been checked. -/
theorem planes_of_accepts {q : QueueState} {type : UInt32} {ev : DqbufEvent}
    (h : q.accepts type ev = true) (hm : typeIsMultiplanar type = true) :
    ev.buffer.length.toNat ≤ videoMaxPlanes := by
  unfold QueueState.accepts at h
  split at h
  · cases h
  · simp only [hm, Bool.true_and, Bool.and_eq_true, Bool.not_eq_true',
      decide_eq_false_iff_not] at h
    omega

/-- An event is checked before it is used. -/
theorem processDqbufEventLogged_inBounds (cfg : Config) (s : Session) (ev : DqbufEvent) :
    InBounds (processDqbufEventLogged cfg s ev) := by
  unfold processDqbufEventLogged InBounds
  cases ht : queueIndex ev.buffer.type with
  | none => exact all_pure s
  | some t =>
      have hq : (Access.queue ev.buffer.type.toNat).inBounds = true :=
        (inBounds_queue_iff _).mpr (by rw [ht]; rfl)
      simp only [all_bind, all_tell]
      refine ⟨hq, ?_⟩
      cases hb : (s.queues t).buffers[ev.buffer.index.toNat]? with
      | none => exact all_pure s
      | some b =>
          have hlt := (List.getElem?_eq_some_iff.mp hb).1
          simp only [all_bind, all_tell]
          refine ⟨by simpa [Access.inBounds] using hlt, ?_⟩
          split
          · rename_i hacc
            simp only [all_bind, all_tellAll, all_pure, and_true]
            refine ⟨planeSweep_inBounds le_rfl, ?_⟩
            split
            · rename_i hm
              exact planeSweep_inBounds (planes_of_accepts hacc hm)
            · simp
          · exact all_pure s

theorem processEventsLogged_inBounds (cfg : Config) (s : Session) (evs : List DqbufEvent) :
    InBounds (processEventsLogged cfg s evs) := by
  induction evs generalizing s with
  | nil => exact all_pure s
  | cons ev rest ih =>
      simp only [processEventsLogged, InBounds, all_bind]
      exact ⟨processDqbufEventLogged_inBounds cfg s ev, ih _⟩

/-- Events keep the length of every array of slots. -/
theorem processDqbufEvent_length (cfg : Config) (s : Session) (ev : DqbufEvent)
    (u : Fin numQueues) :
    ((processDqbufEvent cfg s ev).queues u).buffers.length =
      (s.queues u).buffers.length := by
  unfold processDqbufEvent
  split
  · rfl
  · rename_i t _
    rw [Session.setQueue_queues]
    split
    · rename_i hu
      subst hu
      unfold QueueState.processDqbuf
      split
      · rfl
      · split
        · simp [QueueState.setBuffer]
        · rfl
    · rfl

/-- Events leave the arrays of buffers as long as they are. -/
theorem processEvents_length (cfg : Config) (s : Session) (evs : List DqbufEvent)
    (u : Fin numQueues) :
    ((processEvents cfg s evs).queues u).buffers.length = (s.queues u).buffers.length := by
  induction evs generalizing s with
  | nil => rfl
  | cons ev rest ih => exact (ih _).trans (processDqbufEvent_length cfg s ev u)

/-- The slot of an outstanding PREPARE_BUF is a slot of its queue. -/
theorem prepareBufSubmit_slot {s s' : Session} {req : BufferReq} {fl : PrepareInFlight}
    (h : prepareBufSubmit s req = (.ok fl, s')) :
    fl.slot < (s'.queues fl.queue).buffers.length := by
  unfold prepareBufSubmit prepareBufCheck at h
  split at h
  · cases h
  · rename_i t b hc
    split at hc
    · cases hc
    · split at hc
      · cases hc
      · split at hc
        · cases hc
        · rename_i c hslot
          cases hc
          have hlt := (List.getElem?_eq_some_iff.mp hslot).1
          simp only at h
          split at h
          · cases h
          · cases h
            simpa [QueueState.setBuffer] using hlt

/-- The slot of an outstanding QBUF is a slot of its queue. -/
theorem qbufSubmit_slot_lt {cfg : Config} {s s' : Session} {req : BufferReq}
    {ans : Nat → PlaneAnswers} {fl : QbufInFlight}
    (h : qbufSubmit cfg s req ans = (.ok fl, s')) :
    fl.slot < (s'.queues fl.queue).buffers.length := by
  rcases qbufSubmit_cases cfg s req ans with
    ⟨e, he⟩ | ⟨e, t, b, b', -, -, he⟩ | ⟨t, b, b', hc, ho⟩
  · rw [he] at h
    cases h
  · rw [he] at h
    cases h
  · rw [ho] at h
    cases h
    have hlt := lt_length_of_slot (idle_of_qbufCheck hc).1
    simpa [enqueueSlot, QueueState.incQueued, QueueState.setBuffer] using hlt

/-- What the device delivers: a reply, with the call it answers and the events
processed in between, or an event. -/
inductive Delivery where
  | reqbufs (b : RequestBuffers) (ret : Int) (reply : RequestBuffers)
      (drained : List DqbufEvent) (vzallocOk : Bool)
  | querybuf (ret : Int) (reply : V4l2Buffer)
  | createBufs (b : CreateBuffers) (ret : Int) (reply : CreateBuffers) (vzallocOk : Bool)
  | prepareBuf (req : BufferReq) (evs : List DqbufEvent) (ret : Int) (reply : BufferReq)
  | qbuf (req : BufferReq) (ans : Nat → PlaneAnswers) (evs : List DqbufEvent) (ret : Int)
      (reply : BufferReq)
  | event (ev : DqbufEvent)
  | expbuf (shmExport : Bool) (vv : Device) (sessionId : UInt32) (b : ExportBuffer)
      (env : ExpbufEnv)

/-- Every index the driver uses from the delivery on. -/
def Delivery.accesses (cfg : Config) (s : Session) : Delivery → List Access
  | .reqbufs b ret reply drained vzallocOk =>
    (reqbufsLogged cfg s b ret reply drained vzallocOk).log
  | .querybuf ret reply => (querybufLogged s ret reply).log
  | .createBufs b ret reply vzallocOk => (createBufsLogged s b ret reply vzallocOk).log
  | .prepareBuf req evs ret reply => (prepareBufLogged cfg s req evs ret reply).log
  | .qbuf req ans evs ret reply => (qbufLogged cfg s req ans evs ret reply).log
  | .event ev => (processDqbufEventLogged cfg s ev).log
  | .expbuf shmExport vv sessionId b env =>
    (expbufPlanesLogged shmExport vv sessionId s b env).log

/-- A successful REQBUFS reply names a queue of the session. -/
def reqbufsReplyOk (cfg : Config) (s : Session) (b : RequestBuffers) (ret : Int)
    (reply : RequestBuffers) : Bool :=
  reqbufsCheck cfg s b != 0 || ret != 0 || decide (reply.type.toNat ≤ lastQueue)

/-- A successful CREATE_BUFS reply that leads to an allocation does not make
the array of the queue smaller. -/
def createBufsReplyOk (s : Session) (b : CreateBuffers) (ret : Int) (reply : CreateBuffers)
    (vzallocOk : Bool) : Bool :=
  match createBufsCheck b with
  | .error _ => true
  | .ok t =>
    ret != 0 || reply.count == 0 || !vzallocOk || reply.newLength == 0 ||
      decide ((s.queues t).buffers.length ≤ reply.newLength)

/-- The QUERYBUF reply is accepted: it is a success and names a slot of the
session. -/
def querybufReplyAccepted (s : Session) (ret : Int) (reply : V4l2Buffer) : Bool :=
  ret == 0 && (queueIndex reply.type).any fun t =>
    decide (reply.index.toNat < (s.queues t).buffers.length)

/-- An EXPBUF that gets to the planes of its QUERYBUF, on a multiplanar queue:
the reply does not have more planes than the array, or the caller does not ask
for one of those. -/
def expbufReplyOk (shmExport : Bool) (vv : Device) (sessionId : UInt32) (s : Session)
    (b : ExportBuffer) (env : ExpbufEnv) : Bool :=
  !shmExport || b.invalid s || decide (env.unusedFd < 0) ||
    vv.exports.any (Export.serves sessionId b) ||
    !querybufReplyAccepted s env.queryRet env.queryReply ||
    env.queryReply.memory != memoryMmap || !typeIsMultiplanar b.type ||
    decide (env.queryReply.length ≤ b.plane) || decide (b.plane.toNat < videoMaxPlanes)

def Delivery.replyOk (cfg : Config) (s : Session) : Delivery → Bool
  | .reqbufs b ret reply _ _ => reqbufsReplyOk cfg s b ret reply
  | .createBufs b ret reply vzallocOk => createBufsReplyOk s b ret reply vzallocOk
  | .expbuf shmExport vv sessionId b env => expbufReplyOk shmExport vv sessionId s b env
  | _ => true

/-- REQBUFS uses the type of the reply without a check. -/
theorem reqbufsLogged_inBounds_iff (cfg : Config) (s : Session) (b : RequestBuffers)
    (ret : Int) (reply : RequestBuffers) (drained : List DqbufEvent) (vzallocOk : Bool) :
    InBounds (reqbufsLogged cfg s b ret reply drained vzallocOk) ↔
      reqbufsReplyOk cfg s b ret reply = true := by
  unfold reqbufsLogged reqbufsReplyOk InBounds
  by_cases h : (reqbufsCheck cfg s b != 0 || ret != 0) = true
  · simp only [h, if_true, Bool.true_or, iff_true]
    exact all_pure _
  · have hq := inBounds_queue_iff reply.type
    simp only [h, Bool.false_eq_true, if_false, Bool.false_or, all_bind, all_tell]
    change _ ↔ (Access.queue reply.type.toNat).inBounds = true
    constructor
    · exact fun h => h.1
    · intro hin
      refine ⟨hin, ?_⟩
      cases ht : queueIndex reply.type with
      | none => exact all_pure _
      | some t =>
          simp only [all_bind, all_tellAll, all_pure, and_true]
          exact ⟨processEventsLogged_inBounds cfg s drained, slotSweep_inBounds _,
            slotSweep_inBounds _⟩

/-- QUERYBUF checks its reply. -/
theorem querybufLogged_inBounds (s : Session) (ret : Int) (reply : V4l2Buffer) :
    InBounds (querybufLogged s ret reply) := by
  unfold querybufLogged InBounds
  split
  · exact all_pure _
  · cases ht : queueIndex reply.type with
    | none => exact all_pure _
    | some t =>
        simp only [all_bind, all_tell]
        refine ⟨(inBounds_queue_iff _).mpr (by rw [ht]; rfl), ?_⟩
        cases hb : (s.queues t).buffers[reply.index.toNat]? with
        | none => exact all_pure _
        | some b =>
            have hlt := (List.getElem?_eq_some_iff.mp hb).1
            simp only [all_bind, all_tell, all_pure, and_true]
            simpa [Access.inBounds] using hlt

/-- What `virtio_media_querybuf` makes of a reply. -/
theorem querybuf_cases (s : Session) (ret : Int) (reply : V4l2Buffer) :
    (querybufReplyAccepted s ret reply = false ∧ (querybuf s ret reply).1 ≠ 0) ∨
      (querybufReplyAccepted s ret reply = true ∧ (querybuf s ret reply).1 = 0 ∧
        (querybuf s ret reply).2.memory = reply.memory ∧
        (querybuf s ret reply).2.length = reply.length) := by
  unfold querybuf querybufReplyAccepted
  by_cases hret : ret = 0
  · subst hret
    cases ht : queueIndex reply.type with
    | none => exact .inl ⟨rfl, by simp [einval]⟩
    | some t =>
        cases hb : (s.queues t).buffers[reply.index.toNat]? with
        | none =>
            have hle := List.getElem?_eq_none_iff.mp hb
            refine .inl ⟨?_, by simp [hb, einval]⟩
            simpa using hle
        | some b =>
            have hlt := (List.getElem?_eq_some_iff.mp hb).1
            refine .inr ⟨by simpa using hlt, ?_⟩
            simp [hb]
  · exact .inl ⟨by simp [hret], by simp [hret]⟩

/-- EXPBUF compares its plane with the length of the reply only. -/
theorem expbufPlanesLogged_inBounds_iff (shmExport : Bool) (vv : Device) (sessionId : UInt32)
    (s : Session) (b : ExportBuffer) (env : ExpbufEnv) :
    InBounds (expbufPlanesLogged shmExport vv sessionId s b env) ↔
      expbufReplyOk shmExport vv sessionId s b env = true := by
  unfold expbufPlanesLogged expbufReplyOk InBounds
  by_cases hchecks : (!shmExport || b.invalid s || decide (env.unusedFd < 0) ||
      vv.exports.any (Export.serves sessionId b)) = true
  · simp only [hchecks, Bool.true_or, iff_true]
    split
    · exact all_pure _
    · split
      · exact all_pure _
      · split
        · exact all_pure _
        · split
          · exact all_pure _
          · simp_all
  · simp only [hchecks, Bool.false_or]
    simp only [Bool.or_eq_true, not_or, Bool.not_eq_true, decide_eq_false_iff_not] at hchecks
    obtain ⟨⟨⟨hshm, hvalid⟩, hfd⟩, hserves⟩ := hchecks
    simp only [hshm, hvalid, hfd, hserves, Bool.false_eq_true, if_false, all_bind,
      querybufLogged_val]
    have hquery : All (fun a => a.inBounds = true)
        (querybufLogged s env.queryRet env.queryReply) :=
      querybufLogged_inBounds s env.queryRet env.queryReply
    rw [and_iff_right hquery]
    rcases querybuf_cases s env.queryRet env.queryReply with ⟨hno, hret⟩ | ⟨hacc, hret, hm, hl⟩
    · simp only [bne_iff_ne.mpr hret, if_true, all_pure, hno, Bool.not_false, Bool.true_or]
    · simp only [hret, bne_self_eq_false, Bool.false_eq_true, if_false, all_bind, all_tellAll,
        all_pure, and_true, hacc, hm, hl, Bool.not_true, Bool.false_or]
      -- what is left is the one access to `planes`
      by_cases hplane : (env.queryReply.memory == memoryMmap && typeIsMultiplanar b.type &&
          decide (b.plane < env.queryReply.length)) = true
      · simp only [Bool.and_eq_true, beq_iff_eq, decide_eq_true_eq] at hplane
        obtain ⟨⟨hmem, hmulti⟩, hlt⟩ := hplane
        simp [hmem, hmulti, hlt, Access.inBounds, UInt32.not_le]
      · simp only [hplane, Bool.false_eq_true, if_false]
        simp only [Bool.and_eq_true, beq_iff_eq, decide_eq_true_eq, not_and] at hplane
        refine iff_of_true (by simp) ?_
        by_cases hmem : env.queryReply.memory = memoryMmap
        · by_cases hmulti : typeIsMultiplanar b.type = true
          · simp [UInt32.not_lt.mp (hplane ⟨hmem, hmulti⟩)]
          · simp [hmulti]
        · simp [hmem]

/-- The copy of `n` slots to an array of `m`. -/
theorem copy_inBounds_iff (n m : Nat) :
    (∀ a ∈ (List.range n).map (Access.buffer · m), a.inBounds = true) ↔ n ≤ m := by
  simp only [List.forall_mem_map, List.mem_range, Access.inBounds, decide_eq_true_eq]
  constructor
  · intro h
    by_contra hlt
    have := h m (by omega)
    omega
  · intro h i hi
    omega

/-- CREATE_BUFS copies as many slots as there were. -/
theorem createBufsLogged_inBounds_iff (s : Session) (b : CreateBuffers) (ret : Int)
    (reply : CreateBuffers) (vzallocOk : Bool) :
    InBounds (createBufsLogged s b ret reply vzallocOk) ↔
      createBufsReplyOk s b ret reply vzallocOk = true := by
  unfold createBufsLogged createBufsReplyOk InBounds
  cases hc : createBufsCheck b with
  | error e => simp
  | ok t =>
      simp only
      split
      · rename_i hr
        simp [hr]
      · rename_i hr
        split
        · rename_i h0
          simp [h0]
        · rename_i h0
          split
          · rename_i hv
            rcases Bool.or_eq_true _ _ |>.mp hv with hv | hv <;> simp [hv]
          · rename_i hv
            simp only [Bool.or_eq_true, not_or, Bool.not_eq_true] at hv hr h0
            simp only [all_bind, all_tellAll, all_pure, and_true, copy_inBounds_iff, hr, h0,
              hv.1, hv.2, Bool.false_or, decide_eq_true_eq]

/-- PREPARE_BUF goes by what it saved, and the planes of the reply are bounded.
-/
theorem prepareBufLogged_inBounds (cfg : Config) (s : Session) (req : BufferReq)
    (evs : List DqbufEvent) (ret : Int) (reply : BufferReq) :
    InBounds (prepareBufLogged cfg s req evs ret reply) := by
  unfold prepareBufLogged InBounds
  split
  · exact all_pure _
  · rename_i fl s' h
    have hlt := prepareBufSubmit_slot h
    simp only [all_bind, all_tellAll, all_pure, and_true, processEventsLogged_val]
    refine ⟨processEventsLogged_inBounds cfg s' evs, ?_⟩
    rw [← processEvents_length cfg s' evs] at hlt
    split
    · simp
    · simpa [Access.inBounds] using hlt

/-- QBUF goes by what it saved. -/
theorem qbufLogged_inBounds (cfg : Config) (s : Session) (req : BufferReq)
    (ans : Nat → PlaneAnswers) (evs : List DqbufEvent) (ret : Int) (reply : BufferReq) :
    InBounds (qbufLogged cfg s req ans evs ret reply) := by
  unfold qbufLogged InBounds
  split
  · exact all_pure _
  · rename_i fl s' h
    have hlt := qbufSubmit_slot_lt h
    simp only [all_bind, all_tellAll, all_pure, and_true, processEventsLogged_val]
    refine ⟨processEventsLogged_inBounds cfg s' evs, ?_⟩
    rw [← processEvents_length cfg s' evs] at hlt
    split
    · intro a ha
      rcases List.mem_cons.mp ha with rfl | ha
      · simpa [Access.inBounds] using hlt
      · split at ha
        · exact planeSweep_inBounds le_rfl a ha
        · cases ha
    · simp

/-- For every session state and everything the device may write into a reply or
an event, all indices used from then on are in bounds exactly when a successful
REQBUFS reply names one of the queues, a successful CREATE_BUFS reply does not
shrink the array of its queue, and the QUERYBUF reply of an EXPBUF does not let
a plane through that the array does not have. -/
theorem reply_indices_in_bounds (cfg : Config) (s : Session) (d : Delivery) :
    (∀ a ∈ d.accesses cfg s, a.inBounds = true) ↔ d.replyOk cfg s = true := by
  cases d with
  | reqbufs b ret reply drained ok => exact reqbufsLogged_inBounds_iff cfg s b ret reply drained ok
  | createBufs b ret reply ok => exact createBufsLogged_inBounds_iff s b ret reply ok
  | querybuf ret reply => exact iff_of_true (querybufLogged_inBounds s ret reply) rfl
  | prepareBuf req evs ret reply =>
      exact iff_of_true (prepareBufLogged_inBounds cfg s req evs ret reply) rfl
  | qbuf req ans evs ret reply =>
      exact iff_of_true (qbufLogged_inBounds cfg s req ans evs ret reply) rfl
  | event ev => exact iff_of_true (processDqbufEventLogged_inBounds cfg s ev) rfl
  | expbuf shmExport vv sessionId b env =>
      exact expbufPlanesLogged_inBounds_iff shmExport vv sessionId s b env

/-- A new session asks for one capture buffer and the device answers with
queue type 200. -/
theorem reply_indices_in_bounds_fails_reqbufsType :
    ¬∀ a ∈ (Delivery.reqbufs ⟨1, 1, memoryMmap, 0, 0⟩ 0 ⟨1, 200, memoryMmap, 0, 0⟩ [] true).accesses
        ⟨false, false, false⟩ (.init false), a.inBounds = true := by
  decide

end VirtioMedia.Driver
