import VirtioMedia.Device.UserptrQuery
import VirtioMedia.Wire

/-!
# Host addresses and the guest of the V4L2 proxy device

The guest should see a device that works on its own pointers. That device is
the abstract one below: it hands the buffers of the guest to the host as they
are and keeps no table, so what it answers cannot depend on the addresses of
mappings. The proxy device refines it while no buffer is dequeued that has
registered planes. A buffer that has is sent to the guest as the host returned
it, with the host's own addresses, and two runs that differ only in the
addresses of the mappings can then be told apart.
-/

namespace VirtioMedia.Device.ProxyQueues

open V4l2

/-! ### Controls -/

/-- What the host driver does to the controls: the size it leaves in each of
them and the value it writes, if it writes one. -/
structure CtrlAnswer where
  updates : List (UInt32 × Option UInt64)
  result : Except (Int × UInt32) Unit

/-- Patch the pointers to the payloads. -/
def patchPointers : List ExtControl → List UInt64 → List ExtControl
  | [], _ => []
  | c :: rest, [] => c :: rest
  | c :: rest, a :: addrs =>
    if 0 < c.size then { c with value := a } :: patchPointers rest addrs
    else c :: patchPointers rest (a :: addrs)

/-- The controls as the host driver leaves them. It does not look at the
addresses. -/
def hostCtrls : List ExtControl → List (UInt32 × Option UInt64) → List ExtControl
  | [], _ => []
  | c :: rest, updates =>
    let u := updates.headD (c.size, none)
    { c with size := u.1, value := u.2.getD c.value } :: hostCtrls rest updates.tail

/-- Restore the guest addresses in the controls array. -/
def restorePointers (array backup : List ExtControl) : List ExtControl :=
  List.zipWith (fun c b => if 0 < b.size then { c with value := b.value } else c) array backup

/-- `perform_ext_ctrls_ioctl`, where `mapped` is what `new_mapping` answers for
the SG lists. `none` is the `unwrap` of a mapping that failed. -/
def performExtCtrlsIoctl (ctrls : ExtControls) (array : List ExtControl)
    (mapped : List (Option UInt64)) (answer : CtrlAnswer) :
    Option (Except Int Unit × ExtControls × List ExtControl) :=
  let payloads := (array.filter fun c => 0 < c.size).zip mapped
  (payloads.mapM Prod.snd).map fun addrs =>
    let array' := restorePointers (hostCtrls (patchPointers array addrs) answer.updates) array
    match answer.result with
    | .ok () => (.ok (), ctrls, array')
    | .error (errno, idx) => (.error errno, { ctrls with errorIdx := idx }, array')

/-- The addresses of the payloads do not reach the controls of the guest. -/
theorem restorePointers_hostCtrls (array : List ExtControl) (addrs : List UInt64)
    (updates : List (UInt32 × Option UInt64)) :
    restorePointers (hostCtrls (patchPointers array addrs) updates) array =
      restorePointers (hostCtrls array updates) array := by
  induction array generalizing addrs updates with
  | nil => rfl
  | cons c rest ih =>
      cases addrs with
      | nil => rfl
      | cons a addrs =>
          unfold patchPointers
          by_cases hsize : 0 < c.size
          · rw [if_pos hsize]
            simp only [hostCtrls, restorePointers, List.zipWith_cons_cons, if_pos hsize]
            exact congrArg _ (ih addrs updates.tail)
          · rw [if_neg hsize]
            simp only [hostCtrls, restorePointers, List.zipWith_cons_cons]
            exact congrArg _ (ih (a :: addrs) updates.tail)

/-- Mappings that fail for the same SG lists. -/
theorem mapM_snd_isSome {l : List ExtControl} {m₁ m₂ : List (Option UInt64)}
    (h : m₁.map Option.isSome = m₂.map Option.isSome) :
    ((l.zip m₁).mapM Prod.snd).isSome = ((l.zip m₂).mapM Prod.snd).isSome := by
  rw [Fallible.isSome_mapM, Fallible.isSome_mapM]
  induction l generalizing m₁ m₂ with
  | nil => rfl
  | cons c rest ih =>
      cases m₁ with
      | nil =>
          obtain rfl := List.map_eq_nil_iff.mp h.symm
          rfl
      | cons a₁ m₁ =>
          obtain ⟨a₂, m₂, rfl, ha, hm⟩ := List.map_eq_cons_iff.mp h.symm
          rw [List.zip_cons_cons, List.zip_cons_cons, List.all_cons, List.all_cons, ih hm.symm, ha]

/-- Only which mappings exist matters, not where they are. -/
theorem performExtCtrlsIoctl_congr (ctrls : ExtControls) (array : List ExtControl)
    {m₁ m₂ : List (Option UInt64)} (answer : CtrlAnswer)
    (h : m₁.map Option.isSome = m₂.map Option.isSome) :
    performExtCtrlsIoctl ctrls array m₁ answer = performExtCtrlsIoctl ctrls array m₂ answer := by
  have hsome := mapM_snd_isSome (l := array.filter fun c => 0 < c.size) h
  unfold performExtCtrlsIoctl
  dsimp only
  cases h₁ : ((array.filter fun c => 0 < c.size).zip m₁).mapM Prod.snd with
  | none =>
      rw [h₁] at hsome
      rw [Option.isSome_eq_false_iff.mp hsome.symm |> Option.isNone_iff_eq_none.mp]
  | some a₁ =>
      rw [h₁] at hsome
      obtain ⟨a₂, h₂⟩ := Option.isSome_iff_exists.mp hsome.symm
      rw [h₂]
      simp only [Option.map_some, restorePointers_hostCtrls]

/-! ### The device as the guest sees it -/

/-- The request without the addresses of its mappings. -/
def Request.blind (req : Request) : Request where
  buffer := req.buffer
  mapped := req.mapped.map fun m => m.map fun _ => 0
  regions := by rw [List.length_map, req.regions]

/-- The call without the addresses of its mappings. -/
def Call.blind : Call → Call
  | .qbuf req outputs answer => .qbuf req.blind outputs answer
  | .prepareBuf req answer => .prepareBuf req.blind answer
  | c => c

/-- The planes of the request can be mapped. -/
def Request.maps (req : Request) : Bool := req.mapped.all Option.isSome

/-- QBUF of a device that works on the pointers of the guest. -/
def State.guestQbuf (s : State) (req : Request) (outputs : List DqAnswer)
    (answer : Except Int Status) : Outcome Buffer :=
  let r := s.dequeueOutputBuffers outputs
  if req.maps then
    match r.state.host.answer req.buffer.queue answer with
    | .error e => ⟨.error e, r.state, r.events⟩
    | .ok st => ⟨.ok (req.buffer.withStatus st),
        (r.state.accepted req.buffer []).counted req.buffer.queue, r.events⟩
  else ⟨.error einval, r.state, r.events⟩

/-- PREPARE_BUF of such a device. -/
def State.guestPrepareBuf (s : State) (req : Request) (answer : Except Int Status) :
    Outcome Buffer :=
  if req.maps then
    match s.host.answer req.buffer.queue answer with
    | .error e => ⟨.error e, s, []⟩
    | .ok st => ⟨.ok (req.buffer.withStatus st), s, []⟩
  else ⟨.error einval, s, []⟩

/-- QUERYBUF of such a device. -/
def State.guestQuerybuf (s : State) (answer : Except Int Buffer) : Outcome Buffer :=
  ⟨answer.map s.host.queried, s, []⟩

/-- A call on a device that works on the pointers of the guest and has no table. -/
def State.guestCall (s : State) : Call → Option (Outcome Reply)
  | .qbuf req outputs answer => some ((s.guestQbuf req outputs answer).map .buffer)
  | .prepareBuf req answer => some ((s.guestPrepareBuf req answer).map .buffer)
  | .querybuf answer => some ((s.guestQuerybuf answer).map .buffer)
  | c => s.call c

theorem Request.maps_blind (req : Request) : req.blind.maps = req.maps := by
  simp [Request.maps, Request.blind, List.all_map, Function.comp_def]

/-- Addresses play no part in what it answers. -/
theorem State.guestCall_blind (s : State) (c : Call) : s.guestCall c.blind = s.guestCall c := by
  cases c with
  | qbuf req outputs answer =>
      simp only [Call.blind, State.guestCall, State.guestQbuf, Request.maps_blind]
      rfl
  | prepareBuf req answer =>
      simp only [Call.blind, State.guestCall, State.guestPrepareBuf, Request.maps_blind]
      rfl
  | _ => rfl

/-! ### The relation -/

/-- The session with another table. -/
def Session.withTable (s : Session) (table : UserptrTable) : Session :=
  { s with userptrBuffers := table }

/-- The buffer of the guest that a buffer of the host stands for. -/
structure Buffer.Shows (table : UserptrTable) (b g : Buffer) : Prop where
  fields : g = { b with planes := g.planes }
  planes : List.Forall₂ (fun p q => q = { p with userptr := q.userptr } ∧
    (b.memory = .userPtr → Entered table b.queue b.index p.userptr q.userptr) ∧
    (b.memory ≠ .userPtr → q = p)) b.planes g.planes

/-- `g` is the state of the device that the guest sees. -/
structure State.Shows (s g : State) : Prop where
  session : g.session = s.session.withTable .empty
  multiplanar : g.host.multiplanar = s.host.multiplanar
  held : List.Forall₂ (fun h k => Buffer.Shows s.session.userptrBuffers h.buffer k.buffer)
    s.host.held g.host.held
  ptrs : ∀ q i, List.Forall₂ (Entered s.session.userptrBuffers q i)
    (s.host.queuedPtrs q i) (g.host.queuedPtrs q i)
  keyed : Keyed s.session.userptrBuffers

/-- No plane is registered under the queue and the index of the buffer. -/
def State.Unregistered (s : State) (b : Buffer) : Prop :=
  ∀ info ∈ s.session.userptrBuffers.entries,
    ¬(info.queue = b.queue ∧ info.index = b.index.toUInt8)

instance instDecidableUnregistered (s : State) (b : Buffer) : Decidable (s.Unregistered b) :=
  inferInstanceAs (Decidable (∀ info ∈ s.session.userptrBuffers.entries,
    ¬(info.queue = b.queue ∧ info.index = b.index.toUInt8)))

/-- A buffer without registered planes is what the guest sees. -/
theorem Buffer.Shows.eq_of_unregistered {s : State} {b g : Buffer}
    (h : Buffer.Shows s.session.userptrBuffers b g) (hu : s.Unregistered b) : g = b := by
  have hplanes : b.planes = g.planes := by
    refine List.forall₂_eq_eq_eq ▸ h.planes.imp ?_
    rintro p q ⟨hq, huser, hother⟩
    by_cases hm : b.memory = .userPtr
    · obtain ⟨hp, hg⟩ | ⟨-, info, hinfo, -, -, hiq, hii⟩ := huser hm
      · rw [hq, hg, ← hp]
      · exact absurd ⟨hiq, hii⟩ (hu info hinfo)
    · exact (hother hm).symm
  rw [h.fields, ← hplanes]

theorem State.dropPlanes_of_unregistered {s : State} {b : Buffer} (hu : s.Unregistered b) :
    s.session.dropPlanes b.queue b.index = s.session := by
  have hkept : s.session.userptrBuffers.entries.filter
      (fun v => !(v.queue == b.queue && v.index == b.index.toUInt8)) =
        s.session.userptrBuffers.entries := by
    refine List.filter_eq_self.mpr fun info hinfo => ?_
    simpa [imp_iff_not_or] using hu info hinfo
  simp only [Session.dropPlanes, SortedMap.retain, hkept]

namespace Session

variable (s : Session) (table : UserptrTable) (queue : QueueType)

theorem countDequeued_withTable (flags : UInt32) :
    (s.withTable table).countDequeued flags =
      (s.countDequeued flags).map fun s => s.withTable table := by
  unfold Session.countDequeued
  by_cases h : s.captureNumQueued = 0
  · rw [if_pos h, if_pos (show (s.withTable table).captureNumQueued = 0 from h)]
    rfl
  · rw [if_neg h, if_neg (show ¬(s.withTable table).captureNumQueued = 0 from h)]
    rfl

theorem countQueued_withTable :
    (s.withTable table).countQueued queue = (s.countQueued queue).withTable table := by
  unfold Session.countQueued
  split_ifs <;> rfl

theorem rememberQueue_withTable :
    (s.withTable table).rememberQueue queue = (s.rememberQueue queue).withTable table := by
  unfold Session.rememberQueue
  split_ifs <;> rfl

theorem stop_withTable :
    (s.withTable table).stop queue = (s.stop queue).withTable table := by
  unfold Session.stop
  split_ifs <;> rfl

theorem start_withTable :
    (s.withTable table).start queue = (s.start queue).withTable table := by
  unfold Session.start
  by_cases hc : isVideoCapture queue = true
  · rw [if_pos hc, if_pos hc]
    by_cases hs : s.captureStreaming = true
    · rw [if_pos hs, if_pos (show (s.withTable table).captureStreaming = true from hs)]
    · rw [if_neg hs, if_neg (show ¬(s.withTable table).captureStreaming = true from hs)]
      rfl
  · rw [if_neg hc, if_neg hc]
    split_ifs <;> rfl

end Session

/-! ### Dequeueing -/

/-- The buffers that DQBUF hands back. -/
def taken (queue : QueueType) : List DqAnswer → List Held → List Held
  | .buffer pos _ :: rest, held =>
    match held[pos]? with
    | none => []
    | some h => if h.buffer.queue = queue then h :: taken queue rest (held.eraseIdx pos) else []
  | _, _ => []

theorem mem_taken_of_head {queue : QueueType} {a : DqAnswer} {rest : List DqAnswer}
    {held : List Held} {x : Held} (h : x ∈ taken queue [a] held) :
    x ∈ taken queue (a :: rest) held := by
  cases a with
  | buffer pos st =>
      unfold taken at h ⊢
      cases hh : held[pos]? with
      | none =>
          rw [hh] at h
          cases h
      | some k =>
          rw [hh] at h
          dsimp only at h ⊢
          split_ifs at h ⊢ with hq
          · rcases List.mem_cons.mp h with rfl | h
            · exact List.mem_cons_self
            · cases h
          · cases h
  | eos => cases h
  | notReady => cases h
  | error errno => cases h

/-- The results of two devices that show the guest the same. -/
structure Outcome.Shows {α : Type} (r g : Outcome α) : Prop where
  result : g.result = r.result
  events : g.events = r.events
  state : r.state.Shows g.state

namespace State.Shows

variable {s g : State}

/-- Both devices hand the same buffer back. -/
theorem take (h : s.Shows g) {queue : QueueType} {pos : Nat} {held : Held}
    (hpos : s.host.held[pos]? = some held) (hq : held.buffer.queue = queue)
    (hu : s.Unregistered held.buffer) :
    ∃ k, g.host.held[pos]? = some k ∧ k.buffer = held.buffer ∧
      (s.take queue pos held).session = s.session ∧
      (s.take queue pos held).Shows (g.take queue pos k) := by
  subst hq
  obtain ⟨hlt, hget⟩ := List.getElem?_eq_some_iff.mp hpos
  have hlt' : pos < g.host.held.length := h.held.length_eq ▸ hlt
  have hshows : Buffer.Shows s.session.userptrBuffers held.buffer (g.host.held[pos]).buffer := by
    have := h.held.get hlt hlt'
    rw [← hget]
    exact this
  have hbuffer := hshows.eq_of_unregistered hu
  have hsame : (s.take held.buffer.queue pos held).session = s.session :=
    State.dropPlanes_of_unregistered hu
  refine ⟨g.host.held[pos], List.getElem?_eq_getElem hlt', hbuffer, hsame, ?_⟩
  have herase : List.Forall₂ (fun h k => Buffer.Shows s.session.userptrBuffers h.buffer k.buffer)
      (s.host.held.eraseIdx pos) (g.host.held.eraseIdx pos) := by
    rw [List.eraseIdx_eq_take_drop_succ, List.eraseIdx_eq_take_drop_succ]
    exact List.rel_append (List.forall₂_take pos h.held) (List.forall₂_drop (pos + 1) h.held)
  constructor
  · rw [hsame]
    change g.session.dropPlanes _ _ = _
    rw [h.session]
    rfl
  · exact h.multiplanar
  · rw [hsame]
    exact herase
  · rw [hsame]
    exact h.ptrs
  · rw [hsame]
    exact h.keyed

/-- The two hosts hand back the same buffer, or answer with the same error. -/
theorem dqbuf (h : s.Shows g) {queue : QueueType} {a : DqAnswer}
    (hok : ∀ x ∈ taken queue [a] s.host.held, s.Unregistered x.buffer) :
    (∃ pos held k st, a = .buffer pos st ∧ s.host.held[pos]? = some held ∧
      held.buffer.queue = queue ∧ k.buffer = held.buffer ∧
      (s.take queue pos held).session = s.session ∧
      (s.take queue pos held).Shows (g.take queue pos k) ∧
      s.host.dqbuf queue a = (.ok (held.buffer.withStatus st),
        { s.host with held := s.host.held.eraseIdx pos }) ∧
      g.host.dqbuf queue a = (.ok (held.buffer.withStatus st),
        { g.host with held := g.host.held.eraseIdx pos })) ∨
    ∃ e, s.host.dqbuf queue a = (.error e, s.host) ∧ g.host.dqbuf queue a = (.error e, g.host) := by
  cases a with
  | buffer pos st =>
      cases hh : s.host.held[pos]? with
      | none =>
          have hk : g.host.held[pos]? = none := by
            rw [List.getElem?_eq_none_iff] at hh ⊢
            exact h.held.length_eq ▸ hh
          exact .inr ⟨.notReady, by simp only [Host.dqbuf, hh], by simp only [Host.dqbuf, hk]⟩
      | some held =>
          by_cases hq : held.buffer.queue = queue
          · have hu : s.Unregistered held.buffer :=
              hok held (by simp only [taken, hh, if_pos hq, List.mem_singleton])
            obtain ⟨k, hk, hbuffer, hsame, htake⟩ := h.take hh hq hu
            refine .inl ⟨pos, held, k, st, rfl, hh, hq, hbuffer, hsame, htake, ?_, ?_⟩
            · simp only [Host.dqbuf, hh, if_pos hq]
            · rw [← hbuffer] at hq ⊢
              simp only [Host.dqbuf, hk, if_pos hq]
          · obtain ⟨hlt, hget⟩ := List.getElem?_eq_some_iff.mp hh
            have hlt' : pos < g.host.held.length := h.held.length_eq ▸ hlt
            have hk : g.host.held[pos]? = some g.host.held[pos] := List.getElem?_eq_getElem hlt'
            have hq' : ¬(g.host.held[pos]).buffer.queue = queue := by
              have hshows := (h.held.get hlt hlt').fields
              rw [← hget] at hq
              exact fun heq => hq ((congrArg Buffer.queue hshows).symm.trans heq)
            exact .inr ⟨.notReady, by simp only [Host.dqbuf, hh, if_neg hq],
              by simp only [Host.dqbuf, hk, if_neg hq']⟩
  | eos => exact .inr ⟨.eos, rfl, rfl⟩
  | notReady => exact .inr ⟨.notReady, rfl, rfl⟩
  | error errno => exact .inr ⟨.other errno, rfl, rfl⟩

theorem id_eq (h : s.Shows g) : g.session.id = s.session.id := by
  rw [h.session]
  rfl

/-- By induction on the answers. -/
theorem outputLoop {queue : QueueType} {answers : List DqAnswer} (h : s.Shows g)
    (hok : ∀ x ∈ taken queue answers s.host.held, s.Unregistered x.buffer) :
    (State.outputLoop queue answers s).Shows (State.outputLoop queue answers g) := by
  induction answers generalizing s g with
  | nil => exact ⟨rfl, rfl, h⟩
  | cons a rest ih =>
      have hhead : ∀ x ∈ taken queue [a] s.host.held, s.Unregistered x.buffer :=
        fun x hx => hok x (mem_taken_of_head hx)
      obtain ⟨pos, held, k, st, rfl, hpos, hq, hbuffer, hsame, htake, hs, hg⟩ | ⟨e, hs, hg⟩ :=
        h.dqbuf hhead
      · have hrest := ih htake (by
          intro x hx
          have := hok x (by simp only [taken, hpos, if_pos hq]; exact List.mem_cons_of_mem _ hx)
          unfold State.Unregistered
          rw [hsame]
          exact this)
        have hgtake : g.take queue pos k = { g with
            session := g.session.dropPlanes queue held.buffer.index
            host := { g.host with held := g.host.held.eraseIdx pos } } := by
          rw [State.take, hbuffer]
        rw [hgtake] at hrest
        unfold State.outputLoop
        rw [hs, hg]
        refine ⟨hrest.result, ?_, hrest.state⟩
        exact congrArg₂ List.cons (by rw [h.id_eq]) hrest.events
      · unfold State.outputLoop
        rw [hs, hg]
        cases e with
        | eos => exact ⟨rfl, rfl, h⟩
        | notReady => exact ⟨rfl, rfl, h⟩
        | other errno => exact ⟨rfl, by rw [h.id_eq], h⟩

end State.Shows

/-- No registered plane belongs to an OUTPUT buffer that is dequeued. -/
def State.OutputsHidden (s : State) (outputs : List DqAnswer) : Prop :=
  s.session.looksForOutput = true → ∀ queue ∈ s.session.outputQueueType,
    ∀ x ∈ taken queue outputs s.host.held, s.Unregistered x.buffer

instance instDecidableOutputsHidden (s : State) (outputs : List DqAnswer) :
    Decidable (s.OutputsHidden outputs) :=
  inferInstanceAs (Decidable (_ → ∀ queue ∈ s.session.outputQueueType,
    ∀ x ∈ taken queue outputs s.host.held, s.Unregistered x.buffer))

/-- No registered plane belongs to a buffer that is dequeued for the event. -/
def State.EventHidden (s : State) : PollEvent → Prop
  | .captureReady capture outputs => s.session.captureReady = true →
      (∀ queue ∈ s.session.captureQueueType,
        ∀ x ∈ taken queue [capture] s.host.held, s.Unregistered x.buffer) ∧
      ∀ r ∈ s.dequeueCaptureBuffer capture, r.state.OutputsHidden outputs
  | .v4l2Event _ _ => True

instance instDecidableEventHidden (s : State) : (ev : PollEvent) → Decidable (s.EventHidden ev)
  | .captureReady capture outputs => inferInstanceAs (Decidable (_ →
      (∀ queue ∈ s.session.captureQueueType,
        ∀ x ∈ taken queue [capture] s.host.held, s.Unregistered x.buffer) ∧
      ∀ r ∈ s.dequeueCaptureBuffer capture, r.state.OutputsHidden outputs))
  | .v4l2Event _ _ => .isTrue trivial

/-- One round of `process_events` that is followed by another. -/
def State.eventStep (s : State) (ev : PollEvent) : Option State :=
  (s.processEvent ev).bind fun r => if r.result.isOk then some r.state else none

namespace State.Shows

variable {s g : State}

/-- The counters may change on both sides. -/
theorem of_session (h : s.Shows g) {session : Session}
    (htable : session.userptrBuffers = s.session.userptrBuffers) :
    State.Shows { s with session := session } { g with session := session.withTable .empty } where
  session := rfl
  multiplanar := h.multiplanar
  held := htable ▸ h.held
  ptrs := htable ▸ h.ptrs
  keyed := htable ▸ h.keyed

/-- An operation of the session that works on the counters only. -/
theorem map_session (h : s.Shows g) (f : Session → Session)
    (htable : ∀ s : Session, (f s).userptrBuffers = s.userptrBuffers)
    (hf : ∀ (s : Session) table, f (s.withTable table) = (f s).withTable table) :
    State.Shows { s with session := f s.session } { g with session := f g.session } := by
  rw [h.session, hf]
  exact h.of_session (htable s.session)

theorem dequeueOutputBuffers (h : s.Shows g) {outputs : List DqAnswer}
    (hok : s.OutputsHidden outputs) :
    (s.dequeueOutputBuffers outputs).Shows (g.dequeueOutputBuffers outputs) := by
  unfold State.dequeueOutputBuffers
  rw [show g.session.outputQueueType = s.session.outputQueueType by rw [h.session]; rfl,
    show g.session.outputStreaming = s.session.outputStreaming by rw [h.session]; rfl,
    show g.session.outputNumQueued = s.session.outputNumQueued by rw [h.session]; rfl]
  cases hq : s.session.outputQueueType with
  | none => exact ⟨rfl, rfl, h⟩
  | some queue =>
      dsimp only
      split_ifs with hguard
      · exact ⟨rfl, rfl, h⟩
      · exact h.outputLoop (hok (by simpa [Session.looksForOutput, hq] using hguard) queue hq)

/-- Both panic, or both dequeue the same buffer. -/
theorem dequeueCaptureBuffer (h : s.Shows g) {a : DqAnswer}
    (hok : ∀ queue ∈ s.session.captureQueueType,
      ∀ x ∈ taken queue [a] s.host.held, s.Unregistered x.buffer) :
    Option.Rel Outcome.Shows (s.dequeueCaptureBuffer a) (g.dequeueCaptureBuffer a) := by
  unfold State.dequeueCaptureBuffer
  rw [show g.session.captureQueueType = s.session.captureQueueType by rw [h.session]; rfl]
  cases hq : s.session.captureQueueType with
  | none => exact .some ⟨rfl, rfl, h⟩
  | some queue =>
      dsimp only
      obtain ⟨pos, held, k, st, rfl, hpos, hqueue, hbuffer, hsame, htake, hs, hg⟩ | ⟨e, hs, hg⟩ :=
        h.dqbuf (hok queue hq)
      · rw [hs, hg]
        dsimp only
        have hs' : s.session.dropPlanes queue (held.buffer.withStatus st).index = s.session := hsame
        have hg' : g.session.dropPlanes queue (held.buffer.withStatus st).index =
            s.session.withTable .empty := by
          rw [h.session]
          rfl
        rw [hs', hg', Session.countDequeued_withTable]
        cases hcount : s.session.countDequeued (held.buffer.withStatus st).flags with
        | none => exact .none
        | some session =>
            obtain ⟨-, -, -, -, -, -, htable, -⟩ := Session.countDequeued_eq_some hcount
            refine .some ⟨rfl, by rw [h.id_eq], ?_⟩
            exact htake.of_session (by rw [htable, hsame])
      · rw [hs, hg]
        cases e with
        | eos => exact .some ⟨rfl, rfl, h⟩
        | notReady => exact .some ⟨rfl, rfl, h⟩
        | other errno => exact .some ⟨rfl, by rw [h.id_eq], h⟩

theorem processEvent (h : s.Shows g) {ev : PollEvent} (hok : s.EventHidden ev) :
    Option.Rel Outcome.Shows (s.processEvent ev) (g.processEvent ev) := by
  cases ev with
  | v4l2Event pending error =>
      cases error with
      | none => exact .some ⟨rfl, by simp only [State.dequeueEvents, h.id_eq], h⟩
      | some errno => exact .some ⟨rfl, by simp only [State.dequeueEvents, h.id_eq], h⟩
  | captureReady capture outputs =>
      unfold State.processEvent
      rw [show g.session.captureReady = s.session.captureReady by rw [h.session]; rfl]
      split_ifs with hready
      · obtain ⟨hcapture, houtputs⟩ := hok hready
        refine Fallible.rel_map (h.dequeueCaptureBuffer hcapture) fun r r' hr hshows => ?_
        rw [hshows.result]
        cases r.result with
        | error e => exact hshows
        | ok u =>
            have hout := hshows.state.dequeueOutputBuffers (houtputs r hr)
            exact ⟨hout.result, congrArg₂ _ hshows.events hout.events, hout.state⟩
      · exact .some ⟨rfl, rfl, h⟩

/-- By induction on the events. -/
theorem processEvents {events : List PollEvent} (h : s.Shows g)
    (hok : Trace.Conforms State.eventStep State.EventHidden s events) :
    Option.Rel Outcome.Shows (State.processEvents events s) (State.processEvents events g) := by
  induction events generalizing s g with
  | nil => exact .some ⟨rfl, rfl, h⟩
  | cons ev rest ih =>
      refine Fallible.rel_bind (h.processEvent hok.1) fun r r' hr hshows => ?_
      rw [hshows.result]
      cases hres : r.result with
      | error e => exact .some ⟨by rw [hshows.result, hres], hshows.events, hshows.state⟩
      | ok u =>
          have hstep : s.eventStep ev = some r.state := by
            rw [State.eventStep, hr, Option.bind_some, hres]
            rfl
          refine Fallible.rel_map (ih hshows.state (hok.2 _ hstep)) fun r₁ r₁' _ hshows₁ => ?_
          exact ⟨hshows₁.result, congrArg₂ _ hshows.events hshows₁.events, hshows₁.state⟩

end State.Shows

/-! ### The buffer ioctls -/

/-- Mapping succeeds if all the planes can be mapped. -/
theorem isSome_mapPlanes {id : Nat} {ps : List Plane} {mapped : List (Option UInt64)}
    (h : mapped.all Option.isSome = true) : (mapPlanes id ps mapped).isSome = true := by
  induction ps generalizing id mapped with
  | nil => rfl
  | cons p ps ih =>
      unfold mapPlanes
      split_ifs with hp
      · rw [Option.isSome_map]
        exact ih h
      · cases mapped with
        | nil => rfl
        | cons a mapped =>
            obtain ⟨ha, hrest⟩ := Bool.and_eq_true_iff.mp (List.all_cons ▸ h)
            cases a with
            | none => cases ha
            | some addr =>
                dsimp only
                rw [Option.isSome_map]
                exact ih hrest

theorem isSome_guestV4l2BufferToHost (id : Nat) (req : Request) :
    (guestV4l2BufferToHost id req).isSome = req.maps := by
  unfold guestV4l2BufferToHost
  split_ifs with hm
  · rw [Option.isSome_map]
    cases hmaps : req.maps with
    | true => exact isSome_mapPlanes hmaps
    | false =>
        by_contra hne
        obtain ⟨r, hr⟩ := Option.isSome_iff_exists.mp (Bool.not_eq_false _ ▸ hne)
        have hlen : req.mapped.length = (mappedPlanes req.buffer.planes).length := by
          rw [req.regions, Buffer.regionCount, if_pos hm]
          rfl
        obtain ⟨-, hmapped⟩ := maps_of_mapPlanes hlen hr
        rw [Request.maps, hmapped, List.all_map] at hmaps
        simp at hmaps
  · have hnil : req.mapped = [] := by
      apply List.eq_nil_of_length_eq_zero
      rw [req.regions, Buffer.regionCount, if_neg hm]
    rw [Request.maps, hnil]
    rfl

/-- A buffer that was just registered shows the guest its own. -/
theorem Buffer.shows_of_register {id : Nat} {req : Request} {host : Buffer}
    {resources : List Mapping} {table : UserptrTable} (hk : Keyed table)
    (hnull : req.buffer.ZeroNull) (hf : req.Fresh table)
    (hmap : guestV4l2BufferToHost id req = some (host, resources)) :
    Buffer.Shows (registerUserptrAddresses table host req.buffer resources) host req.buffer := by
  have hentered := entered_of_register hk hnull hf hmap
  obtain ⟨hm, planes, rfl, hmaps, -⟩ | ⟨hm, rfl, -⟩ := guestV4l2BufferToHost_cases hmap
  · refine ⟨rfl, ?_⟩
    unfold Buffer.userptrs at hentered
    rw [if_pos hm, if_pos (show ({ req.buffer with planes := planes } : Buffer).memory = _ from hm),
      List.forall₂_map_left_iff, List.forall₂_map_right_iff] at hentered
    refine List.Forall₂.mp ?_ (List.Forall₂.flip hmaps.planes) hentered
    rintro q p ⟨hq, -⟩ he
    exact ⟨by rw [hq], fun _ => he, fun h => absurd hm h⟩
  · refine ⟨rfl, List.forall₂_same.mpr fun p _ => ⟨rfl, fun h => absurd h hm, fun _ => rfl⟩⟩

namespace Buffer.Shows

variable {table table' : UserptrTable} {b g : Buffer}

/-- It is enough that the entries of the buffer stay. -/
theorem mono (h : Buffer.Shows table b g)
    (hmem : ∀ info ∈ table.entries, info ∈ table'.entries) : Buffer.Shows table' b g where
  fields := h.fields
  planes := by
    refine h.planes.imp ?_
    rintro p q ⟨hq, huser, hother⟩
    exact ⟨hq, fun hm => (huser hm).mono fun info hinfo _ _ => hmem info hinfo, hother⟩

theorem withStatus (h : Buffer.Shows table b g) (st : Status) :
    Buffer.Shows table (b.withStatus st) (g.withStatus st) where
  fields := by
    rw [h.fields]
    rfl
  planes := by
    have hlen := h.planes.length_eq
    rw [List.forall₂_iff_get]
    refine ⟨by simpa [Buffer.withStatus] using hlen, ?_⟩
    intro i h₁ h₂
    obtain ⟨hq, huser, hother⟩ := h.planes.get (by simpa [Buffer.withStatus] using h₁)
      (by simpa [Buffer.withStatus] using h₂)
    simp only [Buffer.withStatus, List.get_eq_getElem, List.getElem_mapIdx] at hq huser hother ⊢
    refine ⟨?_, huser, fun hm => by rw [hother hm]⟩
    rw [hq]

/-- The host buffer is translated to that of the guest. -/
theorem translate (h : Buffer.Shows table b g) : hostV4l2BufferToGuest b table = some g := by
  by_cases hm : b.memory = .userPtr
  · refine (hostV4l2BufferToGuest_eq_some hm).mpr ⟨g.planes, h.fields, h.planes.imp ?_⟩
    rintro p q ⟨hq, huser, -⟩
    exact ⟨q.userptr, (huser hm).restores, hq⟩
  · have hplanes : b.planes = g.planes :=
      List.forall₂_eq_eq_eq ▸ h.planes.imp fun _ _ hpq => (hpq.2.2 hm).symm
    rw [hostV4l2BufferToGuest, if_neg hm, h.fields, ← hplanes]

end Buffer.Shows

/-- The calls that show the guest nothing but its own pointers: no buffer with
registered planes is dequeued, no registration is out of step, and an accepted
buffer has no pointers on its zero-length planes. -/
def State.Hidden (s : State) : Call → Prop
  | .qbuf req outputs answer => s.OutputsHidden outputs ∧ req.buffer.Aligned ∧
      (((s.dequeueOutputBuffers outputs).state.host.answer req.buffer.queue answer).isOk = true →
        req.buffer.ZeroNull)
  | .prepareBuf req answer => req.buffer.Aligned ∧
      ((s.host.answer req.buffer.queue answer).isOk = true → req.buffer.ZeroNull)
  | .processEvents events => Trace.Conforms State.eventStep State.EventHidden s events
  | _ => True

instance instDecidableHidden (s : State) : (c : Call) → Decidable (s.Hidden c)
  | .qbuf req outputs _ => inferInstanceAs (Decidable (s.OutputsHidden outputs ∧
      req.buffer.Aligned ∧ (_ → req.buffer.ZeroNull)))
  | .prepareBuf req _ => inferInstanceAs (Decidable (req.buffer.Aligned ∧
      (_ → req.buffer.ZeroNull)))
  | .processEvents events =>
    inferInstanceAs (Decidable (Trace.Conforms State.eventStep State.EventHidden s events))
  | .reqbufs _ _ | .createBufs _ _ _ | .querybuf _ | .streamon _ _ | .streamoff _ _
  | .decoderCmd _ | .close => .isTrue trivial

namespace State.Shows

variable {s g : State}

section Submit

variable {req : Request} {host : Buffer} {resources : List Mapping}

/-- The translation puts the pointers of the guest into the table. -/
theorem submitted (h : s.Shows g) (hal : req.buffer.Aligned)
    (hf : req.Fresh s.session.userptrBuffers)
    (hmap : guestV4l2BufferToHost s.nextMapping req = some (host, resources)) :
    (s.submitted host req.buffer resources).Shows g := by
  have hmem : ∀ info ∈ s.session.userptrBuffers.entries,
      info ∈ (s.submitted host req.buffer resources).session.userptrBuffers.entries :=
    fun _ hinfo => (mem_registerUserptrAddresses hmap h.keyed hal hf).mpr (.inl hinfo)
  exact ⟨h.session, h.multiplanar, h.held.imp fun _ _ hb => hb.mono hmem,
    fun q i => (h.ptrs q i).imp fun _ _ he => he.mono fun info hinfo _ _ => hmem info hinfo,
    h.keyed.register hmap hal hf⟩

/-- The host accepts a buffer that was just registered. -/
theorem counted (h : s.Shows g) (hnull : req.buffer.ZeroNull)
    (hf : req.Fresh s.session.userptrBuffers)
    (hmap : guestV4l2BufferToHost s.nextMapping req = some (host, resources)) :
    (((s.submitted host req.buffer resources).accepted host resources).counted host.queue).Shows
      ((g.accepted req.buffer []).counted req.buffer.queue) := by
  have hsub := h.submitted hnull.aligned hf hmap
  have hbuffer := Buffer.shows_of_register h.keyed hnull hf hmap
  have hptrs := entered_of_register h.keyed hnull hf hmap
  obtain ⟨hqueue, hindex, -⟩ := queue_of_guestV4l2BufferToHost hmap
  have hacc : ((s.submitted host req.buffer resources).accepted host resources).Shows
      (g.accepted req.buffer []) := by
    refine ⟨hsub.session, hsub.multiplanar, ?_, ?_, hsub.keyed⟩
    · exact List.rel_append hsub.held (.cons hbuffer .nil)
    · intro q i
      change List.Forall₂ _ (if q = host.queue ∧ i = host.index then host.userptrs else
        s.host.queuedPtrs q i) (if q = req.buffer.queue ∧ i = req.buffer.index then
          req.buffer.userptrs else g.host.queuedPtrs q i)
      rw [hqueue, hindex]
      split_ifs with hqi
      · obtain ⟨rfl, rfl⟩ := hqi
        exact hptrs
      · exact hsub.ptrs q i
  rw [hqueue]
  exact hacc.map_session (fun s => s.countQueued req.buffer.queue)
    (fun s => s.userptrBuffers_countQueued _) (fun s table => s.countQueued_withTable table _)

end Submit

theorem answer_eq (h : s.Shows g) {α : Type} (queue : QueueType) (a : Except Int α) :
    g.host.answer queue a = s.host.answer queue a := by
  have hhas : g.host.has queue = s.host.has queue := by
    unfold Host.has
    rw [h.multiplanar]
  rw [Host.answer, Host.answer, hhas]

/-- QBUF: the host gets addresses, the guest its own pointers back. -/
theorem qbuf (h : s.Shows g) {req : Request} {outputs : List DqAnswer}
    {answer : Except Int Status} (hm : s.MapperOk (.qbuf req outputs answer))
    (hok : s.Hidden (.qbuf req outputs answer)) :
    (s.qbuf req outputs answer).Shows (g.guestQbuf req outputs answer) := by
  obtain ⟨houtputs, hal, hnull⟩ := hok
  obtain ⟨-, hevents, hout⟩ := h.dequeueOutputBuffers houtputs
  have hmaps := isSome_guestV4l2BufferToHost (s.dequeueOutputBuffers outputs).state.nextMapping req
  rw [State.qbuf_eq]
  unfold State.guestQbuf
  dsimp only
  obtain ⟨hnone, heq⟩ | ⟨host, resources, hmap, hcases⟩ :=
    (s.dequeueOutputBuffers outputs).state.qbufHost_cases req answer
  · have hfail : ¬req.maps = true := by
      rw [← hmaps, hnone]
      exact Bool.false_ne_true
    rw [if_neg hfail, heq]
    exact ⟨rfl, hevents, hout⟩
  · have hmapped : req.maps = true := by
      rw [← hmaps, hmap]
      rfl
    rw [if_pos hmapped, hout.answer_eq]
    obtain ⟨hqueue, -⟩ := queue_of_guestV4l2BufferToHost hmap
    rw [hqueue] at hcases
    obtain ⟨e, hans, heq⟩ | ⟨st, hans, hcases⟩ := hcases
    · rw [heq, hans]
      exact ⟨rfl, hevents, hout.submitted hal hm hmap⟩
    · have hzero := hnull (by rw [hans]; rfl)
      have htrans := ((Buffer.shows_of_register hout.keyed hzero hm hmap).withStatus st).translate
      obtain ⟨hnone, -⟩ | ⟨out, hout', heq⟩ := hcases
      · cases hnone.symm.trans htrans
      · rw [heq, hans]
        refine ⟨?_, hevents, ?_⟩
        · rw [Option.some.inj (hout'.symm.trans htrans)]
        · have hcount := hout.counted hzero hm hmap
          rw [hqueue] at hcount
          exact hcount

/-- PREPARE_BUF, in the same way. -/
theorem prepareBuf (h : s.Shows g) {req : Request} {answer : Except Int Status}
    (hm : s.MapperOk (.prepareBuf req answer)) (hok : s.Hidden (.prepareBuf req answer)) :
    (s.prepareBuf req answer).Shows (g.guestPrepareBuf req answer) := by
  obtain ⟨hal, hnull⟩ := hok
  have hmaps := isSome_guestV4l2BufferToHost s.nextMapping req
  unfold State.guestPrepareBuf
  obtain ⟨hnone, heq⟩ | ⟨host, resources, hmap, result, heq, hcases⟩ :=
    s.prepareBuf_cases req answer
  · have hfail : ¬req.maps = true := by
      rw [← hmaps, hnone]
      exact Bool.false_ne_true
    rw [if_neg hfail, heq]
    exact ⟨rfl, rfl, h⟩
  · have hmapped : req.maps = true := by
      rw [← hmaps, hmap]
      rfl
    rw [if_pos hmapped, h.answer_eq, heq]
    obtain ⟨hqueue, -⟩ := queue_of_guestV4l2BufferToHost hmap
    rw [hqueue] at hcases
    obtain ⟨e, hans, rfl⟩ | ⟨st, hans, rfl⟩ := hcases
    · rw [hans]
      exact ⟨rfl, rfl, h.submitted hal hm hmap⟩
    · have hzero := hnull (by rw [hans]; rfl)
      have htrans := ((Buffer.shows_of_register h.keyed hzero hm hmap).withStatus st).translate
      rw [hans]
      refine ⟨?_, rfl, h.submitted hal hm hmap⟩
      change _ = (hostV4l2BufferToGuest (host.withStatus st)
        (registerUserptrAddresses s.session.userptrBuffers host req.buffer resources)).elim _ _
      rw [htrans]
      rfl

/-- QUERYBUF translates what the host reports. -/
theorem querybuf (h : s.Shows g) (answer : Except Int Buffer) :
    (s.querybuf answer).Shows (g.guestQuerybuf answer) := by
  unfold State.querybuf State.guestQuerybuf
  cases answer with
  | error e => exact ⟨rfl, rfl, h⟩
  | ok b =>
      have htrans : hostV4l2BufferToGuest (s.host.queried b) s.session.userptrBuffers =
          some (g.host.queried b) := by
        unfold Host.queried
        split_ifs with hm
        · exact hostV4l2BufferToGuest_withUserptrs hm
            ((h.ptrs b.queue b.index).imp fun _ _ he => he.restores)
        · rw [hostV4l2BufferToGuest, if_neg hm]
      dsimp only
      rw [htrans]
      exact ⟨rfl, rfl, h⟩

/-- The host no longer holds the buffers of a queue. -/
theorem empty (h : s.Shows g) (queue : QueueType) :
    State.Shows { s with host := s.host.empty queue } { g with host := g.host.empty queue } where
  session := h.session
  multiplanar := h.multiplanar
  held := by
    refine List.rel_filter ?_ h.held
    intro a b hab
    have hqueue : b.buffer.queue = a.buffer.queue := by rw [hab.fields]
    simp only [hqueue]
  ptrs := h.ptrs
  keyed := h.keyed

theorem free (h : s.Shows g) (queue : QueueType) :
    State.Shows { s with host := s.host.free queue } { g with host := g.host.free queue } where
  session := h.session
  multiplanar := h.multiplanar
  held := (h.empty queue).held
  ptrs := by
    intro q i
    change List.Forall₂ _ (if q = queue then [] else s.host.queuedPtrs q i)
      (if q = queue then [] else g.host.queuedPtrs q i)
    split_ifs
    · exact .nil
    · exact h.ptrs q i
  keyed := h.keyed

theorem remember (h : s.Shows g) (queue : QueueType) :
    State.Shows { s with session := s.session.rememberQueue queue }
      { g with session := g.session.rememberQueue queue } :=
  h.map_session (fun s => s.rememberQueue queue) (fun s => s.userptrBuffers_rememberQueue queue)
    fun s table => s.rememberQueue_withTable table queue

theorem stop (h : s.Shows g) (queue : QueueType) :
    State.Shows { s with session := s.session.stop queue }
      { g with session := g.session.stop queue } :=
  h.map_session (fun s => s.stop queue) (fun s => s.userptrBuffers_stop queue)
    fun s table => s.stop_withTable table queue

theorem start (h : s.Shows g) (queue : QueueType) :
    State.Shows { s with session := s.session.start queue }
      { g with session := g.session.start queue } :=
  h.map_session (fun s => s.start queue) (fun s => s.userptrBuffers_start queue)
    fun s table => s.start_withTable table queue

end State.Shows

theorem State.shows_init (id : UInt32) (multiplanar : Bool) :
    (State.init id multiplanar).Shows (State.init id multiplanar) :=
  ⟨rfl, rfl, .nil, fun _ _ => .nil, fun _ h => (by cases h)⟩

theorem Outcome.Shows.map {α : Type} {r r' : Outcome α} (h : r.Shows r') (f : α → Reply) :
    (r.map f).Shows (r'.map f) :=
  ⟨congrArg (fun x => x.map f) h.result, h.events, h.state⟩

/-- The proxy answers every such call as the device of the guest does. -/
theorem State.Shows.call {s g : State} (h : s.Shows g) {c : Call} (hm : s.MapperOk c)
    (hok : s.Hidden c) : Option.Rel Outcome.Shows (s.call c) (g.guestCall c) := by
  cases c with
  | reqbufs queue answer =>
      refine .some (Outcome.Shows.map ?_ _)
      unfold State.reqbufs
      rw [h.answer_eq]
      cases s.host.answer queue answer with
      | error e => exact ⟨rfl, rfl, h⟩
      | ok n =>
          refine ⟨rfl, rfl, ?_⟩
          dsimp only
          split_ifs
          · exact ((h.remember queue).stop queue).free queue
          · exact (h.remember queue).free queue
  | createBufs queue count answer =>
      refine .some (Outcome.Shows.map ?_ _)
      unfold State.createBufs
      rw [h.answer_eq]
      cases s.host.answer queue answer with
      | error e => exact ⟨rfl, rfl, h⟩
      | ok u =>
          refine ⟨rfl, rfl, ?_⟩
          dsimp only
          split_ifs
          · exact h
          · exact h.remember queue
  | querybuf answer => exact .some ((h.querybuf answer).map _)
  | streamon queue answer =>
      refine .some (Outcome.Shows.map ?_ _)
      unfold State.streamon
      rw [h.answer_eq]
      cases s.host.answer queue answer with
      | error e => exact ⟨rfl, rfl, h⟩
      | ok u => exact ⟨rfl, rfl, h.start queue⟩
  | streamoff queue answer =>
      refine .some (Outcome.Shows.map ?_ _)
      unfold State.streamoff
      rw [h.answer_eq]
      cases s.host.answer queue answer with
      | error e => exact ⟨rfl, rfl, h⟩
      | ok u => exact ⟨rfl, rfl, (h.stop queue).empty queue⟩
  | qbuf req outputs answer => exact .some ((h.qbuf hm hok).map _)
  | prepareBuf req answer => exact .some ((h.prepareBuf hm hok).map _)
  | decoderCmd answer => exact .some ⟨rfl, rfl, h⟩
  | processEvents events =>
      exact Fallible.rel_map (h.processEvents hok) fun r r' _ hr => hr.map _
  | close =>
      refine .some ⟨rfl, rfl, ?_⟩
      rw [h.id_eq, h.multiplanar]
      exact State.shows_init _ _

/-! ### The device -/

/-- A command for a session of the device, with the answers of the host driver
and the mapper. -/
inductive Command where
  | call (session : UInt32) (c : Call)
  | extCtrls (session : UInt32) (ctrls : ExtControls) (array : List ExtControl)
      (mapped : List (Option UInt64)) (answer : CtrlAnswer)

/-- The command without the addresses of mappings. -/
def Command.blind : Command → Command
  | .call id c => .call id c.blind
  | .extCtrls id ctrls array mapped answer =>
    .extCtrls id ctrls array (mapped.map fun m => m.map fun _ => 0) answer

/-- What the guest gets: the answer to a command and the events sent meanwhile. -/
inductive Observation where
  | reply (session : UInt32) (result : Except Int Reply) (events : List Event)
  | ctrls (session : UInt32) (result : Except Int Unit) (ctrls : ExtControls)
      (array : List ExtControl)

/-- The sessions of a device by their numbers. -/
abbrev Sessions : Type := UInt32 → State

def Sessions.init (multiplanar : Bool) : Sessions := fun id => .init id multiplanar

def Sessions.set (d : Sessions) (id : UInt32) (s : State) : Sessions :=
  fun i => if i = id then s else d i

/-- A command to a device whose buffer ioctls are `handle`; `none` is a panic. -/
def Sessions.command (handle : State → Call → Option (Outcome Reply)) (d : Sessions) :
    Command → Option (Observation × Sessions)
  | .call id c =>
    (handle (d id) c).map fun r => (.reply id r.result r.events, d.set id r.state)
  | .extCtrls id ctrls array mapped answer =>
    (performExtCtrlsIoctl ctrls array mapped answer).map fun r => (.ctrls id r.1 r.2.1 r.2.2, d)

/-- What the guest gets from a list of commands. -/
def Sessions.observe (handle : State → Call → Option (Outcome Reply)) :
    Sessions → List Command → List Observation
  | _, [] => []
  | d, cmd :: rest =>
    match d.command handle cmd with
    | none => []
    | some (o, d') => o :: Sessions.observe handle d' rest

/-- A command to the proxy device. -/
def Sessions.next (d : Sessions) (cmd : Command) : Option Sessions :=
  (d.command State.call cmd).map Prod.snd

def Sessions.MapperOk (d : Sessions) : Command → Prop
  | .call id c => (d id).MapperOk c
  | .extCtrls _ _ _ _ _ => True

def Sessions.Hidden (d : Sessions) : Command → Prop
  | .call id c => (d id).Hidden c
  | .extCtrls _ _ _ _ _ => True

instance instDecidableSessionsMapperOk (d : Sessions) : (cmd : Command) → Decidable (d.MapperOk cmd)
  | .call id c => inferInstanceAs (Decidable ((d id).MapperOk c))
  | .extCtrls _ _ _ _ _ => .isTrue trivial

instance instDecidableSessionsHidden (d : Sessions) : (cmd : Command) → Decidable (d.Hidden cmd)
  | .call id c => inferInstanceAs (Decidable ((d id).Hidden c))
  | .extCtrls _ _ _ _ _ => .isTrue trivial

/-- Each session shows the guest its own pointers. -/
def Sessions.Shows (d g : Sessions) : Prop := ∀ id, (d id).Shows (g id)

theorem Sessions.Shows.set {d g : Sessions} (h : d.Shows g) (id : UInt32) {s t : State}
    (hs : s.Shows t) : (d.set id s).Shows (g.set id t) := by
  intro i
  unfold Sessions.set
  split_ifs
  · exact hs
  · exact h i

/-- Every command has the same answer and the same events on both. -/
theorem Sessions.Shows.command {d g : Sessions} (h : d.Shows g) {cmd : Command}
    (hm : d.MapperOk cmd) (hok : d.Hidden cmd) :
    Option.Rel (fun r r' => r.1 = r'.1 ∧ Sessions.Shows r.2 r'.2)
      (d.command State.call cmd) (g.command State.guestCall cmd.blind) := by
  cases cmd with
  | call id c =>
      change Option.Rel _ _ ((State.guestCall (g id) c.blind).map _)
      rw [State.guestCall_blind]
      refine Fallible.rel_map ((h id).call hm hok) fun r r' _ hr => ?_
      exact ⟨by rw [hr.result, hr.events], h.set id hr.state⟩
  | extCtrls id ctrls array mapped answer =>
      have hsame : performExtCtrlsIoctl ctrls array (mapped.map fun m => m.map fun _ => 0) answer =
          performExtCtrlsIoctl ctrls array mapped answer :=
        performExtCtrlsIoctl_congr ctrls array answer (by simp [Function.comp_def])
      change Option.Rel _ _ ((performExtCtrlsIoctl ctrls array _ answer).map _)
      rw [hsame]
      cases hr : performExtCtrlsIoctl ctrls array mapped answer with
      | none =>
          simp only [Sessions.command, hr]
          exact .none
      | some r =>
          simp only [Sessions.command, hr]
          exact .some ⟨rfl, h⟩

/-- The proxy device refines the device that works on the pointers of the
guest. -/
theorem Sessions.Shows.observe {d g : Sessions} (h : d.Shows g) {cmds : List Command}
    (hm : Trace.Conforms Sessions.next Sessions.MapperOk d cmds)
    (hok : Trace.Conforms Sessions.next Sessions.Hidden d cmds) :
    Sessions.observe State.call d cmds =
      Sessions.observe State.guestCall g (cmds.map Command.blind) := by
  induction cmds generalizing d g with
  | nil => rfl
  | cons cmd rest ih =>
      have hrel := h.command hm.1 hok.1
      unfold Sessions.observe
      rw [List.map_cons]
      dsimp only
      cases hd : d.command State.call cmd with
      | none =>
          rw [hd] at hrel
          cases hg : g.command State.guestCall cmd.blind with
          | none => rfl
          | some r =>
              rw [hg] at hrel
              cases hrel
      | some r =>
          rw [hd] at hrel
          cases hg : g.command State.guestCall cmd.blind with
          | none =>
              rw [hg] at hrel
              cases hrel
          | some r' =>
              rw [hg] at hrel
              obtain ⟨⟨ho, hshows⟩⟩ := hrel
              have hnext : d.next cmd = some r.2 := by
                rw [Sessions.next, hd]
                rfl
              dsimp only
              rw [ho, ih hshows (hm.2 _ hnext) (hok.2 _ hnext)]

/-! ### The pointers that the guest gets -/

/-- A user pointer of the guest, and the plane that it is for. -/
structure PlanePtr where
  queue : QueueType
  index : UInt32
  plane : Nat
  userptr : UInt64
  deriving DecidableEq, Repr

/-- The user pointers of a buffer with their planes. -/
def Buffer.planePtrs (b : Buffer) : List PlanePtr :=
  if b.memory = .userPtr then b.planes.mapIdx fun i p => ⟨b.queue, b.index, i, p.userptr⟩ else []

def Event.planePtrs : Event → List PlanePtr
  | .dequeueBuffer _ b => b.planePtrs
  | .error _ _ | .event _ _ => []

def Reply.planePtrs : Reply → List PlanePtr
  | .buffer b => b.planePtrs
  | .done | .count _ => []

/-- The user pointers of the buffers in an answer and in the events sent
meanwhile. -/
def Observation.planePtrs : Observation → List PlanePtr
  | .reply _ result events =>
    (result.toOption.elim [] Reply.planePtrs) ++ events.flatMap Event.planePtrs
  | .ctrls _ _ _ _ => []

/-- The session that gets the answer. -/
def Observation.session : Observation → UInt32
  | .reply id _ _ | .ctrls id _ _ _ => id

theorem Buffer.mem_planePtrs_withStatus {b : Buffer} {st : Status} {p : PlanePtr}
    (h : p ∈ (b.withStatus st).planePtrs) : p ∈ b.planePtrs := by
  have hsame : (b.withStatus st).planePtrs = b.planePtrs := by
    unfold Buffer.planePtrs Buffer.withStatus
    simp only [List.mapIdx_mapIdx]
    rfl
  rwa [hsame] at h

/-- The pointer of a plane is one of the plane pointers of its buffer. -/
theorem Buffer.mem_planePtrs_of_userptrs {b : Buffer} {i : Nat} {p : UInt64}
    (h : b.userptrs[i]? = some p) : ⟨b.queue, b.index, i, p⟩ ∈ b.planePtrs := by
  unfold Buffer.userptrs at h
  unfold Buffer.planePtrs
  split_ifs at h ⊢ with hm
  · rw [List.getElem?_map] at h
    obtain ⟨plane, hplane, rfl⟩ := Option.map_eq_some_iff.mp h
    obtain ⟨hi, rfl⟩ := List.getElem?_eq_some_iff.mp hplane
    exact List.mem_mapIdx.mpr ⟨i, hi, rfl⟩
  · cases h

section Supplied

variable {supplied : PlanePtr → Prop}

/-- The host has only been given pointers with the property. -/
structure State.Given (supplied : PlanePtr → Prop) (g : State) : Prop where
  held : ∀ h ∈ g.host.held, ∀ p ∈ h.buffer.planePtrs, supplied p
  ptrs : ∀ q i j p, (g.host.queuedPtrs q i)[j]? = some p → supplied ⟨q, i, j, p⟩

namespace State.Given

variable {g : State}

/-- The pointers of a queried buffer are those that were queued, or null. -/
theorem queried (h : g.Given supplied) (h0 : ∀ q i j, supplied ⟨q, i, j, 0⟩) (b : Buffer) :
    ∀ p ∈ (g.host.queried b).planePtrs, supplied p := by
  intro p hp
  unfold Host.queried Buffer.planePtrs at hp
  by_cases hm : b.memory = .userPtr
  · rw [if_pos hm, if_pos (show (b.withUserptrs _).memory = .userPtr from hm)] at hp
    obtain ⟨j, hj, rfl⟩ := List.mem_mapIdx.mp hp
    have hptr : ((b.withUserptrs (g.host.queuedPtrs b.queue b.index)).planes[j]).userptr =
        (g.host.queuedPtrs b.queue b.index).getD j 0 := by
      simp [Buffer.withUserptrs]
    rw [hptr, List.getD_eq_getElem?_getD]
    cases hget : (g.host.queuedPtrs b.queue b.index)[j]? with
    | none => exact h0 b.queue b.index j
    | some a => exact h.ptrs b.queue b.index j a hget
  · rw [if_neg hm, if_neg hm] at hp
    cases hp

/-- Dequeued buffers have pointers that the host was given. -/
theorem keeps (supplied : PlanePtr → Prop) : State.Keeps fun t sent =>
    t.Given supplied ∧ ∀ ev ∈ sent, ∀ p ∈ ev.planePtrs, supplied p := by
  have htake : ∀ (t : State) sent pos (h : Held) st, t.Given supplied →
      (∀ ev ∈ sent, ∀ p ∈ Event.planePtrs ev, supplied p) → t.host.held[pos]? = some h →
      (∀ x ∈ t.host.held.eraseIdx pos, ∀ p ∈ x.buffer.planePtrs, supplied p) ∧
        ∀ ev ∈ sent ++ [.dequeueBuffer t.session.id (h.buffer.withStatus st)],
          ∀ p ∈ Event.planePtrs ev, supplied p := by
    intro t sent pos h st hg hsent hpos
    refine ⟨fun x hx => hg.held x (List.mem_of_mem_eraseIdx hx), fun ev hev p hp => ?_⟩
    rcases List.mem_append.mp hev with hev | hev
    · exact hsent ev hev p hp
    · rw [List.mem_singleton.mp hev] at hp
      exact hg.held h (List.mem_of_getElem? hpos) p (Buffer.mem_planePtrs_withStatus hp)
  refine ⟨⟨?_, ?_⟩, ?_⟩
  · rintro t sent queue pos h st ⟨hg, hsent⟩ - hpos -
    obtain ⟨hheld, hevents⟩ := htake t sent pos h st hg hsent hpos
    exact ⟨⟨hheld, hg.ptrs⟩, hevents⟩
  · rintro t sent new ⟨hg, hsent⟩ hnew
    refine ⟨hg, fun ev hev p hp => ?_⟩
    rcases List.mem_append.mp hev with hev | hev
    · exact hsent ev hev p hp
    · have := hnew ev hev
      cases ev with
      | dequeueBuffer id b => cases this
      | error id errno => cases hp
      | event id e => cases hp
  · rintro t sent t' ev ⟨hg, hsent⟩ - ⟨queue, pos, h, st, session, -, hpos, -, -, rfl, rfl⟩
    obtain ⟨hheld, hevents⟩ := htake t sent pos h st hg hsent hpos
    exact ⟨⟨hheld, hg.ptrs⟩, hevents⟩

theorem accepted (h : g.Given supplied) {b : Buffer} (hb : ∀ p ∈ b.planePtrs, supplied p)
    (queue : QueueType) : ((g.accepted b []).counted queue).Given supplied where
  held x hx := by
    rcases List.mem_append.mp hx with hx | hx
    · exact h.held x hx
    · rw [List.mem_singleton.mp hx]
      exact hb
  ptrs q i j p hp := by
    change (if q = b.queue ∧ i = b.index then b.userptrs else g.host.queuedPtrs q i)[j]? =
      some p at hp
    split_ifs at hp with hqi
    · obtain ⟨rfl, rfl⟩ := hqi
      exact hb _ (Buffer.mem_planePtrs_of_userptrs hp)
    · exact h.ptrs q i j p hp

end State.Given

/-- The user pointers that come with a call. -/
def Call.planePtrs : Call → List PlanePtr
  | .qbuf req _ _ | .prepareBuf req _ => req.buffer.planePtrs
  | _ => []

/-- What a call leaves, answers and sends has pointers that the guest gave. -/
structure Outcome.Given (supplied : PlanePtr → Prop) (r : Outcome Reply) : Prop where
  state : r.state.Given supplied
  reply : ∀ reply, r.result = .ok reply → ∀ p ∈ reply.planePtrs, supplied p
  events : ∀ ev ∈ r.events, ∀ p ∈ ev.planePtrs, supplied p

section Outcomes

variable {g : State} {events : List Event}

theorem State.Given.refused (h : g.Given supplied)
    (hev : ∀ ev ∈ events, ∀ p ∈ ev.planePtrs, supplied p) (e : Int) :
    Outcome.Given supplied ⟨.error e, g, events⟩ :=
  ⟨h, fun reply hreply => (by cases hreply), hev⟩

theorem State.Given.answered (h : g.Given supplied)
    (hev : ∀ ev ∈ events, ∀ p ∈ ev.planePtrs, supplied p) {reply : Reply}
    (hreply : ∀ p ∈ reply.planePtrs, supplied p) :
    Outcome.Given supplied ⟨.ok reply, g, events⟩ where
  state := h
  reply := by
    rintro _ ⟨⟩
    exact hreply
  events := hev

end Outcomes

/-- A call on the device of the guest returns pointers that the guest gave. -/
theorem State.Given.guestCall {g : State} (h : g.Given supplied)
    (h0 : ∀ q i j, supplied ⟨q, i, j, 0⟩) {c : Call}
    (hc : ∀ p ∈ c.planePtrs, supplied p) {r : Outcome Reply} (hr : g.guestCall c = some r) :
    r.Given supplied := by
  have hnone : ∀ ev ∈ ([] : List Event), ∀ p ∈ ev.planePtrs, supplied p := fun _ h => by cases h
  have hplain : ∀ p ∈ ([] : List PlanePtr), supplied p := fun _ h => by cases h
  cases c with
  | reqbufs queue answer =>
      cases hr
      unfold State.reqbufs
      cases g.host.answer queue answer with
      | error e => exact h.refused hnone e
      | ok n =>
          refine State.Given.answered ⟨fun x hx => h.held x (List.mem_of_mem_filter hx),
            fun q i j p hp => ?_⟩ hnone hplain
          change (if q = queue then [] else g.host.queuedPtrs q i)[j]? = some p at hp
          split_ifs at hp
          · cases hp
          · exact h.ptrs q i j p hp
  | createBufs queue count answer =>
      cases hr
      unfold State.createBufs
      cases g.host.answer queue answer with
      | error e => exact h.refused hnone e
      | ok u =>
          refine State.Given.answered ?_ hnone hplain
          exact ⟨h.held, h.ptrs⟩
  | querybuf answer =>
      cases hr
      cases answer with
      | error e => exact h.refused hnone e
      | ok b => exact h.answered hnone (h.queried h0 b)
  | streamon queue answer =>
      cases hr
      unfold State.streamon
      cases g.host.answer queue answer with
      | error e => exact h.refused hnone e
      | ok u =>
          refine State.Given.answered ?_ hnone hplain
          exact ⟨h.held, h.ptrs⟩
  | streamoff queue answer =>
      cases hr
      unfold State.streamoff
      cases g.host.answer queue answer with
      | error e => exact h.refused hnone e
      | ok u =>
          refine State.Given.answered ?_ hnone hplain
          exact ⟨fun x hx => h.held x (List.mem_of_mem_filter hx), h.ptrs⟩
  | qbuf req outputs answer =>
      cases hr
      obtain ⟨hout, hevents⟩ :=
        (State.Given.keeps supplied).dequeueOutputBuffers outputs [] ⟨h, hnone⟩
      rw [List.nil_append] at hevents
      unfold State.guestQbuf
      dsimp only
      split_ifs
      · cases (g.dequeueOutputBuffers outputs).state.host.answer req.buffer.queue answer with
        | error e => exact hout.refused hevents e
        | ok st =>
            exact (hout.accepted hc _).answered hevents fun p hp =>
              hc p (Buffer.mem_planePtrs_withStatus hp)
      · exact hout.refused hevents _
  | prepareBuf req answer =>
      cases hr
      unfold State.guestPrepareBuf
      split_ifs
      · cases g.host.answer req.buffer.queue answer with
        | error e => exact h.refused hnone e
        | ok st =>
            exact h.answered hnone fun p hp =>
              hc p (Buffer.mem_planePtrs_withStatus hp)
      · exact h.refused hnone _
  | decoderCmd answer =>
      cases hr
      cases answer with
      | error e => exact h.refused hnone e
      | ok u => exact h.answered hnone hplain
  | processEvents events =>
      obtain ⟨r', hr', rfl⟩ := Option.map_eq_some_iff.mp hr
      obtain ⟨hstate, hevents⟩ := (State.Given.keeps supplied).processEvents [] ⟨h, hnone⟩ hr'
      refine ⟨hstate, fun reply hreply p hp => ?_, hevents⟩
      obtain ⟨u, -, rfl⟩ := Fallible.map_eq_ok.mp hreply
      cases hp
  | close =>
      cases hr
      exact State.Given.answered ⟨fun _ hx => (by cases hx), fun _ _ _ _ hp => (by cases hp)⟩
        hnone hplain

/-- The user pointers that come with a command. -/
def Command.planePtrs : Command → List PlanePtr
  | .call _ c => c.planePtrs
  | .extCtrls _ _ _ _ _ => []

/-- The session that sends a command. -/
def Command.session : Command → UInt32
  | .call id _ | .extCtrls id _ _ _ _ => id

/-- A session gets no other pointers than it gave for the same plane. -/
theorem Sessions.observe_guest {supplied : UInt32 → PlanePtr → Prop} {g : Sessions}
    {cmds : List Command} (h0 : ∀ id q i j, supplied id ⟨q, i, j, 0⟩)
    (hg : ∀ id, (g id).Given (supplied id))
    (hc : ∀ cmd ∈ cmds, ∀ p ∈ cmd.planePtrs, supplied cmd.session p) :
    ∀ o ∈ Sessions.observe State.guestCall g cmds, ∀ p ∈ o.planePtrs,
      supplied o.session p := by
  induction cmds generalizing g with
  | nil => exact fun _ ho => by cases ho
  | cons cmd rest ih =>
      intro o ho p hp
      have hrest := fun cmd hmem => hc cmd (List.mem_cons_of_mem _ hmem)
      unfold Sessions.observe at ho
      cases cmd with
      | call id c =>
          simp only [Sessions.command] at ho
          cases hr : (g id).guestCall c with
          | none =>
              rw [hr] at ho
              cases ho
          | some r =>
              rw [hr] at ho
              obtain ⟨hstate, hreply, hevents⟩ :=
                (hg id).guestCall (h0 id) (hc _ List.mem_cons_self) hr
              rcases List.mem_cons.mp ho with rfl | ho
              · rcases List.mem_append.mp hp with hp | hp
                · cases hres : r.result with
                  | error e =>
                      rw [hres] at hp
                      cases hp
                  | ok reply =>
                      rw [hres] at hp
                      exact hreply reply hres p hp
                · obtain ⟨ev, hev, hp⟩ := List.mem_flatMap.mp hp
                  exact hevents ev hev p hp
              · refine ih (fun i => ?_) hrest o ho p hp
                unfold Sessions.set
                split_ifs with hi
                · exact hi ▸ hstate
                · exact hg i
      | extCtrls id ctrls array mapped answer =>
          simp only [Sessions.command] at ho
          cases hr : performExtCtrlsIoctl ctrls array mapped answer with
          | none =>
              rw [hr] at ho
              cases ho
          | some r =>
              rw [hr] at ho
              rcases List.mem_cons.mp ho with rfl | ho
              · cases hp
              · exact ih hg hrest o ho p hp

end Supplied

theorem Command.planePtrs_blind (cmd : Command) : cmd.blind.planePtrs = cmd.planePtrs := by
  cases cmd with
  | call id c => cases c <;> rfl
  | extCtrls id ctrls array mapped answer => rfl

theorem Command.session_blind (cmd : Command) : cmd.blind.session = cmd.session := by
  cases cmd <;> rfl

/-- Two runs of the device with the same commands and different addresses of the
mappings look the same to the guest, and each of the user pointers that a session
gets for a plane is one that it gave for that plane or null, if no buffer with
registered planes is dequeued, no registration is out of step and the zero-length
planes of accepted buffers have no pointers. -/
theorem proxy_hides_addresses (multiplanar : Bool) (cmds₁ cmds₂ : List Command)
    (hsame : cmds₁.map Command.blind = cmds₂.map Command.blind)
    (hm₁ : Trace.Conforms Sessions.next Sessions.MapperOk (.init multiplanar) cmds₁)
    (hm₂ : Trace.Conforms Sessions.next Sessions.MapperOk (.init multiplanar) cmds₂)
    (hok₁ : Trace.Conforms Sessions.next Sessions.Hidden (.init multiplanar) cmds₁)
    (hok₂ : Trace.Conforms Sessions.next Sessions.Hidden (.init multiplanar) cmds₂) :
    Sessions.observe State.call (.init multiplanar) cmds₁ =
        Sessions.observe State.call (.init multiplanar) cmds₂ ∧
      ∀ o ∈ Sessions.observe State.call (.init multiplanar) cmds₁, ∀ p ∈ o.planePtrs,
        p.userptr = 0 ∨ ∃ cmd ∈ cmds₁, cmd.session = o.session ∧ p ∈ cmd.planePtrs := by
  have hinit : (Sessions.init multiplanar).Shows (Sessions.init multiplanar) :=
    fun id => State.shows_init id multiplanar
  have h₁ := hinit.observe hm₁ hok₁
  have h₂ := hinit.observe hm₂ hok₂
  refine ⟨by rw [h₁, h₂, hsame], ?_⟩
  rw [h₁]
  refine @Sessions.observe_guest (fun id p => p.userptr = 0 ∨
    ∃ cmd ∈ cmds₁, cmd.session = id ∧ p ∈ cmd.planePtrs) _ _ (fun _ _ _ _ => .inl rfl) ?_ ?_
  · exact fun id => ⟨fun _ hx => (by cases hx), fun _ _ _ _ hp => (by cases hp)⟩
  · intro cmd hcmd p hp
    obtain ⟨cmd', hmem, rfl⟩ := List.mem_map.mp hcmd
    exact .inr ⟨cmd', hmem, (Command.session_blind cmd').symm,
      Command.planePtrs_blind cmd' ▸ hp⟩

/-- A USERPTR buffer is queued and queried, and controls with a payload are set;
the addresses are those of the mappings. -/
def queriedRun (plane payload : UInt64) : List Command :=
  [.call 0 (.reqbufs .videoCapture (.ok 1)),
    .call 0 (.qbuf (userptrRequest .videoCapture 0 0x1000 plane) [] (.ok (filled 0))),
    .call 0 (.streamon .videoCapture (.ok ())),
    .call 0 (.querybuf (.ok (userptrBuffer .videoCapture 0 0))),
    .extCtrls 0 ⟨0, 1, 0, 0, 0, 0, 0⟩ [⟨0, 8, 0, 0x3000⟩] [some payload] ⟨[], .ok ()⟩,
    .call 0 (.streamoff .videoCapture (.ok ()))]

theorem proxy_hides_addresses_queriedRun :
    (Sessions.observe State.call (.init false) (queriedRun 0x7f00 0x7f01)).length = 6 ∧
      Sessions.observe State.call (.init false) (queriedRun 0x7f00 0x7f01) =
        Sessions.observe State.call (.init false) (queriedRun 0x8f00 0x8f01) := by
  refine ⟨by decide, ?_⟩
  exact (proxy_hides_addresses false (queriedRun 0x7f00 0x7f01) (queriedRun 0x8f00 0x8f01) rfl
    (by decide) (by decide) (by decide) (by decide)).1

/-- A USERPTR buffer is queued and dequeued. -/
def dequeuedCommands (plane : UInt64) : List Command :=
  [.call 0 (.reqbufs .videoCapture (.ok 1)),
    .call 0 (.qbuf (userptrRequest .videoCapture 0 0x1000 plane) [] (.ok (filled 0))),
    .call 0 (.streamon .videoCapture (.ok ())),
    .call 0 (.processEvents [.captureReady (.buffer 0 (filled 0)) []])]

theorem proxy_leaks_address :
    (dequeuedCommands 0x7f00).map Command.blind = (dequeuedCommands 0x8f00).map Command.blind ∧
      Trace.Conforms Sessions.next Sessions.MapperOk (.init false) (dequeuedCommands 0x7f00) ∧
      Trace.Conforms Sessions.next Sessions.MapperOk (.init false) (dequeuedCommands 0x8f00) ∧
      ((Sessions.observe State.call (.init false) (dequeuedCommands 0x7f00)).flatMap
        Observation.planePtrs).map PlanePtr.userptr = [0x1000, 0x7f00] ∧
      Sessions.observe State.call (.init false) (dequeuedCommands 0x7f00) ≠
        Sessions.observe State.call (.init false) (dequeuedCommands 0x8f00) := by
  refine ⟨rfl, by decide, by decide, by decide, fun heq => ?_⟩
  have hptrs := congrArg (List.flatMap Observation.planePtrs) heq
  revert hptrs
  decide

end VirtioMedia.Device.ProxyQueues
