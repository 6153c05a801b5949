import VirtioMedia.Device.SelfAllocating

/-!
# Who owns the capture device

`active_session` works as a lock. REQBUFS takes it before it allocates, REQBUFS
of no buffers and the end of the session give it back. Whoever has buffers
holds the lock, and a session that gave it back does not get in the way of
another one.
-/

namespace VirtioMedia.Device.Simple

open V4l2 Fallible

variable {checks : Bool} {d : CaptureDevice} {s : Session} {queue : QueueType}
  {memory : MemoryType} {count : UInt32} {memfd : Nat → Option Nat}

/-! ### REQBUFS -/

/-- An allocation fails with ENOMEM or EINVAL. -/
theorem allocateBuffers_error {is : List Nat} {t : Tracked}
    {r : Except Int (List Buffer) × Tracked} {e : Int}
    (h : allocateBuffers checks memfd is t = .ok r) (he : r.1 = .error e) :
    e = enomem ∨ e = einval := by
  induction is generalizing t r with
  | nil =>
      cases h
      cases he
  | cons i rest ih =>
      simp only [allocateBuffers] at h
      split at h
      · cases h
        cases he
        exact .inl rfl
      · split at h
        · cases h
        · cases h
          cases he
          exact .inr rfl
        · obtain ⟨r', hr', rfl⟩ := map_eq_ok.mp h
          cases hr : r'.1 with
          | error e' =>
              simp only [hr, Except.map] at he
              cases he
              exact ih hr' hr
          | ok news =>
              simp only [hr, Except.map] at he
              cases he

/-- A REQBUFS that answers EBUSY found the session streaming or another session
active. -/
theorem reqbufs_ebusy {c : Called UInt32}
    (h : d.reqbufs checks s queue memory count memfd = .ok c) (hbusy : c.result = .error ebusy) :
    s.streaming = true ∨ ∃ i, d.activeSession = some i ∧ i ≠ s.id := by
  rcases reqbufs_outcome h with ⟨-, e, rfl, hreason⟩ | ⟨-, r, hr, rfl⟩
  · cases hbusy
    exact hreason rfl
  · cases hres : r.1 with
    | ok news =>
        simp only [CaptureDevice.settle, hres, Except.map] at hbusy
        cases hbusy
    | error e =>
        simp only [CaptureDevice.settle, hres, Except.map] at hbusy
        cases hbusy
        rcases allocateBuffers_error hr hres with h | h <;> cases h

/-! ### Streaming -/

/-- A session that streams has buffers. -/
def Session.Equipped (s : Session) : Prop := s.streaming = true → s.buffers ≠ []

theorem processQueued_streaming {io : Nat → Bool} {queued : List Nat} {c : Called Unit}
    (h : processQueued checks io queued d s = .ok c) : c.session.streaming = s.streaming := by
  induction queued generalizing d s with
  | nil =>
      cases h
      rfl
  | cons i rest ih =>
      simp only [processQueued] at h
      split at h
      · cases h
        rfl
      · split at h
        · cases h
          rfl
        · obtain ⟨b', -, h⟩ := bind_eq_ok.mp h
          have hrest := ih h
          exact hrest

/-- A call that keeps the buffers leaves the session equipped if it does not
start to stream. -/
theorem SameHeld.equipped {d' : CaptureDevice} {s' : Session} (h : SameHeld d s d' s')
    (hs : s.Equipped) (hstreaming : s'.streaming = true → s.streaming = true) :
    s'.Equipped := by
  intro hs' hnil
  apply hs (hstreaming hs')
  have hheld : s'.held = [] := by simp [Session.held, hnil]
  rw [h.held] at hheld
  exact List.map_eq_nil_iff.mp hheld

theorem qbuf_streaming {io : Nat → Bool} {index : UInt32} {c : Called DecoderV4l2Buffer}
    (h : d.qbuf checks io s index = .ok c) : c.session.streaming = s.streaming := by
  unfold CaptureDevice.qbuf at h
  split at h
  · cases h
    rfl
  · split at h
    · cases h
      rfl
    · dsimp only at h
      split at h
      · obtain ⟨r, hr, rfl⟩ := map_eq_ok.mp h
        have hprocess := processQueued_streaming hr
        exact hprocess
      · cases h
        rfl

theorem streamon_equipped {io : Nat → Bool} {c : Called Unit} (hs : s.Equipped)
    (h : d.streamon checks io s queue = .ok c) : c.session.Equipped := by
  have hsame := streamon_sameHeld h
  unfold CaptureDevice.streamon at h
  split at h
  · cases h
    exact hs
  · rename_i hcan
    intro _ hnil
    apply hcan
    have hheld : c.session.held = [] := by simp [Session.held, hnil]
    rw [hsame.held] at hheld
    exact .inr (List.isEmpty_iff.mpr (List.map_eq_nil_iff.mp hheld))

theorem reqbufs_equipped {c : Called UInt32} (hs : s.Equipped)
    (h : d.reqbufs checks s queue memory count memfd = .ok c) : c.session.Equipped := by
  rcases reqbufs_outcome h with ⟨-, e, rfl, -⟩ | ⟨-, r, -, rfl⟩
  · exact hs
  · exact fun h => by cases h

theorem doMmap_session (d : CaptureDevice) (s : Session) (flags offset : UInt32)
    (answer : Except Int UInt64) : (d.doMmap s flags offset answer).session = s := by
  rcases doMmap_cases d s flags offset answer with h | ⟨b, -, -, rw, h⟩ <;> rw [h]

theorem call_equipped {c : Call} {r : CaptureDevice × Session} (hs : s.Equipped)
    (h : d.call checks s c = .ok r) : r.2.Equipped := by
  cases c with
  | reqbufs queue memory count memfd =>
      obtain ⟨c, hc, rfl⟩ := map_eq_ok.mp h
      exact reqbufs_equipped hs hc
  | qbuf index io =>
      obtain ⟨c, hc, rfl⟩ := map_eq_ok.mp h
      exact (qbuf_sameHeld hc).equipped hs fun h => qbuf_streaming hc ▸ h
  | streamon queue io =>
      obtain ⟨c, hc, rfl⟩ := map_eq_ok.mp h
      exact streamon_equipped hs hc
  | streamoff queue =>
      cases h
      refine (streamoff_sameHeld d s queue).equipped hs fun h => ?_
      unfold CaptureDevice.streamoff at h
      split at h
      · exact h
      · cases h
  | mmap flags offset answer =>
      cases h
      change (d.doMmap s flags offset answer).session.Equipped
      rw [doMmap_session]
      exact hs

/-- Every open session is equipped. -/
def Capture.Equipped (s : Capture) : Prop :=
  ∀ i session, s.sessions i = some session → session.Equipped

theorem Capture.Equipped.setSession {s : Capture} (hs : s.Equipped) (d : CaptureDevice)
    {i : UInt32} {v : Option Session} (hv : ∀ session, v = some session → session.Equipped) :
    ({ s with device := d }.setSession i v).Equipped := by
  intro j session hj
  simp only [Capture.setSession] at hj
  split at hj
  · exact hv session hj
  · exact hs j session hj

theorem Capture.Equipped.next {s s' : Capture} (hs : s.Equipped) {a : Action}
    (h : s.next checks a = some s') : s'.Equipped := by
  rcases step_cases (toOption_eq_some.mp h) with rfl | ⟨guestAddr, -, rfl⟩ | ⟨i, -, -, rfl⟩ |
    ⟨i, session, -, -, rfl⟩ | ⟨i, c, session, p, -, hi, hp, rfl⟩
  · exact hs
  · exact hs
  · refine hs.setSession s.device ?_
    rintro _ ⟨⟩
    exact fun h => by cases h
  · exact hs.setSession _ fun _ h => by cases h
  · refine hs.setSession _ ?_
    rintro _ ⟨⟩
    exact call_equipped (hs i session hi) hp

/-! ### The lock -/

/-- At most one session has buffers, it is the active one, and a session that
streams has buffers. -/
structure Capture.Exclusive (s : Capture) : Prop where
  unique : ∀ i j session other, s.sessions i = some session → s.sessions j = some other →
    session.buffers ≠ [] → other.buffers ≠ [] → i = j
  active : ∀ i session, s.sessions i = some session → session.buffers ≠ [] →
    s.device.activeSession = some i
  equipped : s.Equipped

theorem Capture.mmapInv_init : Capture.init.MmapInv :=
  ⟨heldInv_init fun _ => rfl, fun _ _ h => (by cases h), fun _ h => absurd rfl h⟩

theorem exclusive_of_inv {s : Capture} (hs : s.MmapInv) (he : s.Equipped) : s.Exclusive := by
  have hactive : ∀ i session, s.sessions i = some session → session.buffers ≠ [] →
      s.device.activeSession = some i := by
    intro i session hi hbufs
    apply hs.active i
    rw [Capture.held_of_some hi]
    exact fun hnil => hbufs (List.map_eq_nil_iff.mp hnil)
  refine ⟨?_, hactive, he⟩
  intro i j session other hi hj hsession hother
  exact Option.some.inj ((hactive i session hi hsession).symm.trans (hactive j other hj hother))

/-- The session is closed, or its REQBUFS of no buffers succeeds. -/
def Capture.Releases (checks : Bool) (s : Capture) (i : UInt32) (session : Session) :
    Action → Prop
  | .closeSession j => j = i
  | .call j (.reqbufs queue memory count memfd) => j = i ∧ count = 0 ∧
    ∃ c, s.device.reqbufs checks session queue memory count memfd = .ok c ∧ c.result = .ok 0
  | _ => False

/-- The session asks for buffers. -/
def Action.requestedBy (i : UInt32) : Action → Bool
  | .call j (.reqbufs _ _ count _) => j = i && count ≠ 0
  | _ => false

/-- The session is not the active one: who is refused with EBUSY streams
itself, or a third session is active. -/
def Capture.NotBlockedBy (checks : Bool) (i : UInt32) (s : Capture) : Prop :=
  s.device.activeSession ≠ some i ∧
    ∀ j session queue memory count memfd c, j ≠ i → s.sessions j = some session →
      s.device.reqbufs checks session queue memory count memfd = .ok c →
      c.result = .error ebusy →
      session.streaming = true ∨ ∃ k, s.device.activeSession = some k ∧ k ≠ j ∧ k ≠ i

theorem notBlockedBy_of_active {s : Capture} {i : UInt32} (hs : s.MmapInv)
    (hactive : s.device.activeSession ≠ some i) : s.NotBlockedBy checks i := by
  refine ⟨hactive, ?_⟩
  intro j session queue memory count memfd c hji hj hc hbusy
  rcases reqbufs_ebusy hc hbusy with h | ⟨k, hk, hne⟩
  · exact .inl h
  · refine .inr ⟨k, hk, ?_, ?_⟩
    · exact fun hkj => hne (hkj.trans (hs.ids j session hj).symm)
    · rintro rfl
      exact hactive hk

/-- Only REQBUFS makes a session the active one. -/
theorem call_active {c : Call} {r : CaptureDevice × Session} (h : d.call checks s c = .ok r) :
    r.1.activeSession = d.activeSession ∨ r.1.activeSession = none ∨
      (r.1.activeSession = some s.id ∧
        ∃ queue memory count memfd, c = .reqbufs queue memory count memfd ∧ count ≠ 0) := by
  cases c with
  | reqbufs queue memory count memfd =>
      obtain ⟨c, hc, rfl⟩ := map_eq_ok.mp h
      rcases reqbufs_outcome hc with ⟨-, e, rfl, -⟩ | ⟨-, r, -, rfl⟩
      · exact .inl rfl
      · refine .inr ?_
        by_cases hzero : count = 0
        · exact .inl (if_pos hzero)
        · exact .inr ⟨if_neg hzero, _, _, _, _, rfl, hzero⟩
  | qbuf index io =>
      obtain ⟨c, hc, rfl⟩ := map_eq_ok.mp h
      exact .inl (qbuf_sameHeld hc).active
  | streamon queue io =>
      obtain ⟨c, hc, rfl⟩ := map_eq_ok.mp h
      exact .inl (streamon_sameHeld hc).active
  | streamoff queue =>
      cases h
      exact .inl (streamoff_sameHeld d s queue).active
  | mmap flags offset answer =>
      cases h
      refine .inl ?_
      change (d.doMmap s flags offset answer).device.activeSession = _
      rcases doMmap_cases d s flags offset answer with h | ⟨b, -, -, rw, h⟩ <;> rw [h]

/-- A session that is not active stays so until it asks for buffers. -/
theorem next_active {s s' : Capture} {i : UInt32} {a : Action} (hs : s.MmapInv)
    (hactive : s.device.activeSession ≠ some i) (ha : a.requestedBy i = false)
    (h : s.next checks a = some s') : s'.device.activeSession ≠ some i := by
  have hstep : s.step checks a = .ok s' := toOption_eq_some.mp h
  rcases Capture.step_cases hstep with rfl | ⟨guestAddr, -, rfl⟩ | ⟨j, -, -, rfl⟩ |
    ⟨j, session, -, -, rfl⟩ | ⟨j, c, session, r, rfl, hj, hr, rfl⟩
  · exact hactive
  · exact hactive
  · exact hactive
  · change (s.device.closeSession session).activeSession ≠ some i
    rw [closeSession_active]
    split
    · exact Option.some_ne_none i |>.symm
    · exact hactive
  · change r.1.activeSession ≠ some i
    rcases call_active hr with hsame | hnone | ⟨hsome, queue, memory, count, memfd, rfl, hcount⟩
    · rw [hsame]
      exact hactive
    · rw [hnone]
      exact Option.some_ne_none i |>.symm
    · rw [hsome, hs.ids j session hj]
      intro hji
      simp [Action.requestedBy, Option.some.inj hji, hcount] at ha

/-- A session that holds the lock and releases it leaves the device without an
active session. -/
theorem releases_active {s s' : Capture} {i : UInt32} {session : Session} {a : Action}
    (hs : s.Exclusive) (hid : session.id = i) (hi : s.sessions i = some session)
    (hbufs : session.buffers ≠ []) (ha : s.Releases checks i session a)
    (h : s.next checks a = some s') : s'.device.activeSession = none := by
  have hstep : s.step checks a = .ok s' := toOption_eq_some.mp h
  cases a with
  | openSession j => cases ha
  | closeSession j =>
      obtain rfl : j = i := ha
      simp only [Capture.step, hi] at hstep
      cases hstep
      change (s.device.closeSession session).activeSession = none
      rw [closeSession_active, hid, if_pos (hs.active _ session hi hbufs)]
  | munmap guestAddr => cases ha
  | call j c =>
      cases c with
      | reqbufs queue memory count memfd =>
          obtain ⟨rfl, rfl, c, hc, hok⟩ := ha
          simp only [Capture.step, hi, CaptureDevice.call, hc, Except.map] at hstep
          cases hstep
          change c.device.activeSession = none
          rcases reqbufs_outcome hc with ⟨-, e, rfl, -⟩ | ⟨-, r, -, rfl⟩
          · cases hok
          · rfl
      | qbuf index io => cases ha
      | streamon queue io => cases ha
      | streamoff queue => cases ha
      | mmap flags offset answer => cases ha

/-- On every run of the device with any number of sessions the buffers have one
owner. Once the owner gave them back it blocks nobody, until it asks for
buffers again. -/
theorem exclusive_ownership (checks : Bool) {actions : List Action} {s : Capture}
    (hrun : Trace.run (Capture.next checks) .init actions = some s) :
    s.Exclusive ∧ ∀ i session a s', s.sessions i = some session → session.buffers ≠ [] →
      s.Releases checks i session a → s.next checks a = some s' →
      s'.device.activeSession = none ∧
        ∀ later t, (∀ b ∈ later, Action.requestedBy i b = false) →
          Trace.run (Capture.next checks) s' later = some t → t.NotBlockedBy checks i := by
  have hinv : s.MmapInv :=
    Trace.run_invariant (fun _ _ _ hs h => hs.step h) Capture.mmapInv_init hrun
  have hequipped : s.Equipped :=
    Trace.run_invariant (fun _ _ _ hs h => hs.next h) (fun _ _ h => by cases h) hrun
  have hexclusive := exclusive_of_inv hinv hequipped
  refine ⟨hexclusive, ?_⟩
  intro i session a s' hi hbufs ha hnext
  have hactive := releases_active hexclusive (hinv.ids i session hi) hi hbufs ha hnext
  refine ⟨hactive, ?_⟩
  intro later t hlater hrun'
  have hconf : Trace.Conforms (Capture.next checks)
      (fun _ b => Action.requestedBy i b = false) s' later :=
    Trace.conforms_of_forall (fun b hb _ => hlater b hb) s'
  -- the session stays inactive along the rest of the run
  have hrest := Trace.run_invariant_of_conforms
    (P := fun u : Capture => u.MmapInv ∧ u.device.activeSession ≠ some i)
    (fun u b u' hu hb h => ⟨hu.1.step h, next_active hu.1 hu.2 hb h⟩)
    ⟨hinv.step hnext, by simp [hactive]⟩ hconf hrun'
  exact notBlockedBy_of_active hrest.1 hrest.2

/-- Two sessions, and the first one gets a buffer. -/
def ownedRun : List Action :=
  [.openSession 0, .openSession 1, .call 0 (.reqbufs .videoCapture .mmap 1 some)]

/-- The first session gives its buffer back, and the second one gets two. -/
theorem exclusive_ownership_handover :
    ∃ s, Trace.run (Capture.next true) .init ownedRun = some s ∧ s.Exclusive ∧
      ∃ s', s.next true (.call 0 (.reqbufs .videoCapture .mmap 0 some)) = some s' ∧
        s'.device.activeSession = none ∧
        ∃ t, Trace.run (Capture.next true) s' [.call 1 (.reqbufs .videoCapture .mmap 2 some)] =
          some t ∧ t.NotBlockedBy true 0 ∧ t.device.activeSession = some 1 := by
  obtain ⟨s, hs⟩ : ∃ s, Trace.run (Capture.next true) .init ownedRun = some s := ⟨_, rfl⟩
  obtain ⟨hexclusive, hrelease⟩ := exclusive_ownership true hs
  cases hs
  have hreleased := hrelease 0 _ (.call 0 (.reqbufs .videoCapture .mmap 0 some)) _ rfl
    (by decide) ⟨rfl, rfl, _, rfl, rfl⟩ rfl
  refine ⟨_, rfl, hexclusive, _, rfl, hreleased.1, _, rfl, ?_, rfl⟩
  exact hreleased.2 [.call 1 (.reqbufs .videoCapture .mmap 2 some)] _ (by decide) rfl

end VirtioMedia.Device.Simple
