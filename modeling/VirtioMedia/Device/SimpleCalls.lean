import VirtioMedia.Device.SimpleDevice
import VirtioMedia.Lib.Fallible

/-!
# What the calls of the capture device can do

REQBUFS is refused, or it takes the device over before it allocates. MMAP finds
a buffer of the session, or fails. Closing a session gives back its buffers, and
the lock if the session holds it.
-/

namespace VirtioMedia.Device.Simple

open V4l2 Fallible

variable {checks : Bool} {d : CaptureDevice} {s : Session} {queue : QueueType}
  {memory : MemoryType} {count : UInt32} {memfd : Nat → Option Nat}

/-! ### REQBUFS -/

/-- REQBUFS passes its checks: the queue and the memory are those of the
device, the session does not stream, and no other session is active. -/
def CaptureDevice.admits (d : CaptureDevice) (s : Session) (queue : QueueType)
    (memory : MemoryType) : Bool :=
  queue = .videoCapture && memory = .mmap && !s.streaming && d.activeSession.all (· == s.id)

/-- The device after REQBUFS took the lock or gave it back, and unregistered
the buffers of the session. -/
def CaptureDevice.takeOver (d : CaptureDevice) (s : Session) (count : UInt32) : CaptureDevice :=
  { d with activeSession := if count = 0 then none else some s.id }.unregister s

/-- What REQBUFS makes of an allocation of `n` buffers. -/
def CaptureDevice.settle (d : CaptureDevice) (s : Session) (n : Nat)
    (r : Except Int (List Buffer) × Tracked) : Called UInt32 :=
  ⟨r.1.map fun _ => .ofNat n, { d with mmapManager := r.2 },
    { s with buffers := r.1.toOption.getD s.buffers }⟩

theorem stop_offsets (s : Session) : s.stop.offsets = s.offsets := by
  simp [Session.stop, Session.offsets, Buffer.reset, Function.comp_def]

theorem settle_ok {n : Nat} {r : Except Int (List Buffer) × Tracked} {news : List Buffer}
    (hr : r.1 = .ok news) : d.settle s n r =
      ⟨.ok (.ofNat n), { d with mmapManager := r.2 }, { s with buffers := news }⟩ := by
  simp [CaptureDevice.settle, hr, Except.map, Except.toOption]

theorem settle_error {n : Nat} {r : Except Int (List Buffer) × Tracked} {e : Int}
    (hr : r.1 = .error e) : d.settle s n r = ⟨.error e, { d with mmapManager := r.2 }, s⟩ := by
  simp [CaptureDevice.settle, hr, Except.map, Except.toOption]

theorem takeOver_active (hcount : count ≠ 0) :
    (d.takeOver s count).activeSession = some s.id := if_neg hcount

/-- A session that is not the active one is not admitted. -/
theorem eq_id_of_admits (h : d.admits s queue memory = true) {i : UInt32}
    (hi : d.activeSession = some i) : i = s.id := by
  simp only [CaptureDevice.admits, Bool.and_eq_true, hi, Option.all_some, beq_iff_eq] at h
  exact h.2

/-- REQBUFS that passes its checks stops the session before it allocates. -/
theorem reqbufs_of_admits (h : d.admits s queue memory = true) :
    d.reqbufs checks s queue memory count memfd =
      (allocateBuffers checks memfd (List.range (min count.toNat 32))
        (d.takeOver s count).mmapManager).map
          ((d.takeOver s count).settle s.stop (min count.toNat 32)) := by
  simp only [CaptureDevice.admits, Bool.and_eq_true, decide_eq_true_eq, Bool.not_eq_true'] at h
  obtain ⟨⟨⟨hqueue, hmemory⟩, hstreaming⟩, hactive⟩ := h
  have hactive : ¬d.activeSession.any (· ≠ s.id) = true := by
    cases ha : d.activeSession with
    | none => simp
    | some i => simpa [ha] using hactive
  have hstop : s.stop =
      { s with queuedBuffers := [], buffers := s.buffers.map Buffer.reset } := by
    simp [Session.stop, hstreaming]
  have hdevice : { d with activeSession := if count = 0 then none else some s.id }.unregister
      s.stop = d.takeOver s count := by
    rw [CaptureDevice.takeOver, CaptureDevice.unregister, CaptureDevice.unregister, stop_offsets]
  rw [CaptureDevice.reqbufs, if_neg (not_not.mpr hqueue), if_neg (not_not.mpr hmemory),
    if_neg (by simp [hstreaming]), if_neg hactive]
  have hpair : (if count = 0 then (none, s.stop) else (some s.id, { s with
      queuedBuffers := [], buffers := s.buffers.map Buffer.reset })) =
        (if count = 0 then none else some s.id, s.stop) := by
    split
    · rfl
    · rw [hstop]
  rw [hpair]
  simp only [hdevice]
  congr 1
  funext r
  cases hr : r.1 with
  | error e => rw [settle_error hr]
  | ok news => rw [settle_ok hr]

/-- REQBUFS does not pass its checks and changes nothing, or it goes on to
allocate. -/
theorem reqbufs_outcome {c : Called UInt32}
    (h : d.reqbufs checks s queue memory count memfd = .ok c) :
    (d.admits s queue memory = false ∧ ∃ e, c = ⟨.error e, d, s⟩ ∧
      (e = ebusy → s.streaming = true ∨ ∃ i, d.activeSession = some i ∧ i ≠ s.id)) ∨
    (d.admits s queue memory = true ∧
      ∃ r, allocateBuffers checks memfd (List.range (min count.toNat 32))
          (d.takeOver s count).mmapManager = .ok r ∧
        c = (d.takeOver s count).settle s.stop (min count.toNat 32) r) := by
  cases hadmits : d.admits s queue memory with
  | true =>
      rw [reqbufs_of_admits hadmits] at h
      obtain ⟨r, hr, rfl⟩ := map_eq_ok.mp h
      exact .inr ⟨rfl, r, hr, rfl⟩
  | false =>
      refine .inl ⟨rfl, ?_⟩
      unfold CaptureDevice.reqbufs at h
      split at h
      · cases h
        exact ⟨einval, rfl, fun h => absurd h (by decide)⟩
      · split at h
        · cases h
          exact ⟨einval, rfl, fun h => absurd h (by decide)⟩
        · split at h
          · cases h
            exact ⟨ebusy, rfl, fun _ => .inl ‹_›⟩
          · split at h
            · rename_i hactive
              cases h
              refine ⟨ebusy, rfl, fun _ => .inr ?_⟩
              cases ha : d.activeSession with
              | none => simp [ha] at hactive
              | some i => exact ⟨i, rfl, by simpa [ha] using hactive⟩
            · rename_i hqueue hmemory hstreaming hactive
              refine absurd hadmits ?_
              cases ha : d.activeSession with
              | none => simp_all [CaptureDevice.admits]
              | some i => simp_all [CaptureDevice.admits]

/-! ### MMAP -/

/-- MMAP finds a buffer of the session and maps its file. -/
theorem doMmap_cases (d : CaptureDevice) (session : Session) (flags offset : UInt32)
    (answer : Except Int UInt64) :
    d.doMmap session flags offset answer = ⟨.error einval, d, session⟩ ∨
      ∃ b ∈ session.buffers, b.offset = offset ∧ ∃ rw,
        d.doMmap session flags offset answer =
          ⟨(d.mmapManager.create offset b.fd rw answer).1.mapError fun _ => einval,
            { d with mmapManager := (d.mmapManager.create offset b.fd rw answer).2 }, session⟩ := by
  unfold CaptureDevice.doMmap
  split
  · exact .inl rfl
  · rename_i b hfind
    have hoffset := List.find?_some hfind
    simp only [beq_iff_eq] at hoffset
    exact .inr ⟨b, List.mem_of_find?_eq_some hfind, hoffset, _, rfl⟩

/-! ### The session is closed -/

theorem closeSession_manager (d : CaptureDevice) (s : Session) :
    (d.closeSession s).mmapManager = { d.mmapManager with
      manager := d.mmapManager.manager.unregisterAll s.offsets } := by
  simp only [CaptureDevice.closeSession, CaptureDevice.unregister]
  split <;> rfl

theorem closeSession_active (d : CaptureDevice) (s : Session) :
    (d.closeSession s).activeSession =
      if d.activeSession = some s.id then none else d.activeSession := by
  simp only [CaptureDevice.closeSession, CaptureDevice.unregister]
  split <;> rfl

theorem closeSession_sent (d : CaptureDevice) (s : Session) :
    (d.closeSession s).sent = d.sent := by
  simp only [CaptureDevice.closeSession, CaptureDevice.unregister]
  split <;> rfl

/-! ### Actions -/

/-- As `Decoder.next_cases`. -/
theorem Capture.step_cases {s s' : Capture} {a : Action} (h : s.step checks a = .ok s') :
    s' = s ∨
    (∃ guestAddr, a = .munmap guestAddr ∧
      s' = { s with device := (s.device.doMunmap guestAddr).2 }) ∨
    (∃ i, a = .openSession i ∧ s.sessions i = none ∧ s' = s.setSession i (some (.open i))) ∨
    (∃ i session, a = .closeSession i ∧ s.sessions i = some session ∧
      s' = { s with device := s.device.closeSession session }.setSession i none) ∨
    ∃ i c session p, a = .call i c ∧ s.sessions i = some session ∧
      s.device.call checks session c = .ok p ∧
      s' = { s with device := p.1 }.setSession i (some p.2) := by
  cases a with
  | openSession i =>
      simp only [Capture.step] at h
      split at h
      · rename_i hi
        cases h
        exact .inr (.inr (.inl ⟨i, rfl, hi, rfl⟩))
      · cases h
        exact .inl rfl
  | closeSession i =>
      simp only [Capture.step] at h
      split at h
      · cases h
        exact .inl rfl
      · rename_i session hi
        cases h
        exact .inr (.inr (.inr (.inl ⟨i, session, rfl, hi, rfl⟩)))
  | munmap guestAddr =>
      cases h
      exact .inr (.inl ⟨guestAddr, rfl, rfl⟩)
  | call i c =>
      simp only [Capture.step] at h
      split at h
      · cases h
        exact .inl rfl
      · rename_i session hi
        obtain ⟨p, hp, rfl⟩ := map_eq_ok.mp h
        exact .inr (.inr (.inr (.inr ⟨i, c, session, p, rfl, hi, hp, rfl⟩)))

end VirtioMedia.Device.Simple
