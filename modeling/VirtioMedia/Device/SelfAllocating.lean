import VirtioMedia.Device.DecoderCalls
import VirtioMedia.Device.DecoderPending
import VirtioMedia.Device.MmapIdentity
import VirtioMedia.Device.SimpleCalls

/-!
# MMAP identity of the devices that allocate their own buffers

The decoder and the simple capture device share one range manager between
their sessions. A buffer of the decoder is registered for as long as a session
holds it. The capture device keeps the old buffers of a session when REQBUFS
fails midway, although it has unregistered them, but then no other session
holds any.
-/

namespace VirtioMedia.Device

open V4l2 Fallible
open scoped List

/-- Buffers were registered, and one session holds some of them from now on. -/
theorem HeldInv.grow {t : Tracked} {held : UInt32 → List (UInt32 × Option Nat)}
    (ht : HeldInv t held) (hocc : ∀ j, ∀ x ∈ held j, t.manager.Occupied x.1)
    {m : MmapMappingManager} {os : List UInt32} (h : Grown t.manager m os) {i : UInt32}
    {l extra : List (UInt32 × Option Nat)} (hl : l.Perm (held i ++ extra))
    (hextra : (extra.map Prod.fst).Sublist os) :
    HeldInv { t with manager := m } (holding held i l) := by
  refine (ht.quiet h.toQuiet).hold (ht.distinct.grow hocc h hl hextra) fun x hx => ?_
  rcases List.mem_append.mp (hl.subset hx) with hx | hx
  · exact (ht.owns i x hx).quiet h.toQuiet
  · exact h.owns (hextra.subset (List.mem_map_of_mem hx))

/-! ### The decoder -/

section Decoder

variable {β S : Type} {B : DecoderBackend β S} {checks : Bool}

def DecoderBuffer.offset (b : DecoderBuffer S) : UInt32 := b.v4l2Buffer.plane.memOffset

/-- The offset and the file of a buffer. -/
def DecoderBackend.claim (B : DecoderBackend β S) (b : DecoderBuffer S) : UInt32 × Option Nat :=
  (b.offset, B.fdForPlane b.backing 0)

def DecoderSession.held (B : DecoderBackend β S) (s : DecoderSession β S) :
    List (UInt32 × Option Nat) :=
  (s.inputBuffers ++ s.outputBuffers).map B.claim

def Decoder.held (B : DecoderBackend β S) (s : Decoder β S) (i : UInt32) :
    List (UInt32 × Option Nat) :=
  (s.sessions i).elim [] (·.held B)

theorem Decoder.held_of_some {s : Decoder β S} {i : UInt32} {session : DecoderSession β S}
    (h : s.sessions i = some session) : s.held B i = session.held B := by
  simp [Decoder.held, h]

theorem Decoder.held_setSession (s : Decoder β S) (d : VideoDecoder) (i : UInt32)
    (v : Option (DecoderSession β S)) :
    ({ s with device := d }.setSession i v).held B =
      holding (s.held B) i (v.elim [] (·.held B)) := by
  funext j
  by_cases hj : j = i <;> simp [Decoder.held, Decoder.setSession, holding, hj]

/-- The buffers that are held are registered. -/
structure Decoder.MmapInv (B : DecoderBackend β S) (s : Decoder β S) : Prop where
  held : HeldInv s.device.hostMapper (s.held B)
  registered : ∀ i, ∀ x ∈ s.held B i, s.device.hostMapper.manager.Registered x.1

/-- The offsets that the loop of REQBUFS registers until a buffer cannot be
allocated. -/
def DecoderBackend.reserved (B : DecoderBackend β S) (checks : Bool) (queue : QueueType)
    (size : UInt32) : List Nat → MmapMappingManager → β → Option (List UInt32)
  | [], _, _ => some []
  | i :: rest, m, b =>
    match m.registerBuffer checks none size with
    | none => none
    | some (.error _, _) => some []
    | some (.ok offset, m) =>
      match B.new b queue (.ofNat i) size with
      | (.error _, _) => some []
      | (.ok _, b) => (B.reserved checks queue size rest m b).map (offset :: ·)

/-- A buffer before the others: their offsets, or that they are too few. -/
theorem offsets_cons {γ : Type} {offset : γ → UInt32} {a : γ} {r : Except Int (List γ)} {n : Nat}
    {os : List UInt32}
    (hnews : ∀ news, r = .ok news → news.map offset = os ∧ os.length = n)
    (hshort : ∀ e, r = .error e → os.length < n) :
    (∀ news, r.map (a :: ·) = .ok news →
      news.map offset = offset a :: os ∧ (offset a :: os).length = n + 1) ∧
    ∀ e, r.map (a :: ·) = .error e → (offset a :: os).length < n + 1 := by
  constructor
  · intro news hres
    obtain ⟨news', hnews', rfl⟩ := map_eq_ok.mp hres
    obtain ⟨hoffsets, hlength⟩ := hnews news' hnews'
    rw [List.map_cons, hoffsets, List.length_cons, hlength]
    exact ⟨rfl, rfl⟩
  · intro e hres
    exact Nat.succ_lt_succ (hshort e (map_eq_error.mp hres))

/-- What the loop of REQBUFS registers. It fails if and only if that is not
enough. -/
theorem allocateBuffers_grown {queue : QueueType} {size : UInt32} {is : List Nat}
    {d : VideoDecoder} {b : β}
    {r : Except Int (List (DecoderBuffer S)) × VideoDecoder × β}
    (hs : d.hostMapper.manager.Sorted) (h : allocateBuffers B checks queue size is d b = .ok r) :
    ∃ m os, r.2.1 = { d with hostMapper := { d.hostMapper with manager := m } } ∧
      GrownBy d.hostMapper.manager m os ∧
      B.reserved checks queue size is d.hostMapper.manager b = some os ∧
      (∀ news, r.1 = .ok news → news.map (·.offset) = os ∧ os.length = is.length) ∧
      ∀ e, r.1 = .error e → os.length < is.length := by
  induction is generalizing d b r with
  | nil =>
      cases h
      refine ⟨_, [], rfl, .refl hs, rfl, ?_, fun _ h => by cases h⟩
      rintro news ⟨⟩
      exact ⟨rfl, rfl⟩
  | cons i rest ih =>
      simp only [allocateBuffers] at h
      simp only [DecoderBackend.reserved]
      cases hreg : d.hostMapper.manager.registerBuffer checks none size with
      | none => simp [hreg] at h
      | some p =>
          obtain ⟨res, m⟩ := p
          simp only [hreg] at h ⊢
          rcases registerBuffer_cases hs hreg with ⟨e, rfl, rfl⟩ | ⟨o, rfl, hgrown⟩
          · cases h
            exact ⟨_, [], rfl, .refl hs, rfl, fun _ h => (by cases h), fun _ _ => by simp⟩
          · dsimp only at h ⊢
            cases hnew : B.new b queue (.ofNat i) size with
            | mk res b' =>
                rw [hnew] at h
                cases res with
                | error e =>
                    cases h
                    exact ⟨_, [], rfl, hgrown.undo, rfl, fun _ h => (by cases h),
                      fun _ _ => by simp⟩
                | ok backing =>
                    obtain ⟨r', hr', rfl⟩ := map_eq_ok.mp h
                    obtain ⟨m', os, hdev, hrest, hreserved, hnews, hshort⟩ := ih
                      (d := { d with hostMapper := { d.hostMapper with manager := m } })
                      hgrown.sorted hr'
                    refine ⟨m', o :: os, hdev, hgrown.cons hrest, ?_, offsets_cons hnews hshort⟩
                    exact Option.map_eq_some_iff.mpr ⟨os, hreserved, rfl⟩

/-- The buffers of a queue that REQBUFS added. -/
def DecoderSession.granted (before after : DecoderSession β S) (queue : QueueType) :
    List (DecoderBuffer S) :=
  ((after.buffers queue).getD []).drop ((before.buffers queue).getD []).length

theorem DecoderSession.granted_self (s : DecoderSession β S) (queue : QueueType) :
    s.granted s queue = [] := by
  simp [DecoderSession.granted]

/-- Truncating one list and keeping the rest loses nothing. -/
theorem perm_take_drop {α : Type} (l other : List α) (n : Nat) :
    ((l.take n ++ other) ++ l.drop n).Perm (l ++ other) := by
  rw [List.append_assoc]
  refine (List.perm_append_comm.append_left (l.take n)).trans ?_
  rw [← List.append_assoc, List.take_append_drop]

/-- The buffers of one queue are replaced; the other queue keeps its own. -/
theorem DecoderSession.setBuffers_cases {s : DecoderSession β S} {queue : QueueType}
    {bufs : List (DecoderBuffer S)} (h : s.buffers queue = some bufs)
    (bufs' : List (DecoderBuffer S)) (b : β) :
    ((s.setBuffers queue bufs').withBackend b).buffers queue = some bufs' ∧
      ∃ other, s.inputBuffers ++ s.outputBuffers ~ bufs ++ other ∧
        ((s.setBuffers queue bufs').withBackend b).inputBuffers ++
          ((s.setBuffers queue bufs').withBackend b).outputBuffers ~ bufs' ++ other := by
  rcases DecoderSession.buffers_cases h with ⟨rfl, rfl⟩ | ⟨rfl, rfl⟩
  · exact ⟨rfl, s.outputBuffers, .refl _, .refl _⟩
  · exact ⟨rfl, s.inputBuffers, List.perm_append_comm, List.perm_append_comm⟩

/-- The buffers of a session are those that it keeps and those that it gives up. -/
theorem DecoderSession.shrink_perm {s : DecoderSession β S} {queue : QueueType}
    {bufs : List (DecoderBuffer S)} (h : s.buffers queue = some bufs) (n : Nat) (b : β) :
    ((s.setBuffers queue (bufs.take n)).withBackend b).inputBuffers ++
        ((s.setBuffers queue (bufs.take n)).withBackend b).outputBuffers ++ bufs.drop n ~
      s.inputBuffers ++ s.outputBuffers := by
  obtain ⟨-, other, hbefore, hafter⟩ := setBuffers_cases h (bufs.take n) b
  exact (hafter.append_right _).trans ((perm_take_drop bufs other n).trans hbefore.symm)

/-- The buffers of a session are those that it had and those that it gets. -/
theorem DecoderSession.grow_perm {s : DecoderSession β S} {queue : QueueType}
    {bufs : List (DecoderBuffer S)} (h : s.buffers queue = some bufs)
    (news : List (DecoderBuffer S)) (b : β) :
    ((s.setBuffers queue (bufs ++ news)).withBackend b).inputBuffers ++
        ((s.setBuffers queue (bufs ++ news)).withBackend b).outputBuffers ~
      s.inputBuffers ++ s.outputBuffers ++ news := by
  obtain ⟨-, other, hbefore, hafter⟩ := setBuffers_cases h (bufs ++ news) b
  calc
    _ ~ bufs ++ news ++ other := hafter
    _ ~ bufs ++ other ++ news := by
      rw [List.append_assoc, List.append_assoc]
      exact List.perm_append_comm.append_left bufs
    _ ~ s.inputBuffers ++ s.outputBuffers ++ news := (hbefore.append_right news).symm

section Reqbufs

variable {s : Decoder β S} {i : UInt32} {session : DecoderSession β S}

/-- Buffers are unregistered, and the session does not hold them any more. -/
theorem Decoder.MmapInv.shrink (hs : s.MmapInv B) (hi : s.sessions i = some session)
    {v : Option (DecoderSession β S)} {gone : List (DecoderBuffer S)}
    (hperm : v.elim [] (·.held B) ++ gone.map B.claim ~ session.held B) :
    ({ s with device := s.device.unregister gone }.setSession i v).MmapInv B := by
  have hheld : s.held B i = session.held B := Decoder.held_of_some hi
  have hquiet := unregisterAll_quiet hs.held.maps.sorted (gone.map DecoderBuffer.offset)
  constructor
  · rw [Decoder.held_setSession]
    refine (hs.held.quiet hquiet).drop ?_
    rw [hheld]
    exact (List.sublist_append_left _ _).subperm.trans hperm.subperm
  · intro j x hx
    rw [Decoder.held_setSession] at hx
    have hnot : x.1 ∉ gone.map DecoderBuffer.offset := by
      have hgone := hs.held.distinct.not_gone (hheld ▸ hperm) hx
      rwa [List.map_map] at hgone
    refine (MmapMappingManager.registered_unregisterAll hs.held.maps.sorted _ _).mpr ⟨?_, hnot⟩
    rcases mem_holding hx with ⟨-, hx⟩ | ⟨-, hx⟩
    · exact hs.registered i x (hheld ▸ hperm.subset (List.mem_append_left _ hx))
    · exact hs.registered j x hx

/-- REQBUFS that registers buffers and keeps `news` of them. -/
theorem Decoder.MmapInv.grow (hs : s.MmapInv B) (hi : s.sessions i = some session)
    {m : MmapMappingManager} {os : List UInt32} (h : Grown s.device.hostMapper.manager m os)
    {session' : DecoderSession β S} (news : List (DecoderBuffer S))
    (hperm : (session'.held B).Perm (session.held B ++ news.map B.claim))
    (hos : (news.map (·.offset)).Sublist os) :
    ({ s with device := { s.device with hostMapper :=
      { s.device.hostMapper with manager := m } } }.setSession i (some session')).MmapInv B := by
  rw [← Decoder.held_of_some hi] at hperm
  have hextra : ((news.map B.claim).map Prod.fst).Sublist os := by
    rw [List.map_map]
    exact hos
  constructor
  · rw [Decoder.held_setSession]
    exact hs.held.grow (fun j x hx => (hs.registered j x hx).occupied) h hperm hextra
  · intro j x hx
    rw [Decoder.held_setSession] at hx
    rcases mem_holding hx with ⟨-, hx⟩ | ⟨-, hx⟩
    · rcases List.mem_append.mp (hperm.subset hx) with hx | hx
      · exact h.reg x.1 (hs.registered i x hx)
      · exact h.taken x.1 (hextra.subset (List.mem_map_of_mem hx))
    · exact h.reg x.1 (hs.registered j x hx)

/-- What REQBUFS leaves: the invariant, the mappings, and new buffers only where
none is live. -/
theorem Decoder.MmapInv.reqbufs (hs : s.MmapInv B) (hi : s.sessions i = some session)
    {queue : QueueType} {memory : MemoryType} {count : UInt32} {c : Called β S UInt32}
    (h : s.device.reqbufs B checks session queue memory count = .ok c) :
    ({ s with device := c.device }.setSession i (some c.session)).MmapInv B ∧
      Quiet s.device.hostMapper.manager c.device.hostMapper.manager ∧
      ∀ b ∈ session.granted c.session queue, ¬s.device.hostMapper.manager.Occupied b.offset := by
  have hsorted := hs.held.maps.sorted
  -- the device is unchanged and the session holds what it held
  have hsame : ({ s with device := s.device }.setSession i (some session)).MmapInv B ∧
      Quiet s.device.hostMapper.manager s.device.hostMapper.manager ∧
      ∀ b ∈ session.granted session queue, ¬s.device.hostMapper.manager.Occupied b.offset := by
    refine ⟨hs.grow hi (.refl hsorted) [] (by simp) (by simp), .refl hsorted, ?_⟩
    rw [DecoderSession.granted_self]
    exact fun b hb => absurd hb (by simp)
  rcases reqbufs_cases h with rfl | ⟨bufs, hb, ⟨-, rfl⟩ | ⟨-, size, r, -, hr, hcase⟩⟩
  · exact hsame
  · obtain ⟨hbufs, -⟩ := DecoderSession.setBuffers_cases hb (bufs.take count.toNat)
      (B.buffersAllocated session.backendSession queue.direction count)
    refine ⟨hs.shrink hi ?_, unregisterAll_quiet hsorted _, ?_⟩
    · have hperm := (DecoderSession.shrink_perm hb count.toNat
        (B.buffersAllocated session.backendSession queue.direction count)).map B.claim
      rw [List.map_append] at hperm
      exact hperm
    · intro b hmem
      simp only [DecoderSession.granted, hbufs, hb, Option.getD_some] at hmem
      rw [List.drop_eq_nil_of_le (List.length_take_le' _ _)] at hmem
      exact absurd hmem (by simp)
  · obtain ⟨m, os, hdev, hgrown, -, hnews, -⟩ := allocateBuffers_grown hsorted hr
    rcases hcase with ⟨e, -, rfl⟩ | ⟨news, hres, rfl⟩ <;> rw [hdev]
    · refine ⟨hs.grow hi hgrown.toGrown []
        (by simp [DecoderSession.held, DecoderSession.withBackend]) (by simp), hgrown.toQuiet, ?_⟩
      intro b hmem
      apply hsame.2.2 b
      rcases DecoderSession.buffers_cases hb with ⟨rfl, -⟩ | ⟨rfl, -⟩ <;> exact hmem
    · obtain ⟨hbufs, -⟩ := DecoderSession.setBuffers_cases hb (bufs ++ news)
        (B.buffersAllocated r.2.2 queue.direction count)
      have hos := (hnews news hres).1
      refine ⟨hs.grow hi hgrown.toGrown news ?_ (by rw [hos]), hgrown.toQuiet, ?_⟩
      · have hperm : DecoderSession.held B _ ~ _ := (DecoderSession.grow_perm hb news
          (B.buffersAllocated r.2.2 queue.direction count)).map B.claim
        rw [List.map_append] at hperm
        exact hperm
      · intro b hmem
        simp only [DecoderSession.granted, hbufs, hb, Option.getD_some, List.drop_left] at hmem
        apply hgrown.fresh
        rw [← hos]
        exact List.mem_map_of_mem hmem

/-- MMAP maps the memory of a buffer that the caller holds, or fails. -/
theorem Decoder.MmapInv.mmap (hs : s.MmapInv B) (hi : s.sessions i = some session)
    {flags offset : UInt32} {answer : Except Int UInt64} {c : Called β S (UInt64 × UInt64)}
    (h : s.device.doMmap B session flags offset answer = .ok c) :
    ({ s with device := c.device }.setSession i (some c.session)).MmapInv B ∧
      ∀ a n, c.result = .ok (a, n) → ∃ fd, (offset, some fd) ∈ s.held B i ∧
        lastAdd c.device.hostMapper.log offset = some (fd, a) := by
  have hheld : ∀ d, ({ s with device := d }.setSession i (some session)).held B = s.held B := by
    intro d
    rw [Decoder.held_setSession]
    exact holding_self (Decoder.held_of_some hi).symm
  rcases doMmap_cases h with rfl | ⟨buffer, fd, rw, ⟨hbuffer, hoffset⟩, hfd, rfl⟩
  · exact ⟨⟨hheld _ ▸ hs.held, hheld _ ▸ hs.registered⟩, fun _ _ hres => by cases hres⟩
  · have hmem : (offset, some fd) ∈ s.held B i := by
      rw [Decoder.held_of_some hi]
      exact List.mem_map.mpr ⟨buffer, hbuffer, Prod.ext hoffset hfd⟩
    obtain ⟨hinv, hlast⟩ := hs.held.create hmem rw answer
    refine ⟨⟨hheld _ ▸ hinv, ?_⟩, ?_⟩
    · rw [hheld]
      exact fun j x hx => (MmapMappingManager.registered_createMapping _ _ _ _ _ _).mpr
        (hs.registered j x hx)
    · intro a n hres
      exact ⟨fd, hmem, hlast a n (mapError_eq_ok.mp hres)⟩

/-- MUNMAP is not tied to a session. -/
theorem Decoder.MmapInv.munmap (hs : s.MmapInv B) (guestAddr : UInt64) :
    ({ s with device := (s.device.doMunmap guestAddr).2 } : Decoder β S).MmapInv B where
  held := hs.held.remove guestAddr
  registered := fun j x hx => (MmapMappingManager.registered_removeMapping _ guestAddr _).mpr
    (hs.registered j x hx)

/-- A new session holds no buffer. -/
theorem Decoder.MmapInv.openSession (hs : s.MmapInv B) (b : β) :
    ({ s with device := s.device }.setSession i (some (.new i b))).MmapInv B := by
  constructor
  · rw [Decoder.held_setSession]
    exact hs.held.drop List.nil_subperm
  · intro j x hx
    rw [Decoder.held_setSession] at hx
    rcases mem_holding hx with ⟨-, hx⟩ | ⟨-, hx⟩
    · exact absurd hx (List.not_mem_nil)
    · exact hs.registered j x hx

/-- The offsets of a closed session are free again. -/
theorem Decoder.MmapInv.closeSession (hs : s.MmapInv B) (hi : s.sessions i = some session) :
    ({ s with device := s.device.closeSession session }.setSession i none).MmapInv B :=
  hs.shrink hi (.refl _)

end Reqbufs

/-! The commands that concern buffers and their mappings. -/

inductive MmapCommand (β : Type) where
  | openSession (sessionId : UInt32) (answer : Except Int β)
  | closeSession (sessionId : UInt32)
  | reqbufs (sessionId : UInt32) (queue : QueueType) (memory : MemoryType) (count : UInt32)
  | mmap (sessionId : UInt32) (flags offset : UInt32) (answer : Except Int UInt64)
  | munmap (guestAddr : UInt64)

def MmapCommand.action : MmapCommand β → DecoderAction β
  | .openSession sessionId answer => .openSession sessionId answer
  | .closeSession sessionId => .closeSession sessionId
  | .reqbufs sessionId queue memory count => .call sessionId (.reqbufs queue memory count)
  | .mmap sessionId flags offset answer => .call sessionId (.mmap flags offset answer)
  | .munmap guestAddr => .munmap guestAddr

def Decoder.nextMmap (B : DecoderBackend β S) (checks : Bool) (s : Decoder β S)
    (c : MmapCommand β) : Option (Decoder β S) := s.next B checks c.action

/-- MMAP answers an address only for an offset of a buffer that the session
holds, and it is what `add_mapping` answered last for that offset and that
buffer's file. REQBUFS gives no buffer an offset at which a mapping is live,
and touches no buffer at such an offset. -/
def Decoder.MapsOwn (B : DecoderBackend β S) (checks : Bool) (s : Decoder β S) :
    MmapCommand β → Prop
  | .mmap sessionId flags offset answer =>
    ∀ session c a n, s.sessions sessionId = some session →
      s.device.doMmap B session flags offset answer = .ok c → c.result = .ok (a, n) →
      ∃ b ∈ session.inputBuffers ++ session.outputBuffers, b.offset = offset ∧
        ∃ fd, B.fdForPlane b.backing 0 = some fd ∧
          lastAdd c.device.hostMapper.log offset = some (fd, a)
  | .reqbufs sessionId queue memory count =>
    ∀ session c, s.sessions sessionId = some session →
      s.device.reqbufs B checks session queue memory count = .ok c →
      (∀ b ∈ session.granted c.session queue, ¬LiveAt s.device.hostMapper.log b.offset) ∧
        KeepsLive s.device.hostMapper c.device.hostMapper.manager
  | _ => True

/-- What a reached state says about a successful MMAP. -/
theorem Decoder.MmapInv.mapsOwn {s : Decoder β S} (hs : s.MmapInv B) (c : MmapCommand β) :
    s.MapsOwn B checks c := by
  cases c with
  | openSession sessionId answer => trivial
  | closeSession sessionId => trivial
  | munmap guestAddr => trivial
  | reqbufs sessionId queue memory count =>
      intro session c hi h
      obtain ⟨-, hquiet, hfresh⟩ := hs.reqbufs hi h
      exact ⟨fun b hb => hs.held.maps.not_live (hfresh b hb), hs.held.maps.keepsLive hquiet⟩
  | mmap sessionId flags offset answer =>
      intro session c a n hi h hres
      obtain ⟨fd, hmem, hlast⟩ := (hs.mmap hi h).2 a n hres
      rw [Decoder.held_of_some hi] at hmem
      obtain ⟨b, hb, hclaim⟩ := List.mem_map.mp hmem
      obtain ⟨ho, hfd⟩ := Prod.mk.inj hclaim
      exact ⟨b, hb, ho, fd, hfd, hlast⟩

/-- Every command to the decoder keeps the holders of the offsets. -/
theorem Decoder.MmapInv.step {s s' : Decoder β S} (hs : s.MmapInv B) {c : MmapCommand β}
    (h : s.nextMmap B checks c = some s') : s'.MmapInv B := by
  rcases Decoder.next_cases h with rfl | ⟨guestAddr, -, rfl⟩ | ⟨i, b, -, -, rfl⟩ |
    ⟨i, session, -, hi, rfl⟩ | ⟨i, call, session, p, ha, hi, hp, rfl⟩
  · exact hs
  · exact hs.munmap guestAddr
  · exact hs.openSession _
  · exact hs.closeSession hi
  · cases c with
    | openSession sessionId answer => cases ha
    | closeSession sessionId => cases ha
    | munmap guestAddr => cases ha
    | reqbufs sessionId queue memory count =>
        cases ha
        obtain ⟨c, hc, rfl⟩ := map_eq_ok.mp hp
        exact (hs.reqbufs hi hc).1
    | mmap sessionId flags offset answer =>
        cases ha
        obtain ⟨c, hc, rfl⟩ := map_eq_ok.mp hp
        exact (hs.mmap hi hc).1

/-- What is promised of every command: afterwards the offsets of all buffers of
all sessions are distinct. -/
def Decoder.MmapLaw (B : DecoderBackend β S) (checks : Bool) (s : Decoder β S)
    (c : MmapCommand β) : Prop :=
  s.MapsOwn B checks c ∧ ∀ s', s.nextMmap B checks c = some s' → Distinct (s'.held B)

end Decoder

/-! ### The capture device -/

namespace Simple

variable {checks : Bool}

/-- The offset and the file of a buffer. -/
def Buffer.claim (b : Buffer) : UInt32 × Option Nat := (b.offset, some b.fd)

def Session.held (s : Session) : List (UInt32 × Option Nat) := s.buffers.map Buffer.claim

def Capture.held (s : Capture) (i : UInt32) : List (UInt32 × Option Nat) :=
  (s.sessions i).elim [] (·.held)

theorem Capture.held_of_some {s : Capture} {i : UInt32} {session : Session}
    (h : s.sessions i = some session) : s.held i = session.held := by
  simp [Capture.held, h]

theorem Capture.held_setSession (s : Capture) (d : CaptureDevice) (i : UInt32)
    (v : Option Session) :
    ({ s with device := d }.setSession i v).held = holding s.held i (v.elim [] (·.held)) := by
  funext j
  by_cases hj : j = i <;> simp [Capture.held, Capture.setSession, holding, hj]

/-- Only the active session holds buffers. -/
structure Capture.MmapInv (s : Capture) : Prop where
  held : HeldInv s.device.mmapManager s.held
  ids : ∀ i session, s.sessions i = some session → session.id = i
  active : ∀ i, s.held i ≠ [] → s.device.activeSession = some i

/-- The call changes neither the mappings nor what the session holds. -/
structure SameHeld (d : CaptureDevice) (s : Session) (d' : CaptureDevice) (s' : Session) :
    Prop where
  manager : d'.mmapManager = d.mmapManager
  active : d'.activeSession = d.activeSession
  id : s'.id = s.id
  held : s'.held = s.held

theorem SameHeld.refl (d : CaptureDevice) (s : Session) : SameHeld d s d s := ⟨rfl, rfl, rfl, rfl⟩

theorem SameHeld.trans {d₁ d₂ d₃ : CaptureDevice} {s₁ s₂ s₃ : Session}
    (h : SameHeld d₁ s₁ d₂ s₂) (h' : SameHeld d₂ s₂ d₃ s₃) : SameHeld d₁ s₁ d₃ s₃ where
  manager := h'.manager.trans h.manager
  active := h'.active.trans h.active
  id := h'.id.trans h.id
  held := h'.held.trans h.held

theorem held_set {bufs : List Buffer} {i : Nat} {b b' : Buffer} (hb : bufs[i]? = some b)
    (hclaim : b'.claim = b.claim) : (bufs.set i b').map Buffer.claim = bufs.map Buffer.claim := by
  rw [List.map_set, hclaim]
  have hi : (bufs.map Buffer.claim)[i]? = some b.claim := by simp [hb]
  obtain ⟨hlt, heq⟩ := List.getElem?_eq_some_iff.mp hi
  rw [← heq, List.set_getElem_self]

theorem held_reset (bufs : List Buffer) :
    (bufs.map Buffer.reset).map Buffer.claim = bufs.map Buffer.claim := by
  rw [List.map_map]
  rfl

/-- A frame that is written changes neither the file of a buffer nor its offset.
-/
theorem finish_claim {b b' : Buffer} {sequence : UInt32}
    (h : b.finish checks sequence = .ok b') : b'.claim = b.claim := by
  unfold Buffer.finish at h
  split at h
  · cases h
  · cases h
    rfl

/-- By induction on the queued buffers. -/
theorem processQueued_sameHeld {io : Nat → Bool} {queued : List Nat} {d : CaptureDevice}
    {s : Session} {c : Called Unit} (h : processQueued checks io queued d s = .ok c) :
    SameHeld d s c.device c.session := by
  induction queued generalizing d s with
  | nil =>
      cases h
      exact ⟨rfl, rfl, rfl, rfl⟩
  | cons i rest ih =>
      simp only [processQueued] at h
      split at h
      · cases h
        exact ⟨rfl, rfl, rfl, rfl⟩
      · rename_i b hb
        split at h
        · cases h
          exact ⟨rfl, rfl, rfl, rfl⟩
        · obtain ⟨b', hb', h⟩ := bind_eq_ok.mp h
          have hstep := ih h
          exact ⟨hstep.manager, hstep.active, hstep.id,
            hstep.held.trans (held_set hb (finish_claim hb'))⟩

theorem qbuf_sameHeld {io : Nat → Bool} {d : CaptureDevice} {s : Session} {index : UInt32}
    {c : Called DecoderV4l2Buffer} (h : d.qbuf checks io s index = .ok c) :
    SameHeld d s c.device c.session := by
  unfold CaptureDevice.qbuf at h
  split at h
  · cases h
    exact .refl d s
  · rename_i b hb
    split at h
    · cases h
      exact .refl d s
    · have hqueued : SameHeld d s d { s with
          buffers := s.buffers.set index.toNat b.enqueue
          queuedBuffers := s.queuedBuffers ++ [index.toNat] } :=
        ⟨rfl, rfl, rfl, held_set hb rfl⟩
      dsimp only at h
      split at h
      · obtain ⟨r, hr, rfl⟩ := map_eq_ok.mp h
        exact hqueued.trans (processQueued_sameHeld hr)
      · cases h
        exact hqueued

theorem streamon_sameHeld {io : Nat → Bool} {d : CaptureDevice} {s : Session} {queue : QueueType}
    {c : Called Unit} (h : d.streamon checks io s queue = .ok c) :
    SameHeld d s c.device c.session := by
  unfold CaptureDevice.streamon at h
  split at h
  · cases h
    exact .refl d s
  · have hstart : SameHeld d s d { s with streaming := true } := ⟨rfl, rfl, rfl, rfl⟩
    exact hstart.trans (processQueued_sameHeld h)

theorem stop_held (s : Session) : s.stop.held = s.held := held_reset s.buffers

/-- STREAMOFF resets buffers that stay where they are. -/
theorem streamoff_sameHeld (d : CaptureDevice) (s : Session) (queue : QueueType) :
    SameHeld d s (d.streamoff s queue).device (d.streamoff s queue).session := by
  unfold CaptureDevice.streamoff
  split
  · exact .refl d s
  · exact ⟨rfl, rfl, rfl, stop_held s⟩

/-- The offsets that the loop of REQBUFS registers until a buffer cannot be
allocated. -/
def reserved (checks : Bool) (memfd : Nat → Option Nat) :
    List Nat → MmapMappingManager → Option (List UInt32)
  | [], _ => some []
  | i :: rest, m =>
    match memfd i with
    | none => some []
    | some _ =>
      match m.registerBuffer checks none bufferSize with
      | none => none
      | some (.error _, _) => some []
      | some (.ok offset, m) => (reserved checks memfd rest m).map (offset :: ·)

/-- What the loop of REQBUFS registers. It fails if and only if that is not
enough. -/
theorem allocateBuffers_grown {memfd : Nat → Option Nat} {is : List Nat} {t : Tracked}
    {r : Except Int (List Buffer) × Tracked} (hs : t.manager.Sorted)
    (h : allocateBuffers checks memfd is t = .ok r) :
    ∃ m os, r.2 = { t with manager := m } ∧ GrownBy t.manager m os ∧
      reserved checks memfd is t.manager = some os ∧
      (∀ news, r.1 = .ok news → news.map (·.offset) = os ∧ os.length = is.length) ∧
      ∀ e, r.1 = .error e → os.length < is.length := by
  induction is generalizing t r with
  | nil =>
      cases h
      refine ⟨_, [], rfl, .refl hs, rfl, ?_, fun _ h => by cases h⟩
      rintro news ⟨⟩
      exact ⟨rfl, rfl⟩
  | cons i rest ih =>
      simp only [allocateBuffers] at h
      simp only [reserved]
      cases hfd : memfd i with
      | none =>
          rw [hfd] at h
          cases h
          exact ⟨_, [], rfl, .refl hs, rfl, fun _ h => (by cases h), fun _ _ => by simp⟩
      | some fd =>
          simp only [hfd] at h ⊢
          cases hreg : t.manager.registerBuffer checks none bufferSize with
          | none => simp [hreg] at h
          | some p =>
              obtain ⟨res, m⟩ := p
              simp only [hreg] at h ⊢
              rcases registerBuffer_cases hs hreg with ⟨e, rfl, rfl⟩ | ⟨o, rfl, hgrown⟩
              · cases h
                exact ⟨_, [], rfl, .refl hs, rfl, fun _ h => (by cases h), fun _ _ => by simp⟩
              · obtain ⟨r', hr', rfl⟩ := map_eq_ok.mp h
                obtain ⟨m', os, hdev, hrest, hreserved, hnews, hshort⟩ := ih
                  (t := { t with manager := m }) hgrown.sorted hr'
                refine ⟨m', o :: os, hdev, hgrown.cons hrest, ?_, offsets_cons hnews hshort⟩
                exact Option.map_eq_some_iff.mpr ⟨os, hreserved, rfl⟩

section Steps

variable {s : Capture} {i : UInt32} {session : Session}

/-- The device and the session change. -/
theorem Capture.MmapInv.renew (hs : s.MmapInv) {d : CaptureDevice} {v : Option Session}
    (hid : ∀ session, v = some session → session.id = i)
    (hd : HeldInv d.mmapManager (holding s.held i (v.elim [] (·.held))))
    (hactive : ∀ j, holding s.held i (v.elim [] (·.held)) j ≠ [] → d.activeSession = some j) :
    ({ s with device := d }.setSession i v).MmapInv := by
  have hheld := Capture.held_setSession s d i v
  refine ⟨hheld ▸ hd, ?_, hheld ▸ hactive⟩
  intro j session hj
  simp only [Capture.setSession] at hj
  split at hj
  · rename_i hji
    rw [hid session hj, hji]
  · exact hs.ids j session hj

/-- The device and the session change, and the session holds the same. -/
theorem Capture.MmapInv.same (hs : s.MmapInv) (hi : s.sessions i = some session)
    {d : CaptureDevice} {session' : Session} (hid : session'.id = session.id)
    (hheld : session'.held = session.held) (hd : HeldInv d.mmapManager s.held)
    (hactive : ∀ j, s.held j ≠ [] → d.activeSession = some j) :
    ({ s with device := d }.setSession i (some session')).MmapInv := by
  have hsame : holding s.held i session'.held = s.held :=
    holding_self (hheld.trans (Capture.held_of_some hi).symm)
  refine hs.renew ?_ (hsame.symm ▸ hd) (hsame.symm ▸ hactive)
  rintro _ ⟨⟩
  exact hid.trans (hs.ids i session hi)

/-- The calls that neither register nor unregister a buffer. -/
theorem Capture.MmapInv.sameHeld (hs : s.MmapInv) (hi : s.sessions i = some session)
    {d : CaptureDevice} {session' : Session} (h : SameHeld s.device session d session') :
    ({ s with device := d }.setSession i (some session')).MmapInv := by
  refine hs.same hi h.id h.held ?_ ?_
  · rw [h.manager]
    exact hs.held
  · rw [h.active]
    exact hs.active

/-- What REQBUFS leaves: the invariant, the mappings, and new buffers only where
none is live. -/
theorem Capture.MmapInv.reqbufs (hs : s.MmapInv) (hi : s.sessions i = some session)
    {queue : QueueType} {memory : MemoryType} {count : UInt32} {memfd : Nat → Option Nat}
    {c : Called UInt32}
    (h : s.device.reqbufs checks session queue memory count memfd = .ok c) :
    ({ s with device := c.device }.setSession i (some c.session)).MmapInv ∧
      Quiet s.device.mmapManager.manager c.device.mmapManager.manager ∧
      ∀ n, c.result = .ok n →
        ∀ b ∈ c.session.buffers, ¬LiveAt s.device.mmapManager.log b.offset := by
  rcases reqbufs_outcome h with ⟨-, e, rfl, -⟩ | ⟨hadmits, r, hr, rfl⟩
  · exact ⟨hs.sameHeld hi (.refl _ _), .refl hs.held.maps.sorted, fun _ hres => by cases hres⟩
  · have hid := hs.ids i session hi
    -- the other sessions hold nothing
    have hempty (j : UInt32) (hj : j ≠ i) : s.held j = [] := by
      by_contra hne
      exact hj ((eq_id_of_admits hadmits (hs.active j hne)).trans hid)
    have hquiet := unregisterAll_quiet hs.held.maps.sorted session.offsets
    have hinv := hs.held.quiet hquiet
    obtain ⟨m, os, ht, hgrown, -, hnews, hshort⟩ := allocateBuffers_grown hinv.maps.sorted hr
    have hinv' := hinv.quiet hgrown.toQuiet
    have hactive (hcount : count ≠ 0) :
        (s.device.takeOver session count).activeSession = some i := by
      rw [takeOver_active hcount, hid]
    cases hres : r.1 with
    | error e =>
        have hcount : count ≠ 0 := by
          rintro rfl
          exact absurd (hshort e hres) (Nat.not_lt_zero _)
        rw [settle_error hres, ht]
        refine ⟨?_, hquiet.trans hgrown.toQuiet, fun n hn => by cases hn⟩
        refine hs.same hi rfl (stop_held session) hinv' fun j hj => ?_
        have hji : j = i := by
          by_contra hne
          exact hj (hempty j hne)
        rw [hji]
        exact hactive hcount
    | ok news =>
        obtain ⟨hoffsets, hlength⟩ := hnews news hres
        rw [settle_ok hres, ht]
        have hnew (x : UInt32 × Option Nat) (hx : x ∈ news.map Buffer.claim) : x.1 ∈ os := by
          obtain ⟨b, hb, rfl⟩ := List.mem_map.mp hx
          rw [← hoffsets]
          exact List.mem_map_of_mem hb
        have hdistinct : Distinct (holding s.held i (news.map Buffer.claim)) := by
          refine hs.held.distinct.holding ?_ fun j hj x hx y hy => ?_
          · rw [List.map_map]
            exact hoffsets.symm ▸ hgrown.nodup
          · rw [hempty j hj] at hy
            exact absurd hy (by simp)
        refine ⟨?_, hquiet.trans hgrown.toQuiet, ?_⟩
        · refine hs.renew ?_ (hinv'.hold hdistinct fun x hx => hgrown.owns (hnew x hx)) ?_
          · rintro _ ⟨⟩
            exact hid
          · intro j hj
            by_cases hji : j = i
            · have hcount : count ≠ 0 := by
                rintro rfl
                obtain rfl : os = [] := List.length_eq_zero_iff.mp hlength
                obtain rfl : news = [] := List.map_eq_nil_iff.mp hoffsets
                simp [holding, hji, Session.held] at hj
              rw [hji]
              exact hactive hcount
            · exact absurd (hempty j hji) (by simpa [holding, hji] using hj)
        · intro n _ b hb
          refine hinv.maps.not_live (hgrown.fresh b.offset ?_)
          rw [← hoffsets]
          exact List.mem_map_of_mem hb

/-- MMAP maps the memory of a buffer that the caller holds, or fails. -/
theorem Capture.MmapInv.mmap (hs : s.MmapInv) (hi : s.sessions i = some session)
    (flags offset : UInt32) (answer : Except Int UInt64) :
    ({ s with device := (s.device.doMmap session flags offset answer).device }.setSession i
        (some (s.device.doMmap session flags offset answer).session)).MmapInv ∧
      ∀ a n, (s.device.doMmap session flags offset answer).result = .ok (a, n) →
        ∃ b ∈ session.buffers, b.offset = offset ∧
          lastAdd (s.device.doMmap session flags offset answer).device.mmapManager.log offset =
            some (b.fd, a) := by
  rcases doMmap_cases s.device session flags offset answer with h | ⟨b, hb, hbo, rw, h⟩ <;> rw [h]
  · exact ⟨hs.sameHeld hi (.refl _ _), fun _ _ hres => by cases hres⟩
  · have hmem : (offset, some b.fd) ∈ s.held i := by
      rw [Capture.held_of_some hi, ← hbo]
      exact List.mem_map_of_mem hb
    obtain ⟨hinv, hlast⟩ := hs.held.create hmem rw answer
    refine ⟨hs.same hi rfl rfl hinv hs.active, ?_⟩
    exact fun a n hres => ⟨b, hb, hbo, hlast a n (mapError_eq_ok.mp hres)⟩

theorem Capture.MmapInv.openSession (hs : s.MmapInv) (hi : s.sessions i = none) :
    ({ s with device := s.device }.setSession i (some (.open i))).MmapInv := by
  have hheld : holding s.held i [] = s.held := holding_self (by simp [Capture.held, hi])
  refine hs.renew ?_ ?_ ?_
  · rintro _ ⟨⟩
    rfl
  · exact hheld.symm ▸ hs.held
  · exact hheld.symm ▸ hs.active

/-- The offsets of a closed session are free again. -/
theorem Capture.MmapInv.closeSession (hs : s.MmapInv) (hi : s.sessions i = some session) :
    ({ s with device := s.device.closeSession session }.setSession i none).MmapInv := by
  have hid := hs.ids i session hi
  refine hs.renew (fun _ h => by cases h) ?_ ?_
  · rw [closeSession_manager]
    exact (hs.held.quiet (unregisterAll_quiet hs.held.maps.sorted _)).drop List.nil_subperm
  · intro j hj
    by_cases hji : j = i
    · simp [holding, hji] at hj
    · have hactive : s.device.activeSession = some j :=
        hs.active j (by simpa [holding, hji] using hj)
      simp [closeSession_active, hactive, hid, hji]

theorem Capture.MmapInv.munmap (hs : s.MmapInv) (guestAddr : UInt64) :
    ({ s with device := (s.device.doMunmap guestAddr).2 } : Capture).MmapInv where
  held := hs.held.remove guestAddr
  ids := hs.ids
  active := hs.active

end Steps

/-- The state after an action, if the program does not panic. -/
def Capture.next (checks : Bool) (s : Capture) (a : Action) : Option Capture :=
  (s.step checks a).toOption

/-- As `Decoder.MapsOwn`. A REQBUFS that succeeds replaces all buffers. -/
def Capture.MapsOwn (checks : Bool) (s : Capture) : Action → Prop
  | .call sessionId (.mmap flags offset answer) =>
    ∀ session a n, s.sessions sessionId = some session →
      (s.device.doMmap session flags offset answer).result = .ok (a, n) →
      ∃ b ∈ session.buffers, b.offset = offset ∧
        lastAdd (s.device.doMmap session flags offset answer).device.mmapManager.log offset =
          some (b.fd, a)
  | .call sessionId (.reqbufs queue memory count memfd) =>
    ∀ session c, s.sessions sessionId = some session →
      s.device.reqbufs checks session queue memory count memfd = .ok c →
      (∀ n, c.result = .ok n →
        ∀ b ∈ c.session.buffers, ¬LiveAt s.device.mmapManager.log b.offset) ∧
        KeepsLive s.device.mmapManager c.device.mmapManager.manager
  | _ => True

/-- What a reached state says about a successful MMAP. -/
theorem Capture.MmapInv.mapsOwn {s : Capture} (hs : s.MmapInv) (a : Action) :
    s.MapsOwn checks a := by
  cases a with
  | openSession sessionId => trivial
  | closeSession sessionId => trivial
  | munmap guestAddr => trivial
  | call sessionId c =>
      cases c with
      | reqbufs queue memory count memfd =>
          intro session c hi h
          obtain ⟨-, hquiet, hfresh⟩ := hs.reqbufs hi h
          exact ⟨hfresh, hs.held.maps.keepsLive hquiet⟩
      | qbuf index io => trivial
      | streamon queue io => trivial
      | streamoff queue => trivial
      | mmap flags offset answer =>
          intro session a n hi
          exact (hs.mmap hi flags offset answer).2 a n

/-- An ioctl of one session; REQBUFS is the only one that registers. -/
theorem Capture.MmapInv.call {s : Capture} {i : UInt32} {session : Session} (hs : s.MmapInv)
    (hi : s.sessions i = some session) {c : Call} {p : CaptureDevice × Session}
    (h : s.device.call checks session c = .ok p) :
    ({ s with device := p.1 }.setSession i (some p.2)).MmapInv := by
  cases c with
  | reqbufs queue memory count memfd =>
      obtain ⟨c, hc, rfl⟩ := map_eq_ok.mp h
      exact (hs.reqbufs hi hc).1
  | qbuf index io =>
      obtain ⟨c, hc, rfl⟩ := map_eq_ok.mp h
      exact hs.sameHeld hi (qbuf_sameHeld hc)
  | streamon queue io =>
      obtain ⟨c, hc, rfl⟩ := map_eq_ok.mp h
      exact hs.sameHeld hi (streamon_sameHeld hc)
  | streamoff queue =>
      cases h
      exact hs.sameHeld hi (streamoff_sameHeld s.device session queue)
  | mmap flags offset answer =>
      cases h
      exact (hs.mmap hi flags offset answer).1

/-- Every command to the capture device keeps the holders of the offsets. -/
theorem Capture.MmapInv.step {s s' : Capture} (hs : s.MmapInv) {a : Action}
    (h : s.next checks a = some s') : s'.MmapInv := by
  rcases step_cases (toOption_eq_some.mp h) with rfl | ⟨guestAddr, -, rfl⟩ | ⟨i, -, hi, rfl⟩ |
    ⟨i, session, -, hi, rfl⟩ | ⟨i, c, session, p, -, hi, hp, rfl⟩
  · exact hs
  · exact hs.munmap guestAddr
  · exact hs.openSession hi
  · exact hs.closeSession hi
  · exact hs.call hi hp

/-- What is promised of every action: afterwards the offsets of all buffers of
all sessions are distinct. -/
def Capture.MmapLaw (checks : Bool) (s : Capture) (a : Action) : Prop :=
  s.MapsOwn checks a ∧ ∀ s', s.next checks a = some s' → Distinct s'.held

end Simple

/-- Every run of the decoder, with any backend, over commands that concern
buffers and mappings, and every run of the capture device keeps to its law. -/
theorem mmap_identity {β S : Type} (B : DecoderBackend β S) (checks : Bool)
    (commands : List (MmapCommand β)) (actions : List Simple.Action) :
    Trace.Conforms (Decoder.nextMmap B checks) (Decoder.MmapLaw B checks) .init commands ∧
      Trace.Conforms (Simple.Capture.next checks) (Simple.Capture.MmapLaw checks) .init
        actions := by
  constructor
  · have htrue : Trace.Conforms (Decoder.nextMmap B checks) (fun _ _ => True) .init commands :=
      Trace.conforms_true _ commands
    refine Trace.conforms_of_invariant (P := Decoder.MmapInv B) ?_ ?_ ?_ htrue
    · exact fun s c s' hs _ h => hs.step h
    · exact fun s c hs _ => ⟨hs.mapsOwn c, fun s' h => (hs.step h).held.distinct⟩
    · exact ⟨heldInv_init fun _ => rfl, fun i x hx => absurd hx List.not_mem_nil⟩
  · have htrue : Trace.Conforms (Simple.Capture.next checks) (fun _ _ => True) .init actions :=
      Trace.conforms_true _ actions
    refine Trace.conforms_of_invariant (P := Simple.Capture.MmapInv) ?_ ?_ ?_ htrue
    · exact fun s c s' hs _ h => hs.step h
    · exact fun s c hs _ => ⟨hs.mapsOwn c, fun s' h => (hs.step h).held.distinct⟩
    · exact ⟨heldInv_init fun _ => rfl, fun _ _ h => (by cases h), fun i hi => absurd rfl hi⟩

end VirtioMedia.Device
