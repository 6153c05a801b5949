import VirtioMedia.Device.BufferSizes
import VirtioMedia.Device.QueuedFlags
import VirtioMedia.Device.SimpleOwnership

/-!
# REQBUFS that fails midway

Both devices register the buffers of a request one after the other. When a
buffer cannot be allocated the decoder takes back that one and leaves the ones
before it registered. The capture device gives up the old buffers before it asks
for new ones, and takes nothing back. Then offsets are registered that nobody
holds, and buffers are held that are not registered.
-/

namespace VirtioMedia.Device

open V4l2 Fallible
open scoped List

/-! ### Registered and held -/

/-- The registered offsets are those of the buffers that the sessions hold. -/
structure RegistersHeld (m : MmapMappingManager) (held : UInt32 → List (UInt32 × Option Nat)) :
    Prop where
  sorted : m.Sorted
  distinct : Distinct held
  registered : ∀ o, m.Registered o ↔ ∃ i, o ∈ (held i).map Prod.fst

section Held

variable {m m' : MmapMappingManager} {held held' : UInt32 → List (UInt32 × Option Nat)} {i : UInt32}
  {l l' : List (UInt32 × Option Nat)}

theorem holding_at (held : UInt32 → List (UInt32 × Option Nat)) (i : UInt32)
    (l : List (UInt32 × Option Nat)) : holding held i l i = l := by
  simp [holding]

theorem holding_holding (held : UInt32 → List (UInt32 × Option Nat)) (i : UInt32)
    (l l' : List (UInt32 × Option Nat)) : holding (holding held i l) i l' = holding held i l' := by
  funext j
  simp only [holding]
  split <;> rfl

/-- What the sessions hold after one of them changed. -/
theorem held_holding_iff {o : UInt32} :
    (∃ j, o ∈ (holding held i l j).map Prod.fst) ↔
      o ∈ l.map Prod.fst ∨ ∃ j, j ≠ i ∧ o ∈ (held j).map Prod.fst := by
  constructor
  · rintro ⟨j, ho⟩
    by_cases hj : j = i
    · rw [hj, holding_at] at ho
      exact .inl ho
    · rw [holding, if_neg hj] at ho
      exact .inr ⟨j, hj, ho⟩
  · rintro (ho | ⟨j, hj, ho⟩)
    · exact ⟨i, by rwa [holding_at]⟩
    · exact ⟨j, by rwa [holding, if_neg hj]⟩

theorem held_iff (held : UInt32 → List (UInt32 × Option Nat)) (i : UInt32) {o : UInt32} :
    (∃ j, o ∈ (held j).map Prod.fst) ↔
      o ∈ (held i).map Prod.fst ∨ ∃ j, j ≠ i ∧ o ∈ (held j).map Prod.fst := by
  have hself : holding held i (held i) = held := holding_self rfl
  rw [← held_holding_iff, hself]

namespace RegistersHeld

/-- Neither what is registered nor what is held changes. -/
theorem same (h : RegistersHeld m held) (hsorted : m'.Sorted)
    (hregistered : ∀ o, m'.Registered o ↔ m.Registered o)
    (hheld : ∀ i, (held' i).map Prod.fst = (held i).map Prod.fst) : RegistersHeld m' held' where
  sorted := hsorted
  distinct := h.distinct.of_offsets hheld
  registered o := by
    rw [hregistered, h.registered]
    simp only [hheld]

/-- A session gives buffers up, and they are unregistered. -/
theorem drop (h : RegistersHeld m held) {gone : List (UInt32 × Option Nat)}
    (hperm : l ++ gone ~ held i) :
    RegistersHeld (m.unregisterAll (gone.map Prod.fst)) (holding held i l) where
  sorted := MmapMappingManager.unregisterAll_sorted h.sorted _
  distinct := h.distinct.drop ((List.sublist_append_left _ _).subperm.trans hperm.subperm)
  registered o := by
    have hoffsets : o ∈ (held i).map Prod.fst ↔
        o ∈ l.map Prod.fst ∨ o ∈ gone.map Prod.fst := by
      rw [← (hperm.map Prod.fst).mem_iff, List.map_append, List.mem_append]
    rw [MmapMappingManager.registered_unregisterAll h.sorted, h.registered]
    constructor
    · rintro ⟨ho, hnot⟩
      rw [held_holding_iff]
      rw [held_iff held i, hoffsets] at ho
      exact ho.imp_left fun ho => ho.resolve_right hnot
    · rintro ⟨j, ho⟩
      obtain ⟨x, hx, rfl⟩ := List.mem_map.mp ho
      refine ⟨?_, h.distinct.not_gone hperm hx⟩
      rw [held_iff held i, hoffsets]
      exact (held_holding_iff.mp ⟨j, ho⟩).imp_left .inl

/-- Buffers are registered, and a session holds all of them. -/
theorem grow (h : RegistersHeld m held) {os : List UInt32} (hm : GrownBy m m' os)
    {extra : List (UInt32 × Option Nat)} (hl : l ~ held i ++ extra)
    (hextra : extra.map Prod.fst = os) : RegistersHeld m' (holding held i l) where
  sorted := hm.sorted
  distinct := by
    refine h.distinct.grow (fun j x hx => ?_) hm.toGrown hl (by rw [hextra])
    exact ((h.registered x.1).mpr ⟨j, List.mem_map_of_mem hx⟩).occupied
  registered o := by
    have hoffsets : o ∈ l.map Prod.fst ↔ o ∈ (held i).map Prod.fst ∨ o ∈ os := by
      rw [(hl.map Prod.fst).mem_iff, List.map_append, List.mem_append, hextra]
    rw [hm.registered_iff, h.registered, held_iff held i, held_holding_iff, hoffsets]
    exact or_right_comm

end RegistersHeld

end Held

/-! ### The decoder -/

section Decoder

variable {β S : Type} {B : DecoderBackend β S} {checks : Bool} {d : VideoDecoder}
  {s : DecoderSession β S} {queue : QueueType} {memory : MemoryType} {count : UInt32}

/-- The offsets of the buffers of a session. -/
def DecoderSession.offsets (s : DecoderSession β S) : List UInt32 :=
  (s.inputBuffers ++ s.outputBuffers).map (·.offset)

/-- An open session holds a buffer at the offset. -/
def Decoder.Holds (s : Decoder β S) (o : UInt32) : Prop :=
  ∃ i session, s.sessions i = some session ∧ o ∈ session.offsets

/-- The call changed neither the session, apart from its backend, nor what is
registered. -/
structure VideoDecoder.Kept (d : VideoDecoder) (s : DecoderSession β S) (c : Called β S UInt32) :
    Prop where
  session : c.session = s.withBackend c.session.backendSession
  registered : ∀ o, c.device.hostMapper.manager.Registered o ↔ d.hostMapper.manager.Registered o

/-- A REQBUFS that fails changes nothing, and the registered offsets are those
that are held after every action. -/
structure Decoder.ReqbufsLaw (B : DecoderBackend β S) (checks : Bool) (s : Decoder β S)
    (a : DecoderAction β) : Prop where
  failed : ∀ i queue memory count session c e, a = .call i (.reqbufs queue memory count) →
    s.sessions i = some session →
    s.device.reqbufs B checks session queue memory count = .ok c → c.result = .error e →
    s.device.Kept session c
  held : ∀ s', s.next B checks a = some s' →
    ∀ o, s'.device.hostMapper.manager.Registered o ↔ s'.Holds o

/-- The indices of the buffers that REQBUFS allocates, and their size. -/
def DecoderSession.missing (B : DecoderBackend β S) (s : DecoderSession β S) (queue : QueueType)
    (memory : MemoryType) (count : UInt32) : Option (List Nat × UInt32) :=
  if memory = .mmap then
    (s.buffers queue).bind fun bufs =>
      if bufs.length ≤ count.toNat then
        (B.sizeimages s.backendSession queue.direction).head?.map fun size =>
          (List.range' bufs.length (count.toNat - bufs.length), size)
      else none
  else none

/-- REQBUFS can allocate all its buffers, or not even the first one. -/
def VideoDecoder.AllocatesWhole (B : DecoderBackend β S) (checks : Bool) (d : VideoDecoder)
    (s : DecoderSession β S) : DecoderCall → Prop
  | .reqbufs queue memory count =>
    ∀ is size os, s.missing B queue memory count = some (is, size) →
      B.reserved checks queue size is d.hostMapper.manager s.backendSession = some os →
      os.length = is.length ∨ os = []
  | _ => True

def Decoder.AllocatesWhole (B : DecoderBackend β S) (checks : Bool) (s : Decoder β S) :
    DecoderAction β → Prop
  | .call i c =>
    ∀ session, s.sessions i = some session → s.device.AllocatesWhole B checks session c
  | _ => True

/-- REQBUFS that has buffers to allocate fails if the loop does. -/
theorem reqbufs_of_missing {is : List Nat} {size : UInt32}
    (hmissing : s.missing B queue memory count = some (is, size))
    {r : Except Int (List (DecoderBuffer S)) × VideoDecoder × β}
    (hr : allocateBuffers B checks queue size is d s.backendSession = .ok r) {e : Int}
    (he : r.1 = .error e) :
    d.reqbufs B checks s queue memory count = .ok ⟨.error e, r.2.1, s.withBackend r.2.2⟩ := by
  unfold DecoderSession.missing at hmissing
  split at hmissing
  · rename_i hmemory
    obtain ⟨bufs, hbufs, hmissing⟩ := Option.bind_eq_some_iff.mp hmissing
    split at hmissing
    · rename_i hle
      obtain ⟨size', hsize, heq⟩ := Option.map_eq_some_iff.mp hmissing
      obtain ⟨rfl, rfl⟩ := Prod.mk.inj heq
      obtain ⟨rest, hsizes⟩ := List.head?_eq_some_iff.mp hsize
      rw [VideoDecoder.reqbufs, if_neg (not_not.mpr hmemory), hbufs]
      dsimp only
      rw [if_neg (not_lt.mpr hle), hsizes]
      dsimp only
      rw [hr]
      simp only [Except.map, he]
      rfl
    · cases hmissing
  · cases hmissing

/-- A REQBUFS that fails was refused, or its loop failed. -/
theorem reqbufs_error {c : Called β S UInt32} {e : Int}
    (h : d.reqbufs B checks s queue memory count = .ok c) (he : c.result = .error e) :
    c = ⟨.error einval, d, s⟩ ∨ ∃ is size r, s.missing B queue memory count = some (is, size) ∧
      allocateBuffers B checks queue size is d s.backendSession = .ok r ∧ r.1 = .error e ∧
      c = ⟨.error e, r.2.1, s.withBackend r.2.2⟩ := by
  rcases reqbufs_cases h with rfl | ⟨bufs, hbufs, ⟨-, rfl⟩ | ⟨⟨hmemory, hle⟩, size, r, hsize, hr,
    ⟨e', hres, rfl⟩ | ⟨news, -, rfl⟩⟩⟩
  · exact .inl rfl
  · cases he
  · cases he
    refine .inr ⟨_, size, r, ?_, hr, hres, rfl⟩
    rw [DecoderSession.missing, if_pos hmemory, hbufs, Option.bind_some, if_pos hle, hsize]
    rfl
  · cases he

/-- Where the loop can get it does get. -/
theorem allocateBuffers_of_reserved {size : UInt32} {is : List Nat} {d : VideoDecoder} {b : β}
    {os : List UInt32}
    (h : B.reserved checks queue size is d.hostMapper.manager b = some os) :
    ∃ r, allocateBuffers B checks queue size is d b = .ok r := by
  induction is generalizing d b os with
  | nil => exact ⟨_, rfl⟩
  | cons i rest ih =>
      simp only [DecoderBackend.reserved] at h
      simp only [allocateBuffers]
      cases hreg : d.hostMapper.manager.registerBuffer checks none size with
      | none => simp [hreg] at h
      | some p =>
          obtain ⟨res, m⟩ := p
          simp only [hreg] at h
          cases res with
          | error e => exact ⟨_, rfl⟩
          | ok o =>
              dsimp only
              cases hnew : B.new b queue (.ofNat i) size with
              | mk res b' =>
                  rw [hnew] at h
                  cases res with
                  | error e => exact ⟨_, rfl⟩
                  | ok backing =>
                      obtain ⟨os', hos', -⟩ := Option.map_eq_some_iff.mp h
                      obtain ⟨r, hr⟩ := ih
                        (d := { d with hostMapper := { d.hostMapper with manager := m } }) hos'
                      exact ⟨_, map_eq_ok.mpr ⟨r, hr, rfl⟩⟩

/-- A REQBUFS that fails changes nothing if and only if it failed before it
registered a buffer. -/
theorem reqbufs_kept_iff (hs : d.hostMapper.manager.Sorted) :
    (∀ c e, d.reqbufs B checks s queue memory count = .ok c → c.result = .error e →
      d.Kept s c) ↔ d.AllocatesWhole B checks s (.reqbufs queue memory count) := by
  constructor
  · intro h is size os hmissing hreserved
    obtain ⟨r, hr⟩ := allocateBuffers_of_reserved hreserved
    obtain ⟨m, os', hdev, hgrown, hos', hnews, -⟩ := allocateBuffers_grown hs hr
    obtain rfl : os' = os := Option.some.inj (hos'.symm.trans hreserved)
    cases hres : r.1 with
    | ok news => exact .inl (hnews news hres).2
    | error e =>
        have hkept := h _ e (reqbufs_of_missing hmissing hr hres) rfl
        refine .inr (List.eq_nil_iff_forall_not_mem.mpr fun o ho => ?_)
        have hafter : r.2.1.hostMapper.manager.Registered o := by
          rw [hdev]
          exact hgrown.taken o ho
        exact hgrown.fresh o ho ((hkept.registered o).mp hafter).occupied
  · intro h c e hc he
    rcases reqbufs_error hc he with rfl | ⟨is, size, r, hmissing, hr, hres, rfl⟩
    · exact ⟨rfl, fun _ => .rfl⟩
    · obtain ⟨m, os, hdev, hgrown, hos, -, hshort⟩ := allocateBuffers_grown hs hr
      have hlt := hshort e hres
      obtain rfl : os = [] := (h is size os hmissing hos).resolve_left (by omega)
      refine ⟨rfl, fun o => ?_⟩
      change r.2.1.hostMapper.manager.Registered o ↔ _
      rw [hdev]
      exact (hgrown.registered_iff o).trans (or_iff_left List.not_mem_nil)

/-! ### Runs of the decoder -/

theorem DecoderSession.held_offsets (s : DecoderSession β S) :
    (s.held B).map Prod.fst = s.offsets := by
  rw [DecoderSession.held, DecoderSession.offsets, List.map_map]
  rfl

theorem Decoder.holds_iff {s : Decoder β S} {o : UInt32} :
    s.Holds o ↔ ∃ i, o ∈ (s.held B i).map Prod.fst := by
  constructor
  · rintro ⟨i, session, hi, ho⟩
    refine ⟨i, ?_⟩
    rwa [Decoder.held_of_some hi, DecoderSession.held_offsets]
  · rintro ⟨i, ho⟩
    cases hi : s.sessions i with
    | none => simp [Decoder.held, hi] at ho
    | some session =>
        rw [Decoder.held_of_some hi, DecoderSession.held_offsets] at ho
        exact ⟨i, session, hi, ho⟩

/-- A call other than REQBUFS leaves the buffers of the session where they are. -/
theorem call_offsets {c : DecoderCall} {p : VideoDecoder × DecoderSession β S}
    (h : VideoDecoder.call B checks d s c = .ok p) (hc : c.isReqbufs = false) :
    p.2.offsets = s.offsets := by
  have hview (t : DecoderSession β S) : t.offsets =
      (t.views .output).map (·.plane.memOffset) ++ (t.views .capture).map (·.plane.memOffset) := by
    simp only [DecoderSession.offsets, DecoderSession.views, List.map_append, List.map_map]
    rfl
  rw [hview, hview, (call_views h .output).offsets hc, (call_views h .capture).offsets hc]

/-- The invariant of the decoder. -/
def Decoder.RegistersHeld (B : DecoderBackend β S) (s : Decoder β S) : Prop :=
  Device.RegistersHeld s.device.hostMapper.manager (s.held B)

section Step

variable {s s' : Decoder β S} {i : UInt32} {session : DecoderSession β S}

/-- The offsets of one session and what is registered stay as they are. -/
theorem Decoder.RegistersHeld.same (hs : s.RegistersHeld B) (hi : s.sessions i = some session)
    {d : VideoDecoder} {session' : DecoderSession β S}
    (hsorted : d.hostMapper.manager.Sorted)
    (hregistered : ∀ o, d.hostMapper.manager.Registered o ↔
      s.device.hostMapper.manager.Registered o)
    (hoffsets : session'.offsets = session.offsets) :
    ({ s with device := d }.setSession i (some session')).RegistersHeld B := by
  refine Device.RegistersHeld.same hs hsorted hregistered fun j => ?_
  rw [Decoder.held_setSession]
  unfold holding
  split
  · rename_i hj
    rw [hj, Decoder.held_of_some hi, Option.elim_some, DecoderSession.held_offsets,
      DecoderSession.held_offsets, hoffsets]
  · rfl

/-- A session gives buffers up, and they are unregistered. -/
theorem Decoder.RegistersHeld.shrink (hs : s.RegistersHeld B) (hi : s.sessions i = some session)
    {v : Option (DecoderSession β S)} {gone : List (DecoderBuffer S)}
    (hperm : v.elim [] (·.held B) ++ gone.map B.claim ~ session.held B) :
    ({ s with device := s.device.unregister gone }.setSession i v).RegistersHeld B := by
  rw [← Decoder.held_of_some hi] at hperm
  have hdrop := Device.RegistersHeld.drop hs hperm
  rw [← Decoder.held_setSession s (s.device.unregister gone), List.map_map] at hdrop
  exact hdrop

theorem Decoder.RegistersHeld.reqbufs (hs : s.RegistersHeld B) (hi : s.sessions i = some session)
    {queue : QueueType} {memory : MemoryType} {count : UInt32} {c : Called β S UInt32}
    (hwhole : s.device.AllocatesWhole B checks session (.reqbufs queue memory count))
    (h : s.device.reqbufs B checks session queue memory count = .ok c) :
    ({ s with device := c.device }.setSession i (some c.session)).RegistersHeld B := by
  have hsorted : s.device.hostMapper.manager.Sorted := hs.sorted
  have hfailed := (reqbufs_kept_iff hsorted).mpr hwhole c
  rcases reqbufs_cases h with rfl | ⟨bufs, hbufs, ⟨-, rfl⟩ | ⟨-, size, r, -, hr, hcase⟩⟩
  · exact hs.same hi hsorted (fun _ => .rfl) rfl
  · refine hs.shrink hi ?_
    have hperm := (DecoderSession.shrink_perm hbufs count.toNat
      (B.buffersAllocated session.backendSession queue.direction count)).map B.claim
    rw [List.map_append] at hperm
    exact hperm
  · obtain ⟨m, os, hdev, hgrown, -, hnews, -⟩ := allocateBuffers_grown hsorted hr
    rcases hcase with ⟨e, -, rfl⟩ | ⟨news, hres, rfl⟩
    · refine hs.same hi ?_ (hfailed e h rfl).registered rfl
      change r.2.1.hostMapper.manager.Sorted
      rw [hdev]
      exact hgrown.sorted
    · have hperm : DecoderSession.held B _ ~ _ := (DecoderSession.grow_perm hbufs news
        (B.buffersAllocated r.2.2 queue.direction count)).map B.claim
      rw [List.map_append] at hperm
      change _ ~ session.held B ++ _ at hperm
      rw [← Decoder.held_of_some hi] at hperm
      have hgrow := Device.RegistersHeld.grow hs hgrown hperm
        (by rw [List.map_map]; exact (hnews news hres).1)
      rw [Decoder.RegistersHeld, Decoder.held_setSession, hdev]
      exact hgrow

theorem Decoder.RegistersHeld.next (hs : s.RegistersHeld B) {a : DecoderAction β}
    (hwhole : s.AllocatesWhole B checks a) (h : s.next B checks a = some s') :
    s'.RegistersHeld B := by
  have hsorted : s.device.hostMapper.manager.Sorted := hs.sorted
  rcases Decoder.next_cases h with rfl | ⟨guestAddr, -, rfl⟩ | ⟨i, b, -, hi, rfl⟩ |
    ⟨i, session, -, hi, rfl⟩ | ⟨i, c, session, p, rfl, hi, hp, rfl⟩
  · exact hs
  · refine Device.RegistersHeld.same hs ?_ ?_ fun _ => rfl
    · exact MmapMappingManager.removeMapping_sorted hsorted guestAddr
    · exact MmapMappingManager.registered_removeMapping _ guestAddr
  · rw [Decoder.RegistersHeld, Decoder.held_setSession s s.device, holding_self]
    · exact hs
    · simp [Decoder.held, hi, DecoderSession.held, DecoderSession.new]
  · exact hs.shrink hi (.refl _)
  · have hwhole := hwhole session hi
    by_cases hc : c.isReqbufs = true
    · cases c with
      | reqbufs queue memory count =>
          obtain ⟨c, hc, rfl⟩ := map_eq_ok.mp hp
          exact hs.reqbufs hi hwhole hc
      | _ => cases hc
    · have hreg := call_sameRegistered (by rintro queue memory count rfl; exact hc rfl) hp
      refine hs.same hi (hreg.sorted hsorted) (fun o => ?_) (call_offsets hp (by simpa using hc))
      rw [MmapMappingManager.registered_iff, MmapMappingManager.registered_iff]
      simp only [hreg.registered]

/-- An action that is not a REQBUFS keeps the law. One that is keeps it if and only
if it allocates all or nothing. -/
theorem Decoder.reqbufsLaw_iff (hs : s.RegistersHeld B) (a : DecoderAction β) :
    s.ReqbufsLaw B checks a ↔ s.AllocatesWhole B checks a := by
  have hsorted : s.device.hostMapper.manager.Sorted := hs.sorted
  constructor
  · intro h
    cases a with
    | call i c =>
        intro session hi
        cases c with
        | reqbufs queue memory count =>
            refine (reqbufs_kept_iff hsorted).mp fun c e hc he => ?_
            exact h.failed i queue memory count session c e rfl hi hc he
        | _ => trivial
    | _ => trivial
  · intro hwhole
    constructor
    · rintro i queue memory count session c e rfl hi hc he
      exact (reqbufs_kept_iff hsorted).mpr (hwhole session hi) c e hc he
    · intro s' h o
      rw [Decoder.holds_iff (B := B)]
      exact (hs.next hwhole h).registered o

end Step

end Decoder

/-! ### The capture device -/

namespace Simple

variable {checks : Bool} {d : CaptureDevice} {s : Session} {queue : QueueType}
  {memory : MemoryType} {count : UInt32} {memfd : Nat → Option Nat}

/-- An open session holds a buffer at the offset. -/
def Capture.Holds (s : Capture) (o : UInt32) : Prop :=
  ∃ i session, s.sessions i = some session ∧ o ∈ session.offsets

/-- The call changed neither the session, nor who is active, nor what is
registered. -/
structure CaptureDevice.Kept (d : CaptureDevice) (s : Session) (c : Called UInt32) : Prop where
  session : c.session = s
  active : c.device.activeSession = d.activeSession
  registered : ∀ o, c.device.mmapManager.manager.Registered o ↔
    d.mmapManager.manager.Registered o

/-- As `Decoder.ReqbufsLaw`. -/
structure Capture.ReqbufsLaw (checks : Bool) (s : Capture) (a : Action) : Prop where
  failed : ∀ i queue memory count memfd session c e,
    a = .call i (.reqbufs queue memory count memfd) → s.sessions i = some session →
    s.device.reqbufs checks session queue memory count memfd = .ok c → c.result = .error e →
    s.device.Kept session c
  held : ∀ s', s.next checks a = some s' →
    ∀ o, s'.device.mmapManager.manager.Registered o ↔ s'.Holds o

/-- REQBUFS that passes its checks can allocate all its buffers. Otherwise the
session is active already and as STREAMOFF leaves it, and what is registered until a
buffer cannot be allocated are the offsets that were given up. -/
def CaptureDevice.AllocatesWhole (checks : Bool) (d : CaptureDevice) (s : Session) : Call → Prop
  | .reqbufs queue memory count memfd => d.admits s queue memory = true →
    ∀ os, reserved checks memfd (List.range (min count.toNat 32))
        (d.mmapManager.manager.unregisterAll s.offsets) = some os →
      os.length = min count.toNat 32 ∨
        (d.activeSession = some s.id ∧ s.stop = s ∧ ∀ o, o ∈ os ↔ o ∈ s.offsets)
  | _ => True

def Capture.AllocatesWhole (checks : Bool) (s : Capture) : Action → Prop
  | .call i c => ∀ session, s.sessions i = some session → s.device.AllocatesWhole checks session c
  | _ => True

/-- Where the loop can get it does get. -/
theorem allocateBuffers_of_reserved {is : List Nat} {t : Tracked} {os : List UInt32}
    (h : reserved checks memfd is t.manager = some os) :
    ∃ r, allocateBuffers checks memfd is t = .ok r := by
  induction is generalizing t os with
  | nil => exact ⟨_, rfl⟩
  | cons i rest ih =>
      simp only [reserved] at h
      simp only [allocateBuffers]
      cases hfd : memfd i with
      | none => exact ⟨_, rfl⟩
      | some fd =>
          simp only [hfd] at h ⊢
          cases hreg : t.manager.registerBuffer checks none bufferSize with
          | none => simp [hreg] at h
          | some p =>
              obtain ⟨res, m⟩ := p
              simp only [hreg] at h
              cases res with
              | error e => exact ⟨_, rfl⟩
              | ok o =>
                  obtain ⟨os', hos', -⟩ := Option.map_eq_some_iff.mp h
                  obtain ⟨r, hr⟩ := ih (t := { t with manager := m }) hos'
                  exact ⟨_, map_eq_ok.mpr ⟨r, hr, rfl⟩⟩

/-- What is registered after the old buffers were given up and others were
registered. -/
theorem registered_takeOver (hs : d.mmapManager.manager.Sorted) {m : MmapMappingManager}
    {os : List UInt32} (h : GrownBy (d.takeOver s count).mmapManager.manager m os) (o : UInt32) :
    m.Registered o ↔ (d.mmapManager.manager.Registered o ∧ o ∉ s.offsets) ∨ o ∈ os := by
  rw [h.registered_iff]
  exact or_congr_left (MmapMappingManager.registered_unregisterAll hs s.offsets o)

/-- A REQBUFS that fails changes nothing if and only if it was refused, or the
change happens to be none. -/
theorem reqbufs_kept_iff (hs : d.mmapManager.manager.Sorted)
    (hoffsets : ∀ o ∈ s.offsets, d.mmapManager.manager.Registered o) :
    (∀ c e, d.reqbufs checks s queue memory count memfd = .ok c → c.result = .error e →
      d.Kept s c) ↔ d.AllocatesWhole checks s (.reqbufs queue memory count memfd) := by
  have hsorted : (d.takeOver s count).mmapManager.manager.Sorted :=
    MmapMappingManager.unregisterAll_sorted hs s.offsets
  -- an allocation that fails is one of at least one buffer
  have hactive {os : List UInt32} (hlt : os.length < (List.range (min count.toNat 32)).length) :
      (d.takeOver s count).activeSession = some s.id := by
    apply takeOver_active
    rintro rfl
    exact absurd hlt (Nat.not_lt_zero _)
  constructor
  · intro h hadmits os hreserved
    obtain ⟨r, hr⟩ := allocateBuffers_of_reserved
      (t := (d.takeOver s count).mmapManager) hreserved
    obtain ⟨m, os', ht, hgrown, hos', hnews, hshort⟩ := allocateBuffers_grown hsorted hr
    obtain rfl : os' = os := Option.some.inj (hos'.symm.trans hreserved)
    cases hres : r.1 with
    | ok news => exact .inl ((hnews news hres).2.trans List.length_range)
    | error e =>
        have hc : d.reqbufs checks s queue memory count memfd = .ok _ :=
          (reqbufs_of_admits hadmits).trans (map_eq_ok.mpr ⟨r, hr, settle_error hres⟩)
        have hkept := h _ e hc rfl
        have hregistered (o : UInt32) := hkept.registered o
        simp only [ht, registered_takeOver hs hgrown] at hregistered
        refine .inr ⟨?_, hkept.session, fun o => ⟨fun ho => ?_, fun ho => ?_⟩⟩
        · exact hkept.active.symm.trans (hactive (hshort e hres))
        · by_contra hnot
          have hreg := (hregistered o).mp (.inr ho)
          refine hgrown.fresh o ho ?_
          exact ((MmapMappingManager.registered_unregisterAll hs s.offsets o).mpr
            ⟨hreg, hnot⟩).occupied
        · exact ((hregistered o).mpr (hoffsets o ho)).resolve_left fun hkeep => hkeep.2 ho
  · intro h c e hc he
    rcases reqbufs_outcome hc with ⟨-, e', rfl, -⟩ | ⟨hadmits, r, hr, rfl⟩
    · exact ⟨rfl, rfl, fun _ => .rfl⟩
    · obtain ⟨m, os, ht, hgrown, hos, -, hshort⟩ := allocateBuffers_grown hsorted hr
      have hres : r.1 = .error e := map_eq_error.mp he
      have hlt := hshort e hres
      obtain ⟨hid, hstop, hsame⟩ := (h hadmits os hos).resolve_left (by simpa using hlt.ne)
      rw [settle_error hres]
      refine ⟨hstop, (hactive hlt).trans hid.symm, fun o => ?_⟩
      change r.2.manager.Registered o ↔ _
      rw [ht, registered_takeOver hs hgrown, hsame]
      constructor
      · rintro (⟨hreg, -⟩ | ho)
        · exact hreg
        · exact hoffsets o ho
      · exact fun hreg => (em (o ∈ s.offsets)).symm.imp_left fun ho => ⟨hreg, ho⟩

/-! ### Runs of the capture device -/

theorem Session.held_offsets (s : Session) : s.held.map Prod.fst = s.offsets := by
  rw [Session.held, Session.offsets, List.map_map]
  rfl

theorem Capture.holds_iff {s : Capture} {o : UInt32} :
    s.Holds o ↔ ∃ i, o ∈ (s.held i).map Prod.fst := by
  constructor
  · rintro ⟨i, session, hi, ho⟩
    refine ⟨i, ?_⟩
    rwa [Capture.held_of_some hi, Session.held_offsets]
  · rintro ⟨i, ho⟩
    cases hi : s.sessions i with
    | none => simp [Capture.held, hi] at ho
    | some session =>
        rw [Capture.held_of_some hi, Session.held_offsets] at ho
        exact ⟨i, session, hi, ho⟩

/-- The invariant of the capture device. -/
def Capture.RegistersHeld (s : Capture) : Prop :=
  Device.RegistersHeld s.device.mmapManager.manager s.held

section Step

variable {s s' : Capture} {i : UInt32} {session : Session}

/-- What one session holds and what is registered stay as they are. -/
theorem Capture.RegistersHeld.same (hs : s.RegistersHeld) (hi : s.sessions i = some session)
    {d : CaptureDevice} {session' : Session} (hsorted : d.mmapManager.manager.Sorted)
    (hregistered : ∀ o, d.mmapManager.manager.Registered o ↔
      s.device.mmapManager.manager.Registered o)
    (hheld : session'.held = session.held) :
    ({ s with device := d }.setSession i (some session')).RegistersHeld := by
  have hsame : holding s.held i session'.held = s.held :=
    holding_self (hheld.trans (Capture.held_of_some hi).symm)
  refine Device.RegistersHeld.same hs hsorted hregistered fun j => ?_
  rw [Capture.held_setSession, Option.elim_some, hsame]

theorem Capture.RegistersHeld.sameHeld (hs : s.RegistersHeld) (hi : s.sessions i = some session)
    {d : CaptureDevice} {session' : Session} (h : SameHeld s.device session d session') :
    ({ s with device := d }.setSession i (some session')).RegistersHeld := by
  refine hs.same hi ?_ (fun o => ?_) h.held
  · rw [h.manager]
    exact hs.sorted
  · rw [h.manager]

theorem Capture.RegistersHeld.offsets (hs : s.RegistersHeld) (hi : s.sessions i = some session) :
    ∀ o ∈ session.offsets, s.device.mmapManager.manager.Registered o := by
  intro o ho
  rw [← Session.held_offsets, ← Capture.held_of_some hi] at ho
  exact (hs.registered o).mpr ⟨i, ho⟩

theorem Capture.RegistersHeld.reqbufs (hs : s.RegistersHeld) (hi : s.sessions i = some session)
    {queue : QueueType} {memory : MemoryType} {count : UInt32} {memfd : Nat → Option Nat}
    {c : Called UInt32}
    (hwhole : s.device.AllocatesWhole checks session (.reqbufs queue memory count memfd))
    (h : s.device.reqbufs checks session queue memory count memfd = .ok c) :
    ({ s with device := c.device }.setSession i (some c.session)).RegistersHeld := by
  have hsorted : s.device.mmapManager.manager.Sorted := hs.sorted
  have hfailed := (reqbufs_kept_iff hsorted (hs.offsets hi)).mpr hwhole c
  rcases reqbufs_outcome h with ⟨-, e, rfl, -⟩ | ⟨-, r, hr, rfl⟩
  · exact hs.same hi hsorted (fun _ => .rfl) rfl
  · have hdrop : Device.RegistersHeld (s.device.takeOver session count).mmapManager.manager
        (holding s.held i []) := by
      have hperm : [] ++ s.held i ~ s.held i := .refl _
      have hdrop := Device.RegistersHeld.drop hs hperm
      rwa [Capture.held_of_some hi, Session.held_offsets] at hdrop
    obtain ⟨m, os, ht, hgrown, -, hnews, -⟩ := allocateBuffers_grown hdrop.sorted hr
    cases hres : r.1 with
    | error e =>
        have hkept := hfailed e h (map_eq_error.mpr hres)
        refine hs.same hi ?_ hkept.registered (congrArg Session.held hkept.session)
        change r.2.manager.Sorted
        rw [ht]
        exact hgrown.sorted
    | ok news =>
        have hoffsets : (news.map Buffer.claim).map Prod.fst = os := by
          rw [List.map_map]
          exact (hnews news hres).1
        have hgrow := hdrop.grow (i := i) hgrown (by rw [holding_at]) hoffsets
        rw [holding_holding, List.nil_append] at hgrow
        rw [Capture.RegistersHeld, Capture.held_setSession]
        simp only [CaptureDevice.settle, hres, ht, Except.toOption, Option.getD_some,
          Option.elim_some, Session.held]
        exact hgrow

theorem Capture.RegistersHeld.call (hs : s.RegistersHeld) (hi : s.sessions i = some session)
    {c : Call} (hwhole : s.device.AllocatesWhole checks session c)
    {p : CaptureDevice × Session} (h : s.device.call checks session c = .ok p) :
    ({ s with device := p.1 }.setSession i (some p.2)).RegistersHeld := by
  cases c with
  | reqbufs queue memory count memfd =>
      obtain ⟨c, hc, rfl⟩ := map_eq_ok.mp h
      exact hs.reqbufs hi hwhole hc
  | qbuf index io =>
      obtain ⟨c, hc, rfl⟩ := map_eq_ok.mp h
      exact hs.sameHeld hi (qbuf_sameHeld hc)
  | streamon queue io =>
      obtain ⟨c, hc, rfl⟩ := map_eq_ok.mp h
      exact hs.sameHeld hi (streamon_sameHeld hc)
  | streamoff queue =>
      cases h
      exact hs.sameHeld hi (streamoff_sameHeld s.device session queue)
  | mmap flags offset answer =>
      cases h
      simp only [Called.after]
      rcases doMmap_cases s.device session flags offset answer with h | ⟨b, -, -, rw, h⟩ <;> rw [h]
      · exact hs.sameHeld hi (.refl _ _)
      · have hreg := sameRegistered_create s.device.mmapManager offset b.fd rw answer
        refine hs.same hi (hreg.sorted hs.sorted) (fun o => ?_) rfl
        exact MmapMappingManager.registered_createMapping _ _ _ _ _ o

theorem Capture.RegistersHeld.next (hs : s.RegistersHeld) {a : Action}
    (hwhole : s.AllocatesWhole checks a) (h : s.next checks a = some s') : s'.RegistersHeld := by
  have hsorted : s.device.mmapManager.manager.Sorted := hs.sorted
  rcases step_cases (toOption_eq_some.mp h) with rfl | ⟨guestAddr, -, rfl⟩ | ⟨i, -, hi, rfl⟩ |
    ⟨i, session, -, hi, rfl⟩ | ⟨i, c, session, p, rfl, hi, hp, rfl⟩
  · exact hs
  · refine Device.RegistersHeld.same hs ?_ ?_ fun _ => rfl
    · exact MmapMappingManager.removeMapping_sorted hsorted guestAddr
    · exact MmapMappingManager.registered_removeMapping _ guestAddr
  · rw [Capture.RegistersHeld, Capture.held_setSession s s.device, holding_self]
    · exact hs
    · simp [Capture.held, hi, Session.held, Session.open]
  · have hperm : [] ++ s.held i ~ s.held i := .refl _
    have hdrop := Device.RegistersHeld.drop hs hperm
    rw [Capture.held_of_some hi, Session.held_offsets] at hdrop
    rw [Capture.RegistersHeld, Capture.held_setSession]
    change Device.RegistersHeld (s.device.closeSession session).mmapManager.manager _
    rw [closeSession_manager]
    exact hdrop
  · exact hs.call hi (hwhole session hi) hp

/-- As `Decoder.reqbufsLaw_iff`. -/
theorem Capture.reqbufsLaw_iff (hs : s.RegistersHeld) (a : Action) :
    s.ReqbufsLaw checks a ↔ s.AllocatesWhole checks a := by
  have hsorted : s.device.mmapManager.manager.Sorted := hs.sorted
  constructor
  · intro h
    cases a with
    | call i c =>
        intro session hi
        cases c with
        | reqbufs queue memory count memfd =>
            refine (reqbufs_kept_iff hsorted (hs.offsets hi)).mp fun c e hc he => ?_
            exact h.failed i queue memory count memfd session c e rfl hi hc he
        | _ => trivial
    | _ => trivial
  · intro hwhole
    constructor
    · rintro i queue memory count memfd session c e rfl hi hc he
      exact (reqbufs_kept_iff hsorted (hs.offsets hi)).mpr (hwhole session hi) c e hc he
    · intro s' h o
      rw [Capture.holds_iff]
      exact (hs.next hwhole h).registered o

end Step

end Simple

/-- Nothing is registered and nothing is held. -/
theorem registersHeld_empty {held : UInt32 → List (UInt32 × Option Nat)} (h : ∀ i, held i = []) :
    RegistersHeld .empty held where
  sorted := List.Pairwise.nil
  distinct := ⟨fun i => by simp [h i], fun i _ _ x hx => absurd hx (by simp [h i])⟩
  registered o := by
    constructor
    · rintro ⟨b, hb, -⟩
      cases hb
    · rintro ⟨i, ho⟩
      simp [h i] at ho

/-- On every run of the decoder, with any backend, and on every run of the capture
device: REQBUFS is all or nothing, and the registered offsets are those of the
buffers that are held, if and only if every REQBUFS allocates all its buffers or
changes nothing before one cannot be allocated. -/
theorem reqbufs_all_or_nothing_iff {β S : Type} (B : DecoderBackend β S) (checks : Bool)
    (acts : List (DecoderAction β)) (actions : List Simple.Action) :
    (Trace.Conforms (Decoder.next B checks) (Decoder.ReqbufsLaw B checks) .init acts ↔
      Trace.Conforms (Decoder.next B checks) (Decoder.AllocatesWhole B checks) .init acts) ∧
    (Trace.Conforms (Simple.Capture.next checks) (Simple.Capture.ReqbufsLaw checks) .init actions ↔
      Trace.Conforms (Simple.Capture.next checks) (Simple.Capture.AllocatesWhole checks) .init
        actions) := by
  constructor
  · refine Trace.conforms_congr (P := Decoder.RegistersHeld B) ?_ ?_ ?_ (Trace.conforms_true _ acts)
    · exact fun s a s' hs hwhole h => hs.next hwhole h
    · exact fun s a hs _ => Decoder.reqbufsLaw_iff hs a
    · exact registersHeld_empty fun _ => rfl
  · refine Trace.conforms_congr (P := Simple.Capture.RegistersHeld) ?_ ?_ ?_
      (Trace.conforms_true _ actions)
    · exact fun s a s' hs hwhole h => hs.next hwhole h
    · exact fun s a hs _ => Simple.Capture.reqbufsLaw_iff hs a
    · exact registersHeld_empty fun _ => rfl

/-- A backend with memory for one buffer. -/
def oneBufferBackend : DecoderBackend Unit Unit :=
  { idleBackend with
    new := fun _ _ index _ => (if index = 0 then .ok () else .error enomem, ()) }

/-- Two buffers are requested from the decoder, and the second one cannot be
allocated. -/
def leakingRun : List (DecoderAction Unit) :=
  [.openSession 0 (.ok ()), .call 0 (.reqbufs .videoCaptureMplane .mmap 2)]

/-- A session of the capture device has a buffer and requests two, and none can be
allocated. -/
def exhaustedRun : List Simple.Action :=
  [.openSession 0, .call 0 (.reqbufs .videoCapture .mmap 1 some),
    .call 0 (.reqbufs .videoCapture .mmap 2 fun _ => none)]

/-- The decoder leaves the first buffer registered, and the capture device does not
register the old one again. -/
theorem reqbufs_not_all_or_nothing :
    ¬Trace.Conforms (Decoder.next oneBufferBackend true) (Decoder.ReqbufsLaw oneBufferBackend true)
        .init leakingRun ∧
      ¬Trace.Conforms (Simple.Capture.next true) (Simple.Capture.ReqbufsLaw true) .init
        exhaustedRun := by
  constructor
  · intro h
    have hkept := (h.2 _ rfl).1.failed 0 _ _ _ _ _ _ rfl rfl rfl rfl
    obtain ⟨b, hb, -⟩ := (hkept.registered 0).mp ⟨_, List.mem_cons_self, rfl, rfl⟩
    cases hb
  · intro h
    have hkept := ((h.2 _ rfl).2 _ rfl).1.failed 0 _ _ _ _ _ _ _ rfl rfl rfl rfl
    obtain ⟨b, hb, -⟩ := (hkept.registered 0).mpr ⟨_, List.mem_cons_self, rfl, rfl⟩
    cases hb

end VirtioMedia.Device
