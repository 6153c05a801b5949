import VirtioMedia.Device.ProxyAddresses

/-!
# The round trip of a USERPTR buffer

A buffer of the guest is translated for the host, its planes are registered, and
it is translated back. The three functions pick their planes differently:
mappings are made for planes of non-zero length, but pointers are registered
and translated where they are not null. A zero-length plane with a pointer
takes the mapping of a later plane, and is not translated back unless its
pointer happens to be registered already.
-/

namespace VirtioMedia.Device.ProxyQueues

open V4l2

variable {id : Nat} {ps qs : List Plane} {ms : List Mapping} {table : UserptrTable}

/-- The mapper returns addresses that are not null, differ from each other and
from all pointers that are registered or that the guest gave to a zero-length
plane. -/
structure Request.NewAddresses (req : Request) (table : UserptrTable) : Prop where
  nodup : req.addresses.Nodup
  nonNull : ∀ a ∈ req.addresses, a ≠ 0
  unregistered : ∀ a ∈ req.addresses, ∀ info ∈ table.entries, info.hostAddr ≠ a
  unused : ∀ a ∈ req.addresses, ∀ p ∈ req.buffer.planes, p.length = 0 → p.userptr ≠ a

/-- After registration the buffer is translated back to that of the guest, and
every address the host got is registered with the mapping of its own plane. -/
structure RoundTrip (table : UserptrTable) (host guest : Buffer) (resources : List Mapping) :
    Prop where
  back : hostV4l2BufferToGuest host (registerUserptrAddresses table host guest resources) =
    some guest
  own : ∀ r ∈ (mappedPlanes host.planes).zip resources,
    ∃ info ∈ (registerUserptrAddresses table host guest resources).entries,
      info.hostAddr = r.1.userptr ∧ info.guestResource = r.2

/-- Zero-length planes do not get in the way: none that has a pointer stands
before a plane that is mapped, and their pointers are registered already, each
under itself. -/
def Buffer.ZeroSafe (b : Buffer) (table : UserptrTable) : Prop :=
  ProxyQueues.Aligned b.planes ∧ ∀ p ∈ b.planes, p.length = 0 → p.userptr ≠ 0 →
    ∃ info ∈ table.entries, info.hostAddr = p.userptr ∧ info.guestAddr = p.userptr

namespace Maps

/-- The address of a mapped plane is that of its mapping. -/
theorem zip_addr (h : Maps id ps qs ms) {r : Plane × Mapping}
    (hr : r ∈ (mappedPlanes qs).zip ms) : r.1.userptr = r.2.addr :=
  (List.forall₂_zip h.mappings hr).1.symm

theorem exists_zip (h : Maps id ps qs ms) {m : Mapping} (hm : m ∈ ms) :
    ∃ q, (q, m) ∈ (mappedPlanes qs).zip ms := by
  have hsnd : m ∈ ((mappedPlanes qs).zip ms).map Prod.snd := by
    rw [List.map_snd_zip h.mappings.length_eq.ge]
    exact hm
  obtain ⟨r, hr, rfl⟩ := List.mem_map.mp hsnd
  exact ⟨r.1, hr⟩

/-- Where every mapping is registered under its own address, no zero-length
plane with a pointer stands before a mapped one. -/
theorem aligned_of_own (h : Maps id ps qs ms) (hnodup : ms.Nodup) (hne : ∀ m ∈ ms, m.addr ≠ 0)
    (hunused : ∀ m ∈ ms, ∀ p ∈ ps, p.length = 0 → p.userptr ≠ m.addr)
    (hown : ∀ m ∈ ms, ∃ r ∈ (pointers qs ps).zip ms, r.1.1 = m.addr ∧ r.2 = m) :
    Aligned ps := by
  induction h with
  | nil id => exact List.Pairwise.nil
  | @unmapped id p ps qs ms hp h ih =>
      have hrest : ∀ m ∈ ms, ∀ q ∈ ps, q.length = 0 → q.userptr ≠ m.addr :=
        fun m hm q hq => hunused m hm q (List.mem_cons_of_mem p hq)
      by_cases h0 : p.userptr = 0
      · rw [pointers, List.map_cons, List.zip_cons_cons,
          List.filter_cons_of_neg (by simpa using h0)] at hown
        refine List.pairwise_cons.mpr ⟨fun q _ _ hq => absurd h0 hq, ?_⟩
        exact ih hnodup hne hrest hown
      · -- the first mapping stands beside this plane, so there is none
        have hnone : ms = [] := by
          cases ms with
          | nil => rfl
          | cons m ms =>
              obtain ⟨r, hr, hr1, hr2⟩ := hown m List.mem_cons_self
              rw [pointers, List.map_cons, List.zip_cons_cons,
                List.filter_cons_of_pos (by simpa using h0), List.zip_cons_cons] at hr
              rcases List.mem_cons.mp hr with rfl | hr
              · exact absurd hr1 (hunused m List.mem_cons_self p List.mem_cons_self hp)
              · have hmem := (List.of_mem_zip hr).2
                rw [hr2] at hmem
                exact absurd hmem (List.nodup_cons.mp hnodup).1
        subst hnone
        have hzero : ∀ q ∈ ps, q.length = 0 := by
          have hnil := List.eq_nil_of_length_eq_zero h.length_eq.symm
          intro q hq
          have hfilter := List.filter_eq_nil_iff.mp hnil q hq
          simpa using hfilter
        exact List.pairwise_cons.mpr ⟨fun q hq _ _ => hzero q hq,
          List.pairwise_of_forall_mem_list fun _ _ q hq _ _ => hzero q hq⟩
  | @mapped id p ps qs ms addr hp h ih =>
      have hfirst : addr ≠ 0 := hne _ List.mem_cons_self
      refine List.pairwise_cons.mpr ⟨fun q _ h0 => absurd h0 hp, ?_⟩
      obtain ⟨hnot, hnodup⟩ := List.nodup_cons.mp hnodup
      refine ih hnodup (fun m hm => hne m (List.mem_cons_of_mem _ hm))
        (fun m hm q hq => hunused m (List.mem_cons_of_mem _ hm) q (List.mem_cons_of_mem p hq)) ?_
      intro m hm
      obtain ⟨r, hr, hr1, hr2⟩ := hown m (List.mem_cons_of_mem _ hm)
      rw [pointers, List.map_cons, List.zip_cons_cons,
        List.filter_cons_of_pos (by simpa using hfirst), List.zip_cons_cons] at hr
      rcases List.mem_cons.mp hr with rfl | hr
      · have hsame : (⟨id, addr⟩ : Mapping) = m := hr2
        rw [← hsame] at hm
        exact absurd hm hnot
      · exact ⟨r, hr, hr1, hr2⟩

/-- What the translation of all planes says about a zero-length one. -/
theorem restores_zero (h : Maps id ps qs ms)
    (hback : List.Forall₂ (fun q p => ∃ g, Restores table q.userptr g ∧
      p = { q with userptr := g }) qs ps) {p : Plane} (hp : p ∈ ps) (h0 : p.length = 0) :
    Restores table p.userptr p.userptr := by
  induction h with
  | nil id => cases hp
  | @unmapped id x ps qs ms hx h ih =>
      obtain ⟨⟨g, hg, hxg⟩, hrest⟩ := List.forall₂_cons.mp hback
      rcases List.mem_cons.mp hp with rfl | hp
      · have hsame : g = p.userptr := (congrArg Plane.userptr hxg).symm
        rw [hsame] at hg
        exact hg
      · exact ih hrest hp
  | @mapped id x ps qs ms addr hx h ih =>
      obtain ⟨-, hrest⟩ := List.forall₂_cons.mp hback
      rcases List.mem_cons.mp hp with rfl | hp
      · exact absurd h0 hx
      · exact ih hrest hp

/-- All planes are translated back. -/
theorem restores_all (h : Maps id ps qs ms)
    (hzero : ∀ p ∈ ps, p.length = 0 → Restores table p.userptr p.userptr)
    (hmapped : ∀ r ∈ (mappedPlanes ps).zip ms, Restores table r.2.addr r.1.userptr) :
    List.Forall₂ (fun q p => ∃ g, Restores table q.userptr g ∧
      p = { q with userptr := g }) qs ps := by
  induction h with
  | nil id => exact .nil
  | @unmapped id p ps qs ms hp h ih =>
      rw [mappedPlanes_cons_zero hp] at hmapped
      refine .cons ⟨p.userptr, hzero p List.mem_cons_self hp, rfl⟩ ?_
      exact ih (fun q hq => hzero q (List.mem_cons_of_mem p hq)) hmapped
  | @mapped id p ps qs ms addr hp h ih =>
      rw [mappedPlanes_cons_pos hp, List.zip_cons_cons] at hmapped
      refine .cons ⟨p.userptr, hmapped _ List.mem_cons_self, rfl⟩ ?_
      exact ih (fun q hq => hzero q (List.mem_cons_of_mem p hq))
        fun r hr => hmapped r (List.mem_cons_of_mem _ hr)

end Maps

section RoundTrip

variable {req : Request} {host : Buffer} {resources : List Mapping}

theorem registerUserptrAddresses_eq (hm : req.buffer.memory = .userPtr) :
    registerUserptrAddresses table host req.buffer resources =
      (registrations host req.buffer resources).foldl SortedMap.insert table := if_pos hm

/-- A new address is registered by this buffer only. -/
theorem RoundTrip.aligned (hm : req.buffer.memory = .userPtr)
    (h : guestV4l2BufferToHost id req = some (host, resources)) (hnew : req.NewAddresses table)
    (ht : RoundTrip table host req.buffer resources) : ProxyQueues.Aligned req.buffer.planes := by
  have haddr := Request.addresses_eq h hm
  have hmem {m : Mapping} (hm : m ∈ resources) : m.addr ∈ req.addresses :=
    haddr ▸ List.mem_map_of_mem hm
  obtain ⟨-, planes, rfl, hmaps, -⟩ | ⟨hne, -⟩ := guestV4l2BufferToHost_cases h
  · refine hmaps.aligned_of_own ?_ (fun m hm => hnew.nonNull _ (hmem hm))
      (fun m hm => hnew.unused _ (hmem hm)) fun m hmres => ?_
    · exact List.Nodup.of_map Mapping.addr (haddr ▸ hnew.nodup)
    · obtain ⟨q, hq⟩ := hmaps.exists_zip hmres
      obtain ⟨info, hinfo, hinfoAddr, hresource⟩ := ht.own _ hq
      rw [hmaps.zip_addr hq] at hinfoAddr
      rw [registerUserptrAddresses_eq hm] at hinfo
      rcases SortedMap.mem_of_mem_foldl_insert hinfo with hreg | hold
      · rw [registrations_eq] at hreg
        obtain ⟨r, hr, rfl⟩ := List.mem_map.mp hreg
        exact ⟨r, hr, hinfoAddr, hresource⟩
      · exact absurd hinfoAddr (hnew.unregistered _ (hmem hmres) info hold)
  · exact absurd hm hne

/-- What is registered if the planes are aligned. -/
theorem mem_register_of_aligned (hm : req.buffer.memory = .userPtr)
    (h : guestV4l2BufferToHost id req = some (host, resources)) (hnew : req.NewAddresses table)
    (hal : ProxyQueues.Aligned req.buffer.planes) {info : UserPlaneInfo} :
    info ∈ (registerUserptrAddresses table host req.buffer resources).entries ↔
      info ∈ ((mappedPlanes req.buffer.planes).zip resources).map req.buffer.entry ∨
        (info ∈ table.entries ∧ ∀ r ∈ (mappedPlanes req.buffer.planes).zip resources,
          info.hostAddr ≠ r.2.addr) := by
  have hpair := pairwise_key_of_nodup ((addresses_of_entries h hm).symm ▸ hnew.nodup)
  rw [registerUserptrAddresses_eq hm, registrations_aligned h hm (fun _ => hal) hnew.nonNull,
    SortedMap.mem_foldl_insert hpair, List.forall_mem_map]
  exact or_congr_right (and_congr_right fun _ => forall₂_congr fun r _ =>
    not_congr UserPlaneInfo.key_eq)

/-- The pointers of zero-length planes are translated only by older entries. -/
theorem RoundTrip.zeroSafe (hm : req.buffer.memory = .userPtr)
    (h : guestV4l2BufferToHost id req = some (host, resources)) (hnew : req.NewAddresses table)
    (ht : RoundTrip table host req.buffer resources) : req.buffer.ZeroSafe table := by
  have haddr := Request.addresses_eq h hm
  have hal := ht.aligned hm h hnew
  obtain ⟨-, planes, rfl, hmaps, -⟩ | ⟨hne, -⟩ := guestV4l2BufferToHost_cases h
  · have hmemory : ({ req.buffer with planes := planes } : Buffer).memory = .userPtr := hm
    refine ⟨hal, fun p hp h0 hnull => ?_⟩
    obtain ⟨planes', heq, hback⟩ := (hostV4l2BufferToGuest_eq_some hmemory).mp ht.back
    obtain rfl : req.buffer.planes = planes' := congrArg Buffer.planes heq
    rcases hmaps.restores_zero hback hp h0 with ⟨hzero, -⟩ | ⟨-, info, hinfo, hhost, hguest⟩
    · exact absurd hzero hnull
    · rcases (mem_register_of_aligned hm h hnew hal).mp hinfo with hreg | ⟨hold, -⟩
      · obtain ⟨r, hr, rfl⟩ := List.mem_map.mp hreg
        have hmem : r.2.addr ∈ req.addresses :=
          haddr ▸ List.mem_map_of_mem (List.of_mem_zip hr).2
        exact absurd hhost.symm (hnew.unused _ hmem p hp h0)
      · exact ⟨info, hold, hhost, hguest⟩
  · exact absurd hm hne

theorem Buffer.ZeroSafe.roundTrip (hm : req.buffer.memory = .userPtr)
    (h : guestV4l2BufferToHost id req = some (host, resources)) (hnew : req.NewAddresses table)
    (hsafe : req.buffer.ZeroSafe table) : RoundTrip table host req.buffer resources := by
  obtain ⟨hal, hzero⟩ := hsafe
  have hmem {r : Plane × Mapping}
      (hr : r ∈ (mappedPlanes req.buffer.planes).zip resources) : r.2.addr ∈ req.addresses :=
    Request.addresses_eq h hm ▸ List.mem_map_of_mem (List.of_mem_zip hr).2
  have hinsert := @mem_register_of_aligned id table req host resources hm h hnew hal
  obtain ⟨-, planes, rfl, hmaps, -⟩ | ⟨hne, -⟩ := guestV4l2BufferToHost_cases h
  · have hmemory : ({ req.buffer with planes := planes } : Buffer).memory = .userPtr := hm
    refine ⟨(hostV4l2BufferToGuest_eq_some hmemory).mpr ⟨req.buffer.planes, rfl, ?_⟩, ?_⟩
    · refine hmaps.restores_all (fun p hp h0 => ?_) fun r hr => ?_
      · by_cases hnull : p.userptr = 0
        · exact .inl ⟨hnull, hnull⟩
        · obtain ⟨info, hinfo, hhost, hguest⟩ := hzero p hp h0 hnull
          have hother : ∀ r ∈ (mappedPlanes req.buffer.planes).zip resources,
              info.hostAddr ≠ r.2.addr :=
            fun r hr heq => hnew.unused _ (hmem hr) p hp h0 (hhost.symm.trans heq)
          exact .inr ⟨hnull, info, hinsert.mpr (.inr ⟨hinfo, hother⟩), hhost, hguest⟩
      · exact .inr ⟨hnew.nonNull _ (hmem hr), req.buffer.entry r,
          hinsert.mpr (.inl (List.mem_map_of_mem hr)), rfl, rfl⟩
    · intro r hr
      have hown : r.2 ∈ ((mappedPlanes req.buffer.planes).zip resources).map Prod.snd := by
        rw [List.map_snd_zip hmaps.length_eq.le]
        exact (List.of_mem_zip hr).2
      obtain ⟨r', hr', heq⟩ := List.mem_map.mp hown
      refine ⟨req.buffer.entry r', hinsert.mpr (.inl (List.mem_map_of_mem hr')), ?_, heq⟩
      rw [hmaps.zip_addr hr, ← heq]
      rfl
  · exact absurd hm hne

/-- For every USERPTR buffer of the guest, every table and every mapper that
returns new addresses: the buffer makes the round trip exactly if its
zero-length planes do not get in the way. -/
theorem userptr_round_trip (id : Nat) {req : Request} {table : UserptrTable}
    (hm : req.buffer.memory = .userPtr) (hmaps : req.maps = true)
    (hnew : req.NewAddresses table) :
    ∃ host resources, guestV4l2BufferToHost id req = some (host, resources) ∧
      (RoundTrip table host req.buffer resources ↔ req.buffer.ZeroSafe table) := by
  rw [← isSome_guestV4l2BufferToHost id req] at hmaps
  obtain ⟨⟨host, resources⟩, h⟩ := Option.isSome_iff_exists.mp hmaps
  exact ⟨host, resources, h, fun ht => ht.zeroSafe hm h hnew, fun hs => hs.roundTrip hm h hnew⟩

/-- Two planes of which the first one is empty. -/
def emptyFirst (userptr : UInt64) : Request where
  buffer := ⟨.videoOutputMplane, 0, .userPtr, 0, 0, 0, 0, 0,
    [⟨userptr, 0, 0, 0⟩, ⟨0x6000, 16, 16, 0⟩]⟩
  mapped := [some 0x7f00]
  regions := rfl

/-- An empty plane without a pointer does no harm. -/
theorem userptr_round_trip_null :
    ∃ host resources, guestV4l2BufferToHost 0 (emptyFirst 0) = some (host, resources) ∧
      (RoundTrip .empty host (emptyFirst 0).buffer resources ↔
        (emptyFirst 0).buffer.ZeroSafe .empty) := by
  refine userptr_round_trip 0 rfl rfl ⟨by decide, ?_, ?_, ?_⟩
  · simp [Request.addresses, emptyFirst]
  · intro a _ info hinfo
    cases hinfo
  · simp [Request.addresses, emptyFirst]

/-- An empty plane with a pointer takes the mapping of the next plane, and the
buffer is not translated back. -/
theorem userptr_round_trip_fails_pointer :
    ¬ ∀ (table : UserptrTable) (id : Nat) (req : Request) (host : Buffer)
      (resources : List Mapping), req.buffer.memory = .userPtr → req.NewAddresses table →
      guestV4l2BufferToHost id req = some (host, resources) →
      RoundTrip table host req.buffer resources := by
  intro h
  have hnew : (emptyFirst 0x5000).NewAddresses .empty := by
    refine ⟨by decide, ?_, ?_, ?_⟩
    · simp [Request.addresses, emptyFirst]
    · intro a _ info hinfo
      cases hinfo
    · simp [Request.addresses, emptyFirst]
  have hback := (h .empty 0 (emptyFirst 0x5000) _ _ rfl hnew rfl).back
  cases hback

end RoundTrip

end VirtioMedia.Device.ProxyQueues
