import VirtioMedia.Device.ProxyQueues
import VirtioMedia.Lib.Fallible

/-!
# Translation of USERPTR planes

What `guest_v4l2_buffer_to_host`, `register_userptr_addresses` and
`host_v4l2_buffer_to_guest` do to the planes of a buffer and to the table of
planes. A plane of non-zero length gets the address of a new mapping; the
others keep the pointer the guest gave. The planes that are registered are
those whose host pointer is not null, each with the resource that stands at its
place in the list, so the two agree only when no zero-length plane has a
pointer.
-/

namespace VirtioMedia.Device.ProxyQueues

open V4l2

/-! ### From the guest to the host -/

/-- The planes `qs` and the mappings `ms` that the loop of
`guest_v4l2_buffer_to_host` makes of the planes of the guest. -/
inductive Maps : Nat → List Plane → List Plane → List Mapping → Prop
  | nil (id : Nat) : Maps id [] [] []
  | unmapped {id : Nat} {p : Plane} {ps qs : List Plane} {ms : List Mapping}
      (hp : p.length = 0) (h : Maps id ps qs ms) : Maps id (p :: ps) (p :: qs) ms
  | mapped {id : Nat} {p : Plane} {ps qs : List Plane} {ms : List Mapping} (addr : UInt64)
      (hp : p.length ≠ 0) (h : Maps (id + 1) ps qs ms) :
      Maps id (p :: ps) ({ p with userptr := addr } :: qs) (⟨id, addr⟩ :: ms)

/-- The planes that have an SG list. -/
def mappedPlanes (planes : List Plane) : List Plane := planes.filter fun p => p.length ≠ 0

theorem mappedPlanes_cons_zero {p : Plane} {ps : List Plane} (hp : p.length = 0) :
    mappedPlanes (p :: ps) = mappedPlanes ps := List.filter_cons_of_neg (by simpa using hp)

theorem mappedPlanes_cons_pos {p : Plane} {ps : List Plane} (hp : p.length ≠ 0) :
    mappedPlanes (p :: ps) = p :: mappedPlanes ps := List.filter_cons_of_pos (by simpa using hp)

theorem maps_of_mapPlanes {id : Nat} {ps qs : List Plane} {ms : List Mapping}
    {mapped : List (Option UInt64)} (hlen : mapped.length = (mappedPlanes ps).length)
    (h : mapPlanes id ps mapped = some (qs, ms)) :
    Maps id ps qs ms ∧ mapped = ms.map fun m => some m.addr := by
  induction ps generalizing id mapped qs ms with
  | nil =>
      obtain ⟨rfl, rfl⟩ : [] = qs ∧ [] = ms := by simpa [mapPlanes] using h
      exact ⟨.nil id, List.eq_nil_of_length_eq_zero hlen⟩
  | cons p ps ih =>
      unfold mapPlanes at h
      by_cases hp : p.length = 0
      · rw [if_pos hp] at h
        obtain ⟨⟨qs', ms'⟩, hr, heq⟩ := Option.map_eq_some_iff.mp h
        obtain ⟨rfl, rfl⟩ := Prod.mk.inj heq
        rw [mappedPlanes_cons_zero hp] at hlen
        obtain ⟨hmaps, hmapped⟩ := ih hlen hr
        exact ⟨.unmapped hp hmaps, hmapped⟩
      · rw [if_neg hp] at h
        rw [mappedPlanes_cons_pos hp, List.length_cons] at hlen
        obtain ⟨a, rest, rfl⟩ := List.exists_cons_of_length_eq_add_one hlen
        cases a with
        | none => cases h
        | some addr =>
            obtain ⟨⟨qs', ms'⟩, hr, heq⟩ := Option.map_eq_some_iff.mp h
            obtain ⟨rfl, rfl⟩ := Prod.mk.inj heq
            obtain ⟨hmaps, rfl⟩ := ih (Nat.succ.inj hlen) hr
            exact ⟨.mapped addr hp hmaps, rfl⟩

namespace Maps

variable {id : Nat} {ps qs : List Plane} {ms : List Mapping}

theorem length_eq (h : Maps id ps qs ms) : ms.length = (mappedPlanes ps).length := by
  induction h with
  | nil id => rfl
  | unmapped hp h ih => rw [mappedPlanes_cons_zero hp, ih]
  | mapped addr hp h ih => rw [mappedPlanes_cons_pos hp, List.length_cons, List.length_cons, ih]

/-- Each mapped plane has the address of the mapping made for it. -/
theorem mappings (h : Maps id ps qs ms) :
    List.Forall₂ (fun q m => m.addr = q.userptr ∧ ∃ p, (p, m) ∈ (mappedPlanes ps).zip ms)
      (mappedPlanes qs) ms := by
  induction h with
  | nil id => exact .nil
  | unmapped hp h ih =>
      rw [mappedPlanes_cons_zero hp, mappedPlanes_cons_zero hp]
      exact ih
  | @mapped id p ps qs ms addr hp h ih =>
      rw [mappedPlanes_cons_pos hp, mappedPlanes_cons_pos (p := ⟨addr, _, _, _⟩) hp]
      refine .cons ⟨rfl, p, List.mem_cons_self⟩ (ih.imp ?_)
      rintro q m ⟨haddr, p', hmem⟩
      exact ⟨haddr, p', List.mem_cons_of_mem _ hmem⟩

/-- Only the pointers of planes of non-zero length change. -/
theorem planes (h : Maps id ps qs ms) :
    List.Forall₂ (fun p q => q = { p with userptr := q.userptr } ∧ (p.length = 0 → q = p))
      ps qs := by
  induction h with
  | nil id => exact .nil
  | unmapped hp h ih => exact .cons ⟨rfl, fun _ => rfl⟩ ih
  | mapped addr hp h ih => exact .cons ⟨rfl, fun h0 => absurd h0 hp⟩ ih

end Maps

/-- What a successful `guest_v4l2_buffer_to_host` returns. -/
theorem guestV4l2BufferToHost_cases {id : Nat} {req : Request} {host : Buffer}
    {resources : List Mapping} (h : guestV4l2BufferToHost id req = some (host, resources)) :
    (req.buffer.memory = .userPtr ∧
      ∃ planes, host = { req.buffer with planes := planes } ∧
        Maps id req.buffer.planes planes resources ∧
        req.mapped = resources.map fun m => some m.addr) ∨
    (req.buffer.memory ≠ .userPtr ∧ host = req.buffer ∧ resources = []) := by
  unfold guestV4l2BufferToHost at h
  by_cases hm : req.buffer.memory = .userPtr
  · rw [if_pos hm] at h
    obtain ⟨⟨planes, ms⟩, hr, heq⟩ := Option.map_eq_some_iff.mp h
    obtain ⟨rfl, rfl⟩ := Prod.mk.inj heq
    have hlen : req.mapped.length = (mappedPlanes req.buffer.planes).length := by
      rw [req.regions, Buffer.regionCount, if_pos hm]
      rfl
    obtain ⟨hmaps, hmapped⟩ := maps_of_mapPlanes hlen hr
    exact .inl ⟨hm, planes, rfl, hmaps, hmapped⟩
  · rw [if_neg hm] at h
    obtain ⟨rfl, rfl⟩ := Prod.mk.inj (Option.some.inj h)
    exact .inr ⟨hm, rfl, rfl⟩

theorem queue_of_guestV4l2BufferToHost {id : Nat} {req : Request} {host : Buffer}
    {resources : List Mapping} (h : guestV4l2BufferToHost id req = some (host, resources)) :
    host.queue = req.buffer.queue ∧ host.index = req.buffer.index ∧
      host.memory = req.buffer.memory := by
  obtain ⟨-, planes, rfl, -⟩ | ⟨-, rfl, -⟩ := guestV4l2BufferToHost_cases h
  · exact ⟨rfl, rfl, rfl⟩
  · exact ⟨rfl, rfl, rfl⟩

/-! ### The table -/

/-- The host pointers that are registered, each with the plane of the guest. -/
def pointers (qs ps : List Plane) : List (UInt64 × Plane) :=
  ((qs.map Plane.userptr).zip ps).filter fun p => p.1 ≠ 0

theorem registrations_eq (host guest : Buffer) (resources : List Mapping) :
    registrations host guest resources =
      ((pointers host.planes guest.planes).zip resources).map fun r =>
        ⟨r.1.1, guest.queue, guest.index.toUInt8, r.1.2.userptr, r.2⟩ := rfl

/-- The zero-length planes of a USERPTR buffer have no pointer. -/
def Buffer.ZeroNull (b : Buffer) : Prop :=
  b.memory = .userPtr → ∀ p ∈ b.planes, p.length = 0 → p.userptr = 0

instance instDecidableZeroNull (b : Buffer) : Decidable b.ZeroNull :=
  inferInstanceAs (Decidable (_ → ∀ p ∈ b.planes, p.length = 0 → p.userptr = 0))

/-- No zero-length plane with a pointer stands before a plane that is mapped. -/
def Aligned (ps : List Plane) : Prop :=
  ps.Pairwise fun p q => p.length = 0 → p.userptr ≠ 0 → q.length = 0

theorem aligned_of_null {ps : List Plane} (h : ∀ p ∈ ps, p.length = 0 → p.userptr = 0) :
    Aligned ps := by
  refine List.Pairwise.imp_of_mem (R := fun _ _ => True) ?_
    (List.pairwise_of_forall fun _ _ => trivial)
  intro p q hp _ _ h0 hne
  exact absurd (h p hp h0) hne

namespace Maps

variable {id : Nat} {ps qs : List Plane} {ms : List Mapping}

/-- There is a resource for every pointer if zero-length planes have none. -/
theorem pointers_length_le (h : Maps id ps qs ms)
    (hnull : ∀ p ∈ ps, p.length = 0 → p.userptr = 0) :
    (pointers qs ps).length ≤ ms.length := by
  induction h with
  | nil id => exact Nat.le_refl 0
  | @unmapped id p ps qs ms hp h ih =>
      have hrest := ih fun q hq => hnull q (List.mem_cons_of_mem p hq)
      rwa [pointers, List.map_cons, List.zip_cons_cons,
        List.filter_cons_of_neg (by simpa using hnull p List.mem_cons_self hp)]
  | @mapped id p ps qs ms addr hp h ih =>
      have hrest := ih fun q hq => hnull q (List.mem_cons_of_mem p hq)
      calc (pointers ({ p with userptr := addr } :: qs) (p :: ps)).length
          ≤ (pointers qs ps).length + 1 := by
            rw [pointers, List.map_cons, List.zip_cons_cons, List.filter_cons]
            split_ifs
            · exact Nat.le_refl _
            · exact Nat.le_succ _
        _ ≤ ms.length + 1 := Nat.succ_le_succ hrest

/-- Every pointer is then registered. -/
theorem exists_registration (h : Maps id ps qs ms)
    (hnull : ∀ p ∈ ps, p.length = 0 → p.userptr = 0) {q : Plane} (hq : q ∈ qs)
    (hne : q.userptr ≠ 0) :
    ∃ r ∈ (pointers qs ps).zip ms, r.1.1 = q.userptr := by
  have hlen : (qs.map Plane.userptr).length ≤ ps.length := by
    rw [List.length_map, h.planes.length_eq]
  have hfst : q.userptr ∈ ((qs.map Plane.userptr).zip ps).map Prod.fst := by
    rw [List.map_fst_zip hlen]
    exact List.mem_map_of_mem hq
  obtain ⟨p, hp, hpq⟩ := List.mem_map.mp hfst
  have hpointer : p ∈ ((pointers qs ps).zip ms).map Prod.fst := by
    rw [List.map_fst_zip (h.pointers_length_le hnull)]
    exact List.mem_filter.mpr ⟨hp, by simpa [hpq] using hne⟩
  obtain ⟨r, hr, rfl⟩ := List.mem_map.mp hpointer
  exact ⟨r, hr, hpq⟩

/-- The planes that are mapped are registered with their own mappings. -/
theorem pointers_zip (h : Maps id ps qs ms) (hal : Aligned ps)
    (hne : ∀ m ∈ ms, m.addr ≠ 0) :
    (pointers qs ps).zip ms = ((mappedPlanes ps).zip ms).map fun r => ((r.2.addr, r.1), r.2) := by
  induction h with
  | nil id => rfl
  | @unmapped id p ps qs ms hp h ih =>
      obtain ⟨hfirst, hrest⟩ := List.pairwise_cons.mp hal
      by_cases h0 : p.userptr = 0
      · rw [mappedPlanes_cons_zero hp, ← ih hrest hne, pointers, List.map_cons,
          List.zip_cons_cons, List.filter_cons_of_neg (by simpa using h0)]
        rfl
      · have hnone : mappedPlanes ps = [] :=
          List.filter_eq_nil_iff.mpr fun q hq => by simpa using hfirst q hq hp h0
        have hms : ms = [] := by
          apply List.eq_nil_of_length_eq_zero
          rw [h.length_eq, hnone, List.length_nil]
        rw [hms, List.zip_nil_right, List.zip_nil_right]
        rfl
  | @mapped id p ps qs ms addr hp h ih =>
      have haddr : addr ≠ 0 := hne _ List.mem_cons_self
      rw [mappedPlanes_cons_pos hp, List.zip_cons_cons, List.map_cons,
        ← ih (List.pairwise_cons.mp hal).2 fun m hm => hne m (List.mem_cons_of_mem _ hm),
        pointers, List.map_cons, List.zip_cons_cons,
        List.filter_cons_of_pos (by simpa using haddr), List.zip_cons_cons]
      rfl

end Maps

/-! ### From the host to the guest -/

/-- The table gives back the pointer `g` for the host pointer `h`. -/
def Restores (table : UserptrTable) (h g : UInt64) : Prop :=
  (h = 0 ∧ g = 0) ∨ (h ≠ 0 ∧ ∃ info ∈ table.entries, info.hostAddr = h ∧ info.guestAddr = g)

theorem UserPlaneInfo.key_eq {info : UserPlaneInfo} {a : UInt64} :
    info.key = a.toNat ↔ info.hostAddr = a := UInt64.toNat_inj

theorem restorePlane_eq_some {table : UserptrTable} {p p' : Plane} :
    restorePlane table p = some p' ↔
      ∃ g, Restores table p.userptr g ∧ p' = { p with userptr := g } := by
  unfold restorePlane Restores
  by_cases hp : p.userptr = 0
  · rw [if_pos hp]
    constructor
    · intro h
      exact ⟨0, .inl ⟨hp, rfl⟩, by rw [← Option.some.inj h, ← hp]⟩
    · rintro ⟨g, ⟨-, rfl⟩ | ⟨hne, -⟩, rfl⟩
      · rw [← hp]
      · exact absurd hp hne
  · rw [if_neg hp, Option.map_eq_some_iff]
    constructor
    · rintro ⟨info, hget, rfl⟩
      obtain ⟨hmem, hkey⟩ := SortedMap.get?_eq_some_iff.mp hget
      exact ⟨_, .inr ⟨hp, info, hmem, UserPlaneInfo.key_eq.mp hkey, rfl⟩, rfl⟩
    · rintro ⟨g, ⟨h0, -⟩ | ⟨-, info, hmem, hkey, rfl⟩, rfl⟩
      · exact absurd h0 hp
      · exact ⟨info, SortedMap.get?_eq_some_iff.mpr ⟨hmem, UserPlaneInfo.key_eq.mpr hkey⟩, rfl⟩

/-- The answer that `host_v4l2_buffer_to_guest` gives for a USERPTR buffer. -/
theorem hostV4l2BufferToGuest_eq_some {b b' : Buffer} {table : UserptrTable}
    (hm : b.memory = .userPtr) :
    hostV4l2BufferToGuest b table = some b' ↔ ∃ planes, b' = { b with planes := planes } ∧
      List.Forall₂ (fun p p' => ∃ g, Restores table p.userptr g ∧ p' = { p with userptr := g })
        b.planes planes := by
  unfold hostV4l2BufferToGuest
  rw [if_pos hm, Option.map_eq_some_iff]
  simp only [Fallible.mapM_eq_some, restorePlane_eq_some]
  constructor
  · rintro ⟨planes, h, rfl⟩
    exact ⟨planes, rfl, h⟩
  · rintro ⟨planes, rfl, h⟩
    exact ⟨planes, h, rfl⟩

/-- A USERPTR buffer is translated when its pointers are null or registered. -/
theorem hostV4l2BufferToGuest_isSome {b : Buffer} {table : UserptrTable}
    (h : b.memory = .userPtr → ∀ p ∈ b.planes, p.userptr ≠ 0 →
      ∃ info ∈ table.entries, info.hostAddr = p.userptr) :
    (hostV4l2BufferToGuest b table).isSome = true := by
  by_cases hm : b.memory = .userPtr
  · have hplanes : ∀ ps : List Plane, (∀ p ∈ ps, p.userptr ≠ 0 →
        ∃ info ∈ table.entries, info.hostAddr = p.userptr) →
        ∃ planes, List.Forall₂ (fun p p' =>
          ∃ g, Restores table p.userptr g ∧ p' = { p with userptr := g }) ps planes := by
      intro ps
      induction ps with
      | nil => exact fun _ => ⟨[], .nil⟩
      | cons p ps ih =>
          intro hps
          obtain ⟨planes, hrest⟩ := ih fun q hq => hps q (List.mem_cons_of_mem p hq)
          by_cases hp : p.userptr = 0
          · exact ⟨_, .cons ⟨0, .inl ⟨hp, rfl⟩, rfl⟩ hrest⟩
          · obtain ⟨info, hinfo, haddr⟩ := hps p List.mem_cons_self hp
            exact ⟨_, .cons ⟨_, .inr ⟨hp, info, hinfo, haddr, rfl⟩, rfl⟩ hrest⟩
    obtain ⟨planes, hrestored⟩ := hplanes b.planes (h hm)
    rw [(hostV4l2BufferToGuest_eq_some hm).mpr ⟨planes, rfl, hrestored⟩]
    rfl
  · rw [hostV4l2BufferToGuest, if_neg hm]
    rfl

theorem Buffer.mem_withStatus {b : Buffer} {st : Status} {p : Plane}
    (h : p ∈ (b.withStatus st).planes) :
    ∃ q ∈ b.planes, p.userptr = q.userptr ∧ p.length = q.length := by
  obtain ⟨i, hi, rfl⟩ := List.mem_mapIdx.mp h
  exact ⟨b.planes[i], List.getElem_mem hi, rfl, rfl⟩

/-- A buffer that was just registered can be translated back, if its zero-length
planes have no pointers. -/
theorem hostV4l2BufferToGuest_registered {id : Nat} {req : Request} {host : Buffer}
    {resources : List Mapping} (h : guestV4l2BufferToHost id req = some (host, resources))
    (hnull : req.buffer.ZeroNull) (table : UserptrTable) (st : Status) :
    (hostV4l2BufferToGuest (host.withStatus st)
      (registerUserptrAddresses table host req.buffer resources)).isSome = true := by
  apply hostV4l2BufferToGuest_isSome
  intro hm p hp hne
  obtain ⟨q, hq, hpq, -⟩ := Buffer.mem_withStatus hp
  rw [hpq] at hne ⊢
  obtain ⟨hmem, planes, rfl, hmaps, -⟩ | ⟨hmem, rfl, -⟩ := guestV4l2BufferToHost_cases h
  · obtain ⟨r, hr, hr1⟩ := hmaps.exists_registration (hnull hmem) hq hne
    rw [registerUserptrAddresses, if_pos hmem]
    have hreg : ∃ info ∈ registrations { req.buffer with planes := planes } req.buffer resources,
        info.key = q.userptr.toNat :=
      ⟨⟨r.1.1, _, _, _, r.2⟩, List.mem_map_of_mem hr, congrArg UInt64.toNat hr1⟩
    obtain ⟨info, hinfo, hkey⟩ := SortedMap.exists_key_foldl_insert.mpr (.inr hreg)
    exact ⟨info, hinfo, UserPlaneInfo.key_eq.mp hkey⟩
  · exact absurd hm hmem

end VirtioMedia.Device.ProxyQueues
