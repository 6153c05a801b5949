import VirtioMedia.Device.ProxyCounters

/-!
# The table of USERPTR planes of the V4L2 proxy device

`userptr_buffers` owns the guest memory that is mapped for the host and gives
back the pointers of the guest. Its entries are dropped by the queue and the
low byte of the index of a dequeued buffer, and it is filled by putting
resources beside pointers in order. The memory of a queued buffer stays mapped
as long as these two agree with the buffers that the host holds; the pointers
that the host remembers can be translated as long as the buffer has not been
dequeued since it was queued.
-/

namespace VirtioMedia.Device.ProxyQueues

open V4l2

/-! ### The calls that do not touch the table -/

namespace Session

variable (s : Session) (queue : QueueType)

@[simp] theorem userptrBuffers_stop : (s.stop queue).userptrBuffers = s.userptrBuffers := by
  unfold Session.stop
  split_ifs <;> rfl

@[simp] theorem userptrBuffers_start : (s.start queue).userptrBuffers = s.userptrBuffers := by
  unfold Session.start
  split_ifs <;> rfl

@[simp] theorem userptrBuffers_countQueued :
    (s.countQueued queue).userptrBuffers = s.userptrBuffers := by
  unfold Session.countQueued
  split_ifs <;> rfl

@[simp] theorem userptrBuffers_rememberQueue :
    (s.rememberQueue queue).userptrBuffers = s.userptrBuffers := by
  unfold Session.rememberQueue
  split_ifs <;> rfl

end Session

/-- The table and the buffers on the host are the same. -/
structure State.SameBuffers (s s' : State) : Prop where
  table : s'.session.userptrBuffers = s.session.userptrBuffers
  host : s'.host = s.host

theorem State.SameBuffers.refl (s : State) : s.SameBuffers s := ⟨rfl, rfl⟩

/-- CREATE_BUFS neither queues a buffer nor touches the table. -/
theorem State.sameBuffers_createBufs (s : State) (queue : QueueType) (count : UInt32)
    (answer : Except Int Unit) : s.SameBuffers (s.createBufs queue count answer).state := by
  unfold State.createBufs
  cases s.host.answer queue answer with
  | error e => exact .refl s
  | ok u =>
      refine ⟨?_, rfl⟩
      dsimp only
      split_ifs
      · rfl
      · exact s.session.userptrBuffers_rememberQueue queue

theorem State.sameBuffers_streamon (s : State) (queue : QueueType) (answer : Except Int Unit) :
    s.SameBuffers (s.streamon queue answer).state := by
  unfold State.streamon
  cases s.host.answer queue answer with
  | error e => exact .refl s
  | ok u => exact ⟨s.session.userptrBuffers_start queue, rfl⟩

/-- STREAMOFF changes nothing, or the host returns the buffers of the queue. -/
theorem State.streamoff_buffers (s : State) (queue : QueueType) (answer : Except Int Unit) :
    s.SameBuffers (s.streamoff queue answer).state ∨
      ((s.streamoff queue answer).state.session.userptrBuffers = s.session.userptrBuffers ∧
        (s.streamoff queue answer).state.host = s.host.empty queue) := by
  unfold State.streamoff
  cases s.host.answer queue answer with
  | error e => exact .inl (.refl s)
  | ok u => exact .inr ⟨s.session.userptrBuffers_stop queue, rfl⟩

/-- REQBUFS changes nothing, or the host frees the buffers of the queue. -/
theorem State.reqbufs_buffers (s : State) (queue : QueueType) (answer : Except Int UInt32) :
    (s.SameBuffers (s.reqbufs queue answer).state ∧
        (s.reqbufs queue answer).result.isOk = false) ∨
      ((s.reqbufs queue answer).state.session.userptrBuffers = s.session.userptrBuffers ∧
        (s.reqbufs queue answer).state.host = s.host.free queue ∧
        (s.reqbufs queue answer).result.isOk = true) := by
  unfold State.reqbufs
  cases s.host.answer queue answer with
  | error e => exact .inl ⟨.refl s, rfl⟩
  | ok n =>
      refine .inr ⟨?_, rfl, rfl⟩
      dsimp only
      split_ifs
      · rw [Session.userptrBuffers_stop, Session.userptrBuffers_rememberQueue]
      · exact s.session.userptrBuffers_rememberQueue queue

/-! ### The mapper -/

/-- The addresses at which a request is mapped. -/
def Request.addresses (req : Request) : List UInt64 := req.mapped.filterMap fun a => a

/-- The mapper returns addresses that are not null, differ from each other and
from those of the mappings that the table owns. -/
def Request.Fresh (req : Request) (table : UserptrTable) : Prop :=
  req.addresses.Nodup ∧ ∀ a ∈ req.addresses,
    a ≠ 0 ∧ ∀ info ∈ table.entries, info.guestResource.addr ≠ a

/-- The mapper gives different addresses to mappings that are alive at once. -/
def State.MapperOk (s : State) : Call → Prop
  | .qbuf req outputs _ =>
    req.Fresh (s.dequeueOutputBuffers outputs).state.session.userptrBuffers
  | .prepareBuf req _ => req.Fresh s.session.userptrBuffers
  | _ => True

instance instDecidableFresh (req : Request) (table : UserptrTable) : Decidable (req.Fresh table) :=
  -- the addresses of the list, not all addresses
  have : Decidable (∀ a ∈ req.addresses,
      a ≠ 0 ∧ ∀ info ∈ table.entries, info.guestResource.addr ≠ a) := List.decidableBAll _ _
  inferInstanceAs (Decidable (req.addresses.Nodup ∧ ∀ a ∈ req.addresses, _))

instance instDecidableMapperOk (s : State) : (c : Call) → Decidable (s.MapperOk c)
  | .qbuf req outputs _ => inferInstanceAs (Decidable
      (req.Fresh (s.dequeueOutputBuffers outputs).state.session.userptrBuffers))
  | .prepareBuf req _ => inferInstanceAs (Decidable (req.Fresh s.session.userptrBuffers))
  | .reqbufs _ _ | .createBufs _ _ _ | .querybuf _ | .streamon _ _ | .streamoff _ _
  | .decoderCmd _ | .processEvents _ | .close => .isTrue trivial

/-! ### Registration -/

/-- Every entry stands under the address of its mapping. -/
def Keyed (table : UserptrTable) : Prop :=
  ∀ info ∈ table.entries, info.hostAddr = info.guestResource.addr ∧ info.hostAddr ≠ 0

/-- The entry of a plane. -/
def Buffer.entry (guest : Buffer) (r : Plane × Mapping) : UserPlaneInfo :=
  ⟨r.2.addr, guest.queue, guest.index.toUInt8, r.1.userptr, r.2⟩

/-- No zero-length plane of a USERPTR buffer stands before a mapped one. -/
def Buffer.Aligned (b : Buffer) : Prop := b.memory = .userPtr → ProxyQueues.Aligned b.planes

instance instDecidableAligned (b : Buffer) : Decidable b.Aligned :=
  inferInstanceAs (Decidable (_ → List.Pairwise _ _))

theorem Buffer.ZeroNull.aligned {b : Buffer} (h : b.ZeroNull) : b.Aligned :=
  fun hm => aligned_of_null (h hm)

section Register

variable {id : Nat} {req : Request} {host : Buffer} {resources : List Mapping}
  {table : UserptrTable}

/-- The addresses of a request are those of the mappings that are made for it.
-/
theorem Request.addresses_eq (h : guestV4l2BufferToHost id req = some (host, resources))
    (hm : req.buffer.memory = .userPtr) : req.addresses = resources.map Mapping.addr := by
  obtain ⟨-, planes, -, -, hmapped⟩ | ⟨hne, -⟩ := guestV4l2BufferToHost_cases h
  · rw [Request.addresses, hmapped, List.filterMap_map]
    exact congrFun List.filterMap_eq_map resources
  · exact absurd hm hne

/-- Where planes and mappings line up, each plane is registered with its own
mapping. -/
theorem registrations_aligned (h : guestV4l2BufferToHost id req = some (host, resources))
    (hm : req.buffer.memory = .userPtr) (hal : req.buffer.Aligned)
    (hne : ∀ a ∈ req.addresses, a ≠ 0) :
    registrations host req.buffer resources =
      ((mappedPlanes req.buffer.planes).zip resources).map req.buffer.entry := by
  have haddr := Request.addresses_eq h hm
  obtain ⟨-, planes, rfl, hmaps, -⟩ | ⟨hnot, -⟩ := guestV4l2BufferToHost_cases h
  · have hms : ∀ m ∈ resources, m.addr ≠ 0 := fun m hmem =>
      hne m.addr (haddr ▸ List.mem_map_of_mem hmem)
    rw [registrations_eq, hmaps.pointers_zip (hal hm) hms, List.map_map]
    rfl
  · exact absurd hm hnot

/-- There is one entry for each mapping of the request. -/
theorem addresses_of_entries (h : guestV4l2BufferToHost id req = some (host, resources))
    (hm : req.buffer.memory = .userPtr) :
    (((mappedPlanes req.buffer.planes).zip resources).map req.buffer.entry).map
      UserPlaneInfo.hostAddr = req.addresses := by
  rw [Request.addresses_eq h hm]
  obtain ⟨-, planes, -, hmaps, -⟩ | ⟨hnot, -⟩ := guestV4l2BufferToHost_cases h
  · calc (((mappedPlanes req.buffer.planes).zip resources).map req.buffer.entry).map
          UserPlaneInfo.hostAddr
        = (((mappedPlanes req.buffer.planes).zip resources).map Prod.snd).map Mapping.addr := by
          rw [List.map_map, List.map_map]
          rfl
      _ = resources.map Mapping.addr := by rw [List.map_snd_zip hmaps.length_eq.le]
  · exact absurd hm hnot

theorem pairwise_key_of_nodup {infos : List UserPlaneInfo}
    (h : (infos.map UserPlaneInfo.hostAddr).Nodup) :
    infos.Pairwise fun a b => a.key ≠ b.key :=
  (List.pairwise_map.mp h).imp fun hne hkey => hne (UserPlaneInfo.key_eq.mp hkey)

/-- Registration adds the planes of the request and drops nothing. -/
theorem mem_registerUserptrAddresses
    (h : guestV4l2BufferToHost id req = some (host, resources))
    (hk : Keyed table) (hal : req.buffer.Aligned) (hf : req.Fresh table) {info : UserPlaneInfo} :
    info ∈ (registerUserptrAddresses table host req.buffer resources).entries ↔
      info ∈ table.entries ∨ (req.buffer.memory = .userPtr ∧
        info ∈ ((mappedPlanes req.buffer.planes).zip resources).map req.buffer.entry) := by
  unfold registerUserptrAddresses
  split_ifs with hm
  · have haddr := addresses_of_entries h hm
    rw [registrations_aligned h hm hal fun a ha => (hf.2 a ha).1]
    generalize ((mappedPlanes req.buffer.planes).zip resources).map req.buffer.entry = new
      at haddr ⊢
    have hpair : new.Pairwise fun a b => a.key ≠ b.key :=
      pairwise_key_of_nodup (haddr.symm ▸ hf.1)
    have hother : ∀ info ∈ table.entries, ∀ a ∈ new, info.key ≠ a.key := by
      intro info hinfo a ha hkey
      have hmem : a.hostAddr ∈ req.addresses := haddr ▸ List.mem_map_of_mem ha
      apply (hf.2 _ hmem).2 info hinfo
      rw [← (hk info hinfo).1]
      exact UserPlaneInfo.key_eq.mp hkey
    rw [SortedMap.mem_foldl_insert hpair]
    constructor
    · rintro (hinfo | ⟨hinfo, -⟩)
      · exact .inr ⟨hm, hinfo⟩
      · exact .inl hinfo
    · rintro (hinfo | ⟨-, hinfo⟩)
      · exact .inr ⟨hinfo, hother info hinfo⟩
      · exact .inl hinfo
  · simp [hm]

/-- Fresh addresses keep the host addresses of the table distinct. -/
theorem Keyed.register (h : guestV4l2BufferToHost id req = some (host, resources))
    (hk : Keyed table) (hal : req.buffer.Aligned) (hf : req.Fresh table) :
    Keyed (registerUserptrAddresses table host req.buffer resources) := by
  intro info hinfo
  obtain hold | ⟨hm, hnew⟩ := (mem_registerUserptrAddresses h hk hal hf).mp hinfo
  · exact hk info hold
  · obtain ⟨r, hr, rfl⟩ := List.mem_map.mp hnew
    refine ⟨rfl, (hf.2 _ ?_).1⟩
    rw [Request.addresses_eq h hm]
    exact List.mem_map_of_mem (List.of_mem_zip hr).2

end Register

theorem Keyed.dropPlanes {s : Session} (hk : Keyed s.userptrBuffers) (queue : QueueType)
    (index : UInt32) : Keyed (s.dropPlanes queue index).userptrBuffers :=
  fun info hinfo => hk info (SortedMap.mem_retain.mp hinfo).1

/-- What a dequeueing drops. -/
theorem mem_dropPlanes {s : Session} {queue : QueueType} {index : UInt32} {info : UserPlaneInfo} :
    info ∈ (s.dropPlanes queue index).userptrBuffers.entries ↔
      info ∈ s.userptrBuffers.entries ∧ ¬(info.queue = queue ∧ info.index = index.toUInt8) := by
  rw [Session.dropPlanes, SortedMap.mem_retain]
  simp [imp_iff_not_or]

/-! ### The memory of the buffers on the host -/

/-- The table owns the mapping of each plane of non-zero length: the one whose
address the host was given. -/
def Held.Owned (h : Held) (table : UserptrTable) : Prop :=
  h.buffer.memory = .userPtr → List.Forall₂ (fun p m =>
    m.addr = p.userptr ∧ ∃ info ∈ table.entries, info.guestResource = m)
      (mappedPlanes h.buffer.planes) h.resources

instance instDecidableOwned (h : Held) (table : UserptrTable) : Decidable (h.Owned table) :=
  inferInstanceAs (Decidable (_ → List.Forall₂ (fun (p : Plane) (m : Mapping) =>
    m.addr = p.userptr ∧ ∃ info ∈ table.entries, info.guestResource = m) _ _))

/-- The entries stand under the queue and the index of the buffer. -/
def Held.Backed (h : Held) (table : UserptrTable) : Prop :=
  h.buffer.memory = .userPtr → List.Forall₂ (fun p m =>
    m.addr = p.userptr ∧ ∃ info ∈ table.entries, info.guestResource = m ∧
      info.queue = h.buffer.queue ∧ info.index = h.buffer.index.toUInt8)
      (mappedPlanes h.buffer.planes) h.resources

/-- A dequeueing of one of the buffers does not drop the planes of the other. -/
def Buffer.Apart (a b : Buffer) : Prop :=
  a.memory = .userPtr ∨ b.memory = .userPtr → a.queue = b.queue →
    a.index.toUInt8 ≠ b.index.toUInt8

instance instDecidableApart (a b : Buffer) : Decidable (a.Apart b) :=
  inferInstanceAs (Decidable (_ ∨ _ → _ → _))

theorem Buffer.Apart.symm {a b : Buffer} (h : a.Apart b) : b.Apart a :=
  fun hm hq => (h hm.symm hq.symm).symm

/-- A buffer whose planes are backed by the table owns its memory. -/
theorem Held.Backed.owned {h : Held} {table : UserptrTable} (hb : h.Backed table) :
    h.Owned table := by
  intro hm
  refine (hb hm).imp ?_
  rintro p m ⟨haddr, info, hinfo, hres, -⟩
  exact ⟨haddr, info, hinfo, hres⟩

/-- It is enough that the entries of the buffer stay. -/
theorem Held.Backed.mono {h : Held} {table table' : UserptrTable} (hb : h.Backed table)
    (hmem : h.buffer.memory = .userPtr → ∀ info ∈ table.entries,
      info.queue = h.buffer.queue → info.index = h.buffer.index.toUInt8 →
      info ∈ table'.entries) : h.Backed table' := by
  intro hm
  refine (hb hm).imp ?_
  rintro p m ⟨haddr, info, hinfo, hres, hq, hi⟩
  exact ⟨haddr, info, hmem hm info hinfo hq hi, hres, hq, hi⟩

/-- What holds between the calls while no memory is lost. -/
structure State.Mapped (s : State) : Prop where
  keyed : Keyed s.session.userptrBuffers
  backed : ∀ h ∈ s.host.held, h.Backed s.session.userptrBuffers
  apart : s.host.held.Pairwise fun a b => a.buffer.Apart b.buffer

namespace State.Mapped

variable {s s' : State}

theorem of_same (h : s.Mapped) (hs : s.SameBuffers s') : s'.Mapped := by
  obtain ⟨ht, hh⟩ := hs
  exact ⟨ht ▸ h.keyed, ht ▸ hh ▸ h.backed, hh ▸ h.apart⟩

/-- The host returns some buffers and the table keeps their planes. -/
theorem of_sublist (h : s.Mapped) (ht : s'.session.userptrBuffers = s.session.userptrBuffers)
    (hh : s'.host.held.Sublist s.host.held) : s'.Mapped where
  keyed := ht ▸ h.keyed
  backed held hheld := ht ▸ h.backed held (hh.subset hheld)
  apart := h.apart.sublist hh

/-- The host hands a buffer back, and its entries are dropped. -/
theorem take (h : s.Mapped) {queue : QueueType} {pos : Nat} {held : Held}
    (hpos : s.host.held[pos]? = some held) (hq : held.buffer.queue = queue) :
    (s.take queue pos held).Mapped where
  keyed := h.keyed.dropPlanes queue held.buffer.index
  backed := by
    intro other hother
    obtain ⟨hlt, rfl⟩ := List.getElem?_eq_some_iff.mp hpos
    have hapart : ∀ other ∈ s.host.held.eraseIdx pos,
        s.host.held[pos].buffer.Apart other.buffer := by
      have hperm := List.getElem_cons_eraseIdx_perm hlt
      exact (List.pairwise_cons.mp ((hperm.pairwise_iff fun h => h.symm).mpr h.apart)).1
    refine (h.backed other (List.mem_of_mem_eraseIdx hother)).mono ?_
    intro hm info hinfo hiq hii
    refine mem_dropPlanes.mpr ⟨hinfo, ?_⟩
    rintro ⟨hq', hi'⟩
    exact hapart other hother (.inr hm) (by rw [hq, ← hq', hiq]) (by rw [← hi', hii])
  apart := h.apart.sublist (List.eraseIdx_sublist _ _)

section Submit

variable {req : Request} {host : Buffer} {resources : List Mapping}

/-- The entries are in the table before the host gets the buffer. -/
theorem submitted (h : s.Mapped) (hal : req.buffer.Aligned)
    (hf : req.Fresh s.session.userptrBuffers)
    (hmap : guestV4l2BufferToHost s.nextMapping req = some (host, resources)) :
    (s.submitted host req.buffer resources).Mapped where
  keyed := h.keyed.register hmap hal hf
  backed held hheld := (h.backed held hheld).mono fun _ _ hinfo _ _ =>
    (mem_registerUserptrAddresses hmap h.keyed hal hf).mpr (.inl hinfo)
  apart := h.apart

/-- The planes of the new buffer have just been registered. -/
theorem backed_submitted (h : s.Mapped) (hal : req.buffer.Aligned)
    (hf : req.Fresh s.session.userptrBuffers)
    (hmap : guestV4l2BufferToHost s.nextMapping req = some (host, resources)) :
    Held.Backed ⟨host, resources⟩
      (s.submitted host req.buffer resources).session.userptrBuffers := by
  intro hm
  have hmem := @mem_registerUserptrAddresses _ _ _ _ _ hmap h.keyed hal hf
  obtain ⟨huser, planes, rfl, hmaps, -⟩ | ⟨hnot, rfl, -⟩ := guestV4l2BufferToHost_cases hmap
  · refine hmaps.mappings.imp ?_
    rintro q m ⟨haddr, p, hzip⟩
    exact ⟨haddr, req.buffer.entry (p, m),
      hmem.mpr (.inr ⟨huser, List.mem_map_of_mem hzip⟩), rfl, rfl, rfl⟩
  · exact absurd hm hnot

/-- The host takes a buffer whose memory is apart from that of the others. -/
theorem accepted (h : s.Mapped) (hb : Held.Backed ⟨host, resources⟩ s.session.userptrBuffers)
    (hapart : ∀ held ∈ s.host.held, held.buffer.Apart host) :
    (s.accepted host resources).Mapped where
  keyed := h.keyed
  backed held hheld := by
    rcases List.mem_append.mp hheld with hold | hnew
    · exact h.backed held hold
    · rw [List.mem_singleton.mp hnew]
      exact hb
  apart := by
    refine List.pairwise_append.mpr ⟨h.apart, List.pairwise_singleton _ _, ?_⟩
    intro a ha b hb
    rw [List.mem_singleton.mp hb]
    exact hapart a ha

end Submit

end State.Mapped

/-- The calls that keep the memory mapped: no zero-length plane with a pointer
stands before a plane that is mapped, and no buffer is queued while the host
holds another one of the queue with the same low byte of the index. -/
def State.KeepsMapped (s : State) : Call → Prop
  | .qbuf req outputs answer => req.buffer.Aligned ∧
      (((s.dequeueOutputBuffers outputs).state.host.answer req.buffer.queue answer).isOk = true →
        ∀ h ∈ (s.dequeueOutputBuffers outputs).state.host.held, h.buffer.Apart req.buffer)
  | .prepareBuf req _ => req.buffer.Aligned
  | _ => True

instance instDecidableKeepsMapped (s : State) : (c : Call) → Decidable (s.KeepsMapped c)
  | .qbuf req outputs answer => inferInstanceAs (Decidable (req.buffer.Aligned ∧
      (((s.dequeueOutputBuffers outputs).state.host.answer req.buffer.queue answer).isOk = true →
        ∀ h ∈ (s.dequeueOutputBuffers outputs).state.host.held, h.buffer.Apart req.buffer)))
  | .prepareBuf req _ => inferInstanceAs (Decidable req.buffer.Aligned)
  | .reqbufs _ _ | .createBufs _ _ _ | .querybuf _ | .streamon _ _ | .streamoff _ _
  | .decoderCmd _ | .processEvents _ | .close => .isTrue trivial

theorem State.mapped_keeps : State.Keeps fun t _ => t.Mapped where
  output := fun _ _ _ _ _ _ ht _ hpos hq => ht.take hpos hq
  other := fun _ _ _ ht _ => ht
  capture := by
    rintro t _ _ _ ht - ⟨queue, pos, held, st, session, -, hpos, hq, hcount, rfl, -⟩
    obtain ⟨-, -, -, -, -, -, htable, -⟩ := Session.countDequeued_eq_some hcount
    exact (ht.take hpos hq).of_same ⟨htable, rfl⟩

/-- QBUF, with the buffers that are dequeued on the way. -/
theorem State.Mapped.qbuf {s : State} (h : s.Mapped) {req : Request} {outputs : List DqAnswer}
    {answer : Except Int Status} (hm : s.MapperOk (.qbuf req outputs answer))
    (hok : s.KeepsMapped (.qbuf req outputs answer)) :
    (s.qbuf req outputs answer).state.Mapped := by
  have hout : (s.dequeueOutputBuffers outputs).state.Mapped :=
    State.mapped_keeps.dequeueOutputBuffers outputs [] h
  obtain ⟨hal, hapart⟩ := hok
  change ((s.dequeueOutputBuffers outputs).state.qbufHost req answer).state.Mapped
  obtain ⟨-, heq⟩ | ⟨host, resources, hmap, hcases⟩ :=
    (s.dequeueOutputBuffers outputs).state.qbufHost_cases req answer
  · rw [heq]
    exact hout
  · have hsub := hout.submitted hal hm hmap
    obtain ⟨hqueue, hindex, hmem⟩ := queue_of_guestV4l2BufferToHost hmap
    have hacc : ∀ st, (s.dequeueOutputBuffers outputs).state.host.answer host.queue answer =
        .ok st → (((s.dequeueOutputBuffers outputs).state.submitted host req.buffer
          resources).accepted host resources).Mapped := by
      intro st hans
      refine hsub.accepted (hout.backed_submitted hal hm hmap) ?_
      intro held hheld
      have := hapart (by rw [← hqueue, hans]; rfl) held hheld
      unfold Buffer.Apart at this ⊢
      rwa [hqueue, hindex, hmem]
    obtain ⟨e, -, heq⟩ | ⟨st, hans, ⟨-, heq⟩ | ⟨out, -, heq⟩⟩ := hcases
    · rw [heq]
      exact hsub
    · rw [heq]
      exact hacc st hans
    · rw [heq]
      exact (hacc st hans).of_same ⟨Session.userptrBuffers_countQueued _ _, rfl⟩

/-- Every call keeps the memory of queued buffers mapped. -/
theorem State.Mapped.step {s s' : State} {c : Call} (h : s.Mapped) (hm : s.MapperOk c)
    (hok : s.KeepsMapped c) (hstep : s.step c = some s') : s'.Mapped := by
  obtain ⟨r, hcall, rfl⟩ := Option.map_eq_some_iff.mp hstep
  cases c with
  | reqbufs queue answer =>
      cases hcall
      change (s.reqbufs queue answer).state.Mapped
      obtain ⟨hsame, -⟩ | ⟨htable, hhost, -⟩ := s.reqbufs_buffers queue answer
      · exact h.of_same hsame
      · refine h.of_sublist htable ?_
        rw [hhost]
        exact List.filter_sublist
  | createBufs queue count answer =>
      cases hcall
      exact h.of_same (s.sameBuffers_createBufs queue count answer)
  | querybuf answer =>
      cases hcall
      exact (State.querybuf_state s answer).symm ▸ h
  | streamon queue answer =>
      cases hcall
      exact h.of_same (s.sameBuffers_streamon queue answer)
  | streamoff queue answer =>
      cases hcall
      change (s.streamoff queue answer).state.Mapped
      obtain hsame | ⟨htable, hhost⟩ := s.streamoff_buffers queue answer
      · exact h.of_same hsame
      · refine h.of_sublist htable ?_
        rw [hhost]
        exact List.filter_sublist
  | qbuf req outputs answer =>
      cases hcall
      exact h.qbuf hm hok
  | prepareBuf req answer =>
      cases hcall
      change (s.prepareBuf req answer).state.Mapped
      obtain ⟨-, heq⟩ | ⟨host, resources, hmap, result, heq, -⟩ :=
        s.prepareBuf_cases req answer
      · rw [heq]
        exact h
      · rw [heq]
        exact h.submitted hok hm hmap
  | decoderCmd answer =>
      cases hcall
      exact h
  | processEvents events =>
      obtain ⟨r', hr', rfl⟩ := Option.map_eq_some_iff.mp hcall
      exact State.mapped_keeps.processEvents [] h hr'
  | close =>
      cases hcall
      exact ⟨fun _ h => (by cases h), fun _ h => (by cases h), List.Pairwise.nil⟩

theorem State.mapped_init (id : UInt32) (multiplanar : Bool) : (State.init id multiplanar).Mapped :=
  ⟨fun _ h => (by cases h), fun _ h => (by cases h), List.Pairwise.nil⟩

/-- In every run with a mapper that gives different addresses to mappings that
are alive at once, the guest memory of the buffers on the host stays mapped, if
no zero-length plane with a pointer stands before a mapped plane and no two
buffers of a queue are on the host whose indices have the same low byte. -/
theorem held_memory_owned (id : UInt32) (multiplanar : Bool) (calls : List Call) (s : State)
    (hmapper : Trace.Conforms State.step State.MapperOk (.init id multiplanar) calls)
    (hok : Trace.Conforms State.step State.KeepsMapped (.init id multiplanar) calls)
    (hrun : Trace.run State.step (.init id multiplanar) calls = some s) :
    ∀ h ∈ s.host.held, h.Owned s.session.userptrBuffers := by
  have hinv := Trace.run_invariant_of_conforms (P := State.Mapped)
    (fun s c s' hs hc hstep => hs.step hc.1 hc.2 hstep) (State.mapped_init id multiplanar)
    (Trace.conforms_and hmapper hok) hrun
  exact fun h hh => (hinv.backed h hh).owned

theorem held_memory_owned_captureRun :
    ∃ s, Trace.run State.step (.init 0 false) (captureRun.take 5) = some s ∧
      s.host.held.length = 1 ∧ ∀ h ∈ s.host.held, h.Owned s.session.userptrBuffers := by
  refine ⟨_, rfl, rfl, ?_⟩
  exact held_memory_owned 0 false (captureRun.take 5) _ (by decide) (by decide) rfl

/-- Two CAPTURE buffers whose indices have the same low byte, of which one is
dequeued. -/
def sameByteRun : List Call :=
  [.reqbufs .videoCapture (.ok 300),
    .qbuf (userptrRequest .videoCapture 0 0x1000 0x7f00) [] (.ok (filled 0)),
    .qbuf (userptrRequest .videoCapture 256 0x2000 0x7f01) [] (.ok (filled 0)),
    .streamon .videoCapture (.ok ()),
    .processEvents [.captureReady (.buffer 0 (filled 0)) []]]

theorem held_memory_dropped :
    Trace.Conforms State.step State.MapperOk (.init 0 false) sameByteRun ∧
      ∃ s, Trace.run State.step (.init 0 false) sameByteRun = some s ∧
        ¬∀ h ∈ s.host.held, h.Owned s.session.userptrBuffers := by
  refine ⟨by decide, _, rfl, ?_⟩
  decide

end VirtioMedia.Device.ProxyQueues
