import VirtioMedia.Driver.QueueAccounting
import VirtioMedia.Driver.BufferIoctls

/-!
# CREATE_BUFS and the list links in the buffer array

The slots of a queue are linked on `pending_dqbufs` through a `list_head` that
lies in the slot itself. The model of the queues elsewhere keeps the indices
of the linked slots. This one keeps the memory: arrays at addresses, and in
each slot the address of the next one. CREATE_BUFS moves the slots into a new
array, which the links do not follow.

The list is read forwards only, so the backward links are left out.
-/

namespace VirtioMedia.Driver

open V4l2

/-- The address of a `list_head`: the one of the queue, or that of a slot in
the array at some address. -/
inductive Link where
  | head
  | node (array slot : Nat)
  deriving DecidableEq, Repr

/-- `struct virtio_media_buffer` with its list link; `none` is NULL. -/
structure LinkedBuffer where
  buffer : MediaBuffer
  next : Option Link
  deriving DecidableEq, Repr

def LinkedBuffer.zero : LinkedBuffer := ⟨MediaBuffer.zero, none⟩

/-- A `struct virtio_media_queue_state` with the arrays that are allocated for
it, by address. -/
structure LinkedQueue where
  arrays : Nat → Option (List LinkedBuffer)
  buffers : Option Nat
  allocatedBufs : Nat
  memory : UInt32
  next : Option Link

/-- The array `queue->buffers` points to; NULL is an array of no slots. -/
def LinkedQueue.slots (q : LinkedQueue) : List LinkedBuffer :=
  (q.buffers.bind q.arrays).getD []

/-- The list that starts at a link visits these slots of the current array, in
this order, and then comes back to the queue. -/
def LinkedQueue.Follows (q : LinkedQueue) : Option Link → List Nat → Prop
  | p, [] => p = some .head
  | p, i :: rest => ∃ array b, q.buffers = some array ∧ p = some (.node array i) ∧
      q.slots[i]? = some b ∧ q.Follows b.next rest

/-- `pending_dqbufs` lists these slots. -/
def LinkedQueue.Lists (q : LinkedQueue) (l : List Nat) : Prop := q.Follows q.next l

/-- The memory holds the slots and the list of a queue. -/
structure Represents (lq : LinkedQueue) (q : QueueState) : Prop where
  slots : lq.slots.map LinkedBuffer.buffer = q.buffers
  allocated : lq.allocatedBufs = q.buffers.length
  memory : lq.memory = q.memory
  lists : lq.Lists q.pendingDqbufs
  live : ∀ array, lq.buffers = some array → lq.arrays array ≠ none

/-- `virtio_media_create_bufs` after its command. `alloc` is the address given
by `vzalloc`, which fails for no bytes; `none` stands for a copy beyond the
end of the new array. -/
def LinkedQueue.createBufs (q : LinkedQueue) (reply : CreateBuffers) (alloc : Option Nat) :
    Option (Int × LinkedQueue) :=
  if reply.newLength == 0 then some (-enomem, q)
  else
    match alloc with
    | none => some (-enomem, q)
    | some array =>
      if reply.newLength < q.allocatedBufs then none
      else
        let copied := q.slots.take q.allocatedBufs ++
          List.replicate (reply.newLength - q.allocatedBufs) LinkedBuffer.zero
        some (0, {
          -- the old array is freed once its slots are copied
          arrays := fun a =>
            if a = array then some copied else if some a = q.buffers then none else q.arrays a
          buffers := some array
          allocatedBufs := reply.newLength
          memory := reply.memory
          next := q.next })

/-- `virtio_media_create_bufs` on the queues of a session. -/
def createBufsLinked (qs : Fin numQueues → LinkedQueue) (b : CreateBuffers) (ret : Int)
    (reply : CreateBuffers) (alloc : Option Nat) :
    Option (Int × CreateBuffers × (Fin numQueues → LinkedQueue)) :=
  match createBufsCheck b with
  | .error e => some (e, b, qs)
  | .ok t =>
    if ret != 0 then some (ret, reply, qs)
    else if reply.count == 0 then some (0, reply, qs)
    else
      ((qs t).createBufs reply alloc).map fun r =>
        (r.1, reply, Function.update qs t r.2)

/-- What the growth of an array owes to the slots it had: the array does not
shrink, every slot is as it was, and the list of pending slots is the same and
lies in the array that is now current. -/
structure KeepsBuffers (q q' : LinkedQueue) : Prop where
  grows : q.allocatedBufs ≤ q'.allocatedBufs
  slots : ∀ i b, i < q.allocatedBufs → q.slots[i]? = some b →
    ∃ b', q'.slots[i]? = some b' ∧ b'.buffer = b.buffer
  lists : ∀ l, q.Lists l → q'.Lists l

/-- The call stays inside the arrays and, where it returns 0, keeps the buffers
of every queue. -/
def PreservesBuffers (qs : Fin numQueues → LinkedQueue)
    (outcome : Option (Int × CreateBuffers × (Fin numQueues → LinkedQueue))) : Prop :=
  ∃ r reply qs', outcome = some (r, reply, qs') ∧
    (r = 0 → ∀ t, KeepsBuffers (qs t) (qs' t))

/-! ### The list in memory -/

theorem KeepsBuffers.refl (q : LinkedQueue) : KeepsBuffers q q where
  grows := le_rfl
  slots := fun _ b _ hb => ⟨b, hb, rfl⟩
  lists := fun _ h => h

/-- A list in memory lists one sequence of slots only. -/
theorem LinkedQueue.follows_unique {q : LinkedQueue} {l l' : List Nat} {p : Option Link}
    (h : q.Follows p l) (h' : q.Follows p l') : l = l' := by
  induction l generalizing l' p with
  | nil =>
      cases l' with
      | nil => rfl
      | cons j rest =>
          obtain ⟨array, b, -, hnode, -⟩ := h'
          cases h.symm.trans hnode
  | cons i rest ih =>
      obtain ⟨array, b, -, hnode, hb, hrest⟩ := h
      cases l' with
      | nil => cases h'.symm.trans hnode
      | cons j rest' =>
          obtain ⟨array', b', -, hnode', hb', hrest'⟩ := h'
          cases hnode.symm.trans hnode'
          cases hb.symm.trans hb'
          rw [ih hrest hrest']

theorem Represents.lists_iff {lq : LinkedQueue} {q : QueueState} (h : Represents lq q)
    {l : List Nat} : lq.Lists l ↔ l = q.pendingDqbufs := by
  constructor
  · exact fun hl => LinkedQueue.follows_unique hl h.lists
  · rintro rfl
    exact h.lists

theorem Represents.length_slots {lq : LinkedQueue} {q : QueueState} (h : Represents lq q) :
    lq.slots.length = lq.allocatedBufs := by
  rw [h.allocated, ← h.slots, List.length_map]

/-- The memory of a queue whose slots are linked in the order of the list. -/
def LinkedQueue.layout (q : QueueState) (array : Nat) : LinkedQueue where
  arrays := fun a =>
    if a = array then
      some (q.buffers.mapIdx fun i b =>
        ⟨b, if i ∈ q.pendingDqbufs then
            some (((q.pendingDqbufs.drop (q.pendingDqbufs.idxOf i + 1)).head?.map
              (Link.node array)).getD .head)
          else none⟩)
    else none
  buffers := some array
  allocatedBufs := q.buffers.length
  memory := q.memory
  next := some ((q.pendingDqbufs.head?.map (Link.node array)).getD .head)

/-! ### Every queue has such a memory -/

section Layout

variable {q : QueueState} {array : Nat}

theorem LinkedQueue.layout_slots :
    (LinkedQueue.layout q array).slots = q.buffers.mapIdx fun i b =>
      ⟨b, if i ∈ q.pendingDqbufs then
          some (((q.pendingDqbufs.drop (q.pendingDqbufs.idxOf i + 1)).head?.map
            (Link.node array)).getD .head)
        else none⟩ := by
  simp [LinkedQueue.slots, LinkedQueue.layout]

/-- From any element of the pending list on, the links visit the rest of it. -/
theorem LinkedQueue.layout_follows (hq : Accounted q) {front rest : List Nat}
    (hsplit : q.pendingDqbufs = front ++ rest) :
    (LinkedQueue.layout q array).Follows
      (some ((rest.head?.map (Link.node array)).getD .head)) rest := by
  induction rest generalizing front with
  | nil => rfl
  | cons i rest ih =>
      have hmem : i ∈ q.pendingDqbufs := by simp [hsplit]
      obtain ⟨b, hb, -⟩ := (hq.pending i).mp hmem
      have hnot : i ∉ front := by
        have hnodup := hq.nodup
        rw [hsplit] at hnodup
        intro hi
        exact (List.nodup_append.mp hnodup).2.2 i hi i List.mem_cons_self rfl
      have hdrop : q.pendingDqbufs.drop (q.pendingDqbufs.idxOf i + 1) = rest := by
        rw [hsplit, List.idxOf_append_of_notMem hnot, List.idxOf_cons_self]
        simp
      have hsplit' : q.pendingDqbufs = (front ++ [i]) ++ rest := by simp [hsplit]
      refine ⟨array, ⟨b, some ((rest.head?.map (Link.node array)).getD .head)⟩, rfl, rfl, ?_,
        ih hsplit'⟩
      rw [LinkedQueue.layout_slots, List.getElem?_mapIdx, hb]
      simp [hmem, hdrop]

theorem represents_layout (hq : Accounted q) (array : Nat) :
    Represents (LinkedQueue.layout q array) q where
  slots := by
    rw [LinkedQueue.layout_slots]
    apply List.ext_getElem?
    intro i
    simp [List.getElem?_mapIdx, Function.comp_def]
  allocated := rfl
  memory := rfl
  lists := by
    have hsplit : q.pendingDqbufs = [] ++ q.pendingDqbufs := rfl
    exact LinkedQueue.layout_follows hq hsplit
  live := by
    intro a ha
    cases ha
    simp [LinkedQueue.layout]

end Layout

/-! ### The growth of one array -/

section Growth

variable {lq lq' : LinkedQueue} {q : QueueState} {reply : CreateBuffers} {alloc : Option Nat}

/-- The queue after a copy that fits. -/
structure Grown (lq lq' : LinkedQueue) (reply : CreateBuffers) (array : Nat) : Prop where
  slots : lq'.slots = lq.slots ++
    List.replicate (reply.newLength - lq.allocatedBufs) LinkedBuffer.zero
  buffers : lq'.buffers = some array
  allocated : lq'.allocatedBufs = reply.newLength
  memory : lq'.memory = reply.memory
  next : lq'.next = lq.next
  live : lq'.arrays array ≠ none

/-- Everything `createBufs` can do: fail without a change, leave the new
array, or copy into it. -/
theorem LinkedQueue.createBufs_cases (h : Represents lq q) (reply : CreateBuffers)
    (alloc : Option Nat) :
    ((alloc = none ∨ reply.newLength = 0) ∧
      lq.createBufs reply alloc = some (-enomem, lq)) ∨
    (∃ array, alloc = some array ∧ reply.newLength ≠ 0 ∧
      ((reply.newLength < q.buffers.length ∧ lq.createBufs reply alloc = none) ∨
        (q.buffers.length ≤ reply.newLength ∧
          ∃ lq', lq.createBufs reply alloc = some (0, lq') ∧ Grown lq lq' reply array))) := by
  unfold LinkedQueue.createBufs
  by_cases h0 : reply.newLength = 0
  · exact .inl ⟨.inr h0, by simp [h0]⟩
  · cases alloc with
    | none => exact .inl ⟨.inl rfl, by simp [h0]⟩
    | some array =>
        right
        refine ⟨array, rfl, h0, ?_⟩
        by_cases hlt : reply.newLength < q.buffers.length
        · exact .inl ⟨hlt, by simp [h0, h.allocated, hlt]⟩
        · right
          refine ⟨Nat.le_of_not_lt hlt, _, by simp [h0, h.allocated, hlt]; rfl, ?_⟩
          have hlen := h.length_slots
          rw [h.allocated] at hlen
          refine ⟨?_, rfl, rfl, rfl, rfl, by simp⟩
          -- the slots read through the new address are those that were copied
          change (Option.bind (some array) fun a => _).getD [] = _
          simp [h.allocated, hlen]

/-- Growing keeps the buffers exactly if the array does not shrink and no slot
is linked. -/
theorem Grown.keeps_iff {array : Nat} (h : Represents lq q)
    (hfresh : lq.arrays array = none) (hg : Grown lq lq' reply array)
    (hle : q.buffers.length ≤ reply.newLength) :
    KeepsBuffers lq lq' ↔ q.pendingDqbufs = [] := by
  constructor
  · intro hk
    have hlists := hk.lists _ h.lists
    cases hp : q.pendingDqbufs with
    | nil => rfl
    | cons i rest =>
        -- the head still points into the array that has been freed
        rw [hp] at hlists
        have hold := h.lists
        rw [hp] at hold
        obtain ⟨old, b, hbuf, hnext, -⟩ := hold
        obtain ⟨new, b', hbuf', hnext', -⟩ := hlists
        rw [hg.buffers, Option.some.injEq] at hbuf'
        rw [hg.next, hnext, Option.some.injEq, Link.node.injEq] at hnext'
        have hlive := h.live old hbuf
        rw [hnext'.1, ← hbuf', hfresh] at hlive
        exact absurd rfl hlive
  · intro hp
    refine ⟨?_, ?_, ?_⟩
    · rw [h.allocated, hg.allocated]
      exact hle
    · intro i b hi hb
      refine ⟨b, ?_, rfl⟩
      rw [hg.slots, List.getElem?_append_left (h.length_slots ▸ hi), hb]
    · intro l hl
      rw [h.lists_iff, hp] at hl
      subst hl
      have hnil := h.lists
      rw [hp] at hnil
      exact hg.next.trans hnil

/-- Where nothing is linked, the memory after the call represents the queue
with its array extended. -/
theorem Grown.represents {array : Nat} (h : Represents lq q)
    (hg : Grown lq lq' reply array) (hle : q.buffers.length ≤ reply.newLength)
    (hp : q.pendingDqbufs = []) :
    Represents lq' { q with
      buffers := q.buffers ++
        List.replicate (reply.newLength - q.buffers.length) MediaBuffer.zero
      memory := reply.memory } where
  slots := by
    rw [hg.slots, List.map_append, h.slots, List.map_replicate, h.allocated]
    rfl
  allocated := by
    rw [hg.allocated, List.length_append, List.length_replicate]
    omega
  memory := hg.memory
  lists := by
    have hnil := h.lists
    rw [hp] at hnil
    change lq'.Lists q.pendingDqbufs
    rw [hp]
    exact hg.next.trans hnil
  live := by
    intro a ha
    rw [hg.buffers, Option.some.injEq] at ha
    exact ha ▸ hg.live

end Growth

/-! ### The call -/

/-- The calls of CREATE_BUFS that cannot do harm: it grows nothing (a refusal,
a failed command, a request for no buffers, no memory), or the reply does not
shrink the array of a queue on which no slot is pending. -/
def CreateHarmless (s : Session) (b : CreateBuffers) (ret : Int) (reply : CreateBuffers)
    (alloc : Option Nat) : Prop :=
  ret ≠ 0 ∨ reply.count = 0 ∨ alloc = none ∨ reply.newLength = 0 ∨
    ∀ t, createBufsCheck b = .ok t →
      (s.queues t).buffers.length ≤ reply.newLength ∧ (s.queues t).pendingDqbufs = []

theorem preservesBuffers_same (qs : Fin numQueues → LinkedQueue) (r : Int)
    (reply : CreateBuffers) : PreservesBuffers qs (some (r, reply, qs)) :=
  ⟨r, reply, qs, rfl, fun _ t => .refl (qs t)⟩

/-- A harmless call is what the model of the queues by indices says it is. -/
theorem createBufsLinked_refines (s : Session) (qs : Fin numQueues → LinkedQueue)
    (b : CreateBuffers) (ret : Int) (reply : CreateBuffers) (alloc : Option Nat)
    (hrep : ∀ t, Represents (qs t) (s.queues t))
    (hharm : CreateHarmless s b ret reply alloc) :
    ∃ r reply' qs' s', createBufsLinked qs b ret reply alloc = some (r, reply', qs') ∧
      createBufs s b ret reply alloc.isSome = some (r, reply', s') ∧
      ∀ t, Represents (qs' t) (s'.queues t) := by
  unfold createBufsLinked createBufs
  cases hc : createBufsCheck b with
  | error e => exact ⟨e, b, qs, s, rfl, rfl, hrep⟩
  | ok t =>
      by_cases hr : ret = 0
      · by_cases hcount : reply.count = 0
        · exact ⟨0, reply, qs, s, by simp [hr, hcount], by simp [hr, hcount], hrep⟩
        · simp only [hr, hcount, bne_self_eq_false, Bool.false_eq_true, if_false, beq_iff_eq]
          rcases LinkedQueue.createBufs_cases (hrep t) reply alloc with
            ⟨hnone, h⟩ | ⟨array, ha, hlen, ⟨hlt, h⟩ | ⟨hle, lq', h, hg⟩⟩
          · refine ⟨-enomem, reply, qs, s, by simp [h], ?_, hrep⟩
            rcases hnone with rfl | h <;> simp_all
          · simp only [CreateHarmless, hr, hcount, ha, hlen, hc, ne_eq, not_true_eq_false,
              reduceCtorEq, false_or, Except.ok.injEq, forall_eq'] at hharm
            omega
          · simp only [CreateHarmless, hr, hcount, ha, hlen, hc, ne_eq, not_true_eq_false,
              reduceCtorEq, false_or, Except.ok.injEq, forall_eq'] at hharm
            set grown : QueueState := { s.queues t with
              buffers := (s.queues t).buffers ++ List.replicate
                (reply.newLength - (s.queues t).buffers.length) MediaBuffer.zero
              memory := reply.memory } with hgrown
            refine ⟨0, reply, Function.update qs t lq', s.setQueue t grown, by simp [h], ?_, ?_⟩
            · simp [ha, hlen, Nat.not_lt.mpr hle, hgrown]
            · intro u
              rw [Function.update_apply, Session.setQueue_queues]
              split
              · rename_i hu
                subst hu
                exact Grown.represents (hrep u) hg hle hharm.2
              · exact hrep u
      · have hb : (ret != 0) = true := by simpa using hr
        exact ⟨ret, reply, qs, s, by simp [hb], by simp [hb], hrep⟩

/-- For every session, every memory that holds its queues, every request and
every reply: CREATE_BUFS copies inside the new
array and, where it returns 0, keeps every slot, the size of the array and
the pending list, if and only if the call grows nothing, or grows (and does
not shrink) the array of a queue with an empty pending list. -/
theorem create_bufs_preserves_iff (s : Session) (qs : Fin numQueues → LinkedQueue)
    (b : CreateBuffers) (ret : Int) (reply : CreateBuffers) (alloc : Option Nat)
    (hrep : ∀ t, Represents (qs t) (s.queues t))
    (hfresh : ∀ array, alloc = some array → ∀ t, (qs t).arrays array = none) :
    PreservesBuffers qs (createBufsLinked qs b ret reply alloc) ↔
      CreateHarmless s b ret reply alloc := by
  unfold createBufsLinked CreateHarmless
  cases hc : createBufsCheck b with
  | error e =>
      refine iff_of_true (preservesBuffers_same qs e b) ?_
      simp
  | ok t =>
      by_cases hr : ret = 0
      · by_cases hcount : reply.count = 0
        · simp only [hr, hcount]
          exact iff_of_true (preservesBuffers_same qs 0 reply) (by simp)
        · have hcases := LinkedQueue.createBufs_cases (hrep t) reply alloc
          simp only [hr, hcount, bne_self_eq_false, Bool.false_eq_true, if_false,
            beq_iff_eq, ne_eq, not_true_eq_false, false_or, Except.ok.injEq, forall_eq']
          rcases hcases with ⟨hnone, h⟩ | ⟨array, ha, hlen, ⟨hlt, h⟩ | ⟨hle, lq', h, hg⟩⟩
          · rw [h]
            refine iff_of_true ?_ ?_
            · refine ⟨-enomem, reply, _, rfl, fun h => ?_⟩
              cases h
            · rcases hnone with h | h
              · exact .inl h
              · exact .inr (.inl h)
          · rw [h]
            refine iff_of_false ?_ ?_
            · rintro ⟨r, reply', qs', h', -⟩
              cases h'
            · simp [ha, hlen]
              omega
          · rw [h]
            have hiff := Grown.keeps_iff (hrep t) (hfresh array ha t) hg hle
            simp only [ha, hlen, reduceCtorEq, false_or, hle, true_and, ← hiff]
            constructor
            · rintro ⟨r, reply', qs', h', hkeep⟩
              cases h'
              have := hkeep rfl t
              simpa using this
            · intro hk
              refine ⟨0, reply, _, rfl, fun _ u => ?_⟩
              rw [Function.update_apply]
              split
              · rename_i hu
                subst hu
                exact hk
              · exact .refl (qs u)
      · have hb : (ret != 0) = true := by simpa using hr
        simp only [hb, if_true]
        exact iff_of_true (preservesBuffers_same qs ret reply) (.inl hr)

/-! ### The dangling list -/

/-- The memory of the session with one pending slot on queue 1, each array at
an address of its own. -/
def completedSlotMemory (t : Fin numQueues) : LinkedQueue :=
  .layout (completedSlotState.queues t) (t.val + 1)

/-- A request for one more buffer of a type, which is also its own reply. -/
def oneMore (index type : UInt32) : CreateBuffers := ⟨index, 1, memoryMmap, type⟩

theorem completedSlotMemory_represents (t : Fin numQueues) :
    Represents (completedSlotMemory t) (completedSlotState.queues t) := by
  exact represents_layout (completedSlotState_accounted t) _

theorem create_bufs_preserves_iff_other_queue :
    PreservesBuffers completedSlotMemory
      (createBufsLinked completedSlotMemory (oneMore 0 2) 0 (oneMore 0 2) (some 100)) := by
  refine (create_bufs_preserves_iff completedSlotState completedSlotMemory (oneMore 0 2) 0
    (oneMore 0 2) (some 100) completedSlotMemory_represents ?_).mpr ?_
  · rintro array h t
    cases h
    revert t
    decide
  · unfold CreateHarmless
    decide

/-- One more buffer on the queue with the pending slot: the call returns 0, and
`pending_dqbufs` still points into the array that has been freed. -/
theorem create_bufs_frees_pending :
    (∀ t, Accounted (completedSlotState.queues t)) ∧
      (∀ t, Represents (completedSlotMemory t) (completedSlotState.queues t)) ∧
      (∃ qs', createBufsLinked completedSlotMemory (oneMore 1 1) 0 (oneMore 1 1) (some 100) =
          some (0, oneMore 1 1, qs') ∧
        (qs' 1).buffers = some 100 ∧ (qs' 1).next = some (.node 2 0) ∧
        (qs' 1).arrays 2 = none) ∧
      ¬ PreservesBuffers completedSlotMemory
        (createBufsLinked completedSlotMemory (oneMore 1 1) 0 (oneMore 1 1) (some 100)) := by
  refine ⟨completedSlotState_accounted, completedSlotMemory_represents,
    ⟨_, rfl, by decide, by decide, by decide⟩, ?_⟩
  rintro ⟨r, reply, qs', h, hkeep⟩
  have hr : r = 0 := by
    cases h
    rfl
  have hlists := (hkeep hr 1).lists [0] (completedSlotMemory_represents 1).lists
  obtain ⟨array, b, hbuf, hnext, -⟩ := hlists
  cases h
  cases hbuf
  revert hnext
  decide

end VirtioMedia.Driver
