import Mathlib.Data.UInt
import VirtioMedia.Lib.SortedList

/-!
# The MMAP range of a device

`device/src/mmap.rs`. The manager keeps its buffers in a vector sorted by
offset. The host memory mapper is outside the manager: what `add_mapping`
answers is an input of `createMapping`, and the calls made to the mapper are
an output. A failure of the mapper's `remove_mapping` is only logged by the
source, so its result does not appear.

`registerBuffer` adds to a `u32`, which panics on overflow when the program is
built with overflow checks and wraps otherwise; `checks` says which, and
`none` stands for the panic.
-/

namespace VirtioMedia.Device

/-- `MmapBufferMapping`. -/
structure MmapBufferMapping where
  numMappings : Nat
  guestAddr : UInt64
  rw : Bool
  deriving DecidableEq, Repr

structure MmapBuffer where
  offset : UInt32
  size : UInt32
  registered : Bool
  mapping : Option MmapBufferMapping
  deriving DecidableEq, Repr

/-- `MmapBuffer::new`. -/
def MmapBuffer.new (offset size : UInt32) : MmapBuffer := ⟨offset, size, true, none⟩

/-- The key of the vector of buffers. -/
def MmapBuffer.key (b : MmapBuffer) : Nat := b.offset.toNat

/-- The buffer is mapped at this address. -/
def MmapBuffer.mappedAt (b : MmapBuffer) (guestAddr : UInt64) : Bool :=
  b.mapping.any fun p => p.guestAddr == guestAddr

structure MmapMappingManager where
  buffers : List MmapBuffer
  deriving DecidableEq, Repr

def MmapMappingManager.empty : MmapMappingManager := ⟨[]⟩

inductive RegisterBufferError where
  | noFreeSpace
  | offsetOccupied
  | emptyBuffer
  | unalignedOffset
  deriving DecidableEq, Repr

inductive CreateMappingError where
  | invalidOffset
  | unregisteredBuffer
  | sizeOutOfBounds
  | mappingFailure (errno : Int)
  | nonMatchingPermissions
  deriving DecidableEq, Repr

inductive RemoveMappingError where
  | invalidOffset
  deriving DecidableEq, Repr

/-- A call made to the host memory mapper. `add` is a call that succeeded. -/
inductive MapperCall where
  | add (fd : Nat) (length offset : UInt64) (rw : Bool) (guestAddr : UInt64)
  | remove (guestAddr : UInt64)
  deriving DecidableEq, Repr

def pageSize : UInt32 := 0x1000

def pageMask : UInt32 := ~~~(pageSize - 1)

/-- `u32` addition with or without overflow checks. -/
def addU32 (checks : Bool) (a b : Nat) : Option Nat :=
  if a + b < 2 ^ 32 then some (a + b)
  else if checks then none
  else some ((a + b) % 2 ^ 32)

/-- `u32::next_multiple_of`. -/
def nextMultipleOf (checks : Bool) (a b : Nat) : Option Nat :=
  if a % b = 0 then some a else addU32 checks a (b - a % b)

namespace MmapMappingManager

/-- `binary_search_by_key(&offset, |b| b.offset)`. -/
def search (m : MmapMappingManager) (offset : UInt32) : Except Nat Nat :=
  SortedList.search MmapBuffer.key offset.toNat m.buffers

/-- The offset chosen when the caller of `register_buffer` gives none. -/
def nextOffset (checks : Bool) (m : MmapMappingManager) : Option UInt32 :=
  match m.buffers.getLast? with
  | none => some 0
  | some b => do
    let next ← addU32 checks b.offset.toNat 1
    let offset ← nextMultipleOf checks next pageSize.toNat
    return UInt32.ofNat offset

/-- `register_buffer_by_offset`. -/
def registerBufferByOffset (m : MmapMappingManager) (offset size : UInt32) :
    Except RegisterBufferError Unit × MmapMappingManager :=
  if size = 0 then (.error .emptyBuffer, m)
  else if offset &&& pageMask ≠ offset then (.error .unalignedOffset, m)
  else
    match m.search offset with
    | .ok _ => (.error .offsetOccupied, m)
    | .error i => (.ok (), ⟨m.buffers.insertIdx i (.new offset size)⟩)

/-- `register_buffer`. -/
def registerBuffer (checks : Bool) (m : MmapMappingManager) (offset : Option UInt32)
    (size : UInt32) : Option (Except RegisterBufferError UInt32 × MmapMappingManager) :=
  (match offset with
    | some offset => some offset
    | none => m.nextOffset checks).map fun offset =>
      let r := m.registerBufferByOffset offset size
      (r.1.map fun _ => offset, r.2)

/-- `unregister_buffer`. -/
def unregisterBuffer (m : MmapMappingManager) (offset : UInt32) : Bool × MmapMappingManager :=
  match m.search offset with
  | .error _ => (false, m)
  | .ok i =>
    match m.buffers[i]? with
    | none => (false, m)
    | some b =>
      if b.mapping.isNone then (true, ⟨m.buffers.eraseIdx i⟩)
      else (true, ⟨m.buffers.set i { b with registered := false }⟩)

/-- What a call answers, the manager after it, and its calls to the mapper. -/
structure Outcome (ε α : Type) where
  result : Except ε α
  manager : MmapMappingManager
  calls : List MapperCall

/-- `create_mapping`; `answer` is what `add_mapping` returns if it is called. -/
def createMapping (m : MmapMappingManager) (offset : UInt32) (fd : Nat) (rw : Bool)
    (answer : Except Int UInt64) : Outcome CreateMappingError (UInt64 × UInt64) :=
  match m.search offset with
  | .error _ => ⟨.error .invalidOffset, m, []⟩
  | .ok i =>
    match m.buffers[i]? with
    | none => ⟨.error .invalidOffset, m, []⟩
    | some b =>
      let last := b.offset.toNat + (b.size.toNat - 1)
      -- `checked_add`
      if 2 ^ 32 ≤ last then ⟨.error .invalidOffset, m, []⟩
      else if !b.registered then ⟨.error .unregisteredBuffer, m, []⟩
      else if last > b.offset.toNat + (b.size.toNat - 1) then ⟨.error .sizeOutOfBounds, m, []⟩
      else
        match b.mapping with
        | none =>
          match answer with
          | .error e => ⟨.error (.mappingFailure e), m, []⟩
          | .ok addr =>
            ⟨.ok (addr, b.size.toUInt64),
              ⟨m.buffers.set i { b with mapping := some ⟨1, addr, rw⟩ }⟩,
              [.add fd b.size.toUInt64 b.offset.toUInt64 rw addr]⟩
        | some mapping =>
          if mapping.rw ≠ rw then ⟨.error .nonMatchingPermissions, m, []⟩
          else
            ⟨.ok (mapping.guestAddr, b.size.toUInt64),
              ⟨m.buffers.set i { b with
                mapping := some { mapping with numMappings := mapping.numMappings + 1 } }⟩, []⟩

/-- `remove_mapping`: the first buffer mapped at this address. -/
def removeMapping (m : MmapMappingManager) (guestAddr : UInt64) :
    Outcome RemoveMappingError Bool :=
  let i := m.buffers.findIdx fun b => b.mappedAt guestAddr
  match m.buffers[i]? with
  | none => ⟨.error .invalidOffset, m, []⟩
  | some b =>
    match b.mapping with
    | none => ⟨.error .invalidOffset, m, []⟩
    | some mapping =>
      if mapping.numMappings - 1 = 0 then
        ⟨.ok false,
          ⟨if b.registered then m.buffers.set i { b with mapping := none }
            else m.buffers.eraseIdx i⟩,
          [.remove guestAddr]⟩
      else
        ⟨.ok true,
          ⟨m.buffers.set i { b with
            mapping := some { mapping with numMappings := mapping.numMappings - 1 } }⟩, []⟩

/-- Some buffer is stored at this offset. -/
def Occupied (m : MmapMappingManager) (offset : UInt32) : Prop :=
  ∃ b ∈ m.buffers, b.offset = offset

def Sorted (m : MmapMappingManager) : Prop := SortedList.Sorted MmapBuffer.key m.buffers

theorem search_ok_iff {m : MmapMappingManager} (hs : m.Sorted) {offset : UInt32} :
    (∃ i, m.search offset = .ok i) ↔ m.Occupied offset := by
  refine (SortedList.search_eq_ok_iff hs).trans ?_
  simp only [Occupied, MmapBuffer.key, UInt32.toNat_inj]

/-! ### What each operation can do

An operation fails and changes nothing, or it changes the one buffer that
`l₁` and `l₂` leave between them. -/

theorem search_ok {m : MmapMappingManager} {offset : UInt32} {i : Nat}
    (h : m.search offset = .ok i) :
    ∃ l₁ b l₂, m.buffers = l₁ ++ b :: l₂ ∧ l₁.length = i ∧ b.offset = offset := by
  obtain ⟨l₁, b, l₂, hm, hi, hb⟩ := SortedList.search_ok_split h
  exact ⟨l₁, b, l₂, hm, hi, UInt32.toNat_inj.mp hb⟩

theorem insertIdx_length (l₁ l₂ : List MmapBuffer) (b : MmapBuffer) :
    (l₁ ++ l₂).insertIdx l₁.length b = l₁ ++ b :: l₂ := by
  induction l₁ with
  | nil => rfl
  | cons c rest ih => simp [ih]

theorem registerBufferByOffset_cases {m : MmapMappingManager}
    (hs : SortedList.Sorted MmapBuffer.key m.buffers) (offset size : UInt32) :
    (∃ e, m.registerBufferByOffset offset size = (.error e, m)) ∨
    (∃ l₁ l₂, m.buffers = l₁ ++ l₂ ∧
      m.registerBufferByOffset offset size = (.ok (), ⟨l₁ ++ .new offset size :: l₂⟩) ∧
      size ≠ 0 ∧ offset &&& pageMask = offset ∧
      (∀ b ∈ l₁, b.key < offset.toNat) ∧ ∀ b ∈ l₂, offset.toNat < b.key) := by
  unfold registerBufferByOffset
  split
  · exact .inl ⟨_, rfl⟩
  · rename_i hsize
    split
    · exact .inl ⟨_, rfl⟩
    · rename_i halign
      split
      · exact .inl ⟨_, rfl⟩
      · rename_i i hi
        obtain ⟨l₁, l₂, hm, rfl, hlo, hhi⟩ := SortedList.search_error_split hs hi
        refine .inr ⟨l₁, l₂, hm, ?_, hsize, not_not.mp halign, hlo, hhi⟩
        rw [hm, insertIdx_length]

theorem unregisterBuffer_cases (m : MmapMappingManager) (offset : UInt32) :
    ((m.Sorted → ¬ m.Occupied offset) ∧ m.unregisterBuffer offset = (false, m)) ∨
    ∃ l₁ b l₂, m.buffers = l₁ ++ b :: l₂ ∧ b.offset = offset ∧
      ((b.mapping = none ∧ m.unregisterBuffer offset = (true, ⟨l₁ ++ l₂⟩)) ∨
        (b.mapping.isSome ∧ m.unregisterBuffer offset =
          (true, ⟨l₁ ++ { b with registered := false } :: l₂⟩))) := by
  unfold unregisterBuffer
  cases hi : m.search offset with
  | error i =>
      refine .inl ⟨fun hs hocc => ?_, rfl⟩
      obtain ⟨j, hj⟩ := (search_ok_iff hs).mpr hocc
      rw [hi] at hj
      cases hj
  | ok i =>
      right
      obtain ⟨l₁, b, l₂, hm, rfl, hb⟩ := search_ok hi
      refine ⟨l₁, b, l₂, hm, hb, ?_⟩
      cases hmap : b.mapping with
      | none => simp [hm, hmap, List.eraseIdx_append_of_length_le]
      | some p => simp [hm, hmap]

theorem createMapping_cases (m : MmapMappingManager) (offset : UInt32) (fd : Nat) (rw : Bool)
    (answer : Except Int UInt64) :
    (∃ e, m.createMapping offset fd rw answer = ⟨.error e, m, []⟩) ∨
    ∃ l₁ b l₂, m.buffers = l₁ ++ b :: l₂ ∧ b.offset = offset ∧ b.registered = true ∧
      ((∃ addr, b.mapping = none ∧ answer = .ok addr ∧
          m.createMapping offset fd rw answer = ⟨.ok (addr, b.size.toUInt64),
            ⟨l₁ ++ { b with mapping := some ⟨1, addr, rw⟩ } :: l₂⟩,
            [.add fd b.size.toUInt64 b.offset.toUInt64 rw addr]⟩) ∨
        ∃ p, b.mapping = some p ∧ p.rw = rw ∧
          m.createMapping offset fd rw answer = ⟨.ok (p.guestAddr, b.size.toUInt64),
            ⟨l₁ ++ { b with mapping := some { p with numMappings := p.numMappings + 1 } } :: l₂⟩,
            []⟩) := by
  unfold createMapping
  cases hi : m.search offset with
  | error i => exact .inl ⟨_, rfl⟩
  | ok i =>
      obtain ⟨l₁, b, l₂, hm, rfl, hb⟩ := search_ok hi
      simp only [hm, List.getElem?_append_right, Nat.le_refl, Nat.sub_self,
        List.getElem?_cons_zero]
      split
      · exact .inl ⟨_, rfl⟩
      · split
        · exact .inl ⟨_, rfl⟩
        · rename_i hreg
          split
          · exact .inl ⟨_, rfl⟩
          · cases hmap : b.mapping with
            | none =>
                cases answer with
                | error e => exact .inl ⟨_, rfl⟩
                | ok addr =>
                    right
                    refine ⟨l₁, b, l₂, rfl, hb, by simpa using hreg, .inl ⟨addr, hmap, rfl, ?_⟩⟩
                    simp
            | some p =>
                dsimp only
                split
                · exact .inl ⟨_, rfl⟩
                · rename_i hrw
                  right
                  refine ⟨l₁, b, l₂, rfl, hb, by simpa using hreg,
                    .inr ⟨p, hmap, not_not.mp hrw, ?_⟩⟩
                  simp

/-- The first element with a property splits the list. -/
theorem findIdx_split {α : Type} (p : α → Bool) (l : List α) :
    (l[l.findIdx p]? = none ∧ ∀ a ∈ l, p a = false) ∨
    ∃ l₁ a l₂, l = l₁ ++ a :: l₂ ∧ l.findIdx p = l₁.length ∧ p a = true := by
  induction l with
  | nil => simp
  | cons c rest ih =>
      cases hc : p c with
      | true => exact .inr ⟨[], c, rest, rfl, by simp [List.findIdx_cons, hc], hc⟩
      | false =>
          rcases ih with ⟨-, hall⟩ | ⟨l₁, a, l₂, rfl, hi, ha⟩
          · left
            simpa [List.findIdx_cons, hc] using hall
          · exact .inr ⟨c :: l₁, a, l₂, rfl, by simp [List.findIdx_cons, hc, hi], ha⟩

theorem removeMapping_cases (m : MmapMappingManager) (addr : UInt64) :
    (m.removeMapping addr = ⟨.error .invalidOffset, m, []⟩ ∧
      ∀ b ∈ m.buffers, b.mappedAt addr = false) ∨
    ∃ l₁ b l₂ p, m.buffers = l₁ ++ b :: l₂ ∧ b.mapping = some p ∧ p.guestAddr = addr ∧
      ((p.numMappings ≤ 1 ∧ m.removeMapping addr = ⟨.ok false,
          ⟨l₁ ++ (if b.registered then [{ b with mapping := none }] else []) ++ l₂⟩,
          [.remove addr]⟩) ∨
        (1 < p.numMappings ∧ m.removeMapping addr = ⟨.ok true,
          ⟨l₁ ++ { b with mapping := some { p with numMappings := p.numMappings - 1 } } :: l₂⟩,
          []⟩)) := by
  unfold removeMapping
  rcases findIdx_split (fun b => b.mappedAt addr) m.buffers with
    ⟨hnone, hall⟩ | ⟨l₁, b, l₂, hm, hi, hb⟩
  · exact .inl ⟨by simp only [hnone], hall⟩
  · right
    cases hp : b.mapping with
    | none => simp [MmapBuffer.mappedAt, hp] at hb
    | some p =>
        have haddr : p.guestAddr = addr := by simpa [MmapBuffer.mappedAt, hp] using hb
        refine ⟨l₁, b, l₂, p, hm, hp, haddr, ?_⟩
        have hget : m.buffers[l₁.length]? = some b := by simp [hm]
        simp only [hi, hget, hp]
        by_cases hcount : p.numMappings ≤ 1
        · left
          rw [if_pos (Nat.sub_eq_zero_of_le hcount)]
          cases hreg : b.registered <;>
            simp [hcount, hm, List.eraseIdx_append_of_length_le]
        · right
          rw [if_neg (by omega)]
          simp [hm, not_le.mp hcount]

/-! ### The buffers as a set -/

/-- A buffer can be registered where there is room for it. -/
theorem registerBufferByOffset_ok_iff {m : MmapMappingManager} (hs : m.Sorted)
    (offset size : UInt32) :
    (m.registerBufferByOffset offset size).1 = .ok () ↔
      size ≠ 0 ∧ offset &&& pageMask = offset ∧ ¬ m.Occupied offset := by
  rw [← search_ok_iff hs]
  unfold registerBufferByOffset
  split
  · simp_all
  · split
    · simp_all
    · cases h : m.search offset <;> simp_all

theorem mem_registerBufferByOffset {m : MmapMappingManager} (hs : m.Sorted)
    {offset size : UInt32} (h : (m.registerBufferByOffset offset size).1 = .ok ())
    (c : MmapBuffer) :
    c ∈ (m.registerBufferByOffset offset size).2.buffers ↔
      c = .new offset size ∨ c ∈ m.buffers := by
  rcases registerBufferByOffset_cases hs offset size with ⟨e, he⟩ | ⟨l₁, l₂, hm, hr, -⟩
  · rw [he] at h
    cases h
  · rw [hr, hm]
    exact List.perm_middle.mem_iff.trans List.mem_cons

theorem registerBufferByOffset_sorted {m : MmapMappingManager} (hs : m.Sorted)
    (offset size : UInt32) : (m.registerBufferByOffset offset size).2.Sorted := by
  rcases registerBufferByOffset_cases hs offset size with
    ⟨e, he⟩ | ⟨l₁, l₂, hm, hr, -, -, hlo, hhi⟩
  · rw [he]
    exact hs
  · rw [hr]
    exact SortedList.Sorted.insert (hm ▸ hs) hlo hhi

theorem createMapping_sorted {m : MmapMappingManager} (hs : m.Sorted) (offset : UInt32)
    (fd : Nat) (rw : Bool) (answer : Except Int UInt64) :
    (m.createMapping offset fd rw answer).manager.Sorted := by
  rcases createMapping_cases m offset fd rw answer with ⟨e, h⟩ | ⟨l₁, b, l₂, hm, -, -, hcase⟩
  · rw [h]
    exact hs
  · have hs' : SortedList.Sorted MmapBuffer.key (l₁ ++ b :: l₂) := by
      rw [← hm]
      exact hs
    rcases hcase with ⟨addr, -, -, h⟩ | ⟨p, -, -, h⟩ <;> rw [h]
    · exact hs'.replace rfl
    · exact hs'.replace rfl

theorem removeMapping_sorted {m : MmapMappingManager} (hs : m.Sorted) (addr : UInt64) :
    (m.removeMapping addr).manager.Sorted := by
  rcases removeMapping_cases m addr with ⟨h, -⟩ | ⟨l₁, b, l₂, p, hm, -, -, hcase⟩
  · rw [h]
    exact hs
  · have hs' : SortedList.Sorted MmapBuffer.key (l₁ ++ b :: l₂) := by
      rw [← hm]
      exact hs
    rcases hcase with ⟨-, h⟩ | ⟨-, h⟩ <;> rw [h]
    · unfold Sorted
      dsimp only
      split
      · simpa using hs'.replace (b := { b with mapping := none }) rfl
      · simpa using hs'.remove
    · exact hs'.replace rfl

theorem mem_unregisterBuffer {m : MmapMappingManager} (hs : m.Sorted) (offset : UInt32)
    (c : MmapBuffer) :
    c ∈ (m.unregisterBuffer offset).2.buffers ↔
      (c ∈ m.buffers ∧ c.offset ≠ offset) ∨
      ∃ b ∈ m.buffers, b.offset = offset ∧ b.mapping.isSome = true ∧
        c = { b with registered := false } := by
  rcases unregisterBuffer_cases m offset with ⟨hfree, h⟩ | ⟨l₁, b, l₂, hm, hb, hcase⟩
  · rw [h]
    refine ⟨fun hc => .inl ⟨hc, fun ho => hfree hs ⟨c, hc, ho⟩⟩, ?_⟩
    rintro (⟨hc, -⟩ | ⟨b, hb, ho, -⟩)
    · exact hc
    · exact absurd ⟨b, hb, ho⟩ (hfree hs)
  · have hs' : SortedList.Sorted MmapBuffer.key (l₁ ++ b :: l₂) := by
      rw [← hm]
      exact hs
    have hother : ∀ c ∈ l₁ ++ l₂, c.offset ≠ offset := by
      intro c hc ho
      exact hs'.key_ne c hc (congrArg UInt32.toNat (ho.trans hb.symm))
    have hmem : ∀ c, c ∈ m.buffers ↔ c = b ∨ c ∈ l₁ ++ l₂ := by
      intro c
      rw [hm]
      exact List.perm_middle.mem_iff.trans List.mem_cons
    have hleft : (c ∈ m.buffers ∧ c.offset ≠ offset) ↔ c ∈ l₁ ++ l₂ := by
      rw [hmem]
      refine ⟨?_, fun hc => ⟨.inr hc, hother c hc⟩⟩
      rintro ⟨rfl | hc, ho⟩
      · exact absurd hb ho
      · exact hc
    have hright : (∃ d ∈ m.buffers, d.offset = offset ∧ d.mapping.isSome = true ∧
        c = { d with registered := false }) ↔
        b.mapping.isSome = true ∧ c = { b with registered := false } := by
      constructor
      · rintro ⟨d, hd, ho, hmap, rfl⟩
        rcases (hmem d).mp hd with rfl | hd
        · exact ⟨hmap, rfl⟩
        · exact absurd ho (hother d hd)
      · exact fun ⟨hmap, hc⟩ => ⟨b, (hmem b).mpr (.inl rfl), hb, hmap, hc⟩
    rw [hleft, hright]
    rcases hcase with ⟨hmap, h⟩ | ⟨hmap, h⟩
    · simp [h, hmap]
    · rw [h, and_iff_right hmap, or_comm]
      exact List.perm_middle.mem_iff.trans List.mem_cons

theorem unregisterBuffer_sorted {m : MmapMappingManager} (hs : m.Sorted) (offset : UInt32) :
    (m.unregisterBuffer offset).2.Sorted := by
  rcases unregisterBuffer_cases m offset with ⟨-, h⟩ | ⟨l₁, b, l₂, hm, -, hcase⟩
  · rw [h]
    exact hs
  · have hs' : SortedList.Sorted MmapBuffer.key (l₁ ++ b :: l₂) := by
      rw [← hm]
      exact hs
    rcases hcase with ⟨-, h⟩ | ⟨-, h⟩ <;> rw [h]
    · exact hs'.remove
    · exact hs'.replace rfl

/-- Unregister buffers one after the other. -/
def unregisterAll (m : MmapMappingManager) (offsets : List UInt32) : MmapMappingManager :=
  offsets.foldl (fun m o => (m.unregisterBuffer o).2) m

theorem unregisterAll_sorted {m : MmapMappingManager} (hs : m.Sorted) (offsets : List UInt32) :
    (m.unregisterAll offsets).Sorted := by
  induction offsets generalizing m with
  | nil => exact hs
  | cons o rest ih => exact ih (unregisterBuffer_sorted hs o)

theorem mem_unregisterAll {m : MmapMappingManager} (hs : m.Sorted) (offsets : List UInt32)
    (c : MmapBuffer) :
    c ∈ (m.unregisterAll offsets).buffers ↔
      (c ∈ m.buffers ∧ c.offset ∉ offsets) ∨
      ∃ b ∈ m.buffers, b.offset ∈ offsets ∧ b.mapping.isSome = true ∧
        c = { b with registered := false } := by
  induction offsets generalizing m with
  | nil => simp [unregisterAll]
  | cons o rest ih =>
      change c ∈ ((m.unregisterBuffer o).2.unregisterAll rest).buffers ↔ _
      rw [ih (unregisterBuffer_sorted hs o)]
      simp only [mem_unregisterBuffer hs, List.mem_cons, not_or]
      constructor
      · rintro (⟨⟨hc, ho⟩ | ⟨b, hb, ho, hmap, rfl⟩, hrest⟩ | ⟨b, hb | hb, ho, hmap, rfl⟩)
        · exact .inl ⟨hc, ho, hrest⟩
        · exact .inr ⟨b, hb, .inl ho, hmap, rfl⟩
        · exact .inr ⟨b, hb.1, .inr ho, hmap, rfl⟩
        · obtain ⟨d, hd, hdo, hdmap, rfl⟩ := hb
          exact .inr ⟨d, hd, .inl hdo, hdmap, rfl⟩
      · rintro (⟨hc, ho, hrest⟩ | ⟨b, hb, ho, hmap, rfl⟩)
        · exact .inl ⟨.inl ⟨hc, ho⟩, hrest⟩
        · by_cases hbo : b.offset = o
          · by_cases hrest : b.offset ∈ rest
            · exact .inr ⟨{ b with registered := false }, .inr ⟨b, hb, hbo, hmap, rfl⟩, hrest,
                hmap, rfl⟩
            · exact .inl ⟨.inr ⟨b, hb, hbo, hmap, rfl⟩, hrest⟩
          · exact .inr ⟨b, .inl ⟨hb, hbo⟩, ho.resolve_left hbo, hmap, rfl⟩

end MmapMappingManager

end VirtioMedia.Device
