import VirtioMedia.Device.MmapRefcount

/-!
# Whose memory is mapped at an offset

What the mapping manager guarantees to a device that registers its own buffers
and maps each of them only through the session that holds it. The log says with
which file `add_mapping` was last called for an offset and which address it
answered, and whether that mapping is still live. Nothing is assumed of the
mapper: it may answer an address that is in use.
-/

namespace VirtioMedia.Device

/-- The file and the answer of an `add_mapping` for the buffer at `o`. -/
def MapEvent.added (o : UInt32) : MapEvent → Option (Nat × UInt64)
  | .call (.add fd _ offset _ a) => if offset = o.toUInt64 then some (fd, a) else none
  | _ => none

/-- The last `add_mapping` for an offset. -/
def lastAdd (log : List MapEvent) (o : UInt32) : Option (Nat × UInt64) :=
  log.findSome? (MapEvent.added o)

/-- What happened since then. -/
def sinceAdd (log : List MapEvent) (o : UInt32) : List MapEvent :=
  log.takeWhile fun e => (e.added o).isNone

/-- The last mapping established for the offset has not been removed. -/
def LiveAt (log : List MapEvent) (o : UInt32) : Prop :=
  ∃ fd a, lastAdd log o = some (fd, a) ∧ MapEvent.call (.remove a) ∉ sinceAdd log o

section Log

variable {log : List MapEvent} {e : MapEvent} {o : UInt32}

theorem lastAdd_cons_none (h : e.added o = none) : lastAdd (e :: log) o = lastAdd log o := by
  simp [lastAdd, h]

/-- An `add_mapping` for the offset is the last one from then on. -/
theorem lastAdd_cons_some {r : Nat × UInt64} (h : e.added o = some r) :
    lastAdd (e :: log) o = some r := by
  simp [lastAdd, h]

theorem sinceAdd_cons_none (h : e.added o = none) :
    sinceAdd (e :: log) o = e :: sinceAdd log o := by
  simp [sinceAdd, h]

/-- An event that adds no mapping for the offset leaves it live only if it was.
-/
theorem LiveAt.tail (h : e.added o = none) (hl : LiveAt (e :: log) o) : LiveAt log o := by
  obtain ⟨fd, a, hadd, hnot⟩ := hl
  rw [lastAdd_cons_none h] at hadd
  rw [sinceAdd_cons_none h] at hnot
  exact ⟨fd, a, hadd, fun hm => hnot (List.mem_cons_of_mem _ hm)⟩

/-- An address that was just removed is not that of a live mapping. -/
theorem LiveAt.ne_of_remove {a : UInt64} {fd : Nat} {b : UInt64}
    (hl : LiveAt (.call (.remove a) :: log) o) (hadd : lastAdd log o = some (fd, b)) :
    b ≠ a := by
  rintro rfl
  obtain ⟨fd', b', hadd', hnot⟩ := hl
  rw [lastAdd_cons_none rfl, hadd, Option.some.injEq, Prod.mk.injEq] at hadd'
  rw [sinceAdd_cons_none rfl] at hnot
  exact hnot (List.mem_cons.mpr (.inl (by rw [hadd'.2])))

end Log

/-! ### The manager and its log -/

/-- A registered buffer is stored at the offset. -/
def MmapMappingManager.Registered (m : MmapMappingManager) (o : UInt32) : Prop :=
  ∃ b ∈ m.buffers, b.offset = o ∧ b.registered = true

/-- A registered buffer of this size is stored at the offset. -/
def MmapMappingManager.RegisteredAs (m : MmapMappingManager) (o size : UInt32) : Prop :=
  ∃ b ∈ m.buffers, b.offset = o ∧ b.registered = true ∧ b.size = size

theorem MmapMappingManager.Registered.occupied {m : MmapMappingManager} {o : UInt32}
    (h : m.Registered o) : m.Occupied o := by
  obtain ⟨b, hb, ho, -⟩ := h
  exact ⟨b, hb, ho⟩

namespace MmapMappingManager

theorem registered_iff {m : MmapMappingManager} {o : UInt32} :
    m.Registered o ↔ ∃ size, m.RegisteredAs o size := by
  constructor
  · rintro ⟨b, hb, ho, hreg⟩
    exact ⟨b.size, b, hb, ho, hreg, rfl⟩
  · rintro ⟨size, b, hb, ho, hreg, -⟩
    exact ⟨b, hb, ho, hreg⟩

/-- Exactly the given offsets are unregistered; the sizes of the others stay. -/
theorem registeredAs_unregisterAll {m : MmapMappingManager} (hs : m.Sorted)
    (offsets : List UInt32) (o size : UInt32) :
    (m.unregisterAll offsets).RegisteredAs o size ↔ m.RegisteredAs o size ∧ o ∉ offsets := by
  simp only [RegisteredAs, mem_unregisterAll hs]
  constructor
  · rintro ⟨c, ⟨hc, hno⟩ | ⟨b, -, -, -, rfl⟩, rfl, hreg, hsize⟩
    · exact ⟨⟨c, hc, rfl, hreg, hsize⟩, hno⟩
    · cases hreg
  · rintro ⟨⟨c, hc, rfl, hreg, hsize⟩, hno⟩
    exact ⟨c, .inl ⟨hc, hno⟩, rfl, hreg, hsize⟩

theorem registered_unregisterAll {m : MmapMappingManager} (hs : m.Sorted)
    (offsets : List UInt32) (o : UInt32) :
    (m.unregisterAll offsets).Registered o ↔ m.Registered o ∧ o ∉ offsets := by
  simp only [registered_iff, registeredAs_unregisterAll hs, exists_and_right]

/-- A registration that succeeds adds its offset, with its size. -/
theorem registeredAs_registerBufferByOffset {m : MmapMappingManager} (hs : m.Sorted)
    {offset size : UInt32} (h : (m.registerBufferByOffset offset size).1 = .ok ())
    (o n : UInt32) :
    (m.registerBufferByOffset offset size).2.RegisteredAs o n ↔
      (o = offset ∧ n = size) ∨ m.RegisteredAs o n := by
  simp only [RegisteredAs, mem_registerBufferByOffset hs h]
  constructor
  · rintro ⟨c, rfl | hc, rfl, hreg, rfl⟩
    · exact .inl ⟨rfl, rfl⟩
    · exact .inr ⟨c, hc, rfl, hreg, rfl⟩
  · rintro (⟨rfl, rfl⟩ | ⟨c, hc, rfl, hreg, rfl⟩)
    · exact ⟨_, .inl rfl, rfl, rfl, rfl⟩
    · exact ⟨c, .inr hc, rfl, hreg, rfl⟩

theorem registered_registerBufferByOffset {m : MmapMappingManager} (hs : m.Sorted)
    {offset size : UInt32} (h : (m.registerBufferByOffset offset size).1 = .ok ()) (o : UInt32) :
    (m.registerBufferByOffset offset size).2.Registered o ↔ o = offset ∨ m.Registered o := by
  simp only [registered_iff, registeredAs_registerBufferByOffset hs h, exists_or,
    exists_and_left, exists_eq, and_true]

/-- A mapping is not part of the registration. -/
theorem registeredAs_setMapping (l₁ l₂ : List MmapBuffer) (b : MmapBuffer)
    (x : Option MmapBufferMapping) (o size : UInt32) :
    (⟨l₁ ++ { b with mapping := x } :: l₂⟩ : MmapMappingManager).RegisteredAs o size ↔
      (⟨l₁ ++ b :: l₂⟩ : MmapMappingManager).RegisteredAs o size := by
  simp only [RegisteredAs, mem_split, or_and_right, exists_or, exists_eq_left]

theorem eq_of_buffers {m : MmapMappingManager} {l : List MmapBuffer} (h : m.buffers = l) :
    m = ⟨l⟩ := by
  cases m
  cases h
  rfl

theorem registeredAs_createMapping (m : MmapMappingManager) (offset : UInt32) (fd : Nat)
    (rw : Bool) (answer : Except Int UInt64) (o size : UInt32) :
    (m.createMapping offset fd rw answer).manager.RegisteredAs o size ↔
      m.RegisteredAs o size := by
  rcases createMapping_cases m offset fd rw answer with
    ⟨e, h⟩ | ⟨l₁, b, l₂, hm, -, -, ⟨addr, -, -, h⟩ | ⟨p, -, -, h⟩⟩
  · rw [h]
  · rw [h, eq_of_buffers hm]
    exact registeredAs_setMapping l₁ l₂ b _ o size
  · rw [h, eq_of_buffers hm]
    exact registeredAs_setMapping l₁ l₂ b _ o size

/-- Mapping a buffer registers nothing and unregisters nothing. -/
theorem registered_createMapping (m : MmapMappingManager) (offset : UInt32) (fd : Nat)
    (rw : Bool) (answer : Except Int UInt64) (o : UInt32) :
    (m.createMapping offset fd rw answer).manager.Registered o ↔ m.Registered o := by
  simp only [registered_iff, registeredAs_createMapping]

/-- A buffer that is dropped with its last mapping was not registered. -/
theorem registeredAs_removeMapping (m : MmapMappingManager) (addr : UInt64) (o size : UInt32) :
    (m.removeMapping addr).manager.RegisteredAs o size ↔ m.RegisteredAs o size := by
  rcases removeMapping_cases m addr with
    ⟨h, -⟩ | ⟨l₁, b, l₂, p, hm, -, -, ⟨-, h⟩ | ⟨-, h⟩⟩
  · rw [h]
  · rw [h, eq_of_buffers hm]
    cases hreg : b.registered with
    | true =>
        rw [if_pos rfl, List.append_assoc]
        have hset := registeredAs_setMapping l₁ l₂ b none o size
        rwa [hreg] at hset
    | false =>
        simp only [Bool.false_eq_true, if_false, List.append_nil, RegisteredAs, mem_split]
        constructor
        · rintro ⟨c, hc, hco⟩
          exact ⟨c, .inr hc, hco⟩
        · rintro ⟨c, rfl | hc, hco⟩
          · rw [hreg] at hco
            cases hco.2.1
          · exact ⟨c, hc, hco⟩
  · rw [h, eq_of_buffers hm]
    exact registeredAs_setMapping l₁ l₂ b _ o size

/-- A buffer stays registered when its mapping goes. -/
theorem registered_removeMapping (m : MmapMappingManager) (addr : UInt64) (o : UInt32) :
    (m.removeMapping addr).manager.Registered o ↔ m.Registered o := by
  simp only [registered_iff, registeredAs_removeMapping]

end MmapMappingManager

/-- Every stored mapping was established for its offset, and every live one is
stored. -/
structure MapsOk (t : Tracked) : Prop where
  sorted : t.manager.Sorted
  added : ∀ b ∈ t.manager.buffers, ∀ p, b.mapping = some p →
    ∃ fd, lastAdd t.log b.offset = some (fd, p.guestAddr)
  live : ∀ o, LiveAt t.log o → ∃ b ∈ t.manager.buffers, b.offset = o ∧ b.mapping.isSome = true

/-- What is mapped at the offset of `x` is the file of `x`, and nothing is if it
has none. -/
def Owns (t : Tracked) (x : UInt32 × Option Nat) : Prop :=
  ∀ b ∈ t.manager.buffers, b.offset = x.1 → ∀ p, b.mapping = some p →
    lastAdd t.log x.1 = x.2.map fun fd => (fd, p.guestAddr)

/-- A change of the stored buffers that neither adds nor removes a mapping. -/
structure Quiet (m m' : MmapMappingManager) : Prop where
  sorted : m'.Sorted
  origin : ∀ c ∈ m'.buffers, c.mapping = none ∨
    ∃ b ∈ m.buffers, b.offset = c.offset ∧ b.mapping = c.mapping
  keep : ∀ b ∈ m.buffers, b.mapping.isSome = true →
    ∃ c ∈ m'.buffers, c.offset = b.offset ∧ c.mapping.isSome = true

theorem Quiet.refl {m : MmapMappingManager} (hs : m.Sorted) : Quiet m m where
  sorted := hs
  origin := fun c hc => .inr ⟨c, hc, rfl, rfl⟩
  keep := fun b hb h => ⟨b, hb, rfl, h⟩

theorem Quiet.trans {m₁ m₂ m₃ : MmapMappingManager} (h : Quiet m₁ m₂) (h' : Quiet m₂ m₃) :
    Quiet m₁ m₃ where
  sorted := h'.sorted
  origin := by
    intro c hc
    rcases h'.origin c hc with hn | ⟨b, hb, ho, hm⟩
    · exact .inl hn
    · rcases h.origin b hb with hn | ⟨a, ha, hao, ham⟩
      · exact .inl (hm ▸ hn)
      · exact .inr ⟨a, ha, hao.trans ho, ham.trans hm⟩
  keep := by
    intro b hb hsome
    obtain ⟨c, hc, hco, hcm⟩ := h.keep b hb hsome
    obtain ⟨d, hd, hdo, hdm⟩ := h'.keep c hc hcm
    exact ⟨d, hd, hdo.trans hco, hdm⟩

/-- Registering and unregistering leave every mapping as it is. -/
theorem MapsOk.quiet {t : Tracked} (ht : MapsOk t) {m : MmapMappingManager}
    (h : Quiet t.manager m) : MapsOk { t with manager := m } where
  sorted := h.sorted
  added := by
    intro c hc p hp
    rcases h.origin c hc with hn | ⟨b, hb, ho, hm⟩
    · rw [hn] at hp
      cases hp
    · rw [← ho]
      exact ht.added b hb p (hm.trans hp)
  live := by
    intro o ho
    obtain ⟨b, hb, hbo, hbm⟩ := ht.live o ho
    obtain ⟨c, hc, hco, hcm⟩ := h.keep b hb hbm
    exact ⟨c, hc, hco.trans hbo, hcm⟩

/-- What is mapped at an offset is not changed by a quiet change of the manager.
-/
theorem Owns.quiet {t : Tracked} {x : UInt32 × Option Nat} (hx : Owns t x) {m : MmapMappingManager}
    (h : Quiet t.manager m) : Owns { t with manager := m } x := by
  intro c hc hco p hp
  rcases h.origin c hc with hn | ⟨b, hb, ho, hm⟩
  · rw [hn] at hp
    cases hp
  · exact hx b hb (ho.trans hco) p (hm.trans hp)

theorem unregisterAll_quiet {m : MmapMappingManager} (hs : m.Sorted) (os : List UInt32) :
    Quiet m (m.unregisterAll os) where
  sorted := MmapMappingManager.unregisterAll_sorted hs os
  origin := by
    intro c hc
    rcases (MmapMappingManager.mem_unregisterAll hs os c).mp hc with ⟨hc, -⟩ | ⟨b, hb, -, -, rfl⟩
    · exact .inr ⟨c, hc, rfl, rfl⟩
    · exact .inr ⟨b, hb, rfl, rfl⟩
  keep := by
    intro b hb hsome
    by_cases ho : b.offset ∈ os
    · exact ⟨{ b with registered := false },
        (MmapMappingManager.mem_unregisterAll hs os _).mpr (.inr ⟨b, hb, ho, hsome, rfl⟩),
        rfl, hsome⟩
    · exact ⟨b, (MmapMappingManager.mem_unregisterAll hs os b).mpr (.inl ⟨hb, ho⟩), rfl, hsome⟩

/-! ### Allocation -/

/-- Buffers were registered at the offsets `os`, which were free, and they are
not mapped. Others may have been registered as well. -/
structure Grown (m m' : MmapMappingManager) (os : List UInt32) : Prop extends Quiet m m' where
  occ : ∀ o, m.Occupied o → m'.Occupied o
  reg : ∀ o, m.Registered o → m'.Registered o
  nodup : os.Nodup
  fresh : ∀ o ∈ os, ¬m.Occupied o
  taken : ∀ o ∈ os, m'.Registered o
  unmapped : ∀ o ∈ os, ∀ c ∈ m'.buffers, c.offset = o → c.mapping = none

theorem Grown.refl {m : MmapMappingManager} (hs : m.Sorted) : Grown m m [] where
  toQuiet := .refl hs
  occ := fun _ h => h
  reg := fun _ h => h
  nodup := List.nodup_nil
  fresh := fun _ h => absurd h (by simp)
  taken := fun _ h => absurd h (by simp)
  unmapped := fun _ h => absurd h (by simp)

/-- Exactly the buffers at the offsets `os` were registered. -/
structure GrownBy (m m' : MmapMappingManager) (os : List UInt32) : Prop extends Grown m m' os where
  only : ∀ o, m'.Registered o → m.Registered o ∨ o ∈ os

theorem GrownBy.refl {m : MmapMappingManager} (hs : m.Sorted) : GrownBy m m [] where
  toGrown := .refl hs
  only := fun _ h => .inl h

theorem GrownBy.registered_iff {m m' : MmapMappingManager} {os : List UInt32}
    (h : GrownBy m m' os) (o : UInt32) : m'.Registered o ↔ m.Registered o ∨ o ∈ os :=
  ⟨h.only o, fun ho => ho.elim (h.reg o) (h.taken o)⟩

/-- What one registration without a requested offset can do. -/
theorem registerBuffer_cases {m m' : MmapMappingManager} (hs : m.Sorted) {checks : Bool}
    {size : UInt32} {r : Except RegisterBufferError UInt32}
    (h : m.registerBuffer checks none size = some (r, m')) :
    (∃ e, r = .error e ∧ m' = m) ∨ ∃ o, r = .ok o ∧ GrownBy m m' [o] := by
  simp only [MmapMappingManager.registerBuffer, Option.map_eq_some_iff, Prod.mk.injEq] at h
  obtain ⟨o, -, hr, hm⟩ := h
  rcases MmapMappingManager.registerBufferByOffset_cases hs o size with
    ⟨e, he⟩ | ⟨l₁, l₂, -, hok, -⟩
  · rw [he] at hr hm
    exact .inl ⟨e, hr.symm, hm.symm⟩
  · have hok' : (m.registerBufferByOffset o size).1 = .ok () := by rw [hok]
    have hfree := ((MmapMappingManager.registerBufferByOffset_ok_iff hs o size).mp hok').2.2
    have hmem := MmapMappingManager.mem_registerBufferByOffset hs hok'
    have hsorted := MmapMappingManager.registerBufferByOffset_sorted hs o size
    rw [hm] at hmem hsorted
    rw [hok'] at hr
    refine .inr ⟨o, hr.symm,
      ⟨⟨⟨hsorted, ?_, ?_⟩, ?_, ?_, List.nodup_singleton o, ?_, ?_, ?_⟩, ?_⟩⟩
    · intro c hc
      rcases (hmem c).mp hc with rfl | hc
      · exact .inl rfl
      · exact .inr ⟨c, hc, rfl, rfl⟩
    · exact fun b hb hsome => ⟨b, (hmem b).mpr (.inr hb), rfl, hsome⟩
    · rintro u ⟨b, hb, hbo⟩
      exact ⟨b, (hmem b).mpr (.inr hb), hbo⟩
    · rintro u ⟨b, hb, hbo, hreg⟩
      exact ⟨b, (hmem b).mpr (.inr hb), hbo, hreg⟩
    · intro u hu
      rw [List.mem_singleton.mp hu]
      exact hfree
    · intro u hu
      rw [List.mem_singleton.mp hu]
      exact ⟨.new o size, (hmem _).mpr (.inl rfl), rfl, rfl⟩
    · intro u hu c hc hco
      rw [List.mem_singleton.mp hu] at hco
      rcases (hmem c).mp hc with rfl | hc
      · rfl
      · exact absurd ⟨c, hc, hco⟩ hfree
    · rintro u ⟨c, hc, rfl, hreg⟩
      rcases (hmem c).mp hc with rfl | hc
      · exact .inr (List.mem_singleton.mpr rfl)
      · exact .inl ⟨c, hc, rfl, hreg⟩

theorem Grown.cons {m₁ m₂ m₃ : MmapMappingManager} {o : UInt32} {os : List UInt32}
    (h : Grown m₁ m₂ [o]) (h' : Grown m₂ m₃ os) : Grown m₁ m₃ (o :: os) where
  toQuiet := h.toQuiet.trans h'.toQuiet
  occ := fun u hu => h'.occ u (h.occ u hu)
  reg := fun u hu => h'.reg u (h.reg u hu)
  nodup := by
    refine List.nodup_cons.mpr ⟨fun ho => ?_, h'.nodup⟩
    exact h'.fresh o ho (h.taken o (by simp)).occupied
  fresh := by
    intro u hu
    rcases List.mem_cons.mp hu with rfl | hu
    · exact h.fresh u (by simp)
    · exact fun hocc => h'.fresh u hu (h.occ u hocc)
  taken := by
    intro u hu
    rcases List.mem_cons.mp hu with rfl | hu
    · exact h'.reg u (h.taken u (by simp))
    · exact h'.taken u hu
  unmapped := by
    intro u hu c hc hco
    rcases List.mem_cons.mp hu with rfl | hu
    · rcases h'.origin c hc with hn | ⟨b, hb, hbo, hbm⟩
      · exact hn
      · rw [← hbm]
        exact h.unmapped u (by simp) b hb (hbo.trans hco)
    · exact h'.unmapped u hu c hc hco

/-- A registration that is taken back at once. -/
theorem Grown.undo {m m' : MmapMappingManager} {o : UInt32} (h : Grown m m' [o]) :
    Grown m (m'.unregisterBuffer o).2 [] := by
  have hne (u : UInt32) (hu : m.Occupied u) : u ≠ o := by
    rintro rfl
    exact h.fresh u (by simp) hu
  have hall : (m'.unregisterBuffer o).2 = m'.unregisterAll [o] := rfl
  have hmem := MmapMappingManager.mem_unregisterBuffer h.sorted o
  refine ⟨?_, ?_, ?_, List.nodup_nil, by simp, by simp, by simp⟩
  · rw [hall]
    exact h.toQuiet.trans (unregisterAll_quiet h.sorted [o])
  · intro u hu
    obtain ⟨b, hb, rfl⟩ := h.occ u hu
    exact ⟨b, (hmem b).mpr (.inl ⟨hb, hne _ hu⟩), rfl⟩
  · intro u hu
    obtain ⟨b, hb, rfl, hreg⟩ := h.reg u hu
    exact ⟨b, (hmem b).mpr (.inl ⟨hb, hne _ hu.occupied⟩), rfl, hreg⟩

theorem GrownBy.cons {m₁ m₂ m₃ : MmapMappingManager} {o : UInt32} {os : List UInt32}
    (h : GrownBy m₁ m₂ [o]) (h' : GrownBy m₂ m₃ os) : GrownBy m₁ m₃ (o :: os) where
  toGrown := h.toGrown.cons h'.toGrown
  only := by
    intro u hu
    rcases h'.only u hu with hu | hu
    · exact (h.only u hu).imp_right fun hu => List.mem_cons.mpr (.inl (List.mem_singleton.mp hu))
    · exact .inr (List.mem_cons_of_mem o hu)

/-- Unregistering the buffer that was just registered takes it back. -/
theorem GrownBy.undo {m m' : MmapMappingManager} {o : UInt32} (h : GrownBy m m' [o]) :
    GrownBy m (m'.unregisterBuffer o).2 [] where
  toGrown := h.toGrown.undo
  only := by
    intro u hu
    obtain ⟨hreg, hne⟩ := (MmapMappingManager.registered_unregisterAll h.sorted [o] u).mp hu
    exact .inl ((h.only u hreg).resolve_right hne)

/-- No mapping is live at an offset that is given to a new buffer. -/
theorem MapsOk.not_live {t : Tracked} (ht : MapsOk t) {o : UInt32}
    (h : ¬t.manager.Occupied o) : ¬LiveAt t.log o := by
  intro hl
  obtain ⟨b, hb, hbo, -⟩ := ht.live o hl
  exact h ⟨b, hb, hbo⟩

/-- A buffer that was just registered is not mapped. -/
theorem Grown.owns {t : Tracked} {m : MmapMappingManager} {os : List UInt32}
    (h : Grown t.manager m os) {x : UInt32 × Option Nat} (hx : x.1 ∈ os) :
    Owns { t with manager := m } x := by
  intro c hc hco p hp
  rw [h.unmapped x.1 hx c hc hco] at hp
  cases hp

/-! ### Mapping and unmapping -/

/-- What is mapped at the offset was mapped there before, at the same address,
and no mapping was added for it in between. -/
structure Carried (t t' : Tracked) (o : UInt32) : Prop where
  log : lastAdd t'.log o = lastAdd t.log o
  origin : ∀ c ∈ t'.manager.buffers, c.offset = o → ∀ p, c.mapping = some p →
    ∃ b ∈ t.manager.buffers, b.offset = o ∧ ∃ q, b.mapping = some q ∧ q.guestAddr = p.guestAddr

/-- The owner of an offset keeps it as long as its last mapping is carried over.
-/
theorem Owns.carried {t t' : Tracked} {x : UInt32 × Option Nat} (hx : Owns t x)
    (h : Carried t t' x.1) : Owns t' x := by
  intro c hc hco p hp
  obtain ⟨b, hb, hbo, q, hq, hqp⟩ := h.origin c hc hco p hp
  rw [h.log, ← hqp]
  exact hx b hb hbo q hq

theorem MapsOk.added_carried {t t' : Tracked} (ht : MapsOk t) {c : MmapBuffer}
    (hc : c ∈ t'.manager.buffers) {p : MmapBufferMapping} (hp : c.mapping = some p)
    (h : Carried t t' c.offset) : ∃ fd, lastAdd t'.log c.offset = some (fd, p.guestAddr) := by
  obtain ⟨b, hb, hbo, q, hq, hqp⟩ := h.origin c hc rfl p hp
  obtain ⟨fd, hfd⟩ := ht.added b hb q hq
  rw [h.log, ← hqp, ← hbo]
  exact ⟨fd, hfd⟩

section Calls

variable {l₁ l₂ : List MmapBuffer} {b : MmapBuffer} {log : List MapEvent}

/-- In a sorted table no other buffer has the offset of the one in the middle.
-/
theorem offset_ne_of_split (hs : MmapMappingManager.Sorted ⟨l₁ ++ b :: l₂⟩) {c : MmapBuffer}
    (hc : c ∈ l₁ ++ l₂) : c.offset ≠ b.offset := by
  intro h
  exact SortedList.Sorted.key_ne hs c hc (congrArg UInt32.toNat h)

theorem toUInt64_inj {a b : UInt32} (h : a.toUInt64 = b.toUInt64) : a = b := by
  have := congrArg UInt64.toNat h
  simpa [UInt32.toNat_inj] using this

theorem added_add_of_ne {o offset : UInt32} (h : o ≠ offset) (fd : Nat) (length : UInt64)
    (rw : Bool) (a : UInt64) :
    MapEvent.added o (.call (.add fd length offset.toUInt64 rw a)) = none := by
  have hne : offset.toUInt64 ≠ o.toUInt64 := fun he => h (toUInt64_inj he).symm
  simp [MapEvent.added, hne]

theorem lastAdd_add (log : List MapEvent) (fd : Nat) (length : UInt64) (offset : UInt32)
    (rw : Bool) (a : UInt64) :
    lastAdd (.created a :: .call (.add fd length offset.toUInt64 rw a) :: log) offset =
      some (fd, a) := by
  rw [lastAdd_cons_none rfl]
  exact lastAdd_cons_some (by simp [MapEvent.added])

/-- `add_mapping` for the buffer `b` does not concern another offset. -/
theorem carried_establish {o : UInt32} (ho : o ≠ b.offset) (fd : Nat) (length : UInt64) (rw : Bool)
    (a : UInt64) (p : Option MmapBufferMapping) :
    Carried ⟨⟨l₁ ++ b :: l₂⟩, log⟩ ⟨⟨l₁ ++ { b with mapping := p } :: l₂⟩,
      .created a :: .call (.add fd length b.offset.toUInt64 rw a) :: log⟩ o where
  log := by
    change lastAdd (_ :: _) o = _
    rw [lastAdd_cons_none rfl, lastAdd_cons_none (added_add_of_ne ho fd length rw a)]
  origin := by
    intro c hc hco q hq
    rcases mem_split.mp hc with rfl | hc
    · exact absurd hco.symm ho
    · exact ⟨c, mem_split_of_mem hc, hco, q, hq, rfl⟩

/-- The first mapping of a buffer, made with `add_mapping`. -/
theorem MapsOk.establish (ht : MapsOk ⟨⟨l₁ ++ b :: l₂⟩, log⟩) (fd : Nat) (length : UInt64)
    (rw : Bool) (a : UInt64) :
    MapsOk ⟨⟨l₁ ++ { b with mapping := some ⟨1, a, rw⟩ } :: l₂⟩,
      .created a :: .call (.add fd length b.offset.toUInt64 rw a) :: log⟩ where
  sorted := SortedList.Sorted.replace ht.sorted rfl
  added := by
    intro c hc p hp
    rcases mem_split.mp hc with rfl | hother
    · cases hp
      exact ⟨fd, lastAdd_add _ fd length b.offset rw a⟩
    · have hne : c.offset ≠ b.offset := offset_ne_of_split ht.sorted hother
      exact ht.added_carried hc hp (carried_establish hne fd length rw a _)
  live := by
    intro o ho
    by_cases hob : o = b.offset
    · exact ⟨_, mem_split.mpr (.inl rfl), hob.symm, rfl⟩
    · obtain ⟨c, hc, hco, hcm⟩ := ht.live o
        ((ho.tail rfl).tail (added_add_of_ne hob fd length rw a))
      rcases mem_split.mp hc with rfl | hc
      · exact absurd hco.symm hob
      · exact ⟨c, mem_split_of_mem hc, hco, hcm⟩

/-- The reference count of a mapping changes, and the log only says so. -/
theorem carried_recount {p : MmapBufferMapping} (hb : b.mapping = some p) (n : Nat) {e : MapEvent}
    (he : ∀ o, e.added o = none) (o : UInt32) :
    Carried ⟨⟨l₁ ++ b :: l₂⟩, log⟩
      ⟨⟨l₁ ++ { b with mapping := some { p with numMappings := n } } :: l₂⟩, e :: log⟩ o where
  log := lastAdd_cons_none (he o)
  origin := by
    intro c hc hco q hq
    rcases mem_split.mp hc with rfl | hc
    · cases hq
      exact ⟨b, mem_split.mpr (.inl rfl), hco, p, hb, rfl⟩
    · exact ⟨c, mem_split_of_mem hc, hco, q, hq, rfl⟩

/-- A change of the count of a mapping, with an event that adds none. -/
theorem MapsOk.recount (ht : MapsOk ⟨⟨l₁ ++ b :: l₂⟩, log⟩) {p : MmapBufferMapping}
    (hb : b.mapping = some p) (n : Nat) {e : MapEvent} (he : ∀ o, e.added o = none) :
    MapsOk ⟨⟨l₁ ++ { b with mapping := some { p with numMappings := n } } :: l₂⟩, e :: log⟩ where
  sorted := SortedList.Sorted.replace ht.sorted rfl
  added := fun c hc q hq => ht.added_carried hc hq (carried_recount hb n he c.offset)
  live := by
    intro o ho
    obtain ⟨c, hc, hco, hcm⟩ := ht.live o (ho.tail (he o))
    rcases mem_split.mp hc with rfl | hc
    · exact ⟨_, mem_split.mpr (.inl rfl), hco, rfl⟩
    · exact ⟨c, mem_split_of_mem hc, hco, hcm⟩

/-- The buffers after the last `remove_mapping` of `b`. -/
theorem mem_unmapped {c : MmapBuffer} :
    c ∈ l₁ ++ (if b.registered then [{ b with mapping := none }] else []) ++ l₂ ↔
      (b.registered = true ∧ c = { b with mapping := none }) ∨ c ∈ l₁ ++ l₂ := by
  split
  · rename_i hreg
    simp only [List.append_assoc, List.singleton_append, mem_split, hreg, true_and]
  · rename_i hreg
    simp [hreg]

theorem carried_unmap (a : UInt64) (o : UInt32) :
    Carried ⟨⟨l₁ ++ b :: l₂⟩, log⟩
      ⟨⟨l₁ ++ (if b.registered then [{ b with mapping := none }] else []) ++ l₂⟩,
        .removed a :: .call (.remove a) :: log⟩ o where
  log := by
    change lastAdd (_ :: _) o = _
    rw [lastAdd_cons_none rfl, lastAdd_cons_none rfl]
  origin := by
    intro c hc hco q hq
    rcases mem_unmapped.mp hc with ⟨-, rfl⟩ | hc
    · cases hq
    · exact ⟨c, mem_split_of_mem hc, hco, q, hq, rfl⟩

/-- The last `remove_mapping` of a buffer, which is dropped if it was
unregistered. -/
theorem MapsOk.unmap (ht : MapsOk ⟨⟨l₁ ++ b :: l₂⟩, log⟩) {p : MmapBufferMapping}
    (hb : b.mapping = some p)
    (hs : MmapMappingManager.Sorted
      ⟨l₁ ++ (if b.registered then [{ b with mapping := none }] else []) ++ l₂⟩) :
    MapsOk ⟨⟨l₁ ++ (if b.registered then [{ b with mapping := none }] else []) ++ l₂⟩,
      .removed p.guestAddr :: .call (.remove p.guestAddr) :: log⟩ where
  sorted := hs
  added := fun c hc q hq => ht.added_carried hc hq (carried_unmap p.guestAddr c.offset)
  live := by
    intro o ho
    have hremoved := ho.tail rfl
    obtain ⟨c, hc, hco, hcm⟩ := ht.live o (hremoved.tail rfl)
    rcases mem_split.mp hc with rfl | hc
    · -- the mapping that is live would be the one just removed
      obtain ⟨fd, hfd⟩ := ht.added c (mem_split.mpr (.inl rfl)) p hb
      rw [hco] at hfd
      exact absurd rfl (hremoved.ne_of_remove hfd)
    · exact ⟨c, mem_unmapped.mpr (.inr hc), hco, hcm⟩

end Calls

/-! ### Holders

Each session holds buffers, of which only the offset and the file matter here. -/

/-- The offsets of all buffers of all sessions are distinct. -/
structure Distinct (held : UInt32 → List (UInt32 × Option Nat)) : Prop where
  nodup : ∀ i, ((held i).map Prod.fst).Nodup
  apart : ∀ i j, i ≠ j → ∀ x ∈ held i, ∀ y ∈ held j, x.1 ≠ y.1

/-- Two holders of one offset are the same holder. -/
theorem Distinct.eq_of_offset {held : UInt32 → List (UInt32 × Option Nat)} (hd : Distinct held)
    {i j : UInt32} {x y : UInt32 × Option Nat} (hx : x ∈ held i) (hy : y ∈ held j)
    (h : x.1 = y.1) : x = y := by
  by_cases hij : i = j
  · subst hij
    exact List.inj_on_of_nodup_map (hd.nodup i) hx hy h
  · exact absurd h (hd.apart i j hij x hx y hy)

/-- The holders with the buffers of one session replaced. -/
def holding (held : UInt32 → List (UInt32 × Option Nat)) (i : UInt32)
    (l : List (UInt32 × Option Nat)) : UInt32 → List (UInt32 × Option Nat) :=
  fun j => if j = i then l else held j

theorem mem_holding {held : UInt32 → List (UInt32 × Option Nat)} {i j : UInt32}
    {l : List (UInt32 × Option Nat)} {x : UInt32 × Option Nat} (h : x ∈ holding held i l j) :
    (j = i ∧ x ∈ l) ∨ (j ≠ i ∧ x ∈ held j) := by
  unfold holding at h
  split at h
  · exact .inl ⟨‹_›, h⟩
  · exact .inr ⟨‹_›, h⟩

theorem holding_self {held : UInt32 → List (UInt32 × Option Nat)} {i : UInt32}
    {l : List (UInt32 × Option Nat)} (h : l = held i) : holding held i l = held := by
  funext j
  unfold holding
  split
  · rename_i hj
    rw [hj, h]
  · rfl

/-- A session gets a new list of buffers, whose offsets no other session holds.
-/
theorem Distinct.holding {held : UInt32 → List (UInt32 × Option Nat)} (hd : Distinct held)
    {i : UInt32} {l : List (UInt32 × Option Nat)} (hl : (l.map Prod.fst).Nodup)
    (hother : ∀ j, j ≠ i → ∀ x ∈ l, ∀ y ∈ held j, x.1 ≠ y.1) : Distinct (holding held i l) where
  nodup := by
    intro j
    unfold Device.holding
    split
    · exact hl
    · exact hd.nodup j
  apart := by
    intro j k hjk x hx y hy
    rcases mem_holding hx with ⟨hj, hx⟩ | ⟨hj, hx⟩
    · rcases mem_holding hy with ⟨hk, hy⟩ | ⟨hk, hy⟩
      · exact absurd (hj.trans hk.symm) hjk
      · exact hother k hk x hx y hy
    · rcases mem_holding hy with ⟨hk, hy⟩ | ⟨hk, hy⟩
      · exact (hother j hj y hy x hx).symm
      · exact hd.apart j k hjk x hx y hy

/-- A session gives buffers up. -/
theorem Distinct.drop {held : UInt32 → List (UInt32 × Option Nat)} (hd : Distinct held)
    {i : UInt32} {l : List (UInt32 × Option Nat)} (hl : l.Subperm (held i)) :
    Distinct (Device.holding held i l) := by
  refine hd.holding ?_ fun j hj x hx y hy => hd.apart i j hj.symm x (hl.subset hx) y hy
  obtain ⟨l', hperm, hsub⟩ := hl
  exact (hperm.map Prod.fst).nodup_iff.mp ((hd.nodup i).sublist (hsub.map Prod.fst))

/-- The offsets of buffers that a session gives up are those of no buffer that
is still held. -/
theorem Distinct.not_gone {held : UInt32 → List (UInt32 × Option Nat)} (hd : Distinct held)
    {i j : UInt32} {l gone : List (UInt32 × Option Nat)} (hperm : (l ++ gone).Perm (held i))
    {x : UInt32 × Option Nat} (hx : x ∈ Device.holding held i l j) :
    x.1 ∉ gone.map Prod.fst := by
  intro hmem
  rcases mem_holding hx with ⟨-, hx⟩ | ⟨hj, hx⟩
  · have hnodup := hd.nodup i
    rw [← (hperm.map Prod.fst).nodup_iff, List.map_append] at hnodup
    exact (List.nodup_append.mp hnodup).2.2 x.1 (List.mem_map_of_mem hx) x.1 hmem rfl
  · obtain ⟨y, hy, heq⟩ := List.mem_map.mp hmem
    exact hd.apart j i hj x hx y (hperm.subset (List.mem_append_right _ hy)) heq.symm

/-- Only the offsets matter. -/
theorem Distinct.of_offsets {held held' : UInt32 → List (UInt32 × Option Nat)}
    (hd : Distinct held) (h : ∀ i, (held' i).map Prod.fst = (held i).map Prod.fst) :
    Distinct held' where
  nodup i := by
    rw [h]
    exact hd.nodup i
  apart i j hij x hx y hy := by
    have hx' := List.mem_map_of_mem (f := Prod.fst) hx
    have hy' := List.mem_map_of_mem (f := Prod.fst) hy
    rw [h] at hx' hy'
    obtain ⟨x', hx', hxeq⟩ := List.mem_map.mp hx'
    obtain ⟨y', hy', hyeq⟩ := List.mem_map.mp hy'
    rw [← hxeq, ← hyeq]
    exact hd.apart i j hij x' hx' y' hy'

/-- Buffers are registered at free offsets, and a session holds some of them from
now on. -/
theorem Distinct.grow {held : UInt32 → List (UInt32 × Option Nat)} (hd : Distinct held)
    {m m' : MmapMappingManager} (hocc : ∀ j, ∀ x ∈ held j, m.Occupied x.1)
    {os : List UInt32} (h : Grown m m' os) {i : UInt32}
    {l extra : List (UInt32 × Option Nat)} (hl : l.Perm (held i ++ extra))
    (hextra : (extra.map Prod.fst).Sublist os) : Distinct (Device.holding held i l) := by
  have hfresh (j : UInt32) (x : UInt32 × Option Nat) (hx : x ∈ extra)
      (y : UInt32 × Option Nat) (hy : y ∈ held j) : x.1 ≠ y.1 := by
    intro heq
    exact h.fresh x.1 (hextra.subset (List.mem_map_of_mem hx)) (heq ▸ hocc j y hy)
  apply hd.holding
  · have hperm := (hl.map Prod.fst).nodup_iff
    rw [List.map_append] at hperm
    refine hperm.mpr (List.nodup_append.mpr ⟨hd.nodup i, h.nodup.sublist hextra, ?_⟩)
    intro a ha b hb
    obtain ⟨y, hy, rfl⟩ := List.mem_map.mp ha
    obtain ⟨x, hx, rfl⟩ := List.mem_map.mp hb
    exact (hfresh i x hx y hy).symm
  · intro j hj x hx y hy
    rcases List.mem_append.mp (hl.subset hx) with hx | hx
    · exact hd.apart i j hj.symm x hx y hy
    · exact hfresh j x hx y hy

/-- The invariant of a device whose sessions hold buffers. -/
structure HeldInv (t : Tracked) (held : UInt32 → List (UInt32 × Option Nat)) : Prop where
  maps : MapsOk t
  distinct : Distinct held
  owns : ∀ i, ∀ x ∈ held i, Owns t x

section Holders

variable {t : Tracked} {held : UInt32 → List (UInt32 × Option Nat)}

theorem heldInv_init (h : ∀ i, held i = []) : HeldInv .init held where
  maps :=
    { sorted := List.Pairwise.nil
      added := fun b hb => absurd hb (by simp [Tracked.init, MmapMappingManager.empty])
      live := by
        rintro o ⟨fd, a, hadd, -⟩
        cases hadd }
  distinct :=
    { nodup := fun i => by simp [h i]
      apart := fun i _ _ x hx => absurd hx (by simp [h i]) }
  owns := fun i x hx => absurd hx (by simp [h i])

theorem HeldInv.quiet (ht : HeldInv t held) {m : MmapMappingManager} (h : Quiet t.manager m) :
    HeldInv { t with manager := m } held where
  maps := ht.maps.quiet h
  distinct := ht.distinct
  owns := fun i x hx => (ht.owns i x hx).quiet h

/-- A session holds other buffers now. -/
theorem HeldInv.hold (ht : HeldInv t held) {i : UInt32} {l : List (UInt32 × Option Nat)}
    (hd : Distinct (holding held i l)) (hown : ∀ x ∈ l, Owns t x) :
    HeldInv t (holding held i l) where
  maps := ht.maps
  distinct := hd
  owns := by
    intro j x hx
    rcases mem_holding hx with ⟨-, hx⟩ | ⟨-, hx⟩
    · exact hown x hx
    · exact ht.owns j x hx

/-- A session gives buffers up. -/
theorem HeldInv.drop (ht : HeldInv t held) {i : UInt32} {l : List (UInt32 × Option Nat)}
    (hl : l.Subperm (held i)) : HeldInv t (holding held i l) :=
  ht.hold (ht.distinct.drop hl) fun x hx => ht.owns i x (hl.subset hx)

/-- The buffer of a session is mapped with its own file. The mapper is only
asked if nothing is mapped there yet. -/
theorem HeldInv.create (ht : HeldInv t held) {i : UInt32} {offset : UInt32} {fd : Nat}
    (hx : (offset, some fd) ∈ held i) (rw : Bool) (answer : Except Int UInt64) :
    HeldInv (t.create offset fd rw answer).2 held ∧
      ∀ a n, (t.create offset fd rw answer).1 = .ok (a, n) →
        lastAdd (t.create offset fd rw answer).2.log offset = some (fd, a) := by
  unfold Tracked.create
  obtain ⟨m, log⟩ := t
  rcases MmapMappingManager.createMapping_cases m offset fd rw answer with
    ⟨e, h⟩ | ⟨l₁, b, l₂, hm, rfl, -, ⟨addr, hb, -, h⟩ | ⟨p, hb, -, h⟩⟩ <;> simp only [h]
  · exact ⟨ht, fun a n hres => by cases hres⟩
  · obtain rfl : m = ⟨l₁ ++ b :: l₂⟩ := by rw [← hm]
    have hlast := lastAdd_add log fd b.size.toUInt64 b.offset rw addr
    refine ⟨⟨ht.maps.establish fd _ rw addr, ht.distinct, ?_⟩, ?_⟩
    · intro j y hy
      by_cases hyo : y.1 = b.offset
      · obtain rfl : y = (b.offset, some fd) := ht.distinct.eq_of_offset hy hx hyo
        intro c hc hco q hq
        rcases mem_split.mp hc with rfl | hc
        · cases hq
          exact hlast
        · exact absurd hco (offset_ne_of_split ht.maps.sorted hc)
      · exact (ht.owns j y hy).carried (carried_establish hyo fd _ rw addr _)
    · intro a n hres
      cases hres
      exact hlast
  · obtain rfl : m = ⟨l₁ ++ b :: l₂⟩ := by rw [← hm]
    refine ⟨⟨ht.maps.recount hb _ fun _ => rfl, ht.distinct, fun j y hy => ?_⟩, ?_⟩
    · exact (ht.owns j y hy).carried (carried_recount hb _ (fun _ => rfl) y.1)
    · intro a n hres
      cases hres
      exact ht.owns i _ hx b (mem_split.mpr (.inl rfl)) rfl p hb

/-- MUNMAP takes no offset from its holder. -/
theorem HeldInv.remove (ht : HeldInv t held) (addr : UInt64) :
    HeldInv (t.remove addr).2 held := by
  have hsorted := MmapMappingManager.removeMapping_sorted ht.maps.sorted addr
  unfold Tracked.remove
  obtain ⟨m, log⟩ := t
  rcases MmapMappingManager.removeMapping_cases m addr with
    ⟨h, -⟩ | ⟨l₁, b, l₂, p, hm, hb, rfl, ⟨-, h⟩ | ⟨-, h⟩⟩ <;> rw [h] at hsorted ⊢
  · exact ht
  · obtain rfl : m = ⟨l₁ ++ b :: l₂⟩ := by rw [← hm]
    refine ⟨ht.maps.unmap hb hsorted, ht.distinct, fun j y hy => ?_⟩
    exact (ht.owns j y hy).carried (carried_unmap p.guestAddr y.1)
  · obtain rfl : m = ⟨l₁ ++ b :: l₂⟩ := by rw [← hm]
    refine ⟨ht.maps.recount hb _ fun _ => rfl, ht.distinct, fun j y hy => ?_⟩
    exact (ht.owns j y hy).carried (carried_recount hb _ (fun _ => rfl) y.1)

end Holders

/-- The buffers stored at the offsets of live mappings are those that are
mapped: none of them was registered since. -/
def KeepsLive (t : Tracked) (m : MmapMappingManager) : Prop :=
  ∀ c ∈ m.buffers, LiveAt t.log c.offset →
    c.mapping.isSome = true ∧ ∃ b ∈ t.manager.buffers, b.offset = c.offset ∧ b.mapping = c.mapping

theorem MapsOk.keepsLive {t : Tracked} (ht : MapsOk t) {m : MmapMappingManager}
    (h : Quiet t.manager m) : KeepsLive t m := by
  intro c hc hlive
  obtain ⟨b, hb, hbo, hbm⟩ := ht.live c.offset hlive
  obtain ⟨c', hc', hco', hcm'⟩ := h.keep b hb hbm
  obtain rfl : c = c' := SortedList.Sorted.eq_of_key_eq h.sorted hc hc'
    (congrArg UInt32.toNat (hbo.symm.trans hco'.symm))
  refine ⟨hcm', ?_⟩
  rcases h.origin c hc with hnone | horigin
  · rw [hnone] at hcm'
    cases hcm'
  · exact horigin

end VirtioMedia.Device
