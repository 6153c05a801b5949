import VirtioMedia.Driver.ChainData

/-!
# The memory behind a chain

While a chain is built, structures are copied into the shadow buffer, and SG
lists are written there. The device reads what memory holds at the addresses of
the entries. Those are the bytes that were added if every structure is
describable: copies and lists take parts of the shadow buffer of their own, and
what is described in place lies elsewhere.
-/

namespace VirtioMedia.Driver

open V4l2 Wire Fallible

/-! ### Writes -/

/-- Memory after bytes have been written from an address on. -/
def store (memory : Nat → UInt8) (addr : Nat) (bytes : List UInt8) (a : Nat) : UInt8 :=
  if addr ≤ a then bytes[a - addr]?.getD (memory a) else memory a

/-- Memory around what was written stays. -/
theorem store_frame {memory : Nat → UInt8} {addr a : Nat} {bytes : List UInt8}
    (h : a < addr ∨ addr + bytes.length ≤ a) : store memory addr bytes a = memory a := by
  unfold store
  split
  · rw [List.getElem?_eq_none (by omega), Option.getD_none]
  · rfl

/-- Memory holds what was written. -/
theorem store_add (memory : Nat → UInt8) (addr : Nat) {bytes : List UInt8} {i : Nat}
    (h : i < bytes.length) : store memory addr bytes (addr + i) = bytes[i] := by
  rw [store, if_pos (Nat.le_add_right _ _), Nat.add_sub_cancel_left, List.getElem?_eq_getElem h,
    Option.getD_some]

/-- The copy is a write at the position of the builder. -/
theorem Data.memcpy_of_shadowed {env : Env} {d : Data} (h : d.placement.shadowed env = true)
    (pos : Nat) (memory : Nat → UInt8) :
    d.memcpy env pos memory = store memory (env.shadowBuffer + pos) d.bytes := by
  funext a
  simp only [Data.memcpy, store, h, true_and]

/-- Data that is described where it lies is not copied. -/
theorem Data.memcpy_in_place {env : Env} {d : Data} (h : d.placement.shadowed env = false)
    (pos : Nat) (memory : Nat → UInt8) : d.memcpy env pos memory = memory := by
  funext a
  simp [Data.memcpy, h]

/-- The address of a byte in the 1:1 mapping. -/
theorem byteAt_at (addr i : Nat) : (Placement.at addr).byteAt i = some (addr + i) := by
  rw [Placement.at, Placement.byteAt]
  simp only
  rw [Nat.mul_comm, Nat.div_add_mod]

/-- What was written lies where it was written. -/
theorem store_liesIn (memory : Nat → UInt8) (addr : Nat) (bytes : List UInt8) :
    Data.LiesIn ⟨bytes, .at addr⟩ (store memory addr bytes) := by
  intro i a ha hi
  rw [byteAt_at] at ha
  cases ha
  exact store_add memory addr hi

instance (d : Data) (memory : Nat → UInt8) : Decidable (d.LiesIn memory) :=
  decidable_of_iff
    (∀ i : Fin d.bytes.length, ∀ a ∈ d.placement.byteAt i, memory a = d.bytes[i])
    ⟨fun h i a ha hi => h ⟨i, hi⟩ a ha, fun h i a ha => h i a ha i.isLt⟩

/-! ### Building a chain -/

/-- The builder, and physical memory. -/
structure BackedBuilder where
  builder : Builder
  memory : Nat → UInt8

namespace BackedBuilder

/-- `scatterlist_builder_add_data`, with the copy into the shadow buffer. -/
def addData (env : Env) (s : BackedBuilder) (d : Data) : Except Int BackedBuilder :=
  (s.builder.addData env d).map fun b => ⟨b, d.memcpy env s.builder.shadowBufferPos s.memory⟩

def addAll (env : Env) : BackedBuilder → List Data → Except Int BackedBuilder
  | s, [] => .ok s
  | s, d :: ds => (s.addData env d).bind fun s => s.addAll env ds

/-- `scatterlist_builder_add_userptr`: the entries are written into the shadow
buffer, and added where they are. -/
def addUserptr (env : Env) (s : BackedBuilder) (entries : Except Int (List SgEntry)) :
    Except Int BackedBuilder :=
  entries.bind fun entries =>
    let pos := s.builder.shadowBufferPos
    if shadowBufSize < pos + sgEntry.size * entries.length then .error (-enomem)
    else
      let bytes := entries.flatMap sgEntry.enc
      addData env ⟨{ s.builder with shadowBufferPos := pos + sgEntry.size * entries.length },
        store s.memory (env.shadowBuffer + pos) bytes⟩ ⟨bytes, .at (env.shadowBuffer + pos)⟩

def addUserptrs (env : Env) (userptr : UInt64 → UInt32 → Except Int (List SgEntry)) :
    BackedBuilder → List (UInt64 × UInt32) → Except Int BackedBuilder
  | s, [] => .ok s
  | s, (ptr, length) :: rest =>
    if length = 0 then addUserptrs env userptr s rest
    else (s.addUserptr env (userptr ptr length)).bind fun s => addUserptrs env userptr s rest

/-- The device-readable section: the command, the payload `ds`, and the SG lists
of `ptrs`. -/
def build (env : Env) (session : SessionData)
    (userptr : UInt64 → UInt32 → Except Int (List SgEntry)) (pool : List Desc) (ds : List Data)
    (ptrs : List (UInt64 × UInt32)) (memory : Nat → UInt8) : Except Int BackedBuilder :=
  (addAll env ⟨.init pool, memory⟩ (session.cmdData :: ds)).bind fun s =>
    s.addUserptrs env userptr ptrs

end BackedBuilder

/-- The addresses of an entry, in order. -/
def Builder.addresses (b : Builder) (sg : Sg) : List Nat :=
  (b.memory sg.desc).flatMap fun r => List.range' r.1 r.2

/-- The bytes that were added, entry after entry. -/
def Builder.bytes (b : Builder) : List UInt8 := b.sgs.flatMap (·.data)

/-- What the device reads: the bytes at the addresses of the entries. -/
def BackedBuilder.received (s : BackedBuilder) : List UInt8 :=
  s.builder.sgs.flatMap fun sg => (s.builder.addresses sg).map s.memory

/-! ### Entries that stay -/

/-- An entry denotes a part of the shadow buffer, or the memory of the data. -/
theorem Data.mem_addresses {env : Env} {d : Data} {pos a : Nat} (h : a ∈ d.addresses env pos) :
    if d.placement.shadowed env then
      env.shadowBuffer + pos ≤ a ∧ a < env.shadowBuffer + pos + d.bytes.length
    else a ∈ d.phys := by
  unfold Data.addresses at h
  split at h
  · next hs =>
      rw [if_pos hs]
      exact List.mem_range'_1.mp h
  · next hs =>
      rw [if_neg hs]
      obtain ⟨i, hi, ha⟩ := List.mem_filterMap.mp h
      exact ⟨i, List.mem_range.mp hi, ha⟩

/-- The first page of describable data fills a descriptor of its own. -/
theorem Data.Describable.startsFresh {env : Env} {d : Data} (h : d.Describable env)
    (hd : d.bytes ≠ []) : d.StartsFresh env := by
  unfold Data.StartsFresh
  split
  · next offset frame halways hplace =>
      have hs : d.placement.shadowed env = false := by rw [hplace]; exact halways
      have hmerges := h hs
      rw [hplace] at hmerges
      simp only at hmerges
      obtain ⟨n, hn⟩ : ∃ n, d.bytes.length = n + 1 :=
        Nat.exists_eq_add_one.mpr (List.length_pos_iff.mpr hd)
      have hfirst := hmerges.first
      rw [hn, pageParts, if_neg n.succ_ne_zero] at hfirst
      have hne : Int32.ofNat (frame 0) ≠ -1 := hfirst _ rfl
      simpa [startsRun, prevPfn] using hne
  · trivial

theorem describe_size {env : Env} {d : Data} {b b' : Builder} (hb : b.curDesc ≤ b.descs.length)
    (h : b.describe env d = .ok b') : b'.descs.length = b.descs.length := by
  unfold Builder.describe at h
  split at h
  · cases h
    exact List.length_set
  · next offset frame _ _ =>
      rw [vmallocLoop_eq_addParts] at h
      exact (addParts_describing (pageParts_pos offset.isLt) hb h).size
  · simp only at h
    split at h
    · cases h
    · cases h
      exact List.length_set

/-- The pool has as many descriptors as before. -/
theorem addData_size {env : Env} {d : Data} {b b' : Builder} (h : b.addData env d = .ok b') :
    b'.descs.length = b.descs.length := by
  by_cases hd : d.bytes = []
  · rw [addData_nil hd] at h
    cases h
    rfl
  · obtain ⟨hroom, b₁, hdescribe, rfl⟩ := addData_finish hd h
    exact (List.length_modify _ _ _).trans (describe_size hroom.le hdescribe)

/-- The ranges of an entry depend on its own descriptors only. -/
theorem ranges_eq_of_take_eq {ds ds' : List Desc} {n : Nat} (hlen : ds'.length = ds.length)
    (htake : ds'.take n = ds.take n) (h : (ranges ds).length ≤ n) : ranges ds' = ranges ds := by
  induction ds generalizing ds' n with
  | nil => rw [List.eq_nil_of_length_eq_zero hlen]
  | cons d ds ih =>
      obtain ⟨d', ds', rfl⟩ := List.exists_cons_of_length_eq_add_one hlen
      cases n with
      | zero => exact absurd h (by simp [ranges])
      | succ n =>
          rw [List.take_succ_cons, List.take_succ_cons] at htake
          obtain ⟨rfl, htail⟩ := List.cons.inj htake
          rw [ranges, ranges]
          rw [ranges, List.length_cons, Nat.add_le_add_iff_right] at h
          cases hlast : d'.last with
          | true => rfl
          | false =>
              rw [hlast] at h
              simp only [Bool.false_eq_true, if_false] at h ⊢
              rw [ih (Nat.succ.inj hlen) htail h]

/-- An entry that is complete denotes what it did, whatever descriptors are used
then. -/
theorem Builder.memory_eq_of_take_eq {b b' : Builder} {i : Nat}
    (hlen : b'.descs.length = b.descs.length)
    (htake : b'.descs.take b.curDesc = b.descs.take b.curDesc)
    (h : i + (b.memory i).length ≤ b.curDesc) : b'.memory i = b.memory i := by
  have hdrop := congrArg (List.drop i) htake
  rw [List.drop_take, List.drop_take] at hdrop
  have hlen' : (b'.descs.drop i).length = (b.descs.drop i).length := by
    rw [List.length_drop, List.length_drop, hlen]
  exact ranges_eq_of_take_eq hlen' hdrop (by rw [← Builder.memory]; omega)

/-! ### The device reads what was added -/

/-- Nothing that is written from now on goes to the address: it is not in the
shadow buffer, or in the part that is in use. -/
def Builder.Settled (env : Env) (b : Builder) (a : Nat) : Prop :=
  a ∉ env.shadowPhys ∨ a < env.shadowBuffer + b.shadowBufferPos

/-- Every entry keeps to descriptors and memory that stay, and memory holds its
bytes. Outside of the shadow buffer memory is what it was. -/
structure BackedBuilder.Sound (env : Env) (memory : Nat → UInt8) (s : BackedBuilder) : Prop where
  room : s.builder.curDesc ≤ s.builder.descs.length
  pos : s.builder.shadowBufferPos ≤ shadowBufSize
  inside : ∀ sg ∈ s.builder.sgs,
    sg.desc + (s.builder.memory sg.desc).length ≤ s.builder.curDesc
  settled : ∀ sg ∈ s.builder.sgs, ∀ a ∈ s.builder.addresses sg, s.builder.Settled env a
  reads : ∀ sg ∈ s.builder.sgs, (s.builder.addresses sg).map s.memory = sg.data
  outside : ∀ a ∉ env.shadowPhys, s.memory a = memory a

/-- The structures are in memory where they are placed, outside of the shadow
buffer. -/
structure InMemory (env : Env) (ds : List Data) (memory : Nat → UInt8) : Prop where
  lies : ∀ d ∈ ds, d.LiesIn memory
  apart : ∀ d ∈ ds, ∀ a ∈ d.phys, a ∉ env.shadowPhys

instance (env : Env) (ds : List Data) (memory : Nat → UInt8) :
    Decidable (InMemory env ds memory) :=
  decidable_of_iff ((∀ d ∈ ds, d.LiesIn memory) ∧
      ∀ d ∈ ds, ∀ i : Fin d.bytes.length, ∀ a ∈ d.placement.byteAt i,
        ¬ (env.shadowBuffer ≤ a ∧ a < env.shadowBuffer + shadowBufSize))
    ⟨fun h => ⟨h.1, fun d hd a ⟨i, hi, ha⟩ => h.2 d hd ⟨i, hi⟩ a ha⟩,
      fun h => ⟨h.lies, fun d hd i a ha => h.apart d hd a ⟨i, i.isLt, ha⟩⟩⟩

/-- The next write does not reach a settled address. -/
theorem Builder.Settled.store_eq {env : Env} {b : Builder} {a : Nat} (h : b.Settled env a)
    {bytes : List UInt8} (hfits : b.shadowBufferPos + bytes.length ≤ shadowBufSize)
    (memory : Nat → UInt8) :
    store memory (env.shadowBuffer + b.shadowBufferPos) bytes a = memory a := by
  refine store_frame ?_
  rcases h with hout | hin
  · by_contra hnot
    exact hout ⟨by omega, by omega⟩
  · exact .inl hin

/-- Adding data leaves the byte at a settled address, and the address settled. -/
theorem Builder.Settled.addData {env : Env} {b b' : Builder} {d : Data} {a : Nat}
    (h : b.Settled env a) (hstages : Stages env d b b') (memory : Nat → UInt8) :
    d.memcpy env b.shadowBufferPos memory a = memory a ∧ b'.Settled env a := by
  constructor
  · by_cases hs : d.placement.shadowed env = true
    · rw [Data.memcpy_of_shadowed hs]
      exact h.store_eq (hstages.copy hs).1 memory
    · rw [Data.memcpy_in_place (Bool.eq_false_of_not_eq_true hs)]
  · refine h.imp_right fun hin => ?_
    rw [hstages.pos]
    omega

namespace BackedBuilder.Sound

variable {env : Env} {memory : Nat → UInt8} {s : BackedBuilder}

/-- With every entry sound, the device reads what was added. -/
theorem received_eq (h : s.Sound env memory) : s.received = s.builder.bytes := by
  unfold BackedBuilder.received Builder.bytes
  exact List.flatMap_congr fun sg hsg => h.reads sg hsg

/-- A write behind the part of the shadow buffer that is in use. -/
theorem store (h : s.Sound env memory) {bytes : List UInt8}
    (hfits : s.builder.shadowBufferPos + bytes.length ≤ shadowBufSize) :
    BackedBuilder.Sound env memory
      ⟨{ s.builder with shadowBufferPos := s.builder.shadowBufferPos + bytes.length },
        Driver.store s.memory (env.shadowBuffer + s.builder.shadowBufferPos) bytes⟩ where
  room := h.room
  pos := hfits
  inside := h.inside
  settled := fun sg hsg a ha => (h.settled sg hsg a ha).imp_right fun hin => by
    simp only
    omega
  reads := by
    intro sg hsg
    refine Eq.trans (List.map_congr_left fun a ha => ?_) (h.reads sg hsg)
    exact (h.settled sg hsg a ha).store_eq hfits s.memory
  outside := fun a ha => by
    rw [← h.outside a ha]
    exact Builder.Settled.store_eq (.inl ha) hfits s.memory

/-- Describable data that lies in memory where nothing is written any more. -/
theorem addData (h : s.Sound env memory) {d : Data} {b' : Builder} (hd : d.Describable env)
    (hlies : d.LiesIn s.memory) (hplace : ∀ a ∈ d.phys, s.builder.Settled env a)
    (hadd : s.builder.addData env d = .ok b') :
    BackedBuilder.Sound env memory ⟨b', d.memcpy env s.builder.shadowBufferPos s.memory⟩ := by
  by_cases hne : d.bytes = []
  · have hmemory : d.memcpy env s.builder.shadowBufferPos s.memory = s.memory := by
      funext a
      simp [Data.memcpy, hne]
    rw [addData_nil hne] at hadd
    cases hadd
    rw [hmemory]
    exact h
  · obtain ⟨-, hdenotes, hcopied⟩ := addData_denotes env s.builder b' d hadd
    have hden := (hdenotes hne).mpr hd
    have hstages := addData_stages hne (hd.startsFresh hne) hadd
    have hsize := addData_size hadd
    have hfits : b'.shadowBufferPos ≤ shadowBufSize := by
      rw [hstages.pos, Data.shadowLength]
      split
      · next hs => exact (hstages.copy hs).1
      · exact h.pos
    have hkeeps {a : Nat} (ha : s.builder.Settled env a) := ha.addData hstages s.memory
    have hsame (sg : Sg) (hsg : sg ∈ s.builder.sgs) :
        b'.memory sg.desc = s.builder.memory sg.desc :=
      Builder.memory_eq_of_take_eq hsize hden.kept (h.inside sg hsg)
    have haddrs (sg : Sg) (hsg : sg ∈ s.builder.sgs) :
        b'.addresses sg = s.builder.addresses sg := by
      rw [Builder.addresses, hsame sg hsg, Builder.addresses]
    have hnew : b'.addresses ⟨s.builder.curDesc, d.bytes⟩ =
        d.addresses env s.builder.shadowBufferPos := hden.bytes
    -- an entry is an old one or that of the data
    have hcases {P : Sg → Prop} (hold : ∀ sg ∈ s.builder.sgs, P sg)
        (hlast : P ⟨s.builder.curDesc, d.bytes⟩) : ∀ sg ∈ b'.sgs, P sg := by
      rw [hden.entry]
      exact List.forall_mem_append.mpr ⟨hold, List.forall_mem_singleton.mpr hlast⟩
    refine ⟨hden.inside.2, hfits, hcases (fun sg hsg => ?_) hden.used.le, ?_, ?_, fun a ha => ?_⟩
    · simp only [hsame sg hsg]
      exact (h.inside sg hsg).trans hden.inside.1.le
    · refine hcases (fun sg hsg a ha => ?_) fun a ha => ?_
      · simp only [haddrs sg hsg] at ha
        exact (hkeeps (h.settled sg hsg a ha)).2
      · simp only [hnew] at ha
        have ha := Data.mem_addresses ha
        split at ha
        · next hs =>
            refine .inr ?_
            simp only [hstages.pos, Data.shadowLength, if_pos hs]
            omega
        · exact (hkeeps (hplace a ha)).2
    · refine hcases (fun sg hsg => ?_) ?_
      · simp only [haddrs sg hsg]
        rw [← h.reads sg hsg]
        exact List.map_congr_left fun a ha => (hkeeps (h.settled sg hsg a ha)).1
      · simp only [hnew]
        exact hcopied s.memory hlies
    · exact (hkeeps (.inl ha)).1.trans (h.outside a ha)

/-- By induction on the structures. -/
theorem addAll (h : s.Sound env memory) {ds : List Data} {b' : Builder}
    (hds : ∀ d ∈ ds, d.Describable env) (hin : InMemory env ds memory)
    (hadd : s.builder.addAll env ds = .ok b') :
    ∃ s', s.addAll env ds = .ok s' ∧ s'.builder = b' ∧ s'.Sound env memory := by
  induction ds generalizing s with
  | nil =>
      cases hadd
      exact ⟨s, rfl, rfl, h⟩
  | cons d ds ih =>
      obtain ⟨b₁, hfirst, hrest⟩ := bind_eq_ok.mp hadd
      have hapart := hin.apart d List.mem_cons_self
      have hlies : d.LiesIn s.memory := by
        intro i a ha hi
        rw [h.outside a (hapart a ⟨i, hi, ha⟩)]
        exact hin.lies d List.mem_cons_self i a ha hi
      have hsound := h.addData (hds d List.mem_cons_self) hlies
        (fun a ha => .inl (hapart a ha)) hfirst
      obtain ⟨s', hs', hb', hsound'⟩ := ih hsound (fun d hd => hds d (.tail _ hd))
        ⟨fun d hd => hin.lies d (.tail _ hd), fun d hd => hin.apart d (.tail _ hd)⟩ hrest
      refine ⟨s', ?_, hb', hsound'⟩
      rw [BackedBuilder.addAll, BackedBuilder.addData, hfirst]
      exact hs'

/-- An SG list is in the shadow buffer, so it is never too long to be described. -/
theorem addUserptr (h : s.Sound env memory) {entries : Except Int (List SgEntry)} {b' : Builder}
    (hadd : s.builder.addUserptr env entries = .ok b') :
    ∃ s', s.addUserptr env entries = .ok s' ∧ s'.builder = b' ∧ s'.Sound env memory := by
  obtain ⟨entries, rfl, hput⟩ := bind_eq_ok.mp hadd
  split at hput
  · cases hput
  · next hroom =>
      have hlen := sgEntry.length_flatMap_enc entries
      have hfits : s.builder.shadowBufferPos + (entries.flatMap sgEntry.enc).length ≤
          shadowBufSize := by
        rw [hlen]
        exact Nat.le_of_not_lt hroom
      have hstored := h.store hfits
      simp only [hlen] at hstored
      have hdescribable : Data.Describable env ⟨entries.flatMap sgEntry.enc,
          .at (env.shadowBuffer + s.builder.shadowBufferPos)⟩ := by
        intro _
        simp only [Placement.at]
        simp only [shadowBufSize] at hfits
        omega
      have hsettled : ∀ a ∈ Data.phys ⟨entries.flatMap sgEntry.enc,
          .at (env.shadowBuffer + s.builder.shadowBufferPos)⟩, Builder.Settled env
          { s.builder with
            shadowBufferPos := s.builder.shadowBufferPos + sgEntry.size * entries.length } a := by
        rintro a ⟨i, hi, ha⟩
        rw [byteAt_at] at ha
        cases ha
        refine .inr ?_
        simp only at hi ⊢
        omega
      have hsound := hstored.addData hdescribable (store_liesIn _ _ _) hsettled hput
      refine ⟨_, ?_, rfl, hsound⟩
      rw [BackedBuilder.addUserptr, Except.bind]
      simp only [if_neg hroom, BackedBuilder.addData, hput]
      rfl

/-- By induction on the pointers. -/
theorem addUserptrs (h : s.Sound env memory)
    {userptr : UInt64 → UInt32 → Except Int (List SgEntry)} {ptrs : List (UInt64 × UInt32)}
    {b' : Builder} (hadd : s.builder.addUserptrs env userptr ptrs = .ok b') :
    ∃ s', s.addUserptrs env userptr ptrs = .ok s' ∧ s'.builder = b' ∧ s'.Sound env memory := by
  induction ptrs generalizing s with
  | nil =>
      cases hadd
      exact ⟨s, rfl, rfl, h⟩
  | cons p ptrs ih =>
      rw [Builder.addUserptrs] at hadd
      rw [BackedBuilder.addUserptrs]
      split at hadd
      · next hz =>
          rw [if_pos hz]
          exact ih h hadd
      · next hz =>
          rw [if_neg hz]
          obtain ⟨b₁, hfirst, hrest⟩ := bind_eq_ok.mp hadd
          obtain ⟨s₁, hs₁, rfl, hsound⟩ := h.addUserptr hfirst
          obtain ⟨s', hs', hb', hsound'⟩ := ih hsound hrest
          refine ⟨s', ?_, hb', hsound'⟩
          rw [hs₁]
          exact hs'

end BackedBuilder.Sound

theorem BackedBuilder.Sound.init (env : Env) (pool : List Desc) (memory : Nat → UInt8) :
    BackedBuilder.Sound env memory ⟨.init pool, memory⟩ where
  room := Nat.zero_le _
  pos := Nat.zero_le _
  inside := by simp [Builder.init]
  settled := by simp [Builder.init]
  reads := by simp [Builder.init]
  outside := fun _ _ => rfl

/-- The command lies in the 1:1 mapping. -/
theorem describable_cmd (env : Env) (session : SessionData) : session.cmdData.Describable env := by
  intro _
  simp [SessionData.cmdData, Placement.at]

/-- The device reads the command, the payload and the SG lists as they were
added, if every structure of the payload is describable. -/
theorem Built.received {env : Env} {session : SessionData}
    {userptr : UInt64 → UInt32 → Except Int (List SgEntry)} {pool : List Desc} {ds : List Data}
    {ptrs : List (UInt64 × UInt32)} {c : CommandChain} {start body : Builder}
    {memory : Nat → UInt8} (h : Built env session userptr pool ds ptrs c start body)
    (hds : ∀ d ∈ ds, d.Describable env) (hin : InMemory env (session.cmdData :: ds) memory) :
    ∃ s, BackedBuilder.build env session userptr pool ds ptrs memory = .ok s ∧
      s.builder = c.builder ∧ s.received = c.builder.bytes := by
  have hall : (Builder.init pool).addAll env (session.cmdData :: ds) = .ok body :=
    bind_eq_ok.mpr ⟨start, h.cmd, h.payload⟩
  obtain ⟨s₁, hs₁, rfl, hsound⟩ := (BackedBuilder.Sound.init env pool memory).addAll
    (List.forall_mem_cons.mpr ⟨describable_cmd env session, hds⟩) hin hall
  obtain ⟨s, hs, hb, hsound⟩ := hsound.addUserptrs h.userptrs
  refine ⟨s, bind_eq_ok.mpr ⟨s₁, hs₁, hs⟩, hb, ?_⟩
  rw [hsound.received_eq, hb]

/-- Every structure that is added, one after the other, gets an entry that denotes
it. -/
def DenotesAll (env : Env) : Builder → List Data → Prop
  | _, [] => True
  | b, d :: ds => ∀ b', b.addData env d = .ok b' →
    (d.bytes ≠ [] → Denotes env d b b') ∧ DenotesAll env b' ds

theorem describable_nil {env : Env} {d : Data} (hd : d.bytes = []) : d.Describable env := by
  intro _
  rw [hd]
  cases d.placement with
  | direct pfn offset => simp
  | vmalloc offset frame =>
      exact ⟨by simp [pageParts], .nil, fun run hrun _ => by simp_all [pageParts]⟩
  | other => trivial

/-- The entries denote their structures exactly if these are describable. -/
theorem denotesAll_iff {env : Env} {ds : List Data} {b b' : Builder}
    (h : b.addAll env ds = .ok b') :
    DenotesAll env b ds ↔ ∀ d ∈ ds, d.Describable env := by
  induction ds generalizing b with
  | nil => exact iff_of_true trivial (by simp)
  | cons d ds ih =>
      obtain ⟨b₁, hfirst, hrest⟩ := bind_eq_ok.mp h
      have hdenotes := (addData_denotes env b b₁ d hfirst).2.1
      have hone : (d.bytes ≠ [] → Denotes env d b b₁) ↔ d.Describable env := by
        by_cases hd : d.bytes = []
        · exact iff_of_true (fun hne => absurd hd hne) (describable_nil hd)
        · rw [forall_prop_of_true hd]
          exact hdenotes hd
      rw [DenotesAll, hfirst, List.forall_mem_cons, ← hone, ← ih hrest]
      constructor
      · intro hall
        exact hall b₁ rfl
      · rintro hall b₂ hb₂
        cases hb₂
        exact hall

end VirtioMedia.Driver
