import VirtioMedia.Device.Chain
import VirtioMedia.Driver.ChainMemory

/-!
# The device reads what the driver has sent

The driver appends the SG lists of user memory to a buffer or to extended
controls without saying how many there are or how long they are: the device
decides both from the lengths in the structures before them. The two halves meet
at `SgLists`, one list for every pointer with a non-zero length. The first half
shows that the driver adds such lists, the second that the device reads them
back. In between is the memory that the chain refers to: what the device gets is
what was added if every structure is describable.
-/

namespace VirtioMedia

open V4l2 Wire Driver Device Fallible

/-- The result of looking up user memory: an SG table, or an error. -/
abbrev UserMemory := UInt64 → UInt32 → Except Int (List SgEntry)

/-- `sg_alloc_table_from_pages`: the entries are not empty, and their lengths
add up to the length that was asked for. -/
def SgTables (userptr : UserMemory) : Prop :=
  ∀ ptr length entries, userptr ptr length = .ok entries →
    (∀ e ∈ entries, e.len ≠ 0) ∧ (entries.map (·.len.toNat)).sum = length.toNat

/-- One SG list for every pointer with a non-zero length, in order. -/
def SgLists (userptr : UserMemory) (ptrs : List (UInt64 × UInt32))
    (lists : List (List SgEntry)) : Prop :=
  (ptrs.filter (·.2 ≠ 0)).map (fun p => userptr p.1 p.2) = lists.map .ok

/-- The bytes of SG lists. -/
def encLists (lists : List (List SgEntry)) : List UInt8 :=
  lists.flatMap (·.flatMap sgEntry.enc)

theorem sgLists_skip {userptr : UserMemory} {p : UInt64 × UInt32} (h : p.2 = 0)
    (ptrs : List (UInt64 × UInt32)) (lists : List (List SgEntry)) :
    SgLists userptr (p :: ptrs) lists ↔ SgLists userptr ptrs lists := by
  rw [SgLists, SgLists, List.filter_cons_of_neg (by simp [h])]

theorem sgLists_cons {userptr : UserMemory} {p : UInt64 × UInt32} (h : p.2 ≠ 0)
    (ptrs : List (UInt64 × UInt32)) (lists : List (List SgEntry)) :
    SgLists userptr (p :: ptrs) lists ↔
      ∃ entries rest, lists = entries :: rest ∧ userptr p.1 p.2 = .ok entries ∧
        SgLists userptr ptrs rest := by
  rw [SgLists, List.filter_cons_of_pos (by simp [h]), List.map_cons]
  constructor
  · intro heq
    obtain ⟨entries, rest, rfl, hentries, hrest⟩ := List.map_eq_cons_iff.mp heq.symm
    exact ⟨entries, rest, rfl, hentries.symm, hrest.symm⟩
  · rintro ⟨entries, rest, rfl, hentries, hrest⟩
    rw [List.map_cons, hentries, hrest]

/-! ### The driver -/

section Sent

variable {env : Env} {session : SessionData} {userptr : UserMemory} {pool : List Desc}

/-- The bytes of data come behind those that were added. -/
theorem addData_bytes {d : Data} {b b' : Builder} (h : b.addData env d = .ok b') :
    b'.bytes = b.bytes ++ d.bytes := by
  by_cases hd : d.bytes = []
  · rw [addData_nil hd] at h
    cases h
    rw [hd, List.append_nil]
  · obtain ⟨b₁, -, rfl⟩ := addData_fills hd h
    simp [Builder.bytes]

/-- By induction on the structures. -/
theorem addAll_bytes {ds : List Data} {b b' : Builder} (h : b.addAll env ds = .ok b') :
    b'.bytes = b.bytes ++ ds.flatMap (·.bytes) := by
  induction ds generalizing b with
  | nil =>
      cases h
      simp
  | cons d ds ih =>
      obtain ⟨b₁, hadd, h⟩ := bind_eq_ok.mp h
      rw [ih h, addData_bytes hadd, List.flatMap_cons, List.append_assoc]

theorem addUserptr_bytes {b b' : Builder} {entries : Except Int (List SgEntry)}
    (h : b.addUserptr env entries = .ok b') :
    ∃ list, entries = .ok list ∧ b'.bytes = b.bytes ++ list.flatMap sgEntry.enc := by
  obtain ⟨list, hlist, h⟩ := bind_eq_ok.mp h
  refine ⟨list, hlist, ?_⟩
  split at h
  · cases h
  · exact addData_bytes h

/-- The lists come behind what was added, one for each pointer with a length. -/
theorem addUserptrs_bytes {ptrs : List (UInt64 × UInt32)} {b b' : Builder}
    (h : b.addUserptrs env userptr ptrs = .ok b') :
    ∃ lists, SgLists userptr ptrs lists ∧ b'.bytes = b.bytes ++ encLists lists := by
  induction ptrs generalizing b with
  | nil =>
      cases h
      exact ⟨[], rfl, (List.append_nil _).symm⟩
  | cons p ptrs ih =>
      rw [Builder.addUserptrs] at h
      by_cases hz : p.2 = 0
      · rw [if_pos hz] at h
        obtain ⟨lists, hlists, hbytes⟩ := ih h
        exact ⟨lists, (sgLists_skip hz ptrs lists).mpr hlists, hbytes⟩
      · rw [if_neg hz] at h
        obtain ⟨b₁, hadd, h⟩ := bind_eq_ok.mp h
        obtain ⟨list, hlist, hbytes₁⟩ := addUserptr_bytes hadd
        obtain ⟨lists, hlists, hbytes⟩ := ih h
        refine ⟨list :: lists, (sgLists_cons hz ptrs _).mpr ⟨list, lists, rfl, hlist, hlists⟩, ?_⟩
        rw [hbytes, hbytes₁, List.append_assoc]
        rfl

/-- The command, the payload, and an SG list for every non-zero length. -/
theorem built_bytes {ds : List Data} {ptrs : List (UInt64 × UInt32)} {c : CommandChain}
    {start body : Builder} (h : Built env session userptr pool ds ptrs c start body) :
    ∃ lists, SgLists userptr ptrs lists ∧
      c.builder.bytes.drop 16 = ds.flatMap (·.bytes) ++ encLists lists := by
  obtain ⟨lists, hlists, hbytes⟩ := addUserptrs_bytes h.userptrs
  refine ⟨lists, hlists, ?_⟩
  have hinit : (Builder.init pool).bytes = [] := rfl
  rw [hbytes, addAll_bytes h.payload, addData_bytes h.cmd, hinit, List.nil_append,
    List.append_assoc]
  exact List.drop_left' session.cmd.length_toList

end Sent

/-! ### The device -/

section Received

variable {userptr : UserMemory}

/-- The loop stops at the end of a list whose lengths add up. -/
theorem userptrLoop_enc {entries : List SgEntry} (hne : ∀ e ∈ entries, e.len ≠ 0)
    {size taken fuel : Nat} (hsum : taken + (entries.map (·.len.toNat)).sum = size)
    (rest : List UInt8) (hfuel : (entries.flatMap sgEntry.enc ++ rest).length ≤ fuel) :
    userptrLoop size fuel taken (entries.flatMap sgEntry.enc ++ rest) = some (entries, rest) := by
  induction entries generalizing taken fuel with
  | nil =>
      have hfull : ¬taken < size := by
        simp only [List.map_nil, List.sum_nil] at hsum
        omega
      rw [userptrLoop.eq_def]
      simp only [if_neg hfull]
      rfl
  | cons e entries ih =>
      have hpos : 0 < e.len.toNat :=
        Nat.pos_of_ne_zero fun hz => hne e List.mem_cons_self (UInt32.toNat_inj.mp hz)
      rw [List.map_cons, List.sum_cons] at hsum
      rw [List.flatMap_cons, List.append_assoc] at hfuel ⊢
      cases fuel with
      | zero =>
          rw [List.length_append, sgEntry.length_enc] at hfuel
          exact absurd hfuel (by simp [show sgEntry.size = 16 from rfl])
      | succ fuel =>
          have hfuel' : (entries.flatMap sgEntry.enc ++ rest).length ≤ fuel := by
            rw [List.length_append, sgEntry.length_enc] at hfuel
            have : sgEntry.size = 16 := rfl
            omega
          rw [userptrLoop, if_pos (by omega)]
          simp only [Codec.read_enc_append, Option.bind_some]
          rw [ih (fun e he => hne e (.tail _ he)) (by omega) hfuel']
          rfl

/-- The reader finds the end of every list by its length. -/
theorem readRegions_encLists (hsg : SgTables userptr) {ptrs : List (UInt64 × UInt32)}
    {lists : List (List SgEntry)} (h : SgLists userptr ptrs lists) (rest : List UInt8) :
    readRegions (ptrs.map (·.2)) (encLists lists ++ rest) = some (lists, rest) := by
  induction ptrs generalizing lists with
  | nil =>
      obtain rfl : lists = [] := List.map_eq_nil_iff.mp h.symm
      rfl
  | cons p ptrs ih =>
      rw [List.map_cons, readRegions]
      by_cases hz : p.2 = 0
      · rw [if_pos hz, ih ((sgLists_skip hz ptrs lists).mp h)]
      · obtain ⟨entries, lists, rfl, hentries, hlists⟩ := (sgLists_cons hz ptrs lists).mp h
        obtain ⟨hne, hsum⟩ := hsg _ _ _ hentries
        rw [if_neg hz, encLists, List.flatMap_cons, List.append_assoc, getUserptrRegions,
          userptrLoop_enc hne (by rw [Nat.zero_add, hsum]) _ le_rfl, Option.bind_some]
        have hrest := ih hlists
        rw [encLists] at hrest
        simp only [hrest]
        rfl

end Received

/-! ### Both -/

/-- The planes that `v4l2r` gets to see. -/
def passedPlanes (arg : BufferArg) : Option (List V4l2Plane) :=
  if arg.isMultiplanar = true ∧ arg.buffer.length ≠ 0 then some arg.planes else none

/-- A buffer whose planes are within the limit, in a queue that exists. -/
structure WellFormed (arg : BufferArg) : Prop where
  queue : (QueueType.n arg.buffer.type).isSome
  planes : arg.isMultiplanar = true → arg.buffer.length.toNat ≤ videoMaxPlanes

theorem planes_eq_nil {arg : BufferArg} (hm : arg.isMultiplanar = true)
    (hz : arg.buffer.length = 0) : arg.planes = [] := by
  have hlen := arg.count hm
  rw [hz] at hlen
  exact List.eq_nil_of_length_eq_zero hlen

theorem passedPlanes_getD (arg : BufferArg) : (passedPlanes arg).getD [] = arg.sentPlanes := by
  unfold passedPlanes BufferArg.sentPlanes
  by_cases hm : arg.isMultiplanar = true
  · by_cases hz : arg.buffer.length = 0
    · rw [if_neg (by simp [hz]), if_pos hm, planes_eq_nil hm hz]
      rfl
    · rw [if_pos ⟨hm, hz⟩, if_pos hm]
      rfl
  · rw [if_neg (by simp [hm]), if_neg hm]
    rfl

/-- The reader takes as many planes as the driver has sent. -/
theorem readPlanes_enc {arg : BufferArg} {queue : QueueType} (h : WellFormed arg)
    (hq : QueueType.n arg.buffer.type = some queue) (rest : List UInt8) :
    readPlanes queue arg.buffer (arg.sentPlanes.flatMap v4l2Plane.enc ++ rest) =
      some (passedPlanes arg, rest) := by
  have hqm : queue.isMultiplanar = arg.isMultiplanar := QueueType.isMultiplanar_of_n hq
  rw [readPlanes, passedPlanes, hqm]
  by_cases hm : arg.isMultiplanar = true
  · rw [BufferArg.sentPlanes, if_pos hm]
    by_cases hz : arg.buffer.length = 0
    · have hnone : ¬(arg.isMultiplanar = true ∧ arg.buffer.length ≠ 0) := fun h => h.2 hz
      rw [if_neg hnone, if_neg hnone, planes_eq_nil hm hz]
      rfl
    · have hsome : arg.isMultiplanar = true ∧ arg.buffer.length ≠ 0 := ⟨hm, hz⟩
      rw [if_pos hsome, if_pos hsome, if_pos (h.planes hm), ← arg.count hm,
        Codec.readMany_flatMap_enc_append]
      rfl
  · have hnone : ¬(arg.isMultiplanar = true ∧ arg.buffer.length ≠ 0) := fun h => hm h.1
    rw [if_neg hnone, if_neg hnone, BufferArg.sentPlanes, if_neg hm]
    rfl

/-- The lengths by which the device reads are those by which the driver sends. -/
theorem userptrLengths_eq (arg : BufferArg) :
    (⟨arg.buffer, arg.sentPlanes⟩ : DeviceBuffer).userptrLengths = arg.userptrs.map (·.2) := by
  unfold DeviceBuffer.userptrLengths BufferArg.userptrs
  by_cases hmem : arg.buffer.memory ≠ memoryUserptr
  · rw [if_pos hmem, if_pos hmem]
    rfl
  · rw [if_neg hmem, if_neg hmem]
    by_cases hm : arg.isMultiplanar = true
    · have hm' : (⟨arg.buffer, arg.sentPlanes⟩ : DeviceBuffer).isMultiplanar = true := hm
      rw [if_pos hm, if_pos hm', BufferArg.sentPlanes, if_pos hm, List.map_map]
      rfl
    · have hm' : ¬(⟨arg.buffer, arg.sentPlanes⟩ : DeviceBuffer).isMultiplanar = true := hm
      rw [if_neg hm, if_neg hm']
      rfl

/-- The reader inverts the payload of a buffer. -/
theorem readBuffer_enc {V : V4l2rChecks} {userptr : UserMemory} {arg : BufferArg}
    {lists : List (List SgEntry)} (hsg : SgTables userptr) (hw : WellFormed arg)
    (hV : V.buffer arg.buffer (passedPlanes arg) = true)
    (h : SgLists userptr arg.userptrs lists) :
    readBuffer V (v4l2Buffer.enc arg.buffer ++
        (arg.sentPlanes.flatMap v4l2Plane.enc ++ encLists lists)) =
      some ((⟨arg.buffer, arg.sentPlanes⟩, lists), []) := by
  obtain ⟨queue, hq⟩ := Option.isSome_iff_exists.mp hw.queue
  have hregions := readRegions_encLists hsg h []
  rw [List.append_nil] at hregions
  simp only [readBuffer, Codec.read_enc_append, Option.bind_some, hq, readPlanes_enc hw hq, hV,
    if_true, passedPlanes_getD, userptrLengths_eq, hregions, Option.map_some]

/-- The reader inverts the payload of extended controls. -/
theorem readExtControls_enc {userptr : UserMemory} {arg : ExtCtrlsArg}
    {lists : List (List SgEntry)} (hsg : SgTables userptr)
    (h : SgLists userptr (arg.array.map fun c => (c.value, c.size)) lists) :
    readExtControls (extControls.enc arg.ctrls ++
        (arg.array.flatMap extControl.enc ++ encLists lists)) =
      some ((arg.ctrls, arg.array, lists), []) := by
  have hregions := readRegions_encLists hsg h []
  rw [List.append_nil, List.map_map] at hregions
  have hsizes : arg.array.map ((·.2) ∘ fun c => (c.value, c.size)) = arg.array.map (·.size) := rfl
  rw [hsizes] at hregions
  simp only [readExtControls, Codec.read_enc_append, Option.bind_some, ← arg.count,
    Codec.readMany_flatMap_enc_append, hregions, Option.map_some]

/-- The fixups change the buffer itself only in the length of a single plane. -/
theorem fixup_buffer (arg : BufferArg) :
    arg.fixup.buffer = arg.buffer ∨
      arg.isMultiplanar ≠ true ∧ arg.fixup.buffer = { arg.buffer with length := 0 } := by
  unfold BufferArg.fixup
  split
  · exact .inl rfl
  · split
    · exact .inl rfl
    · next hm =>
        split
        · exact .inr ⟨hm, rfl⟩
        · exact .inl rfl

/-- The fixups leave the type and the number of planes. -/
theorem WellFormed.fixup {arg : BufferArg} (h : WellFormed arg) : WellFormed arg.fixup := by
  rcases fixup_buffer arg with heq | ⟨hm, heq⟩
  · exact ⟨heq ▸ h.queue, fun hm => heq ▸ h.planes (by rwa [BufferArg.isMultiplanar, heq] at hm)⟩
  · refine ⟨heq ▸ h.queue, fun hm' => absurd ?_ hm⟩
    rwa [BufferArg.isMultiplanar, heq] at hm'

/-- The driver succeeds with a payload and the pointers of its SG lists: the
entries of the payload denote their structures exactly if these are describable,
and then the device gets the payload and the lists behind the command. -/
theorem built_received {env : Env} {session : SessionData} {userptr : UserMemory}
    {pool : List Desc} {ds : List Data} {ptrs : List (UInt64 × UInt32)} {c : CommandChain}
    {start body : Builder} {memory : Nat → UInt8}
    (h : Built env session userptr pool ds ptrs c start body)
    (hin : InMemory env (session.cmdData :: ds) memory) :
    (DenotesAll env (.init pool) (session.cmdData :: ds) ↔ ∀ d ∈ ds, d.Describable env) ∧
      ((∀ d ∈ ds, d.Describable env) → ∃ s lists,
        BackedBuilder.build env session userptr pool ds ptrs memory = .ok s ∧
        s.builder = c.builder ∧ SgLists userptr ptrs lists ∧
        s.received.drop 16 = ds.flatMap (·.bytes) ++ encLists lists) := by
  have hall : (Builder.init pool).addAll env (session.cmdData :: ds) = .ok body :=
    bind_eq_ok.mpr ⟨start, h.cmd, h.payload⟩
  refine ⟨?_, fun hds => ?_⟩
  · rw [denotesAll_iff hall, List.forall_mem_cons]
    exact and_iff_right (describable_cmd env session)
  obtain ⟨s, hs, hb, hreceived⟩ := h.received hds hin
  obtain ⟨lists, hlists, hbytes⟩ := built_bytes h
  exact ⟨s, lists, hs, hb, hlists, by rw [hreceived, hbytes]⟩

/-- The entries that the driver adds behind the command denote the structures of
the payload exactly if these are describable. Then what the device reads there is
the buffer after its fixups with its planes, or the extended controls, and the SG
list of every pointer with a non-zero length. Nothing is left over. -/
theorem read_from_chain_inverts_builder (V : V4l2rChecks) (env : Env) (session : SessionData)
    (userptr : UserMemory) (pool : List Desc) (c : CommandChain) (memory : Nat → UInt8)
    (hsg : SgTables userptr) :
    (∀ uuids arg p, arg.buffer.memory = memoryMmap ∨ arg.buffer.memory = memoryUserptr →
      WellFormed arg → V.buffer arg.fixup.buffer (passedPlanes arg.fixup) = true →
      buildBufferCmd env session userptr uuids pool arg p = .ok c →
      InMemory env (session.cmdData :: bufferPayload arg.fixup p uuids) memory →
      (DenotesAll env (.init pool) (session.cmdData :: bufferPayload arg.fixup p uuids) ↔
        ∀ d ∈ bufferPayload arg.fixup p uuids, d.Describable env) ∧
      ((∀ d ∈ bufferPayload arg.fixup p uuids, d.Describable env) → ∃ s lists,
        BackedBuilder.build env session userptr pool (bufferPayload arg.fixup p uuids)
          arg.fixup.userptrs memory = .ok s ∧ s.builder = c.builder ∧
        SgLists userptr arg.fixup.userptrs lists ∧
        readBuffer V (s.received.drop 16) =
          some ((⟨arg.fixup.buffer, arg.fixup.sentPlanes⟩, lists), []))) ∧
    (∀ arg p, buildExtCtrlsCmd env session userptr pool arg p = .ok c →
      InMemory env (session.cmdData :: extCtrlsPayload arg p) memory →
      (DenotesAll env (.init pool) (session.cmdData :: extCtrlsPayload arg p) ↔
        ∀ d ∈ extCtrlsPayload arg p, d.Describable env) ∧
      ((∀ d ∈ extCtrlsPayload arg p, d.Describable env) → ∃ s lists,
        BackedBuilder.build env session userptr pool (extCtrlsPayload arg p)
          (arg.array.map fun ctrl => (ctrl.value, ctrl.size)) memory = .ok s ∧
        s.builder = c.builder ∧
        SgLists userptr (arg.array.map fun ctrl => (ctrl.value, ctrl.size)) lists ∧
        readExtControls (s.received.drop 16) = some ((arg.ctrls, arg.array, lists), []))) := by
  constructor
  · intro uuids arg p hmem hw hV h hin
    obtain ⟨start, body, hbuilt⟩ := buildBufferCmd_built h
    obtain ⟨hdenotes, hreceived⟩ := built_received hbuilt hin
    have hdmabuf : arg.fixup.buffer.memory ≠ memoryDmabuf := by
      have hfix : arg.fixup.buffer.memory = arg.buffer.memory := by
        rcases fixup_buffer arg with heq | ⟨-, heq⟩ <;> rw [heq]
      rw [hfix]
      rcases hmem with hmem | hmem <;> rw [hmem] <;> decide
    have hpayload : (bufferPayload arg.fixup p uuids).flatMap (·.bytes) =
        v4l2Buffer.enc arg.fixup.buffer ++ arg.fixup.sentPlanes.flatMap v4l2Plane.enc := by
      simp [bufferPayload, uuidPayload, hdmabuf]
    refine ⟨hdenotes, fun hds => ?_⟩
    obtain ⟨s, lists, hs, hb, hlists, hbytes⟩ := hreceived hds
    refine ⟨s, lists, hs, hb, hlists, ?_⟩
    rw [hbytes, hpayload, List.append_assoc]
    exact readBuffer_enc hsg hw.fixup hV hlists
  · intro arg p h hin
    obtain ⟨start, body, hbuilt⟩ := buildExtCtrlsCmd_built h
    obtain ⟨hdenotes, hreceived⟩ := built_received hbuilt hin
    have hpayload : (extCtrlsPayload arg p).flatMap (·.bytes) =
        extControls.enc arg.ctrls ++ arg.array.flatMap extControl.enc := by
      simp [extCtrlsPayload]
    refine ⟨hdenotes, fun hds => ?_⟩
    obtain ⟨s, lists, hs, hb, hlists, hbytes⟩ := hreceived hds
    refine ⟨s, lists, hs, hb, hlists, ?_⟩
    rw [hbytes, hpayload, List.append_assoc]
    exact readExtControls_enc hsg hlists

/-- User memory of at most two pages, whose first page is followed by another
one in physical memory. -/
def twoPages : UserMemory := fun ptr length =>
  if length = 0 then .error (-einval)
  else if length ≤ 4096 then .ok [⟨ptr, length, 0⟩]
  else .ok [⟨ptr, 4096, 0⟩, ⟨ptr + 0x10000, length - 4096, 0⟩]

theorem add_sub_toNat {n length : UInt32} (h : n < length) :
    length - n ≠ 0 ∧ n.toNat + (length - n).toNat = length.toNat := by
  have hlt := UInt32.lt_iff_toNat_lt.mp h
  have hsub := UInt32.toNat_sub_of_le _ _ (UInt32.le_of_lt h)
  refine ⟨fun heq => ?_, by omega⟩
  rw [heq, UInt32.toNat_zero] at hsub
  omega

theorem sgTables_twoPages : SgTables twoPages := by
  intro ptr length entries h
  unfold twoPages at h
  split at h
  · cases h
  · next hz =>
      split at h
      · cases h
        simpa using hz
      · next hlong =>
          cases h
          obtain ⟨hne, hsum⟩ := add_sub_toNat (UInt32.not_le.mp hlong)
          refine ⟨by simp [hne], ?_⟩
          simpa only [List.map_cons, List.map_nil, List.sum_cons, List.sum_nil, Nat.add_zero]
            using hsum

/-- Three planes: one of two pages, one without memory, and one of 100 bytes. -/
def threePlanes : BufferArg where
  buffer := { (default : V4l2Buffer) with
    type := bufTypeVideoOutputMplane, memory := memoryUserptr, length := 3 }
  planes := [{ (default : V4l2Plane) with m := 0x7000, length := 5000 },
    { (default : V4l2Plane) with length := 7 },
    { (default : V4l2Plane) with m := 0x9000, length := 100 }]
  count := fun _ => rfl

/-- A control with a value, and one with a payload of 20 bytes. -/
def twoControls : ExtCtrlsArg where
  ctrls := { (default : ExtControls) with count := 2 }
  array := [{ (default : ExtControl) with value := 5 },
    { (default : ExtControl) with value := 0x7000, size := 20 }]
  count := rfl

/-- Any buffer is accepted. -/
def acceptBuffers : V4l2rChecks where
  buffer _ _ := true
  eventType _ _ := true
  ctrlWhich _ := true
  memoryConsistency _ := true
  subscribeEventFlags _ := true
  selectionFlags _ := true
  tunerTransmissionFlags _ := true
  tunerMode _ := true
  tunerType _ := true
  audioMode _ := true
  selectionType _ := true
  selectionTarget _ := true
  parseCtrlIdAndFlags id := (id, 0)

/-- Memory with the command at 0x500000, a buffer at the end of one page and the
beginning of another, and its planes in page 300. Everything else is 0xff. -/
def stackMemory (first second : Nat) (arg : BufferArg) : Nat → UInt8 :=
  let buffer := v4l2Buffer.enc arg.buffer
  store (store (store (store (fun _ => 0xff) 0x500000 (.replicate 16 0))
      (first * Driver.pageSize + 4056) (buffer.take 40))
      (second * Driver.pageSize) (buffer.drop 40))
    (300 * Driver.pageSize) (arg.sentPlanes.flatMap v4l2Plane.enc)

/-- The frames of the stack fit an `int`. -/
theorem framesFit_stack {first second : Nat} (h₁ : first < 2 ^ 31) (h₂ : second < 2 ^ 31)
    (bytes : List UInt8) : Data.FramesFit ⟨bytes, (stackPlacement first second).buffer⟩ := by
  intro page _
  simp only
  split <;> assumption

theorem read_from_chain_inverts_builder_planes :
    (∃ s lists, BackedBuilder.build ⟨false, 0x400000⟩
        ⟨.replicate 16 0, 0x500000, .replicate 8 0, 0x500040⟩ twoPages
        (.replicate 128 ⟨0, 0, 0, false⟩)
        (bufferPayload threePlanes.fixup (stackPlacement 100 200) [])
        threePlanes.fixup.userptrs (stackMemory 100 200 threePlanes.fixup) = .ok s ∧
      readBuffer acceptBuffers (s.received.drop 16) =
        some ((⟨threePlanes.fixup.buffer, threePlanes.fixup.sentPlanes⟩, lists), [])) ∧
    ∃ s lists, BackedBuilder.build ⟨false, 0x400000⟩
        ⟨.replicate 16 0, 0x500000, .replicate 8 0, 0x500040⟩ twoPages
        (.replicate 128 ⟨0, 0, 0, false⟩) (extCtrlsPayload twoControls ⟨.other, .other⟩)
        (twoControls.array.map fun ctrl => (ctrl.value, ctrl.size)) (fun _ => 0) = .ok s ∧
      readExtControls (s.received.drop 16) =
        some ((twoControls.ctrls, twoControls.array, lists), []) := by
  constructor
  · obtain ⟨c, h, -⟩ : ∃ c, buildBufferCmd ⟨false, 0x400000⟩
        ⟨.replicate 16 0, 0x500000, .replicate 8 0, 0x500040⟩ twoPages []
        (.replicate 128 ⟨0, 0, 0, false⟩) threePlanes (stackPlacement 100 200) = .ok c ∧
        true = true := exists_ok_of_any (by decide +kernel)
    obtain ⟨-, hread⟩ := (read_from_chain_inverts_builder acceptBuffers _ _ _ _ c
      (stackMemory 100 200 threePlanes.fixup) sgTables_twoPages).1 _ _ _ (.inr rfl)
      ⟨rfl, fun _ => by decide⟩ rfl h (by decide +kernel)
    have hds : ∀ d ∈ bufferPayload threePlanes.fixup (stackPlacement 100 200) [],
        d.Describable ⟨false, 0x400000⟩ := by
      rw [bufferPayload, List.forall_mem_cons, List.forall_mem_cons]
      refine ⟨?_, ?_, by simp [uuidPayload]⟩
      · refine (framesFit_stack (by decide) (by decide) _).describable ?_ _
        rw [Codec.length_enc]
        decide
      · intro _
        change (threePlanes.fixup.sentPlanes.flatMap v4l2Plane.enc).length < 2 ^ 32
        rw [Codec.length_flatMap_enc]
        decide
    obtain ⟨s, lists, hs, -, -, hread⟩ := hread hds
    exact ⟨s, lists, hs, hread⟩
  · obtain ⟨c, h, -⟩ : ∃ c, buildExtCtrlsCmd ⟨false, 0x400000⟩
        ⟨.replicate 16 0, 0x500000, .replicate 8 0, 0x500040⟩ twoPages
        (.replicate 128 ⟨0, 0, 0, false⟩) twoControls ⟨.other, .other⟩ = .ok c ∧
        true = true := exists_ok_of_any (by decide +kernel)
    obtain ⟨-, hread⟩ := (read_from_chain_inverts_builder acceptBuffers _ _ _ _ c (fun _ => 0)
      sgTables_twoPages).2 _ _ h (by decide +kernel)
    obtain ⟨s, lists, hs, -, -, hread⟩ := hread (by simp [extCtrlsPayload, Data.Describable,
      Placement.shadowed])
    exact ⟨s, lists, hs, hread⟩

/-- A buffer of one plane. -/
def singlePlane : BufferArg where
  buffer := { (default : V4l2Buffer) with
    index := 3, type := bufTypeVideoCapture, memory := memoryMmap }
  planes := []
  count := nofun

/-- The buffer lies across two pages, and the frame of the second one has the low
bits of the frame after the first. The device reads the rest of the buffer from
that frame. -/
theorem read_from_chain_inverts_builder_fails_lowBits :
    SgTables twoPages ∧ WellFormed singlePlane ∧
    acceptBuffers.buffer singlePlane.fixup.buffer (passedPlanes singlePlane.fixup) = true ∧
    InMemory ⟨false, 0x400000⟩ (SessionData.cmdData
        ⟨.replicate 16 0, 0x500000, .replicate 8 0, 0x500040⟩ ::
      bufferPayload singlePlane.fixup (stackPlacement 5 0x100000006) [])
      (stackMemory 5 0x100000006 singlePlane.fixup) ∧
    ∃ s, BackedBuilder.build ⟨false, 0x400000⟩
        ⟨.replicate 16 0, 0x500000, .replicate 8 0, 0x500040⟩ twoPages
        (.replicate 128 ⟨0, 0, 0, false⟩)
        (bufferPayload singlePlane.fixup (stackPlacement 5 0x100000006) [])
        singlePlane.fixup.userptrs (stackMemory 5 0x100000006 singlePlane.fixup) = .ok s ∧
      (∃ c, buildBufferCmd ⟨false, 0x400000⟩
        ⟨.replicate 16 0, 0x500000, .replicate 8 0, 0x500040⟩ twoPages []
        (.replicate 128 ⟨0, 0, 0, false⟩) singlePlane (stackPlacement 5 0x100000006) = .ok c ∧
        s.builder = c.builder) ∧
      ∀ lists, readBuffer acceptBuffers (s.received.drop 16) ≠
        some ((⟨singlePlane.fixup.buffer, singlePlane.fixup.sentPlanes⟩, lists), []) := by
  refine ⟨sgTables_twoPages, ⟨rfl, nofun⟩, rfl, by decide +kernel, ?_⟩
  obtain ⟨s, hs, hcheck⟩ : ∃ s, BackedBuilder.build ⟨false, 0x400000⟩
      ⟨.replicate 16 0, 0x500000, .replicate 8 0, 0x500040⟩ twoPages
      (.replicate 128 ⟨0, 0, 0, false⟩)
      (bufferPayload singlePlane.fixup (stackPlacement 5 0x100000006) [])
      singlePlane.fixup.userptrs (stackMemory 5 0x100000006 singlePlane.fixup) = .ok s ∧
      ((buildBufferCmd ⟨false, 0x400000⟩
        ⟨.replicate 16 0, 0x500000, .replicate 8 0, 0x500040⟩ twoPages []
        (.replicate 128 ⟨0, 0, 0, false⟩) singlePlane
        (stackPlacement 5 0x100000006)).toOption.any (fun c => s.builder = c.builder) &&
      (readBuffer acceptBuffers (s.received.drop 16)).all
        fun r => r.1.1.buffer ≠ singlePlane.fixup.buffer) = true :=
    exists_ok_of_any (by decide +kernel)
  rw [Bool.and_eq_true] at hcheck
  obtain ⟨c, hc, hsame⟩ := exists_ok_of_any hcheck.1
  refine ⟨s, hs, ⟨c, hc, of_decide_eq_true hsame⟩, fun lists hread => ?_⟩
  rw [hread] at hcheck
  simp at hcheck

end VirtioMedia
