import VirtioMedia.Device.IoctlRobust
import VirtioMedia.Lib.Reader

/-!
# The parsers of variable length on arbitrary chains

The parsers of `device/src/ioctl.rs` with the arithmetic of a 64-bit host and
with loops that nothing in them bounds. They are compared with the functions
that the dispatcher is given: on every byte string they end, without an
overflow, with the same answer. What the functions read is then described: the
fixed structures, and after them one run of SG entries for each length.
-/

namespace VirtioMedia.Device

open V4l2 Wire

/-- What may go wrong in a parser besides an error of the reader. -/
inductive ParseCrash where
  | overflow
  | hang
  deriving DecidableEq, Repr

namespace Usize

open ReadM

/-- The sum of two `usize` values, checked for overflow. -/
def add (a b : Nat) : ReadM ParseCrash Nat :=
  if a + b < 2 ^ 64 then pure (a + b) else crash .overflow

/-- The loop of `get_userptr_regions`, with the vector of the entries. -/
def regionsLoop (size : Nat) : Nat → Nat → List SgEntry → ReadM ParseCrash (List SgEntry)
  | fuel, taken, res =>
    if taken < size then
      match fuel with
      | 0 => crash .hang
      | fuel + 1 => do
        let entry ← object sgEntry
        let taken ← add taken entry.len.toNat
        regionsLoop size fuel taken (res ++ [entry])
    else pure res

/-- `get_userptr_regions`. -/
def getUserptrRegions (fuel size : Nat) : ReadM ParseCrash (List SgEntry) :=
  regionsLoop size fuel 0 []

/-- The SG lists of the lengths that are not zero. -/
def readRegions (fuel : Nat) (sizes : List UInt32) : ReadM ParseCrash (List (List SgEntry)) :=
  (sizes.filter fun size => 0 < size).mapM fun size => getUserptrRegions fuel size.toNat

/-- The planes that follow a buffer of the queue. -/
def readPlanes (queue : QueueType) (b : V4l2Buffer) :
    ReadM ParseCrash (Option (List V4l2Plane)) :=
  if queue.isMultiplanar = true ∧ 0 < b.length then
    if b.length.toNat > videoMaxPlanes then failure
    else do
      let planes ← objects v4l2Plane b.length.toNat
      return some planes
  else pure none

/-- `read_from_chain` for a buffer and its SG lists. -/
def readBuffer (V : V4l2rChecks) (fuel : Nat) :
    ReadM ParseCrash (DeviceBuffer × List (List SgEntry)) := do
  let b ← object v4l2Buffer
  match QueueType.n b.type with
  | none => failure
  | some queue =>
    let planes ← readPlanes queue b
    if V.buffer b planes then
      let buffer : DeviceBuffer := ⟨b, planes.getD []⟩
      let regions ← readRegions fuel buffer.userptrLengths
      return (buffer, regions)
    else failure

/-- `read_from_chain` for extended controls and their SG lists. -/
def readExtControls (fuel : Nat) :
    ReadM ParseCrash (ExtControls × List ExtControl × List (List SgEntry)) := do
  let ctrls ← object extControls
  let array ← objects extControl ctrls.count.toNat
  let regions ← readRegions fuel (array.map (·.size))
  return (ctrls, array, regions)

end Usize

/-! ### The functions in steps -/

/-- `readBuffer` after the planes. -/
def bufferRegions (V : V4l2rChecks) (b : V4l2Buffer) (planes : Option (List V4l2Plane)) :
    Parse (DeviceBuffer × List (List SgEntry)) := fun bs =>
  let buffer : DeviceBuffer := ⟨b, planes.getD []⟩
  if V.buffer b planes then (readRegions buffer.userptrLengths bs).map fun r => ((buffer, r.1), r.2)
  else none

/-- `readBuffer` after the buffer. -/
def bufferPlanes (V : V4l2rChecks) (b : V4l2Buffer) :
    Parse (DeviceBuffer × List (List SgEntry)) := fun bs =>
  (QueueType.n b.type).bind fun queue =>
    (readPlanes queue b bs).bind fun r => bufferRegions V b r.1 r.2

theorem readBuffer_eq (V : V4l2rChecks) :
    readBuffer V = fun bs => (v4l2Buffer.read bs).bind fun r => bufferPlanes V r.1 r.2 := rfl

/-- `readExtControls` after the array of the controls. -/
def controlRegions (ctrls : ExtControls) (array : List ExtControl) :
    Parse (ExtControls × List ExtControl × List (List SgEntry)) := fun bs =>
  (readRegions (array.map (·.size)) bs).map fun r => ((ctrls, array, r.1), r.2)

/-- `readExtControls` after the head of the controls. -/
def controlArray (ctrls : ExtControls) :
    Parse (ExtControls × List ExtControl × List (List SgEntry)) := fun bs =>
  (extControl.readMany ctrls.count.toNat bs).bind fun r => controlRegions ctrls r.1 r.2

theorem readExtControls_eq :
    readExtControls = fun bs => (extControls.read bs).bind fun r => controlArray r.1 r.2 := rfl

/-! ### The programs end as the functions -/

section Ends

open ReadM

variable {bs : List UInt8}

theorem length_of_read_sgEntry {rest : List UInt8} {e : SgEntry}
    (h : sgEntry.read bs = some (e, rest)) : bs.length = 16 + rest.length :=
  Codec.length_of_read h

theorem userptrLoop_of_le {size taken : Nat} (h : size ≤ taken) (fuel : Nat) :
    userptrLoop size fuel taken bs = some ([], bs) := by
  cases fuel with
  | zero => rw [userptrLoop, if_neg (not_lt.mpr h)]
  | succ fuel => rw [userptrLoop, if_neg (not_lt.mpr h)]

theorem userptrLoop_zero {size taken : Nat} (h : taken < size) :
    userptrLoop size 0 taken bs = none := by
  rw [userptrLoop, if_pos h]

/-- A round of the loop reads an entry. -/
theorem userptrLoop_succ {size taken : Nat} (h : taken < size) (fuel : Nat) :
    userptrLoop size (fuel + 1) taken bs = (sgEntry.read bs).bind fun r =>
      (userptrLoop size fuel (taken + r.1.len.toNat) r.2).map fun s => (r.1 :: s.1, s.2) := by
  rw [userptrLoop, if_pos h]

/-- Before every sum less than `size` bytes are taken, so neither number goes
beyond 32 bits. Every round reads an entry, so the string bounds the rounds. -/
theorem endsAs_regionsLoop {size : Nat} (hsize : size < 2 ^ 32) {fuel : Nat} (taken : Nat)
    (res : List SgEntry) (hfuel : bs.length < fuel) :
    EndsAs (Usize.regionsLoop size fuel taken res)
      (fun bs => (userptrLoop size fuel taken bs).map fun r => (res ++ r.1, r.2)) bs := by
  induction fuel generalizing taken res bs with
  | zero => exact absurd hfuel (Nat.not_lt_zero _)
  | succ fuel ih =>
      unfold Usize.regionsLoop
      by_cases htaken : taken < size
      · rw [if_pos htaken]
        refine ((endsAs_object sgEntry).bind (g := fun entry rest =>
          (userptrLoop size fuel (taken + entry.len.toNat) rest).map fun s =>
            (res ++ [entry] ++ s.1, s.2)) fun entry rest hread _ => ?_).congr ?_
        · have hentry : entry.len.toNat < 2 ^ 32 := entry.len.toNat_lt
          have hlen := length_of_read_sgEntry hread
          rw [Usize.add, if_pos (by omega), pure_bind]
          exact ih _ _ (by omega)
        · rw [userptrLoop_succ htaken, Option.map_bind]
          simp only [Function.comp_def, Option.map_map, List.append_assoc, List.cons_append,
            List.nil_append]
      · rw [if_neg htaken]
        refine (endsAs_pure res).congr ?_
        rw [userptrLoop_of_le (not_lt.mp htaken), Option.map_some, List.append_nil]

/-- Any bound that the string does not exceed is enough. -/
theorem userptrLoop_fuel (size : Nat) {fuel fuel' : Nat} (taken : Nat) (hfuel : bs.length ≤ fuel)
    (hfuel' : bs.length ≤ fuel') :
    userptrLoop size fuel taken bs = userptrLoop size fuel' taken bs := by
  have hnil : sgEntry.read [] = none := by decide
  by_cases htaken : taken < size
  · induction fuel generalizing fuel' taken bs with
    | zero =>
        obtain rfl : bs = [] := List.eq_nil_of_length_eq_zero (Nat.le_zero.mp hfuel)
        cases fuel' with
        | zero => rfl
        | succ fuel' =>
            rw [userptrLoop_zero htaken, userptrLoop_succ htaken, hnil, Option.bind_none]
    | succ fuel ih =>
        cases fuel' with
        | zero =>
            obtain rfl : bs = [] := List.eq_nil_of_length_eq_zero (Nat.le_zero.mp hfuel')
            rw [userptrLoop_zero htaken, userptrLoop_succ htaken, hnil, Option.bind_none]
        | succ fuel' =>
            rw [userptrLoop_succ htaken, userptrLoop_succ htaken]
            cases hread : sgEntry.read bs with
            | none => rfl
            | some r =>
                have hlen := length_of_read_sgEntry hread
                have hrest : userptrLoop size fuel (taken + r.1.len.toNat) r.2 =
                    userptrLoop size fuel' (taken + r.1.len.toNat) r.2 := by
                  by_cases hnext : taken + r.1.len.toNat < size
                  · exact ih _ (by omega) (by omega) hnext
                  · rw [userptrLoop_of_le (not_lt.mp hnext), userptrLoop_of_le (not_lt.mp hnext)]
                rw [Option.bind_some, Option.bind_some, hrest]
  · rw [userptrLoop_of_le (not_lt.mp htaken), userptrLoop_of_le (not_lt.mp htaken)]

/-- With more rounds than bytes the list is read to its end, and no sum
overflows. -/
theorem endsAs_getUserptrRegions {fuel : Nat} (size : UInt32) (hfuel : bs.length < fuel) :
    EndsAs (Usize.getUserptrRegions fuel size.toNat) (getUserptrRegions size.toNat) bs := by
  refine (endsAs_regionsLoop size.toNat_lt 0 [] hfuel).congr ?_
  rw [getUserptrRegions, userptrLoop_fuel _ _ le_rfl hfuel.le]
  exact Option.map_id'.symm

/-- All lists are read from one cursor, so the bound serves all of them. -/
theorem endsAs_readRegions {fuel : Nat} (sizes : List UInt32) (hfuel : bs.length < fuel) :
    EndsAs (Usize.readRegions fuel sizes) (readRegions sizes) bs := by
  unfold Usize.readRegions
  induction sizes generalizing bs with
  | nil => exact endsAs_pure []
  | cons size sizes ih =>
      by_cases hsize : size = 0
      · rw [List.filter_cons_of_neg (by simp [hsize])]
        refine (ih hfuel).congr ?_
        rw [readRegions, if_pos hsize]
      · rw [List.filter_cons_of_pos (by simpa using UInt32.pos_iff_ne_zero.mpr hsize),
          List.mapM_cons]
        refine ((endsAs_getUserptrRegions size hfuel).bind fun list rest _ hsuffix =>
          (ih (hsuffix.length_le.trans_lt hfuel)).map fun lists => list :: lists).congr ?_
        rw [readRegions, if_neg hsize]

theorem endsAs_readPlanes (queue : QueueType) (b : V4l2Buffer) :
    EndsAs (Usize.readPlanes queue b) (readPlanes queue b) bs := by
  have hpos : queue.isMultiplanar = true ∧ 0 < b.length ↔
      queue.isMultiplanar = true ∧ b.length ≠ 0 :=
    and_congr_right fun _ => UInt32.pos_iff_ne_zero
  unfold Usize.readPlanes
  by_cases hplanes : queue.isMultiplanar = true ∧ 0 < b.length
  · rw [if_pos hplanes]
    by_cases hmax : b.length.toNat ≤ videoMaxPlanes
    · rw [if_neg (not_lt.mpr hmax)]
      refine ((endsAs_objects v4l2Plane b.length.toNat).map some).congr ?_
      rw [readPlanes, if_pos (hpos.mp hplanes), if_pos hmax]
    · rw [if_pos (not_le.mp hmax)]
      refine endsAs_failure.congr ?_
      rw [readPlanes, if_pos (hpos.mp hplanes), if_neg hmax]
  · rw [if_neg hplanes]
    refine (endsAs_pure none).congr ?_
    rw [readPlanes, if_neg (mt hpos.mpr hplanes)]

/-- The reader of buffers computes its function on any chain. -/
theorem endsAs_readBuffer (V : V4l2rChecks) {fuel : Nat} (hfuel : bs.length < fuel) :
    EndsAs (Usize.readBuffer V fuel) (readBuffer V) bs := by
  rw [readBuffer_eq]
  refine (endsAs_object v4l2Buffer).bind fun b rest _ hsuffix => ?_
  have hrest : rest.length < fuel := hsuffix.length_le.trans_lt hfuel
  unfold bufferPlanes
  cases hqueue : QueueType.n b.type with
  | none => exact endsAs_failure
  | some queue =>
      refine (endsAs_readPlanes queue b).bind fun planes rest _ hsuffix => ?_
      unfold bufferRegions
      by_cases hbuffer : V.buffer b planes = true
      · simp only [hbuffer, if_true]
        exact (endsAs_readRegions _ (hsuffix.length_le.trans_lt hrest)).map fun regions =>
          (_, regions)
      · simp only [hbuffer]
        exact endsAs_failure

/-- The reader of controls computes its function on any chain. -/
theorem endsAs_readExtControls {fuel : Nat} (hfuel : bs.length < fuel) :
    EndsAs (Usize.readExtControls fuel) readExtControls bs := by
  rw [readExtControls_eq]
  refine (endsAs_object extControls).bind fun ctrls rest _ hsuffix => ?_
  have hrest : rest.length < fuel := hsuffix.length_le.trans_lt hfuel
  refine (endsAs_objects extControl ctrls.count.toNat).bind fun array rest _ hsuffix => ?_
  exact (endsAs_readRegions _ (hsuffix.length_le.trans_lt hrest)).map fun regions =>
    (ctrls, array, regions)

end Ends

/-! ### What the functions read -/

/-- The bytes of a list of entries. -/
def total (entries : List SgEntry) : Nat := (entries.map fun e => e.len.toNat).sum

theorem total_cons (e : SgEntry) (entries : List SgEntry) :
    total (e :: entries) = e.len.toNat + total entries := List.sum_cons

/-- The entries reach the size, and no proper part at their front does. -/
structure Shortest (size : Nat) (entries : List SgEntry) : Prop where
  reaches : size ≤ total entries
  minimal : ∀ l, l <+: entries → l ≠ entries → total l < size

theorem shortest_nil_iff {size : Nat} : Shortest size [] ↔ size = 0 := by
  constructor
  · intro h
    exact Nat.le_zero.mp h.reaches
  · rintro rfl
    exact ⟨le_rfl, fun l hl hne => absurd (List.prefix_nil.mp hl) hne⟩

/-- The first entry is taken because nothing was reached before it. -/
theorem shortest_cons_iff {size : Nat} {e : SgEntry} {entries : List SgEntry} :
    Shortest size (e :: entries) ↔ 0 < size ∧ Shortest (size - e.len.toNat) entries := by
  constructor
  · intro h
    have hreaches := h.reaches
    rw [total_cons] at hreaches
    refine ⟨h.minimal [] List.nil_prefix (List.cons_ne_nil e entries).symm, by omega, ?_⟩
    intro l hl hne
    have hlt := h.minimal (e :: l) (List.cons_prefix_cons.mpr ⟨rfl, hl⟩) (by simpa using hne)
    rw [total_cons] at hlt
    omega
  · rintro ⟨hpos, h⟩
    have hreaches := h.reaches
    refine ⟨by rw [total_cons]; omega, fun l hl hne => ?_⟩
    cases l with
    | nil => exact hpos
    | cons e' l =>
        obtain ⟨rfl, htail⟩ := List.cons_prefix_cons.mp hl
        have hlt := h.minimal l htail (by simpa using hne)
        rw [total_cons]
        omega

section Front

variable {bs rest : List UInt8}

/-- The entries that the loop reads are those at the front that are just enough
for what is missing. -/
theorem userptrLoop_eq_some_iff {size fuel taken : Nat} {entries : List SgEntry}
    (hfuel : bs.length ≤ fuel) :
    userptrLoop size fuel taken bs = some (entries, rest) ↔
      sgEntry.readMany entries.length bs = some (entries, rest) ∧
        Shortest (size - taken) entries := by
  induction entries generalizing fuel taken bs with
  | nil =>
      rw [shortest_nil_iff, List.length_nil, Codec.readMany, Nat.sub_eq_zero_iff_le]
      by_cases htaken : taken < size
      · refine iff_of_false (fun h => ?_) fun h => absurd htaken (not_lt.mpr h.2)
        cases fuel with
        | zero =>
            rw [userptrLoop_zero htaken] at h
            cases h
        | succ fuel =>
            rw [userptrLoop_succ htaken] at h
            obtain ⟨r, -, h⟩ := Option.bind_eq_some_iff.mp h
            obtain ⟨s, -, h⟩ := Option.map_eq_some_iff.mp h
            cases h
      · rw [userptrLoop_of_le (not_lt.mp htaken), and_iff_left (not_lt.mp htaken)]
  | cons e entries ih =>
      rw [shortest_cons_iff, Nat.sub_pos_iff_lt, Nat.sub_sub, List.length_cons, Codec.readMany]
      by_cases htaken : taken < size
      · rw [and_iff_right htaken]
        cases fuel with
        | zero =>
            obtain rfl : bs = [] := List.eq_nil_of_length_eq_zero (Nat.le_zero.mp hfuel)
            have hnil : sgEntry.read [] = none := by decide
            simp [userptrLoop_zero htaken, hnil]
        | succ fuel =>
            rw [userptrLoop_succ htaken]
            cases hread : sgEntry.read bs with
            | none => simp
            | some r =>
                have hlen := length_of_read_sgEntry hread
                have hrest : r.2.length ≤ fuel := by omega
                simp only [Option.bind_some, Option.map_eq_some_iff]
                constructor
                · rintro ⟨s, hs, heq⟩
                  obtain ⟨hcons, rfl⟩ := Prod.mk.inj heq
                  obtain ⟨rfl, rfl⟩ := List.cons.inj hcons
                  obtain ⟨hmany, hshort⟩ := (ih hrest).mp hs
                  exact ⟨⟨s, hmany, rfl⟩, hshort⟩
                · rintro ⟨⟨s, hs, heq⟩, hshort⟩
                  obtain ⟨hcons, rfl⟩ := Prod.mk.inj heq
                  obtain ⟨rfl, rfl⟩ := List.cons.inj hcons
                  exact ⟨s, (ih hrest).mpr ⟨hs, hshort⟩, rfl⟩
      · refine iff_of_false (fun h => ?_) fun h => htaken h.2.1
        rw [userptrLoop_of_le (not_lt.mp htaken)] at h
        cases h

/-- The list is the shortest one that covers the size. -/
theorem getUserptrRegions_eq_some_iff {size : Nat} {entries : List SgEntry} :
    getUserptrRegions size bs = some (entries, rest) ↔
      sgEntry.readMany entries.length bs = some (entries, rest) ∧ Shortest size entries :=
  userptrLoop_eq_some_iff le_rfl

theorem takesFront_getUserptrRegions (size : Nat) :
    Parse.TakesFront (getUserptrRegions size) := by
  intro bs entries rest h
  obtain ⟨hmany, hshort⟩ := getUserptrRegions_eq_some_iff.mp h
  obtain ⟨front, rfl, hfront⟩ := Parse.takesFront_readMany sgEntry entries.length hmany
  exact ⟨front, rfl, fun tail => getUserptrRegions_eq_some_iff.mpr ⟨hfront tail, hshort⟩⟩

theorem takesFront_readRegions (sizes : List UInt32) : Parse.TakesFront (readRegions sizes) := by
  induction sizes with
  | nil => exact Parse.takesFront_some []
  | cons size sizes ih =>
      by_cases hsize : size = 0
      · have heq : readRegions (size :: sizes) = readRegions sizes :=
          funext fun bs => by rw [readRegions, if_pos hsize]
        rw [heq]
        exact ih
      · have heq : readRegions (size :: sizes) = fun bs =>
            (getUserptrRegions size.toNat bs).bind fun r =>
              (readRegions sizes r.2).map fun s => (r.1 :: s.1, s.2) :=
          funext fun bs => by rw [readRegions, if_neg hsize]
        rw [heq]
        exact (takesFront_getUserptrRegions size.toNat).bind fun list =>
          ih.map fun lists => list :: lists

/-- The lists stand one after the other, the shortest for every length that is
not zero. -/
theorem readRegions_eq_some {sizes : List UInt32} {lists : List (List SgEntry)}
    (h : readRegions sizes bs = some (lists, rest)) :
    sgEntry.readMany lists.flatten.length bs = some (lists.flatten, rest) ∧
      List.Forall₂ (fun size list => Shortest size.toNat list)
        (sizes.filter fun size => 0 < size) lists := by
  induction sizes generalizing bs lists with
  | nil =>
      obtain ⟨rfl, rfl⟩ := Prod.mk.inj (Option.some.inj h)
      exact ⟨rfl, .nil⟩
  | cons size sizes ih =>
      rw [readRegions] at h
      by_cases hsize : size = 0
      · rw [if_pos hsize] at h
        rw [List.filter_cons_of_neg (by simp [hsize])]
        exact ih h
      · rw [if_neg hsize] at h
        obtain ⟨⟨list, mid⟩, hlist, h⟩ := Option.bind_eq_some_iff.mp h
        obtain ⟨⟨lists', rest'⟩, hlists, heq⟩ := Option.map_eq_some_iff.mp h
        obtain ⟨rfl, rfl⟩ := Prod.mk.inj heq
        obtain ⟨hmany, hshort⟩ := getUserptrRegions_eq_some_iff.mp hlist
        obtain ⟨hrest, hforall⟩ := ih hlists
        rw [List.filter_cons_of_pos (by simpa using UInt32.pos_iff_ne_zero.mpr hsize)]
        exact ⟨Codec.readMany_append hmany hrest, .cons hshort hforall⟩

theorem takesFront_readPlanes (queue : QueueType) (b : V4l2Buffer) :
    Parse.TakesFront (readPlanes queue b) := by
  unfold readPlanes
  by_cases hplanes : queue.isMultiplanar = true ∧ b.length ≠ 0
  · simp only [if_pos hplanes]
    by_cases hmax : b.length.toNat ≤ videoMaxPlanes
    · simp only [if_pos hmax]
      exact (Parse.takesFront_readMany v4l2Plane b.length.toNat).map some
    · simp only [if_neg hmax]
      exact Parse.takesFront_none
  · simp only [if_neg hplanes]
    exact Parse.takesFront_some none

/-- What is read is a front of the chain. -/
theorem takesFront_readBuffer (V : V4l2rChecks) : Parse.TakesFront (readBuffer V) := by
  rw [readBuffer_eq]
  refine (Parse.takesFront_read v4l2Buffer).bind fun b => ?_
  unfold bufferPlanes
  cases hqueue : QueueType.n b.type with
  | none => exact Parse.takesFront_none
  | some queue =>
      refine (takesFront_readPlanes queue b).bind fun planes => ?_
      unfold bufferRegions
      by_cases hbuffer : V.buffer b planes = true
      · simp only [hbuffer, if_true]
        exact (takesFront_readRegions _).map fun regions => (_, regions)
      · simp only [hbuffer]
        exact Parse.takesFront_none

theorem takesFront_readExtControls : Parse.TakesFront readExtControls := by
  rw [readExtControls_eq]
  refine (Parse.takesFront_read extControls).bind fun ctrls => ?_
  refine (Parse.takesFront_readMany extControl ctrls.count.toNat).bind fun array => ?_
  exact (takesFront_readRegions _).map fun regions => (ctrls, array, regions)

end Front

/-! ### The layout of what is read -/

/-- A head of a fixed size, then the entries of the lists. There is one list for
every size that is not zero, and it is the shortest that reaches the size. -/
structure Layout (headSize : Nat) (sizes : List UInt32) (lists : List (List SgEntry))
    (bs rest : List UInt8) : Prop where
  head : headSize ≤ bs.length
  entries : sgEntry.readMany lists.flatten.length (bs.drop headSize) = some (lists.flatten, rest)
  shortest : List.Forall₂ (fun size list => Shortest size.toNat list)
    (sizes.filter fun size => 0 < size) lists

section Layouts

variable {bs rest : List UInt8}

/-- Where the lists lie in the chain. -/
theorem layout_of_readRegions {headSize : Nat} {sizes : List UInt32}
    {lists : List (List SgEntry)} {mid : List UInt8} (hmid : mid <:+ bs)
    (hlen : bs.length = headSize + mid.length) (h : readRegions sizes mid = some (lists, rest)) :
    Layout headSize sizes lists bs rest := by
  obtain ⟨hentries, hshort⟩ := readRegions_eq_some h
  have hdrop : mid = bs.drop headSize := by
    rw [List.suffix_iff_eq_drop.mp hmid]
    congr 1
    omega
  exact ⟨by omega, hdrop ▸ hentries, hshort⟩

/-- The planes in use are those that were read. -/
theorem length_of_readPlanes {queue : QueueType} {b : V4l2Buffer}
    {planes : Option (List V4l2Plane)} (h : readPlanes queue b bs = some (planes, rest)) :
    bs.length = (planes.getD []).length * v4l2Plane.size + rest.length := by
  unfold readPlanes at h
  by_cases hplanes : queue.isMultiplanar = true ∧ b.length ≠ 0
  · obtain ⟨-, h⟩ := Option.ite_none_right_eq_some.mp ((if_pos hplanes).symm.trans h)
    obtain ⟨⟨ps, rest'⟩, hps, heq⟩ := Option.map_eq_some_iff.mp h
    obtain ⟨rfl, rfl⟩ := Prod.mk.inj heq
    obtain ⟨hn, hlen⟩ := Codec.length_of_readMany hps
    rw [hlen, Option.getD_some, hn]
  · rw [if_neg hplanes] at h
    obtain ⟨rfl, rfl⟩ := Prod.mk.inj (Option.some.inj h)
    simp

/-- Where the parts of a buffer lie in the chain. -/
theorem layout_of_readBuffer {V : V4l2rChecks} {r : DeviceBuffer × List (List SgEntry)}
    (h : readBuffer V bs = some (r, rest)) :
    Layout (v4l2Buffer.size + r.1.planes.length * v4l2Plane.size) r.1.userptrLengths r.2 bs
      rest := by
  rw [readBuffer_eq] at h
  obtain ⟨⟨b, bs₁⟩, hb, h⟩ := Option.bind_eq_some_iff.mp h
  obtain ⟨queue, hqueue, h⟩ := Option.bind_eq_some_iff.mp h
  obtain ⟨⟨planes, bs₂⟩, hplanes, h⟩ := Option.bind_eq_some_iff.mp h
  obtain ⟨hbuffer, h⟩ := Option.ite_none_right_eq_some.mp h
  obtain ⟨⟨lists, rest'⟩, hlists, heq⟩ := Option.map_eq_some_iff.mp h
  obtain ⟨rfl, rfl⟩ := Prod.mk.inj heq
  have hsuffix : bs₂ <:+ bs :=
    ((takesFront_readPlanes queue b).suffix hplanes).trans
      ((Parse.takesFront_read v4l2Buffer).suffix hb)
  refine layout_of_readRegions hsuffix ?_ hlists
  rw [Codec.length_of_read hb, length_of_readPlanes hplanes, Nat.add_assoc]

/-- Where the parts of the controls lie in the chain. -/
theorem layout_of_readExtControls {r : ExtControls × List ExtControl × List (List SgEntry)}
    (h : readExtControls bs = some (r, rest)) :
    Layout (extControls.size + r.2.1.length * extControl.size) (r.2.1.map (·.size)) r.2.2 bs
      rest := by
  rw [readExtControls_eq] at h
  obtain ⟨⟨ctrls, bs₁⟩, hctrls, h⟩ := Option.bind_eq_some_iff.mp h
  obtain ⟨⟨array, bs₂⟩, harray, h⟩ := Option.bind_eq_some_iff.mp h
  obtain ⟨⟨lists, rest'⟩, hlists, heq⟩ := Option.map_eq_some_iff.mp h
  obtain ⟨rfl, rfl⟩ := Prod.mk.inj heq
  have hsuffix : bs₂ <:+ bs :=
    ((Parse.takesFront_readMany extControl ctrls.count.toNat).suffix harray).trans
      ((Parse.takesFront_read extControls).suffix hctrls)
  obtain ⟨hn, hlen⟩ := Codec.length_of_readMany harray
  refine layout_of_readRegions hsuffix ?_ hlists
  rw [Codec.length_of_read hctrls, hlen, hn, Nat.add_assoc]

end Layouts

/-! ### The property -/

section Property

variable {σ α : Type}

/-- A parser `p` of the dispatcher, the function `f` that it computes, and the
ioctls whose input it reads. -/
structure ChainParser (α : Type) where
  p : Nat → ReadM ParseCrash α
  f : Parse α
  headSize : α → Nat
  sizes : α → List UInt32
  lists : α → List (List SgEntry)
  ioctls : List V4l2Ioctl

/-- The parser of QBUF and PREPARE_BUF. -/
def bufferParser (V : V4l2rChecks) : ChainParser (DeviceBuffer × List (List SgEntry)) where
  p := Usize.readBuffer V
  f := readBuffer V
  headSize r := v4l2Buffer.size + r.1.planes.length * v4l2Plane.size
  sizes r := r.1.userptrLengths
  lists r := r.2
  ioctls := [.qbuf, .prepareBuf]

/-- The parser of the extended controls. -/
def extControlsParser : ChainParser (ExtControls × List ExtControl × List (List SgEntry)) where
  p := Usize.readExtControls
  f := readExtControls
  headSize r := extControls.size + r.2.1.length * extControl.size
  sizes r := r.2.1.map (·.size)
  lists r := r.2.2
  ioctls := [.gExtCtrls, .sExtCtrls, .tryExtCtrls]

/-- What a parser does on a byte string. -/
structure ChainParser.Safe (P : ChainParser α) (V : V4l2rChecks) (h : Handler σ) (bs : List UInt8) :
    Prop where
  /-- It neither hangs nor overflows, and leaves an end of the string. -/
  ends : ∀ fuel, bs.length < fuel → (P.p fuel).EndsAs P.f bs
  /-- What it reads is a front of the string, and decides the answer. -/
  front : ∀ a rest, P.f bs = some (a, rest) →
    ∃ front, bs = front ++ rest ∧ ∀ tail, P.f (front ++ tail) = some (a, tail)
  layout : ∀ a rest, P.f bs = some (a, rest) →
    Layout (P.headSize a) (P.sizes a) (P.lists a) bs rest
  /-- On an error the handler is not called, and the response is `EINVAL`. -/
  rejects : P.f bs = none → ∀ ioctl ∈ P.ioctls, ∀ d,
    dispatchIoctl V h ioctl bs d = some ((), { d with written := d.written ++ respHeader einval })

/-- An input that cannot be read calls no handler. -/
theorem rejects_of_read {I : Type} {read : List UInt8 → Option (I × List UInt8)}
    {bs : List UInt8}
    {process : I → DispatchM σ (Except (Int × Option (List UInt8)) (List UInt8))}
    (hread : read bs = none) (d : Dispatch σ) :
    wrIoctlWithErrPayload read bs process d =
      some ((), { d with written := d.written ++ respHeader einval }) := by
  unfold wrIoctlWithErrPayload
  rw [hread]
  rfl

/-- On every byte string both parsers end, read a front of it, and make one SG
list of every length that is not zero; what they refuse is answered with
`EINVAL`. -/
theorem hostile_chains (V : V4l2rChecks) (h : Handler σ) (bs : List UInt8) :
    (bufferParser V).Safe V h bs ∧ extControlsParser.Safe V h bs := by
  constructor
  · refine ⟨fun fuel hfuel => endsAs_readBuffer V hfuel,
      fun a rest hread => takesFront_readBuffer V hread,
      fun a rest hread => layout_of_readBuffer hread, fun hread ioctl hioctl d => ?_⟩
    simp only [bufferParser, List.mem_cons, List.not_mem_nil, or_false] at hioctl
    obtain rfl | rfl := hioctl
    · exact rejects_of_read hread d
    · exact rejects_of_read hread d
  · refine ⟨fun fuel hfuel => endsAs_readExtControls hfuel,
      fun a rest hread => takesFront_readExtControls hread,
      fun a rest hread => layout_of_readExtControls hread, fun hread ioctl hioctl d => ?_⟩
    simp only [extControlsParser, List.mem_cons, List.not_mem_nil, or_false] at hioctl
    obtain rfl | rfl | rfl := hioctl
    · exact rejects_of_read hread d
    · exact rejects_of_read hread d
    · exact rejects_of_read hread d

end Property

/-- The lengths of all planes, of whatever memory. -/
def DeviceBuffer.planeLengths (b : DeviceBuffer) : List UInt32 :=
  if b.isMultiplanar then b.planes.map (·.length) else [b.buffer.length]

/-- A capture buffer of 4096 bytes in MMAP memory. -/
def mmapCapture : V4l2Buffer :=
  ⟨0, 1, 0, 0, 0, 0, 0, 0, Vector.replicate 16 0, 0, 1, 0, 4096, 0, 0, 0⟩

/-- A buffer that is not in USERPTR memory has no SG list. -/
theorem hostile_chains_fails_mmap :
    ¬ ∀ bs b lists rest, readBuffer kernelEvents bs = some ((b, lists), rest) →
      lists.length = b.planeLengths.countP fun length => 0 < length := by
  intro h
  have hread : readBuffer kernelEvents (v4l2Buffer.enc mmapCapture ++ []) =
      some ((⟨mmapCapture, []⟩, []), []) := by
    rw [readBuffer_eq]
    simp only [Codec.read_enc_append, Option.bind_some]
    rfl
  exact absurd (h _ _ _ _ hread) (by decide)

end VirtioMedia.Device
