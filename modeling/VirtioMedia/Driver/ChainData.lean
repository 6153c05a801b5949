import VirtioMedia.Driver.Retrieval
import VirtioMedia.Lib.Merge

/-!
# The bytes that an entry denotes

`scatterlist_builder_add_data` describes data in place, page by page or as a
copy. The loop over pages is the merging of pieces into runs: a page joins the
run before it if its frame number, read as an `int`, is the next one, and the
length of a run is an `unsigned int`. An entry denotes its data, and leaves the
entries before it alone, exactly if that merging is faithful.
-/

namespace VirtioMedia.Driver

open Fallible

/-! ### Pages -/

/-- The part of a page that data takes. -/
structure PagePart where
  pfn : Nat
  offset : Nat
  length : Nat
  deriving DecidableEq, Repr

/-- The parts of the pages of vmalloc memory, with the bound of the loop. -/
def pageParts (frame : Nat → Nat) : Nat → Nat → Nat → Nat → List PagePart
  | fuel, page, offset, len =>
    if len = 0 then []
    else
      match fuel with
      | 0 => []
      | fuel + 1 =>
        let lenInPage := min (pageSize - offset) len
        ⟨frame page, offset, lenInPage⟩ :: pageParts frame fuel (page + 1) 0 (len - lenInPage)

/-- A page joins the run before it if its frame number is the next one, as an
`int`. -/
def pageMerge : Merge PagePart Int32 where
  key p := Int32.ofNat p.pfn
  joins prevPfn p := Int32.ofNat p.pfn == prevPfn + 1
  start p := p.pfn * pageSize + p.offset
  length p := p.length

theorem pageParts_pos {frame : Nat → Nat} {fuel page offset len : Nat} (ho : offset < pageSize) :
    ∀ p ∈ pageParts frame fuel page offset len, 0 < p.length := by
  induction fuel generalizing page offset len with
  | zero => simp [pageParts]
  | succ fuel ih =>
      rw [pageParts]
      split
      · simp
      · next hlen =>
          intro p hp
          rcases List.mem_cons.mp hp with rfl | hp
          · exact Nat.lt_min.mpr ⟨by omega, Nat.pos_of_ne_zero hlen⟩
          · exact ih pageSize_pos p hp

theorem pageParts_head {frame : Nat → Nat} {fuel page offset len : Nat} {q : PagePart}
    (hq : q ∈ (pageParts frame fuel page offset len).head?) : len ≠ 0 ∧ q.offset = offset := by
  cases fuel with
  | zero =>
      rw [pageParts] at hq
      split at hq <;> cases hq
  | succ fuel =>
      rw [pageParts] at hq
      split at hq
      · cases hq
      · next hlen =>
          cases hq
          exact ⟨hlen, rfl⟩

/-- The parts after the first one begin with a page, those before the last one
end with one. -/
theorem pageParts_isChain {frame : Nat → Nat} {fuel page offset len : Nat}
    (ho : offset < pageSize) : (pageParts frame fuel page offset len).IsChain
      fun p q => p.offset + p.length = pageSize ∧ q.offset = 0 := by
  induction fuel generalizing page offset len with
  | zero =>
      rw [pageParts]
      split <;> exact .nil
  | succ fuel ih =>
      rw [pageParts]
      split
      · exact .nil
      · refine List.isChain_cons.mpr ⟨fun q hq => ?_, ih pageSize_pos⟩
        obtain ⟨hlen, hoffset⟩ := pageParts_head hq
        refine ⟨?_, hoffset⟩
        simp only
        omega

theorem filterMap_range'_eq {f : Nat → Option Nat} {n a c : Nat}
    (h : ∀ i < n, f (a + i) = some (c + i)) :
    (List.range' a n).filterMap f = List.range' c n := by
  induction n generalizing a c with
  | zero => rfl
  | succ n ih =>
      have h₀ : f a = some c := h 0 n.succ_pos
      rw [List.range'_succ, List.range'_succ, List.filterMap_cons_some h₀, ih]
      · intro i hi
        rw [Nat.add_assoc, Nat.add_assoc, Nat.add_comm 1 i]
        exact h (i + 1) (by omega)

/-- The parts have the addresses of the data. `done` bytes come before them. -/
theorem addrs_pageParts {offset₀ : Fin pageSize} {frame : Nat → Nat}
    {fuel page offset len done : Nat} (hfuel : len ≤ fuel) (ho : offset < pageSize)
    (hpos : len ≠ 0 → offset₀ + done = page * pageSize + offset) :
    pageMerge.addrs (pageParts frame fuel page offset len) =
      (List.range' done len).filterMap (Placement.vmalloc offset₀ frame).byteAt := by
  induction fuel generalizing page offset len done with
  | zero =>
      obtain rfl : len = 0 := by omega
      simp [pageParts, Merge.addrs]
  | succ fuel ih =>
      rw [pageParts]
      split
      · next hlen =>
          subst hlen
          rfl
      · next hlen =>
          have hpos := hpos hlen
          obtain ⟨rest, hrest⟩ : ∃ rest, len = min (pageSize - offset) len + rest :=
            ⟨len - min (pageSize - offset) len, by omega⟩
          generalize hl : min (pageSize - offset) len = l at *
          subst hrest
          have hfirst : (List.range' done l).filterMap (Placement.vmalloc offset₀ frame).byteAt =
              List.range' (frame page * pageSize + offset) l := by
            refine filterMap_range'_eq fun i hi => ?_
            have hbyte : (Placement.vmalloc offset₀ frame).byteAt (done + i) =
                some (frame page * pageSize + (offset + i)) := byteAt_vmalloc (by omega) (by omega)
            rw [hbyte, Nat.add_assoc]
          rw [← List.range'_append_1, List.filterMap_append, hfirst, Merge.addrs,
            List.flatMap_cons, ← Merge.addrs, Nat.add_sub_cancel_left]
          refine congrArg _ (ih (by omega) pageSize_pos fun hr => ?_)
          rw [Nat.succ_mul]
          omega

/-! ### The loop -/

/-- The loop over the parts of the pages. -/
def Builder.addParts : Int32 → Builder → List PagePart → Except Int Builder
  | _, b, [] => .ok b
  | prevPfn, b, p :: ps =>
    if b.descs.length ≤ b.curDesc then .error (-V4l2.enospc)
    else
      addParts (Int32.ofNat p.pfn)
        (if Int32.ofNat p.pfn = prevPfn + 1 then b.extendLast p.length
          else b.put (.page p.pfn p.length p.offset)) ps

theorem vmallocLoop_eq_addParts {frame : Nat → Nat} {fuel page offset len : Nat}
    {prevPfn : Int32} {b : Builder} : Builder.vmallocLoop frame fuel page offset len prevPfn b =
      b.addParts prevPfn (pageParts frame fuel page offset len) := by
  induction fuel generalizing page offset len prevPfn b with
  | zero =>
      rw [Builder.vmallocLoop, pageParts]
      split <;> rfl
  | succ fuel ih =>
      rw [Builder.vmallocLoop, pageParts]
      split
      · rfl
      · simp only [Builder.addParts, ih]

/-- A descriptor that is extended by a run. -/
def Desc.extend (d : Desc) (n : Nat) : Desc :=
  if n = 0 then d else { d with length := (d.length + n) % 2 ^ 32 }

/-- The descriptor of a run. -/
def runDesc (r : PagePart × Nat) : Desc := .page r.1.pfn r.2 r.1.offset

/-- What describing data does: the last descriptor in use is extended by
`lead` bytes, and a descriptor is filled for each run. -/
structure Describing (lead : Nat) (rs : List (PagePart × Nat)) (b b' : Builder) : Prop where
  sgs : b'.sgs = b.sgs
  size : b'.descs.length = b.descs.length
  curDesc : b'.curDesc = b.curDesc + rs.length
  inside : b'.curDesc ≤ b'.descs.length
  used : b'.descs.take b'.curDesc =
    (b.descs.take b.curDesc).modify (b.curDesc - 1) (·.extend lead) ++ rs.map runDesc

theorem Desc.extend_extend (d : Desc) (m n : Nat) : (d.extend m).extend n = d.extend (m + n) := by
  unfold Desc.extend
  by_cases hm : m = 0
  · subst hm
    rw [Nat.zero_add]
    rfl
  · by_cases hn : n = 0
    · subst hn
      rfl
    · rw [if_neg hm, if_neg hn, if_neg (by omega)]
      simp only [Nat.mod_add_mod, Nat.add_assoc]

theorem Desc.extend_page (pfn offset m n : Nat) :
    (Desc.page pfn m offset).extend n = .page pfn (m + n) offset := by
  unfold Desc.extend
  split
  · next hn => rw [hn, Nat.add_zero]
  · simp only [Desc.page, Nat.mod_add_mod]

theorem modify_concat (ds : List Desc) (d : Desc) (f : Desc → Desc) :
    (ds ++ [d]).modify ds.length f = ds ++ [f d] := by
  induction ds with
  | nil => rfl
  | cons e ds ih => exact congrArg (e :: ·) ih

theorem take_extendLast (b : Builder) {n : Nat} (hn : 0 < n) :
    (b.extendLast n).descs.take b.curDesc =
      (b.descs.take b.curDesc).modify (b.curDesc - 1) (·.extend n) := by
  have hextend : (fun d : Desc => d.extend n) =
      fun d => { d with length := (d.length + n) % 2 ^ 32 } :=
    funext fun d => if_neg (Nat.ne_of_gt hn)
  rw [hextend, ← List.take_modify]
  rfl

theorem take_put (b : Builder) (d : Desc) (h : b.curDesc < b.descs.length) :
    (b.put d).descs.take (b.curDesc + 1) = b.descs.take b.curDesc ++ [d] := by
  have hlen : b.curDesc < (b.descs.set b.curDesc d).length := by rwa [List.length_set]
  simp only [Builder.put]
  rw [List.take_succ_eq_append_getElem hlen, List.getElem_set_self, List.take_set_of_le le_rfl]

theorem addParts_describing {prevPfn : Int32} {b b' : Builder} {ps : List PagePart}
    (hpos : ∀ p ∈ ps, 0 < p.length) (hb : b.curDesc ≤ b.descs.length)
    (h : b.addParts prevPfn ps = .ok b') :
    Describing (pageMerge.lead prevPfn ps) (pageMerge.runs prevPfn ps) b b' := by
  induction ps generalizing prevPfn b with
  | nil =>
      cases h
      refine ⟨rfl, rfl, rfl, hb, ?_⟩
      rw [Merge.lead, Merge.runs, List.map_nil, List.append_nil]
      exact (List.modify_id _ _).symm
  | cons p ps ih =>
      have hp := hpos p List.mem_cons_self
      have hrest : ∀ q ∈ ps, 0 < q.length := fun q hq => hpos q (.tail _ hq)
      rw [Builder.addParts] at h
      split at h
      · cases h
      · next hroom =>
          rw [Merge.lead, Merge.runs]
          split at h
          · next hjoin =>
              have hjoins : pageMerge.joins prevPfn p = true := by simpa [pageMerge] using hjoin
              have hroom' : (b.extendLast p.length).curDesc ≤
                  (b.extendLast p.length).descs.length := by
                simpa [Builder.extendLast] using hb
              have hlast := ih hrest hroom' h
              rw [if_pos hjoins, if_pos hjoins]
              refine ⟨hlast.sgs, ?_, hlast.curDesc, hlast.inside, ?_⟩
              · rw [hlast.size]
                exact List.length_modify _ _ _
              · rw [hlast.used]
                change ((b.extendLast p.length).descs.take b.curDesc).modify (b.curDesc - 1) _ ++ _
                  = _
                rw [take_extendLast b hp, List.modify_modify_eq]
                simp only [Function.comp_def, Desc.extend_extend]
                rfl
          · next hjoin =>
              have hjoins : ¬ pageMerge.joins prevPfn p = true := by simpa [pageMerge] using hjoin
              have hroom' : (b.put (.page p.pfn p.length p.offset)).curDesc ≤
                  (b.put (.page p.pfn p.length p.offset)).descs.length := by
                simp only [Builder.put, List.length_set]
                omega
              have hput := ih hrest hroom' h
              rw [if_neg hjoins, if_neg hjoins]
              refine ⟨hput.sgs, ?_, ?_, hput.inside, ?_⟩
              · rw [hput.size]
                exact List.length_set
              · rw [hput.curDesc, List.length_cons, Nat.add_comm _ 1, ← Nat.add_assoc]
                rfl
              · have hlen : (b.descs.take b.curDesc).length = b.curDesc :=
                  List.length_take_of_le hb
                have hconcat := modify_concat (b.descs.take b.curDesc)
                  (.page p.pfn p.length p.offset)
                  (·.extend (pageMerge.lead (Int32.ofNat p.pfn) ps))
                rw [hlen] at hconcat
                rw [hput.used]
                change ((b.put _).descs.take (b.curDesc + 1)).modify b.curDesc _ ++ _ = _
                rw [take_put b _ (by omega), hconcat, Desc.extend_page, List.append_assoc]
                congr 1
                exact (List.modify_id _ _).symm

theorem put_describing {b : Builder} {p : PagePart} (h : b.curDesc < b.descs.length) :
    Describing 0 [(p, p.length)] b (b.put (runDesc (p, p.length))) := by
  refine ⟨rfl, List.length_set, rfl, ?_, ?_⟩
  · simp only [Builder.put, List.length_set]
    exact h
  · refine (take_put b _ h).trans ?_
    congr 1
    exact (List.modify_id _ _).symm

/-! ### Entries -/

/-- The runs with their lengths as descriptors have them. -/
def storedRuns (rs : List (PagePart × Nat)) : List (PagePart × Nat) :=
  rs.map fun r => (r.1, r.2 % 2 ^ 32)

/-- The addresses at which the device finds the bytes of the data, in order;
`pos` is the position in the shadow buffer. -/
def Data.addresses (env : Env) (pos : Nat) (d : Data) : List Nat :=
  if d.placement.shadowed env then List.range' (env.shadowBuffer + pos) d.bytes.length
  else (List.range d.bytes.length).filterMap d.placement.byteAt

/-- Physical memory after the copy into the shadow buffer, if there is one. -/
def Data.memcpy (env : Env) (pos : Nat) (d : Data) (memory : Nat → UInt8) (a : Nat) : UInt8 :=
  if d.placement.shadowed env ∧ env.shadowBuffer + pos ≤ a then
    d.bytes[a - (env.shadowBuffer + pos)]?.getD (memory a)
  else memory a

/-- The data is in physical memory where its placement says. -/
def Data.LiesIn (d : Data) (memory : Nat → UInt8) : Prop :=
  ∀ i a, d.placement.byteAt i = some a → ∀ h : i < d.bytes.length, memory a = d.bytes[i]

theorem Data.map_addresses {env : Env} {d : Data} {memory : Nat → UInt8} (pos : Nat)
    (h : d.LiesIn memory) : (d.addresses env pos).map (d.memcpy env pos memory) = d.bytes := by
  unfold Data.addresses
  split
  · next hs =>
      refine List.ext_getElem (by simp) fun i _ hi => ?_
      simp only [List.getElem_map, List.getElem_range', Data.memcpy, hs, Nat.one_mul,
        Nat.le_add_right, and_self, if_true, Nat.add_sub_cancel_left, List.getElem?_eq_getElem hi,
        Option.getD_some]
  · next hs =>
      have hmemory : d.memcpy env pos memory = memory :=
        funext fun a => if_neg fun ha => hs ha.1
      -- every byte that is not copied has an address
      have haddr : ∃ addr : Nat → Nat, ∀ i, d.placement.byteAt i = some (addr i) := by
        cases hplace : d.placement with
        | other => exact absurd (by rw [hplace]; rfl) hs
        | direct pfn offset => exact ⟨_, fun i => rfl⟩
        | vmalloc offset frame => exact ⟨_, fun i => rfl⟩
      obtain ⟨addr, haddr⟩ := haddr
      have hbyteAt : d.placement.byteAt = fun i => some (addr i) := funext haddr
      rw [hmemory, hbyteAt, List.filterMap_eq_map', List.map_map]
      refine List.ext_getElem (by simp) fun i _ hi => ?_
      simp only [List.getElem_map, List.getElem_range, Function.comp_apply]
      exact h i _ (haddr i) hi

/-- Adding the data appends an entry that denotes exactly its bytes, with new
descriptors of the pool, and changes no descriptor in use. -/
structure Denotes (env : Env) (d : Data) (b b' : Builder) : Prop where
  entry : b'.sgs = b.sgs ++ [⟨b.curDesc, d.bytes⟩]
  bytes : (b'.memory b.curDesc).flatMap (fun r => List.range' r.1 r.2) =
    d.addresses env b.shadowBufferPos
  /-- The end mark is that of the last descriptor used. -/
  used : b.curDesc + (b'.memory b.curDesc).length = b'.curDesc
  inside : b.curDesc < b'.curDesc ∧ b'.curDesc ≤ b'.descs.length
  kept : b'.descs.take b.curDesc = b.descs.take b.curDesc

/-- The ranges of filled descriptors, of which the last one gets the mark. -/
theorem ranges_markEnd {ds rest : List Desc} (hne : ds ≠ []) (hlast : ∀ d ∈ ds, d.last = false) :
    ranges ((ds ++ rest).modify (ds.length - 1) fun d => { d with last := true }) =
      ds.map fun d => (d.addr, d.length) := by
  induction ds with
  | nil => exact absurd rfl hne
  | cons d ds ih =>
      cases ds with
      | nil => rfl
      | cons e ds =>
          have htail := ih (List.cons_ne_nil e ds) fun x hx => hlast x (.tail _ hx)
          have hd := hlast d List.mem_cons_self
          rw [List.length_cons, Nat.add_sub_cancel, List.cons_append, List.length_cons,
            List.modify_succ_cons, ranges, hd, List.map_cons, ← htail]
          rfl

/-- What was in use before the data was described. -/
theorem Describing.take_eq {lead : Nat} {rs : List (PagePart × Nat)} {b b' : Builder}
    (h : Describing lead rs b b') (hb : b.curDesc ≤ b.descs.length) :
    b'.descs.take b.curDesc =
      (b.descs.take b.curDesc).modify (b.curDesc - 1) (·.extend lead) := by
  have hlen : ((b.descs.take b.curDesc).modify (b.curDesc - 1) (·.extend lead)).length =
      b.curDesc := by
    rw [List.length_modify, List.length_take_of_le hb]
  have hused := congrArg (List.take b.curDesc) h.used
  rwa [List.take_take, h.curDesc, Nat.min_eq_left (Nat.le_add_right _ _), List.take_append,
    List.take_of_length_le hlen.le, hlen, Nat.sub_self, List.take_zero, List.append_nil] at hused

/-- What the entry refers to once the end mark is set. -/
theorem Describing.memory_eq {lead : Nat} {rs : List (PagePart × Nat)} {b b' : Builder}
    (h : Describing lead rs b b') (hb : b.curDesc ≤ b.descs.length) (hrs : rs ≠ []) :
    b'.markEnd.memory b.curDesc =
      (storedRuns rs).map fun r => (r.1.pfn * pageSize + r.1.offset, r.2) := by
  have hlen : ((b.descs.take b.curDesc).modify (b.curDesc - 1) (·.extend lead)).length =
      b.curDesc := by
    rw [List.length_modify, List.length_take_of_le hb]
  have hpos : 0 < rs.length := List.length_pos_iff.mpr hrs
  have hdrop : b'.descs.drop b.curDesc = rs.map runDesc ++ b'.descs.drop b'.curDesc := by
    conv_lhs => rw [← List.take_append_drop b'.curDesc b'.descs, h.used]
    rw [List.append_assoc, List.drop_append, List.drop_of_length_le hlen.le, hlen, Nat.sub_self]
    rfl
  have hmarks : ∀ d ∈ rs.map runDesc, d.last = false := by
    intro d hd
    obtain ⟨r, -, rfl⟩ := List.mem_map.mp hd
    rfl
  have hindex : b'.curDesc - 1 - b.curDesc = (rs.map runDesc).length - 1 := by
    rw [h.curDesc, List.length_map]
    omega
  rw [Builder.memory, Builder.markEnd, List.drop_modify_of_ge _ _ _ _ (by rw [h.curDesc]; omega),
    hdrop, hindex, ranges_markEnd (by simpa using hrs) hmarks, storedRuns, List.map_map,
    List.map_map]
  rfl

theorem Data.addresses_ne_nil {env : Env} {d : Data} (hd : d.bytes ≠ []) (pos : Nat) :
    d.addresses env pos ≠ [] := by
  have hlen : 0 < d.bytes.length := List.length_pos_iff.mpr hd
  unfold Data.addresses
  split
  · rw [ne_eq, List.range'_eq_nil_iff]
    exact Nat.ne_of_gt hlen
  · next hs =>
      cases hplace : d.placement with
      | other => exact absurd (by rw [hplace]; rfl) hs
      | direct pfn offset =>
          exact List.ne_nil_of_mem (List.mem_filterMap.mpr ⟨0, List.mem_range.mpr hlen, rfl⟩)
      | vmalloc offset frame =>
          exact List.ne_nil_of_mem (List.mem_filterMap.mpr ⟨0, List.mem_range.mpr hlen, rfl⟩)

/-- An entry denotes its data if the stored runs have its addresses, and the
descriptor before it is as it was. -/
theorem Describing.denotes_iff {env : Env} {d : Data} {lead : Nat} {rs : List (PagePart × Nat)}
    {b b₁ : Builder} (h : Describing lead rs b b₁) (hb : b.curDesc ≤ b.descs.length)
    (hd : d.bytes ≠ []) :
    Denotes env d b { b₁.markEnd with sgs := b₁.sgs ++ [⟨b.curDesc, d.bytes⟩] } ↔
      (b.descs.take b.curDesc).modify (b.curDesc - 1) (·.extend lead) =
          b.descs.take b.curDesc ∧
        pageMerge.runAddrs (storedRuns rs) = d.addresses env b.shadowBufferPos := by
  have haddrs : ((storedRuns rs).map fun r => (r.1.pfn * pageSize + r.1.offset, r.2)).flatMap
      (fun r => List.range' r.1 r.2) = pageMerge.runAddrs (storedRuns rs) :=
    List.flatMap_map ..
  have hkept (hrs : rs ≠ []) : b₁.markEnd.descs.take b.curDesc = b₁.descs.take b.curDesc := by
    have hpos : 0 < rs.length := List.length_pos_iff.mpr hrs
    have hcur := h.curDesc
    rw [Builder.markEnd, List.take_modify, List.modify_eq_self]
    rw [List.length_take]
    omega
  constructor
  · intro hden
    have hrs : rs ≠ [] := by
      rintro rfl
      have hlt : b.curDesc < b₁.curDesc := hden.inside.1
      rw [h.curDesc] at hlt
      exact absurd hlt (Nat.lt_irrefl _)
    have hbytes := hden.bytes
    change (b₁.markEnd.memory b.curDesc).flatMap _ = _ at hbytes
    rw [h.memory_eq hb hrs, haddrs] at hbytes
    refine ⟨?_, hbytes⟩
    rw [← h.take_eq hb, ← hkept hrs]
    exact hden.kept
  · rintro ⟨hlast, hbytes⟩
    have hrs : rs ≠ [] := by
      rintro rfl
      exact Data.addresses_ne_nil hd _ hbytes.symm
    have hpos : 0 < rs.length := List.length_pos_iff.mpr hrs
    have hmemory := h.memory_eq hb hrs
    refine ⟨by rw [h.sgs], ?_, ?_, ⟨?_, ?_⟩, ?_⟩
    · change (b₁.markEnd.memory b.curDesc).flatMap _ = _
      rw [hmemory, haddrs, hbytes]
    · change b.curDesc + (b₁.markEnd.memory b.curDesc).length = b₁.curDesc
      rw [hmemory, h.curDesc, List.length_map, storedRuns, List.length_map]
    · change b.curDesc < b₁.curDesc
      rw [h.curDesc]
      omega
    · change b₁.curDesc ≤ (b₁.descs.modify _ _).length
      rw [List.length_modify]
      exact h.inside
    · change b₁.markEnd.descs.take b.curDesc = _
      rw [hkept hrs, h.take_eq hb, hlast]

/-! ### When the entry is right -/

/-- The pages of vmalloc memory are merged as they should be: no frame number
is taken for the one after another by its low bits only, that of the first page
is not taken for the one after the initial `prev_pfn`, and no run of consecutive
frames has a length that does not fit. -/
structure MergesPages (ps : List PagePart) : Prop where
  first : ∀ p ∈ ps.head?, Int32.ofNat p.pfn ≠ -1
  frames : ps.IsChain fun p q =>
    Int32.ofNat q.pfn = Int32.ofNat p.pfn + 1 → q.pfn = p.pfn + 1
  short : ∀ run, run <:+: ps → run.IsChain (fun p q => q.pfn = p.pfn + 1) →
    (run.map PagePart.length).sum < 2 ^ 32

/-- The entry of the data is right. -/
def Data.Describable (env : Env) (d : Data) : Prop :=
  d.placement.shadowed env = false →
    match d.placement with
    | .direct _ _ => d.bytes.length < 2 ^ 32
    | .vmalloc offset frame =>
      MergesPages (pageParts frame d.bytes.length 0 offset d.bytes.length)
    | .other => True

theorem pageParts_pfn {frame : Nat → Nat} {fuel page offset len : Nat} (ho : offset < pageSize) :
    ∀ p ∈ pageParts frame fuel page offset len,
      ∃ i < numPages offset len, p.pfn = frame (page + i) := by
  induction fuel generalizing page offset len with
  | zero => simp [pageParts]
  | succ fuel ih =>
      rw [pageParts]
      split
      · simp
      · next hlen =>
          rw [numPages_step ho hlen]
          intro p hp
          rcases List.mem_cons.mp hp with rfl | hp
          · exact ⟨0, Nat.succ_pos _, rfl⟩
          · obtain ⟨i, hi, hpfn⟩ := ih pageSize_pos p hp
            exact ⟨i + 1, Nat.succ_lt_succ hi, by rw [hpfn, Nat.add_assoc, Nat.add_comm 1 i]⟩

theorem pageParts_total {frame : Nat → Nat} {fuel page offset len : Nat} :
    ((pageParts frame fuel page offset len).map PagePart.length).sum ≤ len := by
  induction fuel generalizing page offset len with
  | zero => simp [pageParts]
  | succ fuel ih =>
      rw [pageParts]
      split
      · simp
      · rw [List.map_cons, List.sum_cons]
        have hrest := @ih (page + 1) 0 (len - min (pageSize - offset) len)
        simp only
        omega

theorem eq_succ_of_ofNat {m n : Nat} (hm : m < 2 ^ 31) (hn : n < 2 ^ 31)
    (h : Int32.ofNat n = Int32.ofNat m + 1) : n = m + 1 := by
  have hsucc : Int32.ofNat n = Int32.ofNat (m + 1) := by
    rw [h, Int32.ofNat_add]
    rfl
  have hbits := congrArg (·.toUInt32.toNat) hsucc
  simp only [Int32.toUInt32_ofNat', UInt32.toNat_ofNat'] at hbits
  omega

/-- Data whose frame numbers fit an `int`, as its length fits an `unsigned int`,
is describable. -/
theorem Data.FramesFit.describable {d : Data} (h : d.FramesFit) (hlen : d.bytes.length < 2 ^ 32)
    (env : Env) : d.Describable env := by
  intro _
  unfold Data.FramesFit at h
  split
  · exact hlen
  · next offset frame hplace =>
      rw [hplace] at h
      have hframes : ∀ p ∈ pageParts frame d.bytes.length 0 offset d.bytes.length,
          p.pfn < 2 ^ 31 := by
        intro p hp
        obtain ⟨i, hi, hpfn⟩ := pageParts_pfn offset.isLt p hp
        rw [hpfn, Nat.zero_add]
        exact h i hi
      refine ⟨fun p hp => ?_, ?_, fun run hrun _ => ?_⟩
      · have hfresh : startsRun (fun _ => p.pfn) 0 = true :=
          startsRun_zero_of_lt (hframes p (List.mem_of_mem_head? hp))
        simpa [startsRun, prevPfn] using hfresh
      · rw [List.isChain_iff_getElem]
        exact fun i hi => eq_succ_of_ofNat (hframes _ (List.getElem_mem _))
          (hframes _ (List.getElem_mem _))
      · obtain ⟨before, after, hparts⟩ := hrun
        have htotal : ((pageParts frame d.bytes.length 0 offset d.bytes.length).map
            PagePart.length).sum ≤ d.bytes.length := pageParts_total
        rw [← hparts, List.map_append, List.map_append, List.sum_append, List.sum_append] at htotal
        omega
  · trivial

/-- Between whole pages, abutting is a matter of frame numbers. -/
theorem faithful_iff_mergesPages {ps : List PagePart}
    (hpages : ps.IsChain fun p q => p.offset + p.length = pageSize ∧ q.offset = 0) :
    pageMerge.Faithful (-2) (2 ^ 32) ps ↔ MergesPages ps := by
  have hjoins (p q : PagePart) : pageMerge.joins (pageMerge.key p) q = true ↔
      Int32.ofNat q.pfn = Int32.ofNat p.pfn + 1 := by
    simp [pageMerge]
  have hfirst : (∀ p ∈ ps.head?, pageMerge.joins (-2) p = false) ↔
      ∀ p ∈ ps.head?, Int32.ofNat p.pfn ≠ -1 := by
    simp [pageMerge]
  have habut : ps.IsChain pageMerge.Abuts ↔ ps.IsChain fun p q =>
      Int32.ofNat q.pfn = Int32.ofNat p.pfn + 1 → q.pfn = p.pfn + 1 := by
    rw [List.isChain_iff_getElem] at hpages ⊢
    rw [List.isChain_iff_getElem]
    refine forall₂_congr fun i hi => ?_
    obtain ⟨hend, hstart⟩ := hpages i hi
    rw [Merge.Abuts, hjoins]
    refine imp_congr_right fun _ => ?_
    simp only [pageMerge, pageSize] at *
    omega
  -- the low bits of the next frame number are the next ones
  have hnext {p q : PagePart} (h : q.pfn = p.pfn + 1) :
      Int32.ofNat q.pfn = Int32.ofNat p.pfn + 1 := by
    rw [h, Int32.ofNat_add]
    rfl
  constructor
  · intro h
    have hframes := habut.mp h.abut
    refine ⟨hfirst.mp h.first, hframes, fun run hrun hchain => h.short run hrun ?_⟩
    exact hchain.imp fun p q hpq => (hjoins p q).mpr (hnext hpq)
  · intro h
    refine ⟨hfirst.mpr h.first, habut.mpr h.frames, fun run hrun hchain => h.short run hrun ?_⟩
    have hframes := h.frames.infix hrun
    rw [List.isChain_iff_getElem] at hframes hchain ⊢
    exact fun i hi => hframes i hi ((hjoins _ _).mp (hchain i hi))

theorem addData_finish {env : Env} {d : Data} {b b' : Builder} (hd : d.bytes ≠ [])
    (h : b.addData env d = .ok b') : b.curDesc < b.descs.length ∧
      ∃ b₁, b.describe env d = .ok b₁ ∧
        b' = { b₁.markEnd with sgs := b₁.sgs ++ [⟨b.curDesc, d.bytes⟩] } := by
  rw [Builder.addData, if_neg (mt List.eq_nil_of_length_eq_zero hd)] at h
  split at h
  · cases h
  · next hroom =>
      obtain ⟨b₁, hdescribe, hadd⟩ := bind_eq_ok.mp h
      refine ⟨Nat.lt_of_not_le hroom, b₁, hdescribe, ?_⟩
      simp only [Builder.addDescriptor] at hadd
      split at hadd
      · cases hadd
      · exact (Except.ok.inj hadd).symm

theorem runAddrs_storedRuns_singleton (p : PagePart) :
    pageMerge.runAddrs (storedRuns [(p, p.length)]) =
      List.range' (p.pfn * pageSize + p.offset) (p.length % 2 ^ 32) :=
  List.append_nil _

theorem runAddrs_singleton_eq_iff (p : PagePart) :
    pageMerge.runAddrs (storedRuns [(p, p.length)]) =
      List.range' (p.pfn * pageSize + p.offset) p.length ↔ p.length < 2 ^ 32 := by
  rw [runAddrs_storedRuns_singleton]
  constructor
  · intro h
    have hlen := congrArg List.length h
    rw [List.length_range', List.length_range'] at hlen
    exact (Nat.mod_eq_iff_lt (by decide)).mp hlen
  · intro h
    rw [Nat.mod_eq_of_lt h]

section Strategies

variable {env : Env} {b b₁ : Builder} {d : Data}

/-- A copy is always described exactly: it is no longer than the shadow buffer. -/
theorem copy_denotes (hs : d.placement.shadowed env = true) (hd : d.bytes ≠ [])
    (hroom : b.curDesc < b.descs.length) (h : b.describe env d = .ok b₁) :
    Denotes env d b { b₁.markEnd with sgs := b₁.sgs ++ [⟨b.curDesc, d.bytes⟩] } := by
  rw [describe_of_shadowed b hs] at h
  split at h
  · cases h
  · next hfits =>
      cases h
      have hput := put_describing (p := ⟨(env.shadowBuffer + b.shadowBufferPos) / pageSize,
        (env.shadowBuffer + b.shadowBufferPos) % pageSize, d.bytes.length⟩) hroom
      have hcopy : Describing 0 _ b { b.put _ with
          shadowBufferPos := b.shadowBufferPos + d.bytes.length } :=
        ⟨hput.sgs, hput.size, hput.curDesc, hput.inside, hput.used⟩
      refine (hcopy.denotes_iff hroom.le hd).mpr ⟨List.modify_id _ _, ?_⟩
      rw [Data.addresses, if_pos hs, (runAddrs_singleton_eq_iff _).mpr]
      · simp only
        rw [Nat.mul_comm, Nat.div_add_mod]
      · simp only [shadowBufSize] at hfits ⊢
        omega

theorem direct_denotes_iff {pfn : Nat} {offset : Fin pageSize}
    (halways : env.alwaysUseShadowBuffer = false) (hplace : d.placement = .direct pfn offset)
    (hd : d.bytes ≠ []) (hroom : b.curDesc < b.descs.length) (h : b.describe env d = .ok b₁) :
    Denotes env d b { b₁.markEnd with sgs := b₁.sgs ++ [⟨b.curDesc, d.bytes⟩] } ↔
      d.bytes.length < 2 ^ 32 := by
  simp only [Builder.describe, halways, hplace] at h
  cases h
  have hput := put_describing (p := ⟨pfn, offset, d.bytes.length⟩) hroom
  have hs : (Placement.direct pfn offset).shadowed env = false := halways
  have haddrs : d.addresses env b.shadowBufferPos =
      List.range' (pfn * pageSize + offset) d.bytes.length := by
    rw [Data.addresses, hplace, hs, if_neg Bool.false_ne_true, List.range_eq_range']
    refine filterMap_range'_eq fun i _ => ?_
    rw [Nat.zero_add]
    rfl
  rw [← runAddrs_singleton_eq_iff ⟨pfn, offset, d.bytes.length⟩, ← haddrs]
  refine (Describing.denotes_iff hput hroom.le hd).trans (and_iff_right ?_)
  exact List.modify_id _ _

theorem vmalloc_denotes_iff {offset : Fin pageSize} {frame : Nat → Nat}
    (halways : env.alwaysUseShadowBuffer = false) (hplace : d.placement = .vmalloc offset frame)
    (hd : d.bytes ≠ []) (hroom : b.curDesc < b.descs.length) (h : b.describe env d = .ok b₁) :
    Denotes env d b { b₁.markEnd with sgs := b₁.sgs ++ [⟨b.curDesc, d.bytes⟩] } ↔
      MergesPages (pageParts frame d.bytes.length 0 offset d.bytes.length) := by
  simp only [Builder.describe, halways, hplace] at h
  rw [vmallocLoop_eq_addParts] at h
  have hpos : ∀ p ∈ pageParts frame d.bytes.length 0 offset d.bytes.length, 0 < p.length :=
    pageParts_pos offset.isLt
  have hloop := addParts_describing hpos hroom.le h
  have hs : (Placement.vmalloc offset frame).shadowed env = false := halways
  have haddrs : pageMerge.addrs (pageParts frame d.bytes.length 0 offset d.bytes.length) =
      d.addresses env b.shadowBufferPos := by
    rw [Data.addresses, hplace, hs, if_neg Bool.false_ne_true, List.range_eq_range']
    exact addrs_pageParts le_rfl offset.isLt fun _ => by omega
  rw [hloop.denotes_iff hroom.le hd, ← haddrs, storedRuns,
    Merge.storedAddrs_eq_iff (by decide) hpos,
    faithful_iff_mergesPages (pageParts_isChain offset.isLt)]
  refine and_iff_right_of_imp fun hmerges => ?_
  -- the first page fills a descriptor of its own
  have hlead : pageMerge.lead (-2)
      (pageParts frame d.bytes.length 0 offset d.bytes.length) = 0 := by
    cases hparts : pageParts frame d.bytes.length 0 offset d.bytes.length with
    | nil => rfl
    | cons p ps =>
        have hfirst := hmerges.first p (by rw [hparts]; rfl)
        refine if_neg ?_
        simpa [pageMerge] using hfirst
  rw [hlead]
  exact List.modify_id _ _

end Strategies

/-- The entry of added data denotes exactly its bytes, and the entries before
it are left alone, if and only if the data is describable. Data without bytes
adds no entry. -/
theorem addData_denotes (env : Env) (b b' : Builder) (d : Data) (h : b.addData env d = .ok b') :
    (d.bytes = [] → b' = b) ∧ (d.bytes ≠ [] → (Denotes env d b b' ↔ d.Describable env)) ∧
      ∀ memory, d.LiesIn memory → (d.addresses env b.shadowBufferPos).map
        (d.memcpy env b.shadowBufferPos memory) = d.bytes := by
  refine ⟨fun hd => ?_, fun hd => ?_, fun memory => Data.map_addresses _⟩
  · rw [addData_nil hd] at h
    exact (Except.ok.inj h).symm
  · obtain ⟨hroom, b₁, hdescribe, rfl⟩ := addData_finish hd h
    unfold Data.Describable
    by_cases hs : d.placement.shadowed env = true
    · rw [hs]
      exact iff_of_true (copy_denotes hs hd hroom hdescribe) (by simp)
    · rw [Bool.not_eq_true] at hs
      rw [hs, forall_prop_of_true rfl]
      cases hplace : d.placement with
      | other =>
          rw [hplace] at hs
          cases hs
      | direct pfn offset =>
          rw [hplace] at hs
          exact direct_denotes_iff hs hplace hd hroom hdescribe
      | vmalloc offset frame =>
          rw [hplace] at hs
          exact vmalloc_denotes_iff hs hplace hd hroom hdescribe

/-- Two bytes of vmalloc memory across a page boundary; the first frame is 5. -/
def acrossPages (second : Nat) : Data :=
  ⟨[1, 2], .vmalloc ⟨4095, by decide⟩ fun page => if page = 0 then 5 else second⟩

theorem addData_denotes_merged : ∃ b',
    (Builder.init (.replicate 2 ⟨0, 0, 0, false⟩)).addData ⟨false, 0x400000⟩ (acrossPages 6) =
        .ok b' ∧
      Denotes ⟨false, 0x400000⟩ (acrossPages 6) (.init (.replicate 2 ⟨0, 0, 0, false⟩)) b' := by
  refine ⟨⟨[⟨5, 4095, 2, true⟩, ⟨0, 0, 0, false⟩], 1, 0, [⟨0, [1, 2]⟩]⟩, by rfl, ?_⟩
  have hfit : (acrossPages 6).FramesFit := by
    change ∀ page < 2, (if page = 0 then 5 else 6) < 2 ^ 31
    decide
  exact ((addData_denotes _ _ _ _ (by rfl)).2.1 (by decide)).mpr (hfit.describable (by decide) _)

/-- The frame of the second page has the low bits of the next one. -/
theorem addData_denotes_fails_lowBits : ∃ b',
    (Builder.init (.replicate 2 ⟨0, 0, 0, false⟩)).addData ⟨false, 0x400000⟩
        (acrossPages 0x100000006) = .ok b' ∧
      ¬ Denotes ⟨false, 0x400000⟩ (acrossPages 0x100000006)
        (.init (.replicate 2 ⟨0, 0, 0, false⟩)) b' := by
  refine ⟨⟨[⟨5, 4095, 2, true⟩, ⟨0, 0, 0, false⟩], 1, 0, [⟨0, [1, 2]⟩]⟩, by rfl, fun h => ?_⟩
  exact absurd h.bytes (by decide)

end VirtioMedia.Driver
