import VirtioMedia.Device.Chain
import VirtioMedia.Device.ProxyAddresses

/-!
# Pointers of extended controls

The proxy gives the controls of non-zero size the addresses of their payloads,
in order, and puts the pointers of the guest back when the host driver
returns. Which controls these are is decided by the sizes that the guest
submitted, before and after, so that the host driver may change the sizes.
-/

namespace VirtioMedia.Device.ProxyQueues

open V4l2

/-- The host driver on an array of controls: it may change all of them, in
place, and answers. -/
structure CtrlHost where
  ioctl : List ExtControl → List ExtControl × Except (Int × UInt32) Unit
  inPlace : ∀ array, (ioctl array).1.length = array.length

/-- The controls that the host driver gets, where `newMapping` is what
`new_mapping` answers for each SG list. `none` is the `unwrap` of a mapping that
failed. -/
def patchedControls (newMapping : Nat → List SgEntry → Option UInt64) (array : List ExtControl)
    (regions : List (List SgEntry)) : Option (List ExtControl) :=
  (((array.filter fun c => 0 < c.size).zip (regions.mapIdx newMapping)).mapM Prod.snd).map
    (patchPointers array)

/-- `perform_ext_ctrls_ioctl` over the SG lists of the controls. -/
def performExtCtrls (newMapping : Nat → List SgEntry → Option UInt64) (host : CtrlHost)
    (ctrls : ExtControls) (array : List ExtControl) (regions : List (List SgEntry)) :
    Option (Except Int Unit × ExtControls × List ExtControl) :=
  (patchedControls newMapping array regions).map fun patched =>
    let r := host.ioctl patched
    let array' := restorePointers r.1 array
    match r.2 with
    | .ok () => (.ok (), ctrls, array')
    | .error (errno, idx) => (.error errno, { ctrls with errorIdx := idx }, array')

theorem length_hostCtrls (array : List ExtControl) (updates : List (UInt32 × Option UInt64)) :
    (hostCtrls array updates).length = array.length := by
  induction array generalizing updates with
  | nil => rfl
  | cons c rest ih => simp [hostCtrls, ih]

/-- The host driver that changes sizes and values. -/
def CtrlAnswer.host (answer : CtrlAnswer) : CtrlHost where
  ioctl array := (hostCtrls array answer.updates, answer.result)
  inPlace array := length_hostCtrls array answer.updates

/-- What the proxy does when the answers of the mapper and of the host driver
are given. -/
theorem performExtCtrlsIoctl_eq (newMapping : Nat → List SgEntry → Option UInt64)
    (answer : CtrlAnswer) (ctrls : ExtControls) (array : List ExtControl)
    (regions : List (List SgEntry)) :
    performExtCtrlsIoctl ctrls array (regions.mapIdx newMapping) answer =
      performExtCtrls newMapping answer.host ctrls array regions := by
  simp only [performExtCtrlsIoctl, performExtCtrls, patchedControls, Option.map_map]
  rfl

/-! ### Which control gets which payload -/

/-- The number of controls with a payload. -/
def payloads (array : List ExtControl) : Nat := array.countP fun c => 0 < c.size

/-- One SG list is read for each control with a payload. -/
theorem readRegions_length {sizes : List UInt32} {bs rest : List UInt8}
    {regions : List (List SgEntry)} (h : readRegions sizes bs = some (regions, rest)) :
    regions.length = sizes.countP fun size => 0 < size := by
  induction sizes generalizing bs regions with
  | nil =>
      cases h
      rfl
  | cons size sizes ih =>
      unfold readRegions at h
      split at h
      · rename_i hzero
        rw [List.countP_cons, ih h]
        simp [hzero]
      · rename_i hsize
        obtain ⟨r, -, h⟩ := Option.bind_eq_some_iff.mp h
        obtain ⟨s, hs, h⟩ := Option.map_eq_some_iff.mp h
        cases h
        rw [List.length_cons, ih hs, List.countP_cons, if_pos]
        exact decide_eq_true (UInt32.pos_iff_ne_zero.mpr hsize)

/-- A request is read with one SG list for each control that has a payload. -/
theorem readExtControls_length {bs rest : List UInt8} {ctrls : ExtControls}
    {array : List ExtControl} {regions : List (List SgEntry)}
    (h : readExtControls bs = some ((ctrls, array, regions), rest)) :
    regions.length = payloads array := by
  obtain ⟨_, -, h⟩ := Option.bind_eq_some_iff.mp h
  obtain ⟨_, -, h⟩ := Option.bind_eq_some_iff.mp h
  obtain ⟨r, hr, h⟩ := Option.map_eq_some_iff.mp h
  cases h
  rw [readRegions_length hr, List.countP_map]
  rfl

/-- The control at a position gets the address that is next after those of the
controls before it. -/
theorem getElem?_patchPointers {array : List ExtControl} {addrs : List UInt64}
    (hlen : addrs.length = payloads array) {i : Nat} {c : ExtControl} (hc : array[i]? = some c) :
    (patchPointers array addrs)[i]? =
      if 0 < c.size then addrs[payloads (array.take i)]?.map fun a => { c with value := a }
      else some c := by
  induction array generalizing addrs i with
  | nil => cases hc
  | cons x rest ih =>
      cases addrs with
      | nil =>
          have hnone : ¬0 < c.size := by
            have hall := List.countP_eq_zero.mp hlen.symm
            simpa using hall c (List.mem_of_getElem? hc)
          rw [if_neg hnone]
          exact hc
      | cons a addrs =>
          by_cases hx : 0 < x.size
          · have hrest : addrs.length = payloads rest := by
              simpa [payloads, List.countP_cons, hx] using hlen
            cases i with
            | zero =>
                obtain rfl := Option.some.inj hc
                simp [patchPointers, hx, payloads]
            | succ i =>
                have hpos : payloads ((x :: rest).take (i + 1)) = payloads (rest.take i) + 1 := by
                  simp [payloads, hx]
                rw [patchPointers, if_pos hx, List.getElem?_cons_succ, ih hrest hc, hpos,
                  List.getElem?_cons_succ]
          · have hrest : (a :: addrs).length = payloads rest := by
              simpa [payloads, List.countP_cons, hx] using hlen
            cases i with
            | zero =>
                obtain rfl := Option.some.inj hc
                simp [patchPointers, hx]
            | succ i =>
                have hpos : payloads ((x :: rest).take (i + 1)) = payloads (rest.take i) := by
                  simp [payloads, hx]
                rw [patchPointers, if_neg hx, List.getElem?_cons_succ, ih hrest hc, hpos]

theorem length_patchPointers (array : List ExtControl) (addrs : List UInt64) :
    (patchPointers array addrs).length = array.length := by
  induction array generalizing addrs with
  | nil => rfl
  | cons x rest ih =>
      cases addrs with
      | nil => rfl
      | cons a addrs =>
          unfold patchPointers
          split <;> rw [List.length_cons, List.length_cons, ih]

/-- The addresses of the payloads, when every mapping succeeds. -/
theorem mapM_zip_snd {α β : Type} {l : List α} {ms : List (Option β)}
    (hlen : ms.length = l.length) (hms : ∀ m ∈ ms, m.isSome = true) :
    ∃ addrs, (l.zip ms).mapM Prod.snd = some addrs ∧ ms = addrs.map some := by
  induction l generalizing ms with
  | nil =>
      obtain rfl := List.eq_nil_of_length_eq_zero hlen
      exact ⟨[], rfl, rfl⟩
  | cons a rest ih =>
      cases ms with
      | nil => cases hlen
      | cons m ms =>
          obtain ⟨b, rfl⟩ := Option.isSome_iff_exists.mp (hms m List.mem_cons_self)
          obtain ⟨addrs, haddrs, rfl⟩ := ih (Nat.succ.inj hlen)
            fun m hm => hms m (List.mem_cons_of_mem _ hm)
          exact ⟨b :: addrs, by rw [List.zip_cons_cons, List.mapM_cons, haddrs]; rfl, rfl⟩

theorem payloads_take_lt {array : List ExtControl} {i : Nat} {c : ExtControl}
    (hc : array[i]? = some c) (hsize : 0 < c.size) : payloads (array.take i) < payloads array := by
  obtain ⟨hlt, hget⟩ := List.getElem?_eq_some_iff.mp hc
  have hdrop : array.drop i = c :: array.drop (i + 1) := by
    rw [List.drop_eq_getElem_cons hlt, hget]
  have hsplit : payloads array = payloads (array.take i) + payloads (array.drop i) := by
    rw [payloads, payloads, payloads, ← List.countP_append, List.take_append_drop]
  rw [hsplit, hdrop]
  simp [payloads, hsize]

/-- The control at a position after the pointers were put back. -/
theorem getElem?_restorePointers {array backup : List ExtControl} {i : Nat} {c h : ExtControl}
    (hh : array[i]? = some h) (hc : backup[i]? = some c) :
    (restorePointers array backup)[i]? =
      some (if 0 < c.size then { h with value := c.value } else h) := by
  rw [restorePointers, List.getElem?_zipWith, hh, hc]

/-- What the host driver gets: the j-th control with a payload has the address
of the mapping of the j-th SG list, and the others are as the guest submitted
them. -/
def Patched (newMapping : Nat → List SgEntry → Option UInt64) (regions : List (List SgEntry))
    (array patched : List ExtControl) : Prop :=
  patched.length = array.length ∧ ∀ (i : Nat) (c : ExtControl), array[i]? = some c →
    (0 < c.size → ∃ sgs a, regions[payloads (array.take i)]? = some sgs ∧
      newMapping (payloads (array.take i)) sgs = some a ∧
      patched[i]? = some { c with value := a }) ∧
    (c.size = 0 → patched[i]? = some c)

/-- What the guest gets back: the pointer it submitted where there is a payload,
and otherwise what the host driver wrote. -/
def Restored (array host array' : List ExtControl) : Prop :=
  array'.length = array.length ∧ ∀ (i : Nat) (c : ExtControl), array[i]? = some c →
    ∃ h : ExtControl, host[i]? = some h ∧
      (0 < c.size → array'[i]? = some { h with value := c.value }) ∧
      (c.size = 0 → array'[i]? = some h)

/-- For every array of controls with the SG lists that were read with it, every
mapper that succeeds and every host driver: the controls are patched before
and restored after the call, whether it succeeds or not. -/
theorem ext_ctrls_patched_and_restored (newMapping : Nat → List SgEntry → Option UInt64)
    (host : CtrlHost) (ctrls : ExtControls) {array : List ExtControl}
    {regions : List (List SgEntry)} (hregions : regions.length = payloads array)
    (hmap : ∀ j sgs, regions[j]? = some sgs → (newMapping j sgs).isSome = true) :
    ∃ patched result ctrls' array',
      patchedControls newMapping array regions = some patched ∧
      Patched newMapping regions array patched ∧
      performExtCtrls newMapping host ctrls array regions = some (result, ctrls', array') ∧
      result.isOk = (host.ioctl patched).2.isOk ∧
      Restored array (host.ioctl patched).1 array' := by
  have hlen : (regions.mapIdx newMapping).length = (array.filter fun c => 0 < c.size).length := by
    rw [List.length_mapIdx, hregions, payloads, List.countP_eq_length_filter]
  have hsome : ∀ m ∈ regions.mapIdx newMapping, m.isSome = true := by
    intro m hm
    obtain ⟨j, hj⟩ := List.mem_iff_getElem?.mp hm
    rw [List.getElem?_mapIdx] at hj
    obtain ⟨sgs, hsgs, rfl⟩ := Option.map_eq_some_iff.mp hj
    exact hmap j sgs hsgs
  obtain ⟨addrs, haddrs, hms⟩ := mapM_zip_snd hlen hsome
  have hcount : addrs.length = payloads array := by
    have h := congrArg List.length hms
    rw [List.length_mapIdx, List.length_map, hregions] at h
    exact h.symm
  have hpatched : patchedControls newMapping array regions = some (patchPointers array addrs) := by
    rw [patchedControls, haddrs, Option.map_some]
  have hplaced := length_patchPointers array addrs
  have hpointers : Patched newMapping regions array (patchPointers array addrs) := by
    refine ⟨hplaced, fun i c hc => ⟨fun hsize => ?_, fun hsize => ?_⟩⟩
    · have hlt := payloads_take_lt hc hsize
      have hsgs := List.getElem?_eq_getElem (hregions ▸ hlt)
      have haddr := List.getElem?_eq_getElem (hcount ▸ hlt)
      have hanswer := congrArg (·[payloads (array.take i)]?) hms
      simp only [List.getElem?_mapIdx, List.getElem?_map, hsgs, haddr, Option.map_some,
        Option.some.injEq] at hanswer
      refine ⟨_, _, hsgs, hanswer, ?_⟩
      rw [getElem?_patchPointers hcount hc, if_pos hsize, haddr]
      rfl
    · rw [getElem?_patchPointers hcount hc, if_neg (by simp [hsize])]
  have hback := host.inPlace (patchPointers array addrs)
  have hrestored : Restored array (host.ioctl (patchPointers array addrs)).1
      (restorePointers (host.ioctl (patchPointers array addrs)).1 array) := by
    refine ⟨by rw [restorePointers, List.length_zipWith, hback, hplaced, Nat.min_self], ?_⟩
    intro i c hc
    have hlt : i < (host.ioctl (patchPointers array addrs)).1.length := by
      rw [hback, hplaced]
      exact (List.getElem?_eq_some_iff.mp hc).1
    have hh := List.getElem?_eq_getElem hlt
    refine ⟨_, hh, fun hsize => ?_, fun hsize => ?_⟩
    · rw [getElem?_restorePointers hh hc, if_pos hsize]
    · rw [getElem?_restorePointers hh hc, if_neg (by simp [hsize])]
  cases hres : (host.ioctl (patchPointers array addrs)).2 with
  | ok u =>
      refine ⟨_, .ok (), ctrls, _, hpatched, hpointers, ?_, by rw [hres]; rfl, hrestored⟩
      simp only [performExtCtrls, hpatched, Option.map_some, hres]
  | error e =>
      refine ⟨_, .error e.1, { ctrls with errorIdx := e.2 }, _, hpatched, hpointers, ?_,
        by rw [hres]; rfl, hrestored⟩
      simp only [performExtCtrls, hpatched, Option.map_some, hres]

/-- A host driver that gives the second control a payload, takes the payload of
the third one away, writes over all pointers and fails. -/
def meddlingHost : CtrlHost where
  ioctl array := (array.mapIdx fun i c => { c with size := .ofNat i, value := 0xdead },
    .error (einval, 1))
  inPlace array := by rw [List.length_mapIdx]

/-- A control without a payload between two controls that have one. -/
def mixedControls : List ExtControl :=
  [⟨1, 16, 0, 0x7000⟩, ⟨2, 0, 0, 5⟩, ⟨3, 8, 0, 0x7100⟩]

/-- The payload of the first control goes over a page boundary, that of the third
one is within a page. -/
def mixedRegions : List (List SgEntry) :=
  [[⟨0x9ff8, 8, 0⟩, ⟨0x20000, 8, 0⟩], [⟨0x5010, 8, 0⟩]]

/-- Every list that is not empty is mapped to pages of its own. -/
def pageMapping (j : Nat) (sgs : List SgEntry) : Option UInt64 :=
  sgs.head?.map fun e => 0x7f0000 + .ofNat j * 0x10000 + e.start % 0x1000

theorem ext_ctrls_patched_and_restored_meddling :
    patchedControls pageMapping mixedControls mixedRegions =
      some [⟨1, 16, 0, 0x7f0ff8⟩, ⟨2, 0, 0, 5⟩, ⟨3, 8, 0, 0x800010⟩] ∧
    ∃ patched result ctrls' array',
      patchedControls pageMapping mixedControls mixedRegions = some patched ∧
      Patched pageMapping mixedRegions mixedControls patched ∧
      performExtCtrls pageMapping meddlingHost default mixedControls mixedRegions =
        some (result, ctrls', array') ∧
      result.isOk = (meddlingHost.ioctl patched).2.isOk ∧
      Restored mixedControls (meddlingHost.ioctl patched).1 array' := by
  have hmap : ∀ j sgs, mixedRegions[j]? = some sgs → (pageMapping j sgs).isSome = true := by
    have hall : ∀ sgs ∈ mixedRegions, sgs.head?.isSome = true := by decide
    intro j sgs hsgs
    rw [pageMapping, Option.isSome_map]
    exact hall sgs (List.mem_of_getElem? hsgs)
  exact ⟨by decide, ext_ctrls_patched_and_restored pageMapping meddlingHost default (by decide)
    hmap⟩

end VirtioMedia.Device.ProxyQueues
