import VirtioMedia.Driver.Mappings
import VirtioMedia.Lib.Trace

/-!
# MMAP and MUNMAP commands are balanced

Every MMAP command that returned success is either still needed, by a mapping
object or by an export, or it has been undone by a MUNMAP command with the
address it returned. Inside a call there is one moment at which this fails:
between a successful MMAP and the point where its address is handed to a
mapping, to an export or to MUNMAP, and likewise between the removal of one of
these and its MUNMAP. `Owes` is the state of affairs at that moment.
-/

namespace VirtioMedia.Driver

namespace Device

/-- The addresses the driver still needs. -/
def outstanding (vv : Device) : List UInt64 :=
  vv.live.map Mapping.offset ++ vv.exports.map Export.offset

/-- The addresses that successful MMAP commands returned. -/
def mapped (vv : Device) : List UInt64 := vv.mmaps.map fun m => m.2.driverAddr

/-- Every successful MMAP is undone or still needed, and `mappings` counts the
mapping objects. -/
structure Balanced (vv : Device) : Prop where
  addresses : vv.mapped.Perm (vv.munmaps ++ vv.outstanding)
  counted : vv.mappings = vv.live.length

/-- Balanced but for one address, which is neither undone nor held. -/
structure Owes (vv : Device) (addr : UInt64) : Prop where
  addresses : vv.mapped.Perm (addr :: (vv.munmaps ++ vv.outstanding))
  counted : vv.mappings = vv.live.length

/-- What is kept at every moment at which `vlock` is free. -/
def Settled (vv : Device) : Prop := vv.disconnected = false → vv.Balanced

/-! ### Commands -/

/-- A command changes nothing but the connection. -/
theorem sendCommand_eq (vv : Device) (n : Nat) (a : Answer) :
    (vv.sendCommand n a).2 = vv ∨ (vv.sendCommand n a).2 = vv.stopQueues := by
  unfold sendCommand
  by_cases hd : vv.disconnected = true
  · rw [if_pos hd]
    exact .inl rfl
  · rw [if_neg hd]
    rcases kickCommand a with ⟨ret, respLen, stopped⟩
    dsimp only
    cases stopped with
    | false =>
        left
        split_ifs <;> first | rfl | contradiction
    | true =>
        right
        split_ifs <;> first | rfl | contradiction

/-- `virtio_media_send_command` never returns a positive value. -/
theorem sendCommand_nonpos (vv : Device) (n : Nat) (a : Answer) :
    (vv.sendCommand n a).1 = 0 ∨ (vv.sendCommand n a).1 < 0 := by
  unfold sendCommand
  by_cases hd : vv.disconnected = true
  · rw [if_pos hd]
    exact .inr (show -V4l2.enodev < 0 by decide)
  · rw [if_neg hd]
    rcases kickCommand a with ⟨ret, respLen, stopped⟩
    dsimp only
    by_cases hret : ret < 0
    · rw [if_pos hret]
      exact .inr hret
    · rw [if_neg hret]
      by_cases hlen : respLen < n
      · rw [if_pos hlen]
        exact .inr (show -V4l2.einval < 0 by decide)
      · rw [if_neg hlen]
        exact .inl rfl

theorem Balanced.stopQueues {vv : Device} (h : vv.Balanced) : vv.stopQueues.Balanced :=
  ⟨h.addresses, h.counted⟩

theorem Balanced.sendCommand {vv : Device} (h : vv.Balanced) (n : Nat) (a : Answer) :
    (vv.sendCommand n a).2.Balanced := by
  rcases sendCommand_eq vv n a with heq | heq <;> rw [heq]
  · exact h
  · exact h.stopQueues

/-- An address that is owed is settled by a MUNMAP with it. -/
theorem Owes.munmapLocked {vv : Device} {addr : UInt64} (h : vv.Owes addr) (a : Answer) :
    (vv.munmapLocked addr a).Settled := by
  unfold Device.munmapLocked
  by_cases hd : vv.disconnected = true
  · rw [if_pos hd]
    intro hd'
    rw [hd] at hd'
    cases hd'
  · rw [if_neg hd]
    intro _
    apply Balanced.sendCommand
    refine ⟨h.addresses.trans ?_, h.counted⟩
    change (addr :: (vv.munmaps ++ vv.outstanding)).Perm
      (vv.munmaps ++ [addr] ++ vv.outstanding)
    rw [List.append_assoc]
    exact List.perm_middle.symm

/-- After a successful MMAP its address is owed. -/
theorem Balanced.owes_sendMmap {vv vv' : Device} (h : vv.Balanced) {cmd : MmapCmd} {a : Answer}
    {resp : MmapResp} (hs : vv.sendMmap cmd a resp = (0, vv')) : vv'.Owes resp.driverAddr := by
  have hb := h.sendCommand 24 a
  unfold sendMmap at hs
  rcases hc : vv.sendCommand 24 a with ⟨ret, vv₁⟩
  rw [hc] at hs hb
  dsimp only at hs hb
  split_ifs at hs with hret
  · obtain ⟨-, rfl⟩ := Prod.mk.inj hs
    refine ⟨?_, hb.counted⟩
    change (List.map (fun m => m.2.driverAddr) (vv₁.mmaps ++ [(cmd, resp)])).Perm _
    rw [List.map_append]
    have hcomm : (vv₁.mapped ++ [resp.driverAddr]).Perm (resp.driverAddr :: vv₁.mapped) :=
      List.perm_append_singleton _ _
    exact hcomm.trans (hb.addresses.cons resp.driverAddr)
  · obtain ⟨rfl, -⟩ := Prod.mk.inj hs
    simp at hret

/-- A MMAP that does not succeed returns a negative value and leaves the
balance. -/
theorem Balanced.of_sendMmap_ne {vv vv' : Device} (h : vv.Balanced) {cmd : MmapCmd} {a : Answer}
    {resp : MmapResp} {ret : Int} (hs : vv.sendMmap cmd a resp = (ret, vv')) (hret : ret ≠ 0) :
    ret < 0 ∧ vv'.Balanced := by
  have hb := h.sendCommand 24 a
  have hn := sendCommand_nonpos vv 24 a
  unfold sendMmap at hs
  rcases hc : vv.sendCommand 24 a with ⟨ret₁, vv₁⟩
  rw [hc] at hs hb hn
  dsimp only at hs hb hn
  split_ifs at hs with hz
  · obtain ⟨rfl, -⟩ := Prod.mk.inj hs
    exact absurd rfl hret
  · obtain ⟨rfl, rfl⟩ := Prod.mk.inj hs
    exact ⟨hn.resolve_left hret, hb⟩

/-- An address that is owed is settled by a new mapping object. -/
theorem Owes.addMapping {vv : Device} {addr : UInt64} (h : vv.Owes addr) (refs : Nat)
    (backing : Bool) :
    ({ vv with
      live := vv.live ++ [⟨refs, addr, backing⟩]
      mappings := vv.mappings + 1 } : Device).Balanced := by
  constructor
  · refine h.addresses.trans ?_
    simp only [outstanding, List.map_append, List.map_cons, List.map_nil, List.append_assoc,
      List.cons_append, List.nil_append]
    rw [← List.append_assoc, ← List.append_assoc]
    exact List.perm_middle.symm
  · simp only [List.length_append, List.length_singleton, h.counted]

/-- An address that is owed is settled by a new export. -/
theorem Owes.addExport {vv : Device} {e : Export} (h : vv.Owes e.offset) :
    { vv with exports := vv.exports ++ [e] }.Balanced := by
  refine ⟨h.addresses.trans ?_, h.counted⟩
  simp only [outstanding, List.map_append, List.map_cons, List.map_nil]
  rw [← List.append_assoc, ← List.append_assoc, ← List.append_assoc]
  exact (List.perm_append_singleton _ _).symm

/-! ### The calls -/

/-- What `virtio_media_device_mmap` does with a mapping it got settles it. -/
theorem Owes.mapAnswer {vv : Device} {env : MmapEnv} (h : vv.Owes env.resp.driverAddr)
    (shmExport : Bool) (vma : Vma) : (mapAnswer shmExport vv vma env).2.Settled := by
  have hunmap := h.munmapLocked env.munmapAnswer
  unfold Driver.mapAnswer
  cases env.takeBacking shmExport with
  | error e =>
      dsimp only
      split_ifs <;> exact hunmap
  | ok backing =>
      dsimp only
      split_ifs
      all_goals first
        | exact hunmap
        | exact fun _ => h.addMapping 1 backing

theorem Balanced.deviceMmap {vv : Device} (h : vv.Balanced) (shmExport : Bool)
    (sessionId : UInt32) (vma : Vma) (env : MmapEnv) :
    (deviceMmap shmExport vv sessionId vma env).2.Settled := by
  unfold Driver.deviceMmap
  rcases hs : vv.sendMmap (vma.mmapCmd sessionId) env.answer env.resp with ⟨ret, vv₁⟩
  dsimp only
  split_ifs with h₁ h₂ h₃ hret
  · exact fun _ => h
  · exact fun _ => h
  · exact fun _ => h
  · exact fun _ => (h.of_sendMmap_ne hs (by omega)).2
  · have hz : ret = 0 := by
      by_contra hne
      exact hret (h.of_sendMmap_ne hs hne).1
    subst hz
    exact (h.owes_sendMmap hs).mapAnswer shmExport vma

/-- What `virtio_media_expbuf` does with a mapping it got settles it. -/
theorem Owes.exportAnswer {vv : Device} {env : ExpbufEnv} (h : vv.Owes env.resp.driverAddr)
    (sessionId : UInt32) (b : ExportBuffer) (length : UInt64) :
    (exportAnswer vv sessionId b length env).2.2.Settled := by
  have hunmap := h.munmapLocked env.munmapAnswer
  unfold Driver.exportAnswer
  cases env.shmExport with
  | error e =>
      dsimp only
      split_ifs <;> exact hunmap
  | ok u =>
      dsimp only
      split_ifs
      all_goals first
        | exact hunmap
        | exact fun _ => Owes.addExport h

theorem Balanced.expbufNew {vv : Device} (h : vv.Balanced) (sessionId : UInt32) (s : Session)
    (b : ExportBuffer) (env : ExpbufEnv) : (expbufNew vv sessionId s b env).2.2.Settled := by
  unfold Driver.expbufNew
  rcases querybuf s env.queryRet env.queryReply with ⟨qret, query⟩
  rcases hp : env.plane b query with _ | ⟨offset, length⟩
  · simp only [hp]
    split_ifs <;> exact fun _ => h
  · rcases hs : vv.sendMmap (b.mmapCmd sessionId offset) env.answer env.resp with ⟨ret, vv₁⟩
    simp only [hp, hs]
    split_ifs with hq hret
    · exact fun _ => h
    · exact fun _ => (h.of_sendMmap_ne hs (by simpa using hret)).2
    · obtain rfl : ret = 0 := by simpa using hret
      exact (h.owes_sendMmap hs).exportAnswer sessionId b length

theorem Balanced.expbuf {vv : Device} (h : vv.Balanced) (shmExport : Bool) (sessionId : UInt32)
    (s : Session) (b : ExportBuffer) (env : ExpbufEnv) :
    (expbuf shmExport vv sessionId s b env).2.2.Settled := by
  unfold Driver.expbuf
  split_ifs
  all_goals first
    | exact fun _ => h
    | exact h.expbufNew sessionId s b env

/-! ### Mapping objects and exports that change or go away -/

/-- Replacing an element by one with the same value under `f`. -/
theorem map_set_of_eq {α β : Type} (f : α → β) {l : List α} {i : Nat} {a a' : α}
    (hi : l[i]? = some a) (hf : f a' = f a) : (l.set i a').map f = l.map f := by
  obtain ⟨hlt, rfl⟩ := List.getElem?_eq_some_iff.mp hi
  rw [List.map_set, hf, ← List.getElem_map f (h := by simpa using hlt), List.set_getElem_self]

/-- Taking an element out of a list. -/
theorem perm_cons_eraseIdx {α : Type} {l : List α} {i : Nat} {a : α} (hi : l[i]? = some a) :
    l.Perm (a :: l.eraseIdx i) := by
  obtain ⟨hlt, rfl⟩ := List.getElem?_eq_some_iff.mp hi
  exact (List.getElem_cons_eraseIdx_perm hlt).symm

/-- A counter of references is not part of the balance. -/
theorem Balanced.setRefs {vv : Device} (h : vv.Balanced) {i : Nat} {m : Mapping}
    (hi : vv.live[i]? = some m) (refs : Nat) :
    { vv with live := vv.live.set i { m with refs := refs } }.Balanced := by
  have hmap : (vv.live.set i { m with refs := refs }).map Mapping.offset =
      vv.live.map Mapping.offset := map_set_of_eq Mapping.offset hi rfl
  refine ⟨h.addresses.trans ?_, h.counted.trans List.length_set.symm⟩
  unfold outstanding
  rw [hmap]

theorem Balanced.setActive {vv : Device} (h : vv.Balanced) {i : Nat} {e : Export}
    (hi : vv.exports[i]? = some e) (active : Bool) :
    { vv with exports := vv.exports.set i { e with active := active } }.Balanced := by
  have hmap : (vv.exports.set i { e with active := active }).map Export.offset =
      vv.exports.map Export.offset := map_set_of_eq Export.offset hi rfl
  refine ⟨h.addresses.trans ?_, h.counted⟩
  unfold outstanding
  rw [hmap]

/-- The address of a mapping object that is freed is owed. -/
theorem Balanced.owes_eraseMapping {vv : Device} (h : vv.Balanced) {i : Nat} {m : Mapping}
    (hi : vv.live[i]? = some m) :
    { vv with mappings := vv.mappings - 1, live := vv.live.eraseIdx i }.Owes m.offset := by
  have hperm := perm_cons_eraseIdx hi
  constructor
  · refine h.addresses.trans ?_
    have hout : vv.outstanding.Perm (m.offset ::
        ((vv.live.eraseIdx i).map Mapping.offset ++ vv.exports.map Export.offset)) :=
      (hperm.map Mapping.offset).append_right _
    exact (hout.append_left vv.munmaps).trans List.perm_middle
  · have hlen := hperm.length_eq
    rw [List.length_cons] at hlen
    change vv.mappings - 1 = _
    rw [h.counted, hlen, Nat.add_sub_cancel]

/-- The address of an export that is taken off the list is owed. -/
theorem Balanced.owes_eraseExport {vv : Device} (h : vv.Balanced) {i : Nat} {e : Export}
    (hi : vv.exports[i]? = some e) :
    { vv with exports := vv.exports.eraseIdx i }.Owes e.offset := by
  refine ⟨h.addresses.trans ?_, h.counted⟩
  have hout : vv.outstanding.Perm (e.offset ::
      (vv.live.map Mapping.offset ++ (vv.exports.eraseIdx i).map Export.offset)) :=
    (((perm_cons_eraseIdx hi).map Export.offset).append_left _).trans List.perm_middle
  exact (hout.append_left vv.munmaps).trans List.perm_middle

/-- The end of both release functions. -/
theorem Owes.settle {vv : Device} {addr : UInt64} (h : vv.Owes addr) (a : Answer) :
    (if vv.disconnected then vv else vv.munmapLocked addr a).Settled := by
  split_ifs with hd
  · intro hd'
    rw [hd] at hd'
    cases hd'
  · exact h.munmapLocked a

/-! ### Runs -/

theorem sendMmap_of_disconnected {vv : Device} (hd : vv.disconnected = true) (cmd : MmapCmd)
    (a : Answer) (resp : MmapResp) : vv.sendMmap cmd a resp = (-V4l2.enodev, vv) := by
  unfold sendMmap sendCommand
  rw [if_pos hd]
  rfl

/-- A device that is disconnected stays so. -/
theorem disconnected_step {shmExport : Bool} {vv vv' : Device} {act : MapAct}
    (hd : vv.disconnected = true) (hstep : vv.step shmExport act = some vv') :
    vv'.disconnected = true := by
  cases act with
  | mmap sessionId vma env =>
      cases hstep
      unfold Driver.deviceMmap
      rw [sendMmap_of_disconnected hd]
      dsimp only
      split_ifs with h₁ h₂ h₃ hret
      · exact hd
      · exact hd
      · exact hd
      · exact hd
      · exact absurd (show -V4l2.enodev < 0 by decide) hret
  | vmaOpen i =>
      obtain ⟨m, hi, hm⟩ := Option.bind_eq_some_iff.mp hstep
      split_ifs at hm
      cases hm
      exact hd
  | vmaClose i =>
      obtain ⟨m, hi, hm⟩ := Option.bind_eq_some_iff.mp hstep
      split_ifs at hm
      cases hm
      exact hd
  | vmaCloseLocked i a =>
      obtain ⟨m, hi, hm⟩ := Option.bind_eq_some_iff.mp hstep
      simp only [hd, if_true] at hm
      split_ifs at hm
      cases hm
      rfl
  | expbuf sessionId s b env =>
      cases hstep
      unfold Driver.expbuf Driver.expbufNew
      rcases querybuf s env.queryRet env.queryReply with ⟨qret, query⟩
      rcases hp : env.plane b query with _ | ⟨offset, length⟩
      · simp only [hp]
        split_ifs <;> exact hd
      · simp only [hp, sendMmap_of_disconnected hd]
        split_ifs <;> first | exact hd | contradiction
  | exportPut i =>
      obtain ⟨e, hi, he⟩ := Option.bind_eq_some_iff.mp hstep
      split_ifs at he
      cases he
      exact hd
  | exportRelease i a =>
      obtain ⟨e, hi, he⟩ := Option.bind_eq_some_iff.mp hstep
      simp only [hd, if_true] at he
      split_ifs at he
      cases he
      rfl
  | stopQueues =>
      cases hstep
      rfl

/-- Between two moments at which `vlock` is free the balance is kept, as long
as the device stays connected. -/
theorem settled_step (shmExport : Bool) (vv : Device) (act : MapAct) (vv' : Device)
    (h : vv.Balanced) (hstep : vv.step shmExport act = some vv') : vv'.Settled := by
  cases act with
  | mmap sessionId vma env =>
      cases hstep
      exact h.deviceMmap shmExport sessionId vma env
  | vmaOpen i =>
      obtain ⟨m, hi, hm⟩ := Option.bind_eq_some_iff.mp hstep
      split_ifs at hm
      cases hm
      exact fun _ => h.setRefs hi _
  | vmaClose i =>
      obtain ⟨m, hi, hm⟩ := Option.bind_eq_some_iff.mp hstep
      split_ifs at hm
      cases hm
      exact fun _ => h.setRefs hi _
  | vmaCloseLocked i a =>
      obtain ⟨m, hi, hm⟩ := Option.bind_eq_some_iff.mp hstep
      split_ifs at hm
      cases hm
      exact (h.owes_eraseMapping hi).settle a
  | expbuf sessionId s b env =>
      cases hstep
      exact h.expbuf shmExport sessionId s b env
  | exportPut i =>
      obtain ⟨e, hi, he⟩ := Option.bind_eq_some_iff.mp hstep
      split_ifs at he
      cases he
      exact fun _ => h.setActive hi false
  | exportRelease i a =>
      obtain ⟨e, hi, he⟩ := Option.bind_eq_some_iff.mp hstep
      split_ifs at he
      cases he
      exact (h.owes_eraseExport hi).settle a
  | stopQueues =>
      cases hstep
      exact fun _ => h.stopQueues

theorem balanced_init (region : ShmRegion) : (Device.init region).Balanced :=
  ⟨.nil, rfl⟩

/-- Whenever `vlock` is free on a connected device, the successful MMAP
commands are, address by address, the MUNMAP commands together with what the
mapping objects and the exports need, and the difference of their numbers is
`mappings` plus the number of exports. -/
theorem mmap_balanced (shmExport : Bool) (region : ShmRegion) (acts : List MapAct) (vv : Device)
    (hrun : Trace.run (step shmExport) (.init region) acts = some vv)
    (hconn : vv.disconnected = false) :
    (vv.mmaps.length : Int) - vv.munmaps.length = vv.mappings + vv.exports.length ∧
    (vv.mmaps.map fun m => m.2.driverAddr).Perm
      (vv.munmaps ++ (vv.live.map Mapping.offset ++ vv.exports.map Export.offset)) := by
  have hinv : vv.Settled := by
    refine Trace.run_invariant (fun vv act vv' h hstep => ?_)
      (fun _ => balanced_init region) hrun
    by_cases hd : vv.disconnected = true
    · intro hd'
      rw [disconnected_step hd hstep] at hd'
      cases hd'
    · exact settled_step shmExport vv act vv' (h (Bool.not_eq_true _ ▸ hd)) hstep
  have hb := hinv hconn
  refine ⟨?_, hb.addresses⟩
  have hlen := hb.addresses.length_eq
  have hcount := hb.counted
  simp only [mapped, outstanding, List.length_append, List.length_map] at hlen
  omega

/-- A session with one buffer on its capture queue. -/
def oneCaptureBuffer : Session :=
  (Session.init false).setQueue 1 { QueueState.init with buffers := [.zero], memory := 1 }

/-- Page `n` of the region is mapped, or PFN remapping fails with `remap`. -/
def mapPage (n : UInt64) (remap : Int) : MapAct :=
  .mmap 0 ⟨true, true, true, 0, 4096, n⟩
    ⟨.answered 0 24, ⟨n * 4096, 4096⟩, true, .ok (), remap, .answered 0 8⟩

/-- The buffer is exported from page `n`. -/
def exportPage (n : UInt64) : MapAct :=
  .expbuf 0 oneCaptureBuffer ⟨1, 0, 0, 0, 0⟩
    ⟨5, 0, { (default : V4l2.V4l2Buffer) with type := 1, memory := 1, length := 4096 },
      fun _ => default, .answered 0 24, ⟨n * 4096, 4096⟩, true, .ok (), .answered 0 8⟩

/-- A mapping whose VMA is duplicated and closed twice, one that fails, one that
stays, and a buffer that is exported twice, released, and exported again. -/
def mixedRun : List MapAct :=
  [mapPage 1 0, .vmaOpen 0, .vmaClose 0, .vmaClose 0, mapPage 2 (-12), mapPage 3 0,
    .vmaCloseLocked 0 (.answered 0 8), exportPage 4, exportPage 4, .exportPut 0,
    exportPage 5, .exportRelease 0 (.answered 0 8)]

/-- What `mixedRun` leaves. -/
def mixedRunEnd : Device where
  mmapRegion := ⟨0, 65536⟩
  disconnected := false
  mappings := 1
  exports := [⟨0, 1, 0, 0, 0, 20480, true⟩]
  live := [⟨1, 12288, true⟩]
  mmaps := [(⟨0, 1, 4096⟩, ⟨4096, 4096⟩), (⟨0, 1, 8192⟩, ⟨8192, 4096⟩),
    (⟨0, 1, 12288⟩, ⟨12288, 4096⟩), (⟨0, 0, 0⟩, ⟨16384, 4096⟩), (⟨0, 0, 0⟩, ⟨20480, 4096⟩)]
  munmaps := [8192, 4096, 16384]

theorem mmap_balanced_mixedRun :
    Trace.run (step true) (.init ⟨0, 65536⟩) mixedRun = some mixedRunEnd ∧
    (mixedRunEnd.mmaps.length : Int) - mixedRunEnd.munmaps.length =
      mixedRunEnd.mappings + mixedRunEnd.exports.length ∧
    (mixedRunEnd.mmaps.map fun m => m.2.driverAddr).Perm
      (mixedRunEnd.munmaps ++ (mixedRunEnd.live.map Mapping.offset ++
        mixedRunEnd.exports.map Export.offset)) := by
  have hrun : Trace.run (step true) (.init ⟨0, 65536⟩) mixedRun = some mixedRunEnd := by
    decide +kernel
  exact ⟨hrun, mmap_balanced true _ _ _ hrun rfl⟩

end Device

end VirtioMedia.Driver
