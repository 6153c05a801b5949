import Mathlib.Logic.Relation
import VirtioMedia.Device.MmapCount
import VirtioMedia.Device.Proxy
import VirtioMedia.Driver.MappingCommands
import VirtioMedia.Stack.Response

/-!
# Mappings of the driver and of the host

The mappings of `virtio_media_driver.c` together with the runner and a device
that keeps its mappings in an `MmapMappingManager`. The commands travel as bytes,
and what the driver gets as an answer is what the runner writes. Other commands,
of any session, arrive between them.
-/

namespace VirtioMedia.Stack

open V4l2 Device
open Driver hiding mmapFlagRw

/-! ### Devices that map their buffers -/

/-- A buffer is registered or unregistered. -/
inductive Rearranges (t : Tracked) : Tracked → Prop where
  | register (checks : Bool) (offset : Option UInt32) (size : UInt32) {t' : Tracked}
    (h : t.step checks (.register offset size) = some t') : Rearranges t t'
  | unregister (offset : UInt32) {t' : Tracked}
    (h : t.step false (.unregister offset) = some t') : Rearranges t t'

/-- The manager is left with other buffers, and no mapping was made or removed. -/
abbrev Rearranged : Tracked → Tracked → Prop := Relation.ReflTransGen Rearranges

/-- `do_mmap` of a device with a manager: it fails before it comes to the manager,
or `create_mapping` is called for a file. The mapper gives no address away that is
mapped. -/
inductive Maps (t : Tracked) (flags offset : UInt32) :
    Except Int (UInt64 × UInt64) → Tracked → Prop where
  | refused (e : Int) : Maps t flags offset (.error e) t
  | created (fd : Nat) (answer : Except Int UInt64)
    (hfresh : AnswersFresh t (.create offset fd (flags &&& mmapFlagRw != 0) answer)) :
    Maps t flags offset
      ((t.create offset fd (flags &&& mmapFlagRw != 0) answer).1.mapError fun _ => einval)
      (t.create offset fd (flags &&& mmapFlagRw != 0) answer).2

/-- `do_munmap` of a device with a manager. -/
def unmapResult (t : Tracked) (addr : UInt64) : Except Int Unit :=
  ((t.remove addr).1.map fun _ => ()).mapError fun _ => einval

variable {D S P : Type}

/-- The device maps its buffers through the manager `tracked`, which its other
methods only rearrange. -/
structure MapsMemory (env : RunnerEnv D S P Writer) (tracked : D → Tracked) : Prop where
  write : env.write = Writer.write
  newSession : ∀ d id, Rearranged (tracked d) (tracked (env.newSession d id).2)
  closeSession : ∀ d s, Rearranged (tracked d) (tracked (env.closeSession d s))
  doIoctl : ∀ d s ioctl input w,
    Rearranged (tracked d) (tracked (env.doIoctl d s ioctl input w).2.1)
  doMmap : ∀ d s flags offset, Maps (tracked d) flags offset (env.doMmap d s flags offset).1
    (tracked (env.doMmap d s flags offset).2.1)
  doMunmap : ∀ d addr, (env.doMunmap d addr).1 = unmapResult (tracked d) addr ∧
    tracked (env.doMunmap d addr).2 = ((tracked d).remove addr).2

/-! ### The two sides together -/

/-- `struct virtio_media_cmd_mmap`. The padding of the header is not written. -/
def mmapBytes (pad : UInt32) (cmd : MmapCmd) : List UInt8 :=
  cmdHeader.enc (cmdMmap, pad) ++ mmapCmd.enc (cmd.sessionId, cmd.flags, cmd.offset)

/-- `struct virtio_media_cmd_munmap`. -/
def munmapBytes (pad : UInt32) (addr : UInt64) : List UInt8 :=
  cmdHeader.enc (cmdMunmap, pad) ++ Codec.u64.enc addr

/-- What the driver finds in `struct virtio_media_resp_mmap`. -/
def mmapRespOf (response : List UInt8) : MmapResp where
  driverAddr := Codec.u64.dec ((response.drop 8).take 8)
  len := Codec.u64.dec ((response.drop 16).take 8)

/-- A command of MMAP or of MUNMAP. -/
def mapsOrUnmaps (input : List UInt8) : Bool :=
  (cmdHeader.read input).any fun h => h.1.1 == cmdMmap || h.1.1 == cmdMunmap

structure MapStack (D S P : Type) where
  driver : Driver.Device
  runner : Runner D S P

inductive MapStackAct where
  /-- A step of the driver. Its answers are those of the runner. -/
  | driver (act : MapAct) (pad : UInt32)
  /-- Another command. -/
  | command (input : List UInt8) (room : Nat)

namespace MapStack

section Steps

variable (env : RunnerEnv D S P Writer) (overflowChecks : Bool)

/-- The MMAP command of a step, if it sends one, with its response. -/
def mmapCommand (r : Runner D S P) (pad : UInt32) :
    Option MmapCmd → Option (Runner D S P × List UInt8)
  | none => some (r, [])
  | some cmd => command env overflowChecks r (mmapBytes pad cmd) 24

/-- A step of the driver: the device gets the MMAP command if the driver sends one,
and the MUNMAP command if the driver has logged one. -/
def driverStep (shmExport : Bool) (s : MapStack D S P) (act : MapAct) (pad : UInt32) :
    Option (MapStack D S P) := do
  let (r, response) ←
    mmapCommand env overflowChecks s.runner pad (act.mmapCmd? shmExport s.driver)
  let resp := mmapRespOf response
  let addr := act.munmapAddr s.driver resp
  let (r', response') ← command env overflowChecks r (munmapBytes pad addr) 8
  let vv ← s.driver.step shmExport (act.withReply ⟨answer response, resp, answer response'⟩)
  some ⟨vv, if vv.munmaps.length = s.driver.munmaps.length then r else r'⟩

def step (shmExport : Bool) (s : MapStack D S P) : MapStackAct → Option (MapStack D S P)
  | .driver act pad => s.driverStep env overflowChecks shmExport act pad
  | .command input room =>
    if mapsOrUnmaps input then none
    else (command env overflowChecks s.runner input room).map fun (r, _) => { s with runner := r }

end Steps

end MapStack

/-! ### Buffers come and go -/

/-- Registering moves no reference and makes no call. -/
theorem Rearranges.keeps {t t' : Tracked} (h : Rearranges t t') (ht : TrackedInv t) :
    TrackedInv t' ∧ t'.log = t.log ∧ ∀ a, t'.manager.refsAt a = t.manager.refsAt a := by
  cases h with
  | register checks offset size h =>
      refine ⟨ht.step (a := .register offset size) trivial h, ?_⟩
      simp only [Tracked.step, MmapMappingManager.registerBuffer, Option.map_map,
        Option.map_eq_some_iff] at h
      obtain ⟨o, -, rfl⟩ := h
      exact ⟨rfl, fun _ => MmapMappingManager.refsAt_registerBuffer t.manager ht.sorted o size⟩
  | unregister offset h =>
      refine ⟨ht.step (a := .unregister offset) trivial h, ?_⟩
      cases h
      exact ⟨rfl, fun _ => MmapMappingManager.refsAt_unregisterBuffer t.manager offset⟩

theorem Rearranged.keeps {t t' : Tracked} (h : Rearranged t t') (ht : TrackedInv t) :
    TrackedInv t' ∧ t'.log = t.log ∧ ∀ a, t'.manager.refsAt a = t.manager.refsAt a := by
  induction h with
  | refl => exact ⟨ht, rfl, fun _ => rfl⟩
  | tail _ hstep ih =>
      obtain ⟨ht₁, hlog, hrefs⟩ := ih
      obtain ⟨ht', hlog', hrefs'⟩ := hstep.keeps ht₁
      exact ⟨ht', hlog'.trans hlog, fun a => (hrefs' a).trans (hrefs a)⟩

/-! ### Commands -/

section Commands

variable {env : RunnerEnv D S P Writer} {tracked : D → Tracked} {overflowChecks : Bool}
  {r r' : Runner D S P}

theorem storeSession_device {σ : Owned S} {w w' : Writer} {ok : Bool}
    (h : Runner.storeSession env overflowChecks r σ w = some (ok, r', w')) :
    r'.device = r.device := by
  unfold Runner.storeSession at h
  dsimp only at h
  split at h
  · cases h
  · cases h
    split <;> rfl

/-- OPEN closes the session again if it cannot be polled. -/
theorem MapsMemory.openArm (h : MapsMemory env tracked) {w w' : Writer} {ok : Bool}
    (hopen : Runner.openArm env overflowChecks r w = some (ok, r', w')) :
    Rearranged (tracked r.device) (tracked r'.device) := by
  have hnew := h.newSession r.device r.sessionIdCounter
  unfold Runner.openArm at hopen
  rcases hres : env.newSession r.device r.sessionIdCounter with ⟨res, d⟩
  rw [hres] at hopen hnew
  cases res with
  | error e =>
      cases hopen
      exact hnew
  | ok session =>
      cases hfd : env.pollFd session with
      | none =>
          simp only [hfd] at hopen
          rw [storeSession_device hopen]
          exact hnew
      | some fd =>
          simp only [hfd] at hopen
          split at hopen
          · rw [storeSession_device hopen]
            exact hnew
          · cases hopen
            exact hnew.trans (h.closeSession d session)

/-- CLOSE unregisters buffers at most. -/
theorem MapsMemory.closeArm (h : MapsMemory env tracked) (id : UInt32) :
    Rearranged (tracked r.device) (tracked (Runner.closeArm env r id).device) := by
  unfold Runner.closeArm
  cases r.sessions id with
  | none => exact .refl
  | some σ =>
      dsimp only [Runner.closeOwned]
      cases env.pollFd σ.session with
      | none => exact h.closeSession r.device σ.session
      | some fd => exact h.closeSession r.device σ.session

theorem MapsMemory.ioctlArm (h : MapsMemory env tracked) {id code : UInt32} {input : List UInt8}
    {w w' : Writer} {ok : Bool} (hioctl : Runner.ioctlArm env r id code input w = (ok, r', w')) :
    Rearranged (tracked r.device) (tracked r'.device) := by
  unfold Runner.ioctlArm at hioctl
  cases hs : r.sessions id with
  | none =>
      rw [hs] at hioctl
      cases hioctl
      exact .refl
  | some σ =>
      rw [hs] at hioctl
      cases hn : V4l2Ioctl.n code with
      | none =>
          rw [hn] at hioctl
          cases hioctl
          exact .refl
      | some ioctl =>
          rw [hn] at hioctl
          cases hioctl
          exact h.doIoctl r.device σ.session ioctl input w

/-- Of all commands, only MMAP and MUNMAP come to the mappings. -/
theorem MapsMemory.dispatch (h : MapsMemory env tracked) {cmd : UInt32} {input : List UInt8}
    {w w' : Writer} {ok : Bool} (hmmap : cmd ≠ cmdMmap) (hmunmap : cmd ≠ cmdMunmap)
    (hd : r.dispatch env overflowChecks cmd input w = some (ok, r', w')) :
    Rearranged (tracked r.device) (tracked r'.device) := by
  unfold Runner.dispatch at hd
  rw [if_neg hmmap, if_neg hmunmap] at hd
  split_ifs at hd with hopen hclose hioctl
  · exact h.openArm hd
  · cases hread : cmdHeader.read input with
    | none =>
        rw [hread] at hd
        cases hd
        exact .refl
    | some p =>
        rw [hread] at hd
        cases hd
        exact h.closeArm p.1.1
  · cases hread : cmdHeader.read input with
    | none =>
        rw [hread] at hd
        cases hd
        exact .refl
    | some p =>
        rw [hread] at hd
        exact h.ioctlArm (Option.some.inj hd)
  · cases hd
    exact .refl

/-- Another command only rearranges the manager. -/
theorem MapsMemory.command (h : MapsMemory env tracked) {input response : List UInt8} {room : Nat}
    (hother : mapsOrUnmaps input = false)
    (hcmd : Stack.command env overflowChecks r input room = some (r', response)) :
    Rearranged (tracked r.device) (tracked r'.device) := by
  rcases command_cases hcmd with ⟨-, rfl⟩ | ⟨cmd, pad, rest, ok, w, hread, hdispatch, -⟩
  · exact .refl
  · have hnot : cmd ≠ cmdMmap ∧ cmd ≠ cmdMunmap := by
      simpa [mapsOrUnmaps, hread] using hother
    exact h.dispatch hnot.1 hnot.2 hdispatch

/-- The device gets an MMAP command: a mapping is made and the answer has its
address, or nothing is done and the answer is an error. -/
inductive Mapped (t t' : Tracked) : List UInt8 → Prop where
  | failed (e : Int) (ht : t' = t) : Mapped t t' (respHeader e)
  | created (offset : UInt32) (fd : Nat) (rw : Bool) (a : Except Int UInt64) {addr len : UInt64}
    (hfresh : AnswersFresh t (.create offset fd rw a))
    (hok : (t.create offset fd rw a).1 = .ok (addr, len))
    (ht : t' = (t.create offset fd rw a).2) : Mapped t t' (mmapResp addr len)

theorem length_mmapResp (addr len : UInt64) : (mmapResp addr len).length = 24 := by
  simp only [mmapResp, List.length_append, Codec.length_enc, length_respHeader]
  rfl

/-- The response to MMAP. -/
def mmapResponse : Except Int (UInt64 × UInt64) → List UInt8
  | .ok (addr, len) => mmapResp addr len
  | .error e => respHeader e

/-- What the response of a `do_mmap` says is what it did. -/
theorem Maps.mapped {t t' : Tracked} {flags offset : UInt32} {res : Except Int (UInt64 × UInt64)}
    (h : Maps t flags offset res t') : Mapped t t' (mmapResponse res) := by
  cases h with
  | refused e => exact .failed e rfl
  | created fd answer hfresh =>
      rcases Tracked.create_cases t offset fd (flags &&& mmapFlagRw != 0) answer with
        ⟨e, herr⟩ | ⟨addr, len, hok, -⟩
      · rw [herr]
        exact .failed einval rfl
      · rw [hok]
        exact .created offset fd _ answer hfresh hok rfl

/-- MMAP for a session that is open. -/
theorem mmapArm_eq {id flags offset : UInt32} {w : Writer} {σ : Owned S}
    (hs : r.sessions id = some σ) :
    Runner.mmapArm env r id flags offset w =
      let p := env.doMmap r.device σ.session flags offset
      let q := env.write w (mmapResponse p.1)
      (q.1, r.putSession id σ p.2.2 p.2.1, q.2) := by
  rw [Runner.mmapArm, hs]
  dsimp only
  cases (env.doMmap r.device σ.session flags offset).1 <;> rfl

/-- The MMAP command, byte by byte. -/
theorem MapsMemory.mmap (h : MapsMemory env tracked) {pad : UInt32} {cmd : MmapCmd}
    {response : List UInt8}
    (hcmd : Stack.command env overflowChecks r (mmapBytes pad cmd) 24 = some (r', response)) :
    Mapped (tracked r.device) (tracked r'.device) response := by
  have hroom : ∀ {t t' : Tracked} {response : List UInt8}, Mapped t t' response →
      response.length ≤ 24 := by
    intro t t' response hm
    cases hm with
    | failed e _ => exact (length_respHeader e).trans_le (by decide)
    | created _ _ _ _ _ _ _ => exact (length_mmapResp _ _).le
  have hread : mmapCmd.read (mmapCmd.enc (cmd.sessionId, cmd.flags, cmd.offset)) =
      some ((cmd.sessionId, cmd.flags, cmd.offset), []) := by
    simpa using mmapCmd.read_enc_append (cmd.sessionId, cmd.flags, cmd.offset) []
  have hhandle : r.handleCommand env overflowChecks (mmapBytes pad cmd) ⟨24, []⟩ =
      some (let a := Runner.mmapArm env r cmd.sessionId cmd.flags cmd.offset ⟨24, []⟩
        (a.2.1, if a.1 then a.2.2 else (env.write a.2.2 (respHeader einval)).2)) := by
    rw [Runner.handleCommand, mmapBytes, Codec.read_enc_append]
    simp only [Runner.dispatch, show ¬ cmdMmap = cmdOpen by decide,
      show ¬ cmdMmap = cmdClose by decide, show ¬ cmdMmap = cmdIoctl by decide, if_false, if_true,
      hread, Option.map_some]
  unfold Stack.command at hcmd
  rw [hhandle] at hcmd
  cases hs : r.sessions cmd.sessionId with
  | none =>
      have hm : Mapped (tracked r.device) (tracked r.device) (respHeader einval) := .failed _ rfl
      simp only [Runner.mmapArm, hs, h.write, Writer.write_empty (hroom hm), if_true,
        Option.map_some] at hcmd
      obtain ⟨rfl, rfl⟩ := Prod.mk.inj (Option.some.inj hcmd)
      exact hm
  | some σ =>
      have hm := (h.doMmap r.device σ.session cmd.flags cmd.offset).mapped
      simp only [mmapArm_eq hs, h.write, Writer.write_empty (hroom hm), if_true,
        Option.map_some] at hcmd
      obtain ⟨rfl, rfl⟩ := Prod.mk.inj (Option.some.inj hcmd)
      exact hm

/-- The MUNMAP command, byte by byte. -/
theorem MapsMemory.munmap (h : MapsMemory env tracked) {pad : UInt32} {addr : UInt64}
    {response : List UInt8}
    (hcmd : Stack.command env overflowChecks r (munmapBytes pad addr) 8 = some (r', response)) :
    tracked r'.device = ((tracked r.device).remove addr).2 := by
  have hread : Codec.u64.read (Codec.u64.enc addr) = some (addr, []) := by
    simpa using Codec.u64.read_enc_append addr []
  have hhandle : r.handleCommand env overflowChecks (munmapBytes pad addr) ⟨8, []⟩ =
      some (let a := Runner.munmapArm env r addr ⟨8, []⟩
        (a.2.1, if a.1 then a.2.2 else (env.write a.2.2 (respHeader einval)).2)) := by
    rw [Runner.handleCommand, munmapBytes, Codec.read_enc_append]
    simp only [Runner.dispatch, show ¬ cmdMunmap = cmdOpen by decide,
      show ¬ cmdMunmap = cmdClose by decide, show ¬ cmdMunmap = cmdIoctl by decide,
      show ¬ cmdMunmap = cmdMmap by decide, if_false, if_true, hread, Option.map_some]
  unfold Stack.command at hcmd
  rw [hhandle] at hcmd
  obtain ⟨rfl, -⟩ := Prod.mk.inj (Option.some.inj hcmd)
  exact (h.doMunmap r.device addr).2

end Commands

/-! ### What a step of the driver does to the mappings -/

theorem mmapRespOf_mmapResp (addr len : UInt64) : mmapRespOf (mmapResp addr len) = ⟨addr, len⟩ := by
  have hlen : ∀ n, (Codec.u64.enc n).length = 8 := Codec.u64.length_enc
  have hhead : (respHeader 0).length = 8 := length_respHeader 0
  have hdrop : (mmapResp addr len).drop 16 = Codec.u64.enc len :=
    List.drop_left' (by rw [List.length_append, hhead, hlen])
  have hfirst : ((mmapResp addr len).drop 8).take 8 = Codec.u64.enc addr := by
    rw [mmapResp, List.append_assoc, List.drop_left' hhead, List.take_left' (hlen addr)]
  rw [mmapRespOf, hfirst, hdrop, Codec.u64.dec_enc, List.take_of_length_le (hlen len).le,
    Codec.u64.dec_enc]

theorem answer_mmapResp (addr len : UInt64) : answer (mmapResp addr len) = .answered 0 24 := by
  rw [mmapResp, List.append_assoc, answer_append, List.length_append, Codec.u64.length_enc,
    Codec.u64.length_enc]
  rfl

/-- A response that is too short is a failure. -/
theorem sendCommand_ne_zero {vv : Driver.Device} {n respLen : Nat} {status : UInt32}
    (h : respLen < n) : (vv.sendCommand n (.answered status respLen)).1 ≠ 0 := by
  have hkick : ∃ ret, kickCommand (.answered status respLen) = (ret, respLen, false) := by
    by_cases hlen : respLen < 8
    · exact ⟨_, if_pos hlen⟩
    · exact ⟨_, if_neg hlen⟩
  obtain ⟨ret, hkick⟩ := hkick
  unfold Driver.Device.sendCommand
  rw [hkick]
  by_cases hd : vv.disconnected = true
  · rw [if_pos hd]
    exact show -enodev ≠ 0 by decide
  · by_cases hret : ret < 0
    · simp only [if_neg hd, if_pos hret]
      exact hret.ne
    · simp only [if_neg hd, if_neg hret, if_pos h]
      decide

/-- The mappings after the successful MMAP command of a step, if there is one. -/
inductive Made (t : Tracked) : Tracked → List (MmapCmd × MmapResp) → Prop where
  | none : Made t t []
  | created (offset : UInt32) (fd : Nat) (rw : Bool) (a : Except Int UInt64) {len : UInt64}
    (m : MmapCmd × MmapResp) (hfresh : AnswersFresh t (.create offset fd rw a))
    (hok : (t.create offset fd rw a).1 = .ok (m.2.driverAddr, len)) :
    Made t (t.create offset fd rw a).2 [m]

/-- The mappings after the MUNMAP command of a step, if there is one. -/
inductive Undone (t : Tracked) : Tracked → List UInt64 → Prop where
  | none : Undone t t []
  | removed (addr : UInt64) : Undone t (t.remove addr).2 [addr]

section Effect

variable {env : RunnerEnv D S P Writer} {tracked : D → Tracked} {overflowChecks shmExport : Bool}
  {s s' : MapStack D S P} {act : MapAct} {pad : UInt32}

/-- The host makes and removes the mappings that the driver logs. -/
theorem driverStep_effect (h : MapsMemory env tracked)
    (hstep : s.driverStep env overflowChecks shmExport act pad = some s') :
    ∃ t made undone act', s.driver.step shmExport act' = some s'.driver ∧
      s.driver.Sends s'.driver made undone ∧ Made (tracked s.runner.device) t made ∧
      Undone t (tracked s'.runner.device) undone := by
  unfold MapStack.driverStep at hstep
  obtain ⟨⟨r, response⟩, hmmap, hstep⟩ := Option.bind_eq_some_iff.mp hstep
  obtain ⟨⟨r', response'⟩, hmunmap, hstep⟩ := Option.bind_eq_some_iff.mp hstep
  obtain ⟨vv, hdriver, hstep⟩ := Option.bind_eq_some_iff.mp hstep
  obtain rfl := Option.some.inj hstep
  obtain ⟨made, undone, hcmds⟩ := Device.step_commands rfl rfl hdriver
  refine ⟨tracked r.device, made, undone, _, hdriver, hcmds.toSends, ?_, ?_⟩
  · -- the MMAP command is logged if and only if it was successful
    cases hcmd : act.mmapCmd? shmExport s.driver with
    | none =>
        rw [hcmd] at hmmap
        obtain ⟨rfl, rfl⟩ := Prod.mk.inj (Option.some.inj hmmap)
        rcases hcmds.made_cases with ⟨rfl, -⟩ | ⟨cmd, hsome, -⟩
        · exact .none
        · rw [hcmd] at hsome
          cases hsome
    | some cmd =>
        rw [hcmd] at hmmap
        cases h.mmap hmmap with
        | failed e ht =>
            rw [ht]
            rcases hcmds.made_cases with ⟨rfl, -⟩ | ⟨-, -, -, -, hzero⟩
            · exact .none
            · rw [answer_respHeader] at hzero
              exact absurd hzero (sendCommand_ne_zero (by decide))
        | @created offset fd rw a addr len hfresh hok ht =>
            rw [ht]
            rcases hcmds.made_cases with ⟨-, hne⟩ | ⟨cmd', -, rfl, -, -⟩
            · obtain ⟨hconn, hne⟩ := hne cmd hcmd
              refine absurd ?_ hne
              dsimp only
              rw [answer_mmapResp, sendCommand_zero hconn (by decide)]
              rfl
            · have hresp : (mmapRespOf (mmapResp addr len)).driverAddr = addr := by
                rw [mmapRespOf_mmapResp]
              exact .created offset fd rw a _ hfresh (hresp.symm ▸ hok)
  · rcases hcmds.undone_cases with rfl | rfl
    · rw [if_pos (by rw [hcmds.munmaps, List.append_nil])]
      exact .none
    · rw [if_neg (by rw [hcmds.munmaps, List.length_append, List.length_singleton]; omega)]
      rw [h.munmap hmunmap]
      exact .removed _

end Effect

/-! ### The two sides agree -/

/-- Calls of the mapper are not counted. -/
theorem count_calls (calls : List MapperCall) (log : List MapEvent) (a : UInt64) :
    (calls.map MapEvent.call ++ log).count (.created a) = log.count (.created a) ∧
      (calls.map MapEvent.call ++ log).count (.removed a) = log.count (.removed a) := by
  constructor <;>
  · rw [List.count_append, List.count_eq_zero.mpr (by simp), Nat.zero_add]

/-- The references of the host are the mappings made and not removed. -/
structure HostCounted (t : Tracked) : Prop where
  inv : TrackedInv t
  refs : ∀ a, t.manager.refsAt a + t.log.count (.removed a) = t.log.count (.created a)

namespace HostCounted

variable {t t' : Tracked}

theorem init : HostCounted .init := ⟨trackedInv_init, fun _ => rfl⟩

theorem rearranged (h : HostCounted t) (hr : Rearranged t t') : HostCounted t' := by
  obtain ⟨hinv, hlog, hrefs⟩ := hr.keeps h.inv
  exact ⟨hinv, fun a => by rw [hrefs, hlog, h.refs]⟩

/-- A mapping that is made is counted. -/
theorem create (h : HostCounted t) {offset : UInt32} {fd : Nat} {rw : Bool} {a : Except Int UInt64}
    {addr len : UInt64} (hfresh : AnswersFresh t (.create offset fd rw a))
    (hok : (t.create offset fd rw a).1 = .ok (addr, len)) :
    HostCounted (t.create offset fd rw a).2 ∧
      (∀ a', (t.create offset fd rw a).2.log.count (.created a') =
        t.log.count (.created a') + if addr = a' then 1 else 0) ∧
      ∀ a', (t.create offset fd rw a).2.log.count (.removed a') = t.log.count (.removed a') := by
  rcases Tracked.create_cases t offset fd rw a with ⟨e, he⟩ |
    ⟨addr', len', hok', hrefs, calls, hlog, -⟩
  · rw [he] at hok
    cases hok
  · obtain ⟨rfl, -⟩ := Prod.mk.inj (Except.ok.inj (hok'.symm.trans hok))
    have hcreated : ∀ a', (t.create offset fd rw a).2.log.count (.created a') =
        t.log.count (.created a') + if addr' = a' then 1 else 0 := by
      intro a'
      rw [hlog, List.count_cons, (count_calls calls t.log a').1]
      simp
    have hremoved : ∀ a', (t.create offset fd rw a).2.log.count (.removed a') =
        t.log.count (.removed a') := by
      intro a'
      rw [hlog, List.count_cons, (count_calls calls t.log a').2]
      simp
    refine ⟨⟨h.inv.create hfresh, fun a' => ?_⟩, hcreated, hremoved⟩
    have := h.refs a'
    rw [hrefs, hcreated, hremoved]
    omega

/-- A mapping that is removed is counted, and any other address is refused. -/
theorem remove (h : HostCounted t) (addr : UInt64) : HostCounted (t.remove addr).2 := by
  refine ⟨h.inv.remove addr, fun a => ?_⟩
  have hrefs := h.refs a
  by_cases hzero : t.manager.refsAt addr = 0
  · rw [Tracked.remove_error h.inv hzero]
    exact hrefs
  · obtain ⟨-, -, hless, calls, hlog, -⟩ := Tracked.remove_cases h.inv (Nat.pos_of_ne_zero hzero)
    have hless := hless a
    rw [hlog, List.count_cons, List.count_cons, (count_calls calls t.log a).1,
      (count_calls calls t.log a).2]
    simp only [beq_iff_eq, MapEvent.removed.injEq, reduceCtorEq, if_false]
    omega

/-- A mapping with references is removed. -/
theorem remove_log (h : HostCounted t) {addr : UInt64} (hpos : 0 < t.manager.refsAt addr)
    (a : UInt64) :
    (t.remove addr).2.log.count (.created a) = t.log.count (.created a) ∧
      (t.remove addr).2.log.count (.removed a) =
        t.log.count (.removed a) + if addr = a then 1 else 0 := by
  obtain ⟨-, -, -, calls, hlog, -⟩ := Tracked.remove_cases h.inv hpos
  rw [hlog, List.count_cons, List.count_cons, (count_calls calls t.log a).1,
    (count_calls calls t.log a).2]
  simp

end HostCounted

/-- What the driver has logged is what the host has done, while they are connected. -/
structure Agreed (vv : Driver.Device) (t : Tracked) : Prop where
  host : HostCounted t
  settled : vv.Settled
  made : vv.disconnected = false → ∀ a, t.log.count (.created a) = vv.mapped.count a
  undone : vv.disconnected = false → ∀ a, t.log.count (.removed a) = vv.munmaps.count a

namespace Agreed

variable {vv vv' : Driver.Device} {t t₁ t' : Tracked}

theorem init (region : ShmRegion) : Agreed (.init region) .init where
  host := .init
  settled := fun _ => Device.balanced_init region
  made := fun _ _ => rfl
  undone := fun _ _ => rfl

theorem rearranged (h : Agreed vv t) (hr : Rearranged t t') : Agreed vv t' where
  host := h.host.rearranged hr
  settled := h.settled
  made := fun hconn a => by rw [(hr.keeps h.host.inv).2.1, h.made hconn]
  undone := fun hconn a => by rw [(hr.keeps h.host.inv).2.1, h.undone hconn]

/-- The host has as many references as the driver needs. -/
theorem refs (h : Agreed vv t) (hconn : vv.disconnected = false) (a : UInt64) :
    t.manager.refsAt a = vv.outstanding.count a := by
  have hperm := (h.settled hconn).addresses.count_eq a
  have hrefs := h.host.refs a
  rw [List.count_append] at hperm
  rw [h.made hconn, h.undone hconn] at hrefs
  omega

/-- Before it is removed, an address has as many references as the driver needs
after that, and one more. -/
theorem refs_before {made : List (MmapCmd × MmapResp)} {addr : UInt64}
    (h : HostCounted t₁) (hsettled : vv'.Settled) (hconn : vv'.disconnected = false)
    (hsends : vv.Sends vv' made [addr])
    (hmade : ∀ a, t₁.log.count (.created a) = vv'.mapped.count a)
    (hundone : ∀ a, t₁.log.count (.removed a) = vv.munmaps.count a) (a : UInt64) :
    t₁.manager.refsAt a = vv'.outstanding.count a + if addr = a then 1 else 0 := by
  have hperm := (hsettled hconn).addresses.count_eq a
  have hrefs := h.refs a
  rw [hsends.munmaps, List.count_append, List.count_append, List.count_singleton] at hperm
  rw [hmade, hundone] at hrefs
  simp only [beq_iff_eq] at hperm
  omega

/-- A device that is gone does not come back. -/
theorem connected_of_step {shmExport : Bool} {act : MapAct}
    (hstep : vv.step shmExport act = some vv') (hconn : vv'.disconnected = false) :
    vv.disconnected = false := by
  by_contra hd
  rw [Device.disconnected_step (Bool.not_eq_false _ ▸ hd) hstep] at hconn
  cases hconn

/-- A successful MMAP command. -/
theorem made_step {made : List (MmapCmd × MmapResp)} {undone : List UInt64} (h : Agreed vv t)
    (hsends : vv.Sends vv' made undone) (hmade : Made t t₁ made) :
    HostCounted t₁ ∧ (vv.disconnected = false → ∀ a,
      t₁.log.count (.created a) = vv'.mapped.count a ∧
        t₁.log.count (.removed a) = vv.munmaps.count a) := by
  have hmapped : vv'.mapped = vv.mapped ++ made.map fun m => m.2.driverAddr := by
    rw [Device.mapped, hsends.mmaps, List.map_append]
    rfl
  cases hmade with
  | none =>
      rw [List.map_nil, List.append_nil] at hmapped
      rw [hmapped]
      exact ⟨h.host, fun hconn a => ⟨h.made hconn a, h.undone hconn a⟩⟩
  | created offset fd rw a m hfresh hok =>
      obtain ⟨hhost, hcreated, hremoved⟩ := h.host.create hfresh hok
      refine ⟨hhost, fun hconn a' => ⟨?_, ?_⟩⟩
      · rw [hcreated, h.made hconn, hmapped, List.count_append, List.map_singleton,
          List.count_singleton]
        simp only [beq_iff_eq]
      · rw [hremoved, h.undone hconn]

/-- The driver has logged what the host has done in this step. -/
theorem step {shmExport : Bool} {act : MapAct} {made : List (MmapCmd × MmapResp)}
    {undone : List UInt64} (h : Agreed vv t) (hstep : vv.step shmExport act = some vv')
    (hsends : vv.Sends vv' made undone) (hmade : Made t t₁ made) (hundone : Undone t₁ t' undone) :
    Agreed vv' t' := by
  obtain ⟨hhost, hlogged⟩ := h.made_step hsends hmade
  have hsettled : vv'.Settled := fun hconn =>
    Device.settled_step shmExport vv act vv' (h.settled (connected_of_step hstep hconn)) hstep hconn
  cases hundone with
  | none =>
      have hmunmaps : vv'.munmaps = vv.munmaps := by rw [hsends.munmaps, List.append_nil]
      exact ⟨hhost, hsettled, fun hconn a => (hlogged (connected_of_step hstep hconn) a).1,
        fun hconn a => hmunmaps ▸ (hlogged (connected_of_step hstep hconn) a).2⟩
  | removed addr =>
      have hlog : vv'.disconnected = false → ∀ a,
          (t₁.remove addr).2.log.count (.created a) = vv'.mapped.count a ∧
            (t₁.remove addr).2.log.count (.removed a) = vv'.munmaps.count a := by
        intro hconn a
        have hlogged := hlogged (connected_of_step hstep hconn)
        have hrefs := refs_before hhost hsettled hconn hsends (fun a => (hlogged a).1)
          (fun a => (hlogged a).2) addr
        rw [if_pos rfl] at hrefs
        have hpos : 0 < t₁.manager.refsAt addr := by omega
        obtain ⟨hcreated, hremoved⟩ := hhost.remove_log hpos a
        rw [hcreated, hremoved, (hlogged a).1, (hlogged a).2, hsends.munmaps, List.count_append,
          List.count_singleton]
        simp only [beq_iff_eq, and_self]
      exact ⟨hhost.remove addr, hsettled, fun hconn a => (hlog hconn a).1,
        fun hconn a => (hlog hconn a).2⟩

/-- The mapper is not called for an address that the driver needs before and after
the step. -/
theorem mapperCalls_step {shmExport : Bool} {act : MapAct} {made : List (MmapCmd × MmapResp)}
    {undone : List UInt64} (h : Agreed vv t) (hstep : vv.step shmExport act = some vv')
    (hsends : vv.Sends vv' made undone) (hmade : Made t t₁ made) (hundone : Undone t₁ t' undone)
    (hconn : vv'.disconnected = false) {a : UInt64} (ha : a ∈ vv.outstanding)
    (ha' : a ∈ vv'.outstanding) : mapperCalls t'.log a = mapperCalls t.log a := by
  have hconn₀ := connected_of_step hstep hconn
  obtain ⟨hhost, hlogged⟩ := h.made_step hsends hmade
  have hlive : live t.log a = true := by
    rw [h.host.inv.live_iff, h.refs hconn₀]
    exact List.count_pos_iff.mpr ha
  have hfirst : mapperCalls t₁.log a = mapperCalls t.log a := by
    cases hmade with
    | none => rfl
    | created offset fd rw answer m hfresh _ => exact Tracked.mapperCalls_create hfresh hlive
  rw [← hfirst]
  cases hundone with
  | none => rfl
  | removed addr =>
      refine Tracked.mapperCalls_remove hhost.inv fun haddr => ?_
      have hsettled : vv'.Settled := fun hconn =>
        Device.settled_step shmExport vv act vv' (h.settled hconn₀) hstep hconn
      have hrefs := refs_before hhost hsettled hconn hsends (fun a => (hlogged hconn₀ a).1)
        (fun a => (hlogged hconn₀ a).2) a
      have hpos := List.count_pos_iff.mpr ha'
      rw [if_pos haddr] at hrefs
      omega

end Agreed

/-! ### Runs -/

namespace MapStack

variable {env : RunnerEnv D S P Writer} {tracked : D → Tracked} {overflowChecks shmExport : Bool}
  {s s' : MapStack D S P}

/-- The host side of a step, and what follows for an address that the driver needs. -/
theorem step_agreed (h : MapsMemory env tracked) {act : MapStackAct}
    (hs : Agreed s.driver (tracked s.runner.device))
    (hstep : s.step env overflowChecks shmExport act = some s') :
    Agreed s'.driver (tracked s'.runner.device) ∧
      (s'.driver.disconnected = false → s.driver.disconnected = false) ∧
      ∀ a ∈ s.driver.outstanding, a ∈ s'.driver.outstanding → s'.driver.disconnected = false →
        mapperCalls (tracked s'.runner.device).log a =
          mapperCalls (tracked s.runner.device).log a := by
  cases act with
  | driver act pad =>
      obtain ⟨t₁, made, undone, act', hdriver, hsends, hmade, hundone⟩ :=
        driverStep_effect h hstep
      exact ⟨hs.step hdriver hsends hmade hundone, Agreed.connected_of_step hdriver,
        fun a ha ha' hconn => hs.mapperCalls_step hdriver hsends hmade hundone hconn ha ha'⟩
  | command input room =>
      simp only [step] at hstep
      split_ifs at hstep with hother
      obtain ⟨⟨r, response⟩, hcmd, rfl⟩ := Option.map_eq_some_iff.mp hstep
      have hr := h.command (Bool.not_eq_true _ ▸ hother) hcmd
      exact ⟨hs.rearranged hr, id, fun a _ _ _ => by rw [(hr.keeps hs.host.inv).2.1]⟩

/-- By induction on the run. -/
theorem run_agreed (h : MapsMemory env tracked) {acts : List MapStackAct}
    (hs : Agreed s.driver (tracked s.runner.device))
    (hrun : Trace.run (step env overflowChecks shmExport) s acts = some s') :
    Agreed s'.driver (tracked s'.runner.device) :=
  Trace.run_invariant
    (P := fun s : MapStack D S P => Agreed s.driver (tracked s.runner.device))
    (fun _ _ _ hs hstep => (step_agreed h hs hstep).1) hs hrun

theorem connected_of_run (h : MapsMemory env tracked) {acts : List MapStackAct}
    (hs : Agreed s.driver (tracked s.runner.device))
    (hrun : Trace.run (step env overflowChecks shmExport) s acts = some s')
    (hconn : s'.driver.disconnected = false) : s.driver.disconnected = false := by
  induction acts generalizing s with
  | nil =>
      cases hrun
      exact hconn
  | cons act rest ih =>
      obtain ⟨s₁, hstep, hrun⟩ := Trace.run_cons_eq_some.mp hrun
      obtain ⟨hs₁, hback, -⟩ := step_agreed h hs hstep
      exact hback (ih hs₁ hrun)

/-- In every run, while the queues are not stopped, the host maps an address as often
as the mappings and the exports of the driver need it, and the mapper maps it
exactly if one of them does. Every MMAP and every MUNMAP of the driver's log was
successful at the host, and the host served no others. -/
theorem mappings_agree (h : MapsMemory env tracked) (region : ShmRegion) (r : Runner D S P)
    (hr : tracked r.device = .init) (acts : List MapStackAct)
    (hrun : Trace.run (step env overflowChecks shmExport) ⟨.init region, r⟩ acts = some s)
    (hconn : s.driver.disconnected = false) (a : UInt64) :
    (tracked s.runner.device).manager.refsAt a = s.driver.outstanding.count a ∧
      (live (tracked s.runner.device).log a = true ↔ a ∈ s.driver.outstanding) ∧
      (tracked s.runner.device).log.count (.created a) = s.driver.mapped.count a ∧
      (tracked s.runner.device).log.count (.removed a) = s.driver.munmaps.count a := by
  have hs : Agreed s.driver (tracked s.runner.device) :=
    run_agreed h (hr.symm ▸ Agreed.init region) hrun
  have hrefs := hs.refs hconn a
  refine ⟨hrefs, ?_, hs.made hconn a, hs.undone hconn a⟩
  rw [hs.host.inv.live_iff, hrefs]
  exact List.count_pos_iff

/-- In every run, as long as the driver needs an address, the mapper is not called
for it: the memory there is that for which it was mapped. -/
theorem mapped_memory_stays (h : MapsMemory env tracked) (region : ShmRegion) (r : Runner D S P)
    (hr : tracked r.device = .init) (acts acts' : List MapStackAct)
    (hrun : Trace.run (step env overflowChecks shmExport) ⟨.init region, r⟩ acts = some s)
    (hrun' : Trace.run (step env overflowChecks shmExport) s acts' = some s')
    (hconn : s'.driver.disconnected = false) (a : UInt64)
    (hneeded : Trace.Conforms (step env overflowChecks shmExport)
      (fun s _ => a ∈ s.driver.outstanding) s acts')
    (ha : a ∈ s'.driver.outstanding) :
    mapperCalls (tracked s'.runner.device).log a = mapperCalls (tracked s.runner.device).log a := by
  have hs : Agreed s.driver (tracked s.runner.device) :=
    run_agreed h (hr.symm ▸ Agreed.init region) hrun
  clear hrun
  induction acts' generalizing s with
  | nil =>
      cases hrun'
      rfl
  | cons act rest ih =>
      obtain ⟨s₁, hstep, hrest⟩ := Trace.run_cons_eq_some.mp hrun'
      obtain ⟨hs₁, -, hsame⟩ := step_agreed h hs hstep
      have ha₁ : a ∈ s₁.driver.outstanding := by
        cases rest with
        | nil =>
            cases hrest
            exact ha
        | cons act' rest' => exact (hneeded.2 s₁ hstep).1
      rw [ih hrest (hneeded.2 s₁ hstep) hs₁]
      exact hsame a hneeded.1 ha₁ (connected_of_run h hs₁ hrest hconn)

end MapStack

end VirtioMedia.Stack
