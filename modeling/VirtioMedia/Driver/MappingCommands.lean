import VirtioMedia.Driver.MappingBalance

/-!
# The commands of a step

Which MMAP and MUNMAP commands a step of the driver sends, if the device answers
every command: one MMAP at most, and one MUNMAP at most after it.
-/

namespace VirtioMedia.Driver

open V4l2

/-- What the device answers to the commands of a step. -/
structure MmapReply where
  answer : Answer
  resp : MmapResp
  munmapAnswer : Answer

/-- The MMAP command that a step sends. -/
def MapAct.mmapCmd? (shmExport : Bool) (vv : Device) : MapAct → Option MmapCmd
  | .mmap sessionId vma _ =>
    if !vma.shared || !(vma.read || vma.write) || vv.mmapRegion.len == 0 || vv.disconnected then
      none
    else some (vma.mmapCmd sessionId)
  | .expbuf sessionId s b env =>
    let (ret, query) := querybuf s env.queryRet env.queryReply
    if !shmExport || b.invalid s || env.unusedFd < 0 ||
        vv.exports.any (Export.serves sessionId b) || ret != 0 || vv.disconnected then none
    else (env.plane b query).map fun p => b.mmapCmd sessionId p.1
  | _ => none

/-- The address of the MUNMAP command of a step, if it sends one: that of the
mapping or the export that is released, or that of the answer to its MMAP. -/
def MapAct.munmapAddr (vv : Device) (resp : MmapResp) : MapAct → UInt64
  | .vmaCloseLocked i _ => (vv.live[i]?.map (·.offset)).getD resp.driverAddr
  | .exportRelease i _ => (vv.exports[i]?.map (·.offset)).getD resp.driverAddr
  | _ => resp.driverAddr

/-- The step with these answers. -/
def MapAct.withReply (ρ : MmapReply) : MapAct → MapAct
  | .mmap sessionId vma env =>
    .mmap sessionId vma
      { env with answer := ρ.answer, resp := ρ.resp, munmapAnswer := ρ.munmapAnswer }
  | .expbuf sessionId s b env =>
    .expbuf sessionId s b
      { env with answer := ρ.answer, resp := ρ.resp, munmapAnswer := ρ.munmapAnswer }
  | .vmaCloseLocked i _ => .vmaCloseLocked i ρ.munmapAnswer
  | .exportRelease i _ => .exportRelease i ρ.munmapAnswer
  | act => act

def Answer.isAnswered : Answer → Bool
  | .answered _ _ => true
  | _ => false

/-- The new entries of the logs of commands. -/
structure Device.Sends (vv vv' : Device) (made : List (MmapCmd × MmapResp))
    (undone : List UInt64) : Prop where
  mmaps : vv'.mmaps = vv.mmaps ++ made
  munmaps : vv'.munmaps = vv.munmaps ++ undone

/-- The commands of a step with a reply. The MMAP command is logged if it was
successful. -/
structure Device.Commands (vv vv' : Device) (cmd? : Option MmapCmd) (addr : UInt64) (ρ : MmapReply)
    (made : List (MmapCmd × MmapResp)) (undone : List UInt64) : Prop
    extends vv.Sends vv' made undone where
  made_cases : (made = [] ∧ ∀ cmd, cmd? = some cmd →
      vv.disconnected = false ∧ (vv.sendCommand 24 ρ.answer).1 ≠ 0) ∨
    ∃ cmd, cmd? = some cmd ∧ made = [(cmd, ρ.resp)] ∧ vv.disconnected = false ∧
      (vv.sendCommand 24 ρ.answer).1 = 0
  undone_cases : undone = [] ∨ undone = [addr]

namespace Device

variable {vv vv' : Device} {ρ : MmapReply} {addr : UInt64}

/-- An answered command changes nothing. -/
theorem sendCommand_answered_eq (n : Nat) {a : Answer} (ha : a.isAnswered = true) :
    (vv.sendCommand n a).2 = vv := by
  cases a with
  | rejected | timeout | stopped => cases ha
  | answered status respLen =>
      obtain ⟨ret, hkick⟩ :
          ∃ ret, kickCommand (.answered status respLen) = (ret, respLen, false) := by
        by_cases hlen : respLen < 8
        · exact ⟨_, if_pos hlen⟩
        · exact ⟨_, if_neg hlen⟩
      unfold sendCommand
      rw [hkick]
      dsimp only
      split_ifs <;> first | rfl | contradiction

/-- No command. -/
theorem Commands.none_of_eq (hmmaps : vv'.mmaps = vv.mmaps) (hmunmaps : vv'.munmaps = vv.munmaps) :
    vv.Commands vv' none addr ρ [] [] where
  mmaps := by rw [hmmaps, List.append_nil]
  munmaps := by rw [hmunmaps, List.append_nil]
  made_cases := .inl ⟨rfl, fun _ h => by cases h⟩
  undone_cases := .inl rfl

/-- An MMAP command that fails. -/
theorem Commands.failed {cmd : MmapCmd} (hconn : vv.disconnected = false)
    (hne : (vv.sendCommand 24 ρ.answer).1 ≠ 0) : vv.Commands vv (some cmd) addr ρ [] [] where
  mmaps := (List.append_nil _).symm
  munmaps := (List.append_nil _).symm
  made_cases := .inl ⟨rfl, fun _ _ => ⟨hconn, hne⟩⟩
  undone_cases := .inl rfl

/-- What follows a successful MMAP command: nothing more, or the MUNMAP that undoes
it. -/
theorem Commands.of_mmap {cmd : MmapCmd} (hconn : vv.disconnected = false)
    (hzero : (vv.sendCommand 24 ρ.answer).1 = 0) {undone : List UInt64}
    (hs : ({ vv with mmaps := vv.mmaps ++ [(cmd, ρ.resp)] } : Device).Sends vv' [] undone)
    (hundone : undone = [] ∨ undone = [addr]) :
    vv.Commands vv' (some cmd) addr ρ [(cmd, ρ.resp)] undone where
  mmaps := by rw [hs.mmaps, List.append_nil]
  munmaps := hs.munmaps
  made_cases := .inr ⟨cmd, rfl, rfl, hconn, hzero⟩
  undone_cases := hundone

/-- `virtio_media_munmap_locked` on a connected device sends one MUNMAP. -/
theorem Sends.munmapLocked (hconn : vv.disconnected = false) {a : Answer}
    (ha : a.isAnswered = true) : vv.Sends (vv.munmapLocked addr a) [] [addr] := by
  have hd : ¬ vv.disconnected = true := by simp [hconn]
  unfold Device.munmapLocked
  rw [if_neg hd, sendCommand_answered_eq 8 ha]
  exact ⟨(List.append_nil _).symm, rfl⟩

theorem Sends.of_eq (hmmaps : vv'.mmaps = vv.mmaps) (hmunmaps : vv'.munmaps = vv.munmaps) :
    vv.Sends vv' [] [] :=
  ⟨by rw [hmmaps, List.append_nil], by rw [hmunmaps, List.append_nil]⟩

/-- `VIRTIO_MEDIA_CMD_MMAP` to a connected device. -/
theorem sendMmap_connected (cmd : MmapCmd) {a : Answer} (resp : MmapResp)
    (hconn : vv.disconnected = false) (ha : a.isAnswered = true) :
    ((vv.sendCommand 24 a).1 = 0 ∧ vv.sendMmap cmd a resp =
        (0, { vv with mmaps := vv.mmaps ++ [(cmd, resp)] })) ∨
      ∃ ret < 0, (vv.sendCommand 24 a).1 = ret ∧ vv.sendMmap cmd a resp = (ret, vv) := by
  have hnonpos := sendCommand_nonpos vv 24 a
  have hstate : (vv.sendCommand 24 a).2 = vv := sendCommand_answered_eq 24 ha
  unfold sendMmap
  rcases hs : vv.sendCommand 24 a with ⟨ret, vv₁⟩
  rw [hs] at hnonpos hstate
  dsimp only at hnonpos hstate ⊢
  subst hstate
  rcases hnonpos with rfl | hneg
  · exact .inl ⟨rfl, rfl⟩
  · have hne : ¬ (ret == 0) = true := by
      rw [beq_iff_eq]
      exact hneg.ne
    rw [if_neg hne]
    exact .inr ⟨ret, hneg, rfl, rfl⟩

/-! ### The calls -/

theorem sends_mapAnswer (shmExport : Bool) (vma : Vma) {env : MmapEnv}
    (hconn : vv.disconnected = false) (ha : env.munmapAnswer.isAnswered = true) :
    ∃ undone, (undone = [] ∨ undone = [env.resp.driverAddr]) ∧
      vv.Sends (mapAnswer shmExport vv vma env).2 [] undone := by
  have hundo : vv.Sends (vv.munmapLocked env.resp.driverAddr env.munmapAnswer) []
      [env.resp.driverAddr] := .munmapLocked hconn ha
  unfold mapAnswer
  cases env.takeBacking shmExport with
  | error e =>
      dsimp only
      split_ifs <;> exact ⟨_, .inr rfl, hundo⟩
  | ok backing =>
      dsimp only
      split_ifs
      · exact ⟨_, .inr rfl, hundo⟩
      · exact ⟨_, .inr rfl, hundo⟩
      · exact ⟨_, .inr rfl, hundo⟩
      · exact ⟨_, .inr rfl, hundo⟩
      · exact ⟨[], .inl rfl, .of_eq rfl rfl⟩

theorem sends_exportAnswer (sessionId : UInt32) (b : ExportBuffer) (length : UInt64)
    {env : ExpbufEnv} (hconn : vv.disconnected = false)
    (ha : env.munmapAnswer.isAnswered = true) :
    ∃ undone, (undone = [] ∨ undone = [env.resp.driverAddr]) ∧
      vv.Sends (exportAnswer vv sessionId b length env).2.2 [] undone := by
  have hundo : vv.Sends (vv.munmapLocked env.resp.driverAddr env.munmapAnswer) []
      [env.resp.driverAddr] := .munmapLocked hconn ha
  unfold exportAnswer
  cases env.shmExport with
  | error e =>
      dsimp only
      split_ifs <;> exact ⟨_, .inr rfl, hundo⟩
  | ok u =>
      dsimp only
      split_ifs
      · exact ⟨_, .inr rfl, hundo⟩
      · exact ⟨_, .inr rfl, hundo⟩
      · exact ⟨[], .inl rfl, .of_eq rfl rfl⟩

/-- A function that sends an MMAP command to a connected device and goes on with `f`. -/
theorem commands_sendMmap {cmd : MmapCmd} (hconn : vv.disconnected = false)
    (ha : ρ.answer.isAnswered = true) (f : Int × Device → Device)
    (hfail : ∀ ret < 0, f (ret, vv) = vv)
    (hok : ∃ undone, (undone = [] ∨ undone = [addr]) ∧
      ({ vv with mmaps := vv.mmaps ++ [(cmd, ρ.resp)] } : Device).Sends
        (f (0, { vv with mmaps := vv.mmaps ++ [(cmd, ρ.resp)] })) [] undone) :
    ∃ made undone, vv.Commands (f (vv.sendMmap cmd ρ.answer ρ.resp)) (some cmd) addr ρ made
      undone := by
  rcases sendMmap_connected cmd ρ.resp hconn ha with
    ⟨hzero, hs⟩ | ⟨ret, hneg, hret, hs⟩
  · obtain ⟨undone, hundone, hsends⟩ := hok
    rw [hs]
    exact ⟨_, undone, .of_mmap hconn hzero hsends hundone⟩
  · rw [hs, hfail ret hneg]
    exact ⟨_, _, .failed hconn (hret ▸ hneg.ne)⟩

theorem commands_deviceMmap (shmExport : Bool) (sessionId : UInt32) (vma : Vma) {env : MmapEnv}
    (ha : env.answer.isAnswered = true) (hm : env.munmapAnswer.isAnswered = true) :
    ∃ made undone, vv.Commands (deviceMmap shmExport vv sessionId vma env).2
      ((MapAct.mmap sessionId vma env).mmapCmd? shmExport vv) env.resp.driverAddr
      ⟨env.answer, env.resp, env.munmapAnswer⟩ made undone := by
  by_cases hc : (!vma.shared || !(vma.read || vma.write) || vv.mmapRegion.len == 0 ||
      vv.disconnected) = true
  · have hsame : (deviceMmap shmExport vv sessionId vma env).2 = vv := by
      unfold deviceMmap
      split_ifs with h₁ h₂ h₃
      · rfl
      · rfl
      · rfl
      · have hd : vv.disconnected = true := by simp_all
        rw [sendMmap_of_disconnected hd]
        rfl
    rw [MapAct.mmapCmd?, if_pos hc, hsame]
    exact ⟨_, _, .none_of_eq rfl rfl⟩
  · rw [MapAct.mmapCmd?, if_neg hc]
    simp only [Bool.or_eq_true, not_or, Bool.not_eq_true] at hc
    obtain ⟨⟨⟨h₁, h₂⟩, h₃⟩, hconn⟩ := hc
    simp only [deviceMmap, h₁, h₂, h₃, Bool.false_eq_true, if_false]
    refine commands_sendMmap (ρ := ⟨env.answer, env.resp, env.munmapAnswer⟩) hconn ha
      (fun p => (if p.1 < 0 then (p.1, p.2) else mapAnswer shmExport p.2 vma env).2) ?_ ?_
    · exact fun ret hneg => by rw [if_pos hneg]
    · rw [if_neg (lt_irrefl 0)]
      exact sends_mapAnswer shmExport vma hconn hm

theorem commands_expbuf (shmExport : Bool) (sessionId : UInt32) (s : Session) (b : ExportBuffer)
    {env : ExpbufEnv} (ha : env.answer.isAnswered = true)
    (hm : env.munmapAnswer.isAnswered = true) :
    ∃ made undone, vv.Commands (expbuf shmExport vv sessionId s b env).2.2
      ((MapAct.expbuf sessionId s b env).mmapCmd? shmExport vv) env.resp.driverAddr
      ⟨env.answer, env.resp, env.munmapAnswer⟩ made undone := by
  rcases hq : querybuf s env.queryRet env.queryReply with ⟨qret, query⟩
  by_cases hc : (!shmExport || b.invalid s || env.unusedFd < 0 ||
      vv.exports.any (Export.serves sessionId b) || qret != 0 || vv.disconnected) = true
  · have hsame : (expbuf shmExport vv sessionId s b env).2.2 = vv := by
      unfold expbuf expbufNew
      rw [hq]
      dsimp only
      split_ifs with h₁ h₂ h₃ h₄ h₅
      · rfl
      · rfl
      · rfl
      · rfl
      · rfl
      · have hd : vv.disconnected = true := by simp_all
        cases env.plane b query with
        | none => rfl
        | some p =>
            simp only [sendMmap_of_disconnected hd]
            rfl
    simp only [MapAct.mmapCmd?, hq, if_pos hc, hsame]
    exact ⟨_, _, .none_of_eq rfl rfl⟩
  · simp only [MapAct.mmapCmd?, hq, if_neg hc]
    simp only [Bool.or_eq_true, not_or, Bool.not_eq_true, decide_eq_true_eq, bne_eq_false_iff_eq]
      at hc
    obtain ⟨⟨⟨⟨⟨h₁, h₂⟩, h₃⟩, h₄⟩, h₅⟩, hconn⟩ := hc
    subst h₅
    simp only [expbuf, expbufNew, hq, h₁, h₂, h₃, h₄, Bool.false_eq_true, if_false]
    cases env.plane b query with
    | none => exact ⟨_, _, .none_of_eq rfl rfl⟩
    | some p =>
        obtain ⟨offset, length⟩ := p
        refine commands_sendMmap (ρ := ⟨env.answer, env.resp, env.munmapAnswer⟩) hconn ha
          (fun p => (if p.1 != 0 then (p.1, b, p.2)
            else exportAnswer p.2 sessionId b length env).2.2) ?_ ?_
        · exact fun ret hneg => by rw [if_pos (by simpa using hneg.ne)]
        · exact sends_exportAnswer sessionId b length hconn hm

/-- A release sends one MUNMAP if the device is connected. -/
theorem commands_release {a : Answer} (ha : a.isAnswered = true)
    (hmmaps : vv'.mmaps = vv.mmaps) (hmunmaps : vv'.munmaps = vv.munmaps) :
    ∃ undone, vv.Commands (if vv'.disconnected then vv' else vv'.munmapLocked addr a) none addr ρ []
      undone := by
  by_cases hd : vv'.disconnected = true
  · rw [if_pos hd]
    exact ⟨[], .none_of_eq hmmaps hmunmaps⟩
  · rw [if_neg hd]
    have hs : vv'.Sends (vv'.munmapLocked addr a) [] [addr] :=
      .munmapLocked (Bool.not_eq_true _ ▸ hd) ha
    exact ⟨[addr], ⟨by rw [hs.mmaps, hmmaps], by rw [hs.munmaps, hmunmaps]⟩,
      .inl ⟨rfl, fun _ h => by cases h⟩, .inr rfl⟩

/-- The commands of a step. -/
theorem step_commands {shmExport : Bool} {act : MapAct} (ha : ρ.answer.isAnswered = true)
    (hm : ρ.munmapAnswer.isAnswered = true)
    (hstep : vv.step shmExport (act.withReply ρ) = some vv') :
    ∃ made undone, vv.Commands vv' (act.mmapCmd? shmExport vv) (act.munmapAddr vv ρ.resp) ρ made
      undone := by
  cases act with
  | mmap sessionId vma env =>
      cases hstep
      exact commands_deviceMmap shmExport sessionId vma ha hm
  | expbuf sessionId s b env =>
      cases hstep
      exact commands_expbuf shmExport sessionId s b ha hm
  | vmaOpen i =>
      obtain ⟨m, hi, hm⟩ := Option.bind_eq_some_iff.mp hstep
      split_ifs at hm
      cases hm
      exact ⟨_, _, .none_of_eq rfl rfl⟩
  | vmaClose i =>
      obtain ⟨m, hi, hm⟩ := Option.bind_eq_some_iff.mp hstep
      split_ifs at hm
      cases hm
      exact ⟨_, _, .none_of_eq rfl rfl⟩
  | vmaCloseLocked i a =>
      obtain ⟨m, hi, hm'⟩ := Option.bind_eq_some_iff.mp hstep
      split_ifs at hm'
      cases hm'
      have haddr : (MapAct.vmaCloseLocked i a).munmapAddr vv ρ.resp = m.offset := by
        rw [MapAct.munmapAddr, hi]
        rfl
      rw [haddr]
      exact ⟨_, commands_release hm rfl rfl⟩
  | exportPut i =>
      obtain ⟨e, hi, he⟩ := Option.bind_eq_some_iff.mp hstep
      split_ifs at he
      cases he
      exact ⟨_, _, .none_of_eq rfl rfl⟩
  | exportRelease i a =>
      obtain ⟨e, hi, he⟩ := Option.bind_eq_some_iff.mp hstep
      split_ifs at he
      cases he
      have haddr : (MapAct.exportRelease i a).munmapAddr vv ρ.resp = e.offset := by
        rw [MapAct.munmapAddr, hi]
        rfl
      rw [haddr]
      exact ⟨_, commands_release hm rfl rfl⟩
  | stopQueues =>
      cases hstep
      exact ⟨_, _, .none_of_eq rfl rfl⟩

end Device

end VirtioMedia.Driver
