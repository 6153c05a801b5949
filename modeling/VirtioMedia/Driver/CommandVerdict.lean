import VirtioMedia.Driver.SendIoctls

/-!
# The verdict on a command

What `virtio_media_send_command` makes of the status and the length of a
response, and the three functions of `virtio_media_ioctls.c` that send a
payload of fixed length. The status is a `u32`, negated as such and returned
as an `int`: one above 2³¹ becomes a positive number, which neither the end of
`virtio_media_send_command` nor its callers take for a failure.
-/

namespace VirtioMedia.Driver

open V4l2 Wire

/-! ### Payloads of fixed length -/

/-- The chain of `virtio_media_send_r_ioctl`. -/
def rIoctlChain (env : Env) (session : SessionData) (pool : List Desc) (payload : Data) :
    Except Int Builder :=
  ((Builder.init pool).addData env session.cmdData).bind fun b =>
    (b.addData env session.respData).bind fun b => b.addData env payload

/-- The chain of `virtio_media_send_w_ioctl`. -/
def wIoctlChain (env : Env) (session : SessionData) (pool : List Desc) (payload : Data) :
    Except Int Builder :=
  ((Builder.init pool).addData env session.cmdData).bind fun b =>
    (b.addData env payload).bind fun b => b.addData env session.respData

/-- The chain of `virtio_media_send_wr_ioctl`. The payload is answered where it
was sent. -/
def wrIoctlChain (env : Env) (session : SessionData) (pool : List Desc) (payload : Data) :
    Except Int Builder :=
  (wIoctlChain env session pool payload).bind fun b => b.addDescriptor 1 []

/-- What the three functions do with a chain: the command, the test of its
value, and what is read back. -/
def sendChain (vv : Device) (chain : Except Int Builder) (minimumRespLen : Nat)
    (retrieve : Builder → Int) (a : Answer) : Int × Device :=
  match chain with
  | .error e => (e, vv)
  | .ok b =>
    let (ret, vv) := vv.sendCommand minimumRespLen a
    if ret < 0 then (ret, vv) else (retrieve b, vv)

/-- The value of `scatterlist_builder_retrieve_data`. -/
def Builder.retrieveRet (env : Env) (shadow : Nat → UInt8) (sgIndex : Nat) (b : Builder) : Int :=
  match b.retrieveData env shadow sgIndex with
  | .error e => e
  | .ok _ => 0

/-- `virtio_media_send_r_ioctl`. -/
def sendRIoctl (env : Env) (vv : Device) (session : SessionData) (pool : List Desc)
    (payload : Data) (a : Answer) (shadow : Nat → UInt8) : Int × Device :=
  sendChain vv (rIoctlChain env session pool payload) (respIoctlSize + payload.bytes.length)
    (fun b => b.retrieveRet env shadow 2) a

/-- `virtio_media_send_w_ioctl`. -/
def sendWIoctl (env : Env) (vv : Device) (session : SessionData) (pool : List Desc)
    (payload : Data) (a : Answer) : Int × Device :=
  sendChain vv (wIoctlChain env session pool payload) respIoctlSize (fun _ => 0) a

/-- `virtio_media_send_wr_ioctl`. -/
def sendWrIoctl (env : Env) (vv : Device) (session : SessionData) (pool : List Desc)
    (payload : Data) (minimumRespPayload : Nat) (a : Answer) (shadow : Nat → UInt8) :
    Int × Device :=
  sendChain vv (wrIoctlChain env session pool payload) (respIoctlSize + minimumRespPayload)
    (fun b => b.retrieveRet env shadow 3) a

/-! ### Chains that cannot be built -/

/-- Building fails only for want of space. -/
def OnlyEnospc (x : Except Int Builder) : Prop := ∀ e, x = .error e → e = -enospc

namespace OnlyEnospc

theorem bind {x : Except Int Builder} {f : Builder → Except Int Builder} (hx : OnlyEnospc x)
    (hf : ∀ b, OnlyEnospc (f b)) : OnlyEnospc (x.bind f) := by
  cases x with
  | error e => exact fun e' he => hx e' he
  | ok b => exact hf b

theorem addDescriptor (b : Builder) (i : Nat) (data : List UInt8) :
    OnlyEnospc (b.addDescriptor i data) := by
  intro e h
  unfold Builder.addDescriptor at h
  split at h <;> cases h
  rfl

theorem vmallocLoop (frame : Nat → Nat) (fuel page offset len : Nat) (prevPfn : Int32)
    (b : Builder) : OnlyEnospc (Builder.vmallocLoop frame fuel page offset len prevPfn b) := by
  induction fuel generalizing page offset len prevPfn b with
  | zero =>
      intro e h
      unfold Builder.vmallocLoop at h
      split at h <;> cases h
  | succ fuel ih =>
      intro e h
      unfold Builder.vmallocLoop at h
      split at h
      · cases h
      · dsimp only at h
        split at h
        · cases h
          rfl
        · exact ih _ _ _ _ _ e h

theorem describe (env : Env) (b : Builder) (d : Data) : OnlyEnospc (b.describe env d) := by
  intro e h
  unfold Builder.describe at h
  split at h
  · cases h
  · exact vmallocLoop _ _ _ _ _ _ _ e h
  · dsimp only at h
    split at h <;> cases h
    rfl

theorem addData (env : Env) (b : Builder) (d : Data) : OnlyEnospc (b.addData env d) := by
  intro e h
  unfold Builder.addData at h
  split at h
  · cases h
  · split at h
    · cases h
      rfl
    · exact (describe env b d).bind (fun b' => addDescriptor _ _ _) e h

section Chains

variable (env : Env) (session : SessionData) (pool : List Desc) (payload : Data)

theorem rIoctlChain : OnlyEnospc (Driver.rIoctlChain env session pool payload) :=
  (addData env _ _).bind fun _ => (addData env _ _).bind fun _ => addData env _ _

theorem wIoctlChain : OnlyEnospc (Driver.wIoctlChain env session pool payload) :=
  (addData env _ _).bind fun _ => (addData env _ _).bind fun _ => addData env _ _

theorem wrIoctlChain : OnlyEnospc (Driver.wrIoctlChain env session pool payload) :=
  (wIoctlChain env session pool payload).bind fun _ => addDescriptor _ _ _

end Chains

end OnlyEnospc

/-! ### The status -/

/-- The negated status is a negative `int` up to 2³¹. -/
theorem neg_status_neg_iff {status : UInt32} (h : status ≠ 0) :
    (-status).toInt32.toInt < 0 ↔ status.toNat ≤ 2 ^ 31 := by
  have hpos : status.toNat ≠ 0 := fun hz => h (UInt32.toNat_inj.mp hz)
  have hlt : status.toNat < 2 ^ 32 := status.toNat_lt
  have hneg : (-status).toBitVec.toNat = 2 ^ 32 - status.toNat := by
    have hval : (-status).toBitVec.toNat = (2 ^ 32 - status.toNat) % 2 ^ 32 := by
      rw [UInt32.toBitVec_neg, BitVec.toNat_neg]
      rfl
    rw [hval, Nat.mod_eq_of_lt (by omega)]
  change (-status).toBitVec.toInt < 0 ↔ _
  rw [BitVec.toInt_eq_toNat_cond, hneg]
  split <;> omega

theorem neg_einval_neg : -einval < 0 := by decide

/-- A response counts as success: it holds a response header with status 0 and
is as long as the caller needs. -/
def succeeded (minimumRespLen : Nat) (status : UInt32) (respLen : Nat) : Prop :=
  8 ≤ respLen ∧ status = 0 ∧ minimumRespLen ≤ respLen

/-- The status becomes a failure, or the response is too short. -/
def verdictSound (minimumRespLen : Nat) (status : UInt32) (respLen : Nat) : Prop :=
  status.toNat ≤ 2 ^ 31 ∨ respLen < 8 ∨ respLen < minimumRespLen

instance (minimumRespLen : Nat) (status : UInt32) (respLen : Nat) :
    Decidable (succeeded minimumRespLen status respLen) :=
  inferInstanceAs (Decidable (_ ∧ _))

instance (minimumRespLen : Nat) (status : UInt32) (respLen : Nat) :
    Decidable (verdictSound minimumRespLen status respLen) :=
  inferInstanceAs (Decidable (_ ∨ _))

/-- `virtio_media_send_command` returns 0 for a success and a negative number
for anything else, also to a caller that asks for the length. A function that
tests for a negative number fails on every status but 0, whatever it would have
read back, and so do the three functions with a payload of fixed length. -/
structure Device.Verdict (vv : Device) (minimumRespLen : Nat) (status : UInt32)
    (respLen : Nat) : Prop where
  zero : (vv.sendCommand minimumRespLen (.answered status respLen)).1 = 0 ↔
    succeeded minimumRespLen status respLen
  negative : ¬ succeeded minimumRespLen status respLen →
    (vv.sendCommand minimumRespLen (.answered status respLen)).1 < 0
  lengths : ∀ initial,
    (sendCommandLen vv.disconnected minimumRespLen initial (.answered status respLen)).1 =
      (vv.sendCommand minimumRespLen (.answered status respLen)).1
  senders : status ≠ 0 → ∀ chain retrieve, OnlyEnospc chain →
    (sendChain vv chain minimumRespLen retrieve (.answered status respLen)).1 < 0
  reads : status ≠ 0 → ∀ env session pool payload shadow,
    minimumRespLen = respIoctlSize + payload.bytes.length →
      (sendRIoctl env vv session pool payload (.answered status respLen) shadow).1 < 0
  writes : status ≠ 0 → ∀ env session pool payload, minimumRespLen = respIoctlSize →
    (sendWIoctl env vv session pool payload (.answered status respLen)).1 < 0
  readWrites : status ≠ 0 → ∀ env session pool payload minimumRespPayload shadow,
    minimumRespLen = respIoctlSize + minimumRespPayload →
      (sendWrIoctl env vv session pool payload minimumRespPayload (.answered status respLen)
        shadow).1 < 0

section Answered

variable {vv : Device} (hlive : vv.disconnected = false) {minimumRespLen respLen : Nat}
  {status : UInt32}
include hlive

theorem sendCommand_answered {ret : Int}
    (hkick : kickCommand (.answered status respLen) = (ret, respLen, false)) :
    vv.sendCommand minimumRespLen (.answered status respLen) =
      if ret < 0 then (ret, vv)
      else if respLen < minimumRespLen then (-einval, vv) else (0, vv) := by
  simp only [Device.sendCommand, hlive, hkick, Bool.false_eq_true, if_false]

theorem sendCommand_short (h : respLen < 8) :
    vv.sendCommand minimumRespLen (.answered status respLen) = (-einval, vv) := by
  have hkick : kickCommand (.answered status respLen) = (-einval, respLen, false) := by
    simp [kickCommand, h]
  rw [sendCommand_answered hlive hkick, if_pos neg_einval_neg]

theorem sendCommand_zero (h : 8 ≤ respLen) :
    vv.sendCommand minimumRespLen (.answered 0 respLen) =
      if respLen < minimumRespLen then (-einval, vv) else (0, vv) := by
  have hkick : kickCommand (.answered 0 respLen) = (0, respLen, false) := by
    simp [kickCommand, Nat.not_lt.mpr h]
  rw [sendCommand_answered hlive hkick, if_neg (lt_irrefl 0)]

/-- A status that is not 0 is returned if it stays a failure; otherwise only
the length decides. -/
theorem sendCommand_status (h : 8 ≤ respLen) (hstatus : status ≠ 0) :
    vv.sendCommand minimumRespLen (.answered status respLen) =
      if status.toNat ≤ 2 ^ 31 then ((-status).toInt32.toInt, vv)
      else if respLen < minimumRespLen then (-einval, vv) else (0, vv) := by
  have hkick : kickCommand (.answered status respLen) =
      ((-status).toInt32.toInt, respLen, false) := by
    rw [kickCommand, if_neg (Nat.not_lt.mpr h), if_pos (by simpa using hstatus)]
  rw [sendCommand_answered hlive hkick]
  simp only [neg_status_neg_iff hstatus]

/-- The value is negative for everything but a success and a long response
whose status turns positive. -/
theorem sendCommand_neg (hsound : verdictSound minimumRespLen status respLen)
    (h : ¬ succeeded minimumRespLen status respLen) :
    (vv.sendCommand minimumRespLen (.answered status respLen)).1 < 0 := by
  by_cases hlen : 8 ≤ respLen
  · by_cases hstatus : status = 0
    · subst hstatus
      have hshort : respLen < minimumRespLen := by
        by_contra hle
        exact h ⟨hlen, rfl, Nat.not_lt.mp hle⟩
      rw [sendCommand_zero hlive hlen, if_pos hshort]
      exact neg_einval_neg
    · rw [sendCommand_status hlive hlen hstatus]
      split
      · exact (neg_status_neg_iff hstatus).mpr ‹_›
      · have hshort : respLen < minimumRespLen := by
          rcases hsound with hsmall | hhead | hshort
          · contradiction
          · omega
          · exact hshort
        rw [if_pos hshort]
        exact neg_einval_neg
  · rw [sendCommand_short hlive (Nat.not_le.mp hlen)]
    exact neg_einval_neg

/-- A function that sends a chain fails on a status that stays a failure. -/
theorem sendChain_neg (hsound : verdictSound minimumRespLen status respLen)
    (hstatus : status ≠ 0) {chain : Except Int Builder} (hchain : OnlyEnospc chain)
    (retrieve : Builder → Int) :
    (sendChain vv chain minimumRespLen retrieve (.answered status respLen)).1 < 0 := by
  cases chain with
  | error e =>
      have he : e = -enospc := hchain e rfl
      subst he
      change -enospc < 0
      decide
  | ok b =>
      have hneg := sendCommand_neg hlive hsound fun h => hstatus h.2.1
      simp only [sendChain, hneg, if_true]

theorem verdict_iff : vv.Verdict minimumRespLen status respLen ↔
    verdictSound minimumRespLen status respLen := by
  constructor
  · intro hv
    by_contra hsound
    simp only [verdictSound, not_or, Nat.not_lt] at hsound
    obtain ⟨hbig, hhead, hlen⟩ := hsound
    have hstatus : status ≠ 0 := by
      rintro rfl
      exact hbig (Nat.zero_le _)
    have hzero : (vv.sendCommand minimumRespLen (.answered status respLen)).1 = 0 := by
      rw [sendCommand_status hlive hhead hstatus, if_neg hbig, if_neg (Nat.not_lt.mpr hlen)]
    exact hstatus (hv.zero.mp hzero).2.1
  · intro hsound
    refine ⟨⟨fun hzero => ?_, ?_⟩, sendCommand_neg hlive hsound,
      fun _ => sendCommandLen_answered .., ?_, ?_, ?_, ?_⟩
    · by_contra hfail
      have hneg := sendCommand_neg hlive hsound hfail
      omega
    · rintro ⟨hhead, rfl, hlen⟩
      rw [sendCommand_zero hlive hhead, if_neg (Nat.not_lt.mpr hlen)]
    · exact fun hstatus _ retrieve hchain => sendChain_neg hlive hsound hstatus hchain retrieve
    · rintro hstatus env session pool payload shadow rfl
      exact sendChain_neg hlive hsound hstatus (.rIoctlChain env session pool payload) _
    · rintro hstatus env session pool payload rfl
      exact sendChain_neg hlive hsound hstatus (.wIoctlChain env session pool payload) _
    · rintro hstatus env session pool payload minimumRespPayload shadow rfl
      exact sendChain_neg hlive hsound hstatus (.wrIoctlChain env session pool payload) _

end Answered

/-! ### What a sender takes for a success -/

/-- The device has answered with success. -/
def Answer.Succeeded (minimumRespLen : Nat) : Answer → Prop
  | .answered status respLen => succeeded minimumRespLen status respLen
  | _ => False

/-- The device has answered with a status that turns positive. -/
def Answer.Misread (minimumRespLen : Nat) : Answer → Prop
  | .answered status respLen => ¬ verdictSound minimumRespLen status respLen
  | _ => False

instance (minimumRespLen : Nat) : (a : Answer) → Decidable (a.Succeeded minimumRespLen)
  | .answered status respLen =>
    inferInstanceAs (Decidable (succeeded minimumRespLen status respLen))
  | .rejected _ | .timeout | .stopped => inferInstanceAs (Decidable False)

instance (minimumRespLen : Nat) : (a : Answer) → Decidable (a.Misread minimumRespLen)
  | .answered status respLen =>
    inferInstanceAs (Decidable (¬ verdictSound minimumRespLen status respLen))
  | .rejected _ | .timeout | .stopped => inferInstanceAs (Decidable False)

/-- A value that is not negative means a success or a status that was misread. -/
theorem sendCommand_nonneg {vv : Device} {minimumRespLen : Nat} {a : Answer}
    (hmin : 0 < minimumRespLen) (h : 0 ≤ (vv.sendCommand minimumRespLen a).1) :
    vv.disconnected = false ∧ (a.Succeeded minimumRespLen ∨ a.Misread minimumRespLen) := by
  cases hlive : vv.disconnected with
  | true => simp [Device.sendCommand, hlive, enodev] at h
  | false =>
      refine ⟨rfl, ?_⟩
      cases a with
      | rejected ret =>
          by_cases hret : ret < 0
          · simp [Device.sendCommand, hlive, kickCommand, hret, Int.not_le.mpr hret] at h
          · simp [Device.sendCommand, hlive, kickCommand, hret, hmin, einval] at h
      | timeout => simp [Device.sendCommand, hlive, kickCommand, etimedout] at h
      | stopped => simp [Device.sendCommand, hlive, kickCommand, enodev] at h
      | answered status respLen =>
          by_cases hsound : verdictSound minimumRespLen status respLen
          · left
            by_contra hfail
            have hneg := sendCommand_neg hlive hsound hfail
            omega
          · exact .inr hsound

/-- The same for a function that sends a chain. -/
theorem sendChain_nonneg {vv : Device} {chain : Except Int Builder} (hchain : OnlyEnospc chain)
    {minimumRespLen : Nat} {retrieve : Builder → Int} {a : Answer} (hmin : 0 < minimumRespLen)
    (h : 0 ≤ (sendChain vv chain minimumRespLen retrieve a).1) :
    vv.disconnected = false ∧ (a.Succeeded minimumRespLen ∨ a.Misread minimumRespLen) := by
  cases chain with
  | error e =>
      have he : e = -enospc := hchain e rfl
      simp [sendChain, he, enospc] at h
  | ok b =>
      apply sendCommand_nonneg hmin
      by_contra hneg
      rw [Int.not_le] at hneg
      simp only [sendChain, hneg, if_true] at h
      omega

/-! ### The verdict -/

/-- A device that answers a command: the verdict on its response is right if
and only if the status is at most 2³¹ or the response is too short anyway. -/
theorem command_verdict (vv : Device) (hlive : vv.disconnected = false) (minimumRespLen : Nat)
    (status : UInt32) (respLen : Nat) :
    vv.Verdict minimumRespLen status respLen ↔
      status.toNat ≤ 2 ^ 31 ∨ respLen < 8 ∨ respLen < minimumRespLen :=
  verdict_iff hlive

/-- The device answers `EINVAL` with a header alone. -/
theorem command_verdict_einval : (Device.init ⟨0, 0x10000⟩).Verdict 24 22 8 :=
  (command_verdict (.init ⟨0, 0x10000⟩) rfl 24 22 8).mpr (.inl (by decide))

/-- The command and response structures of a session. -/
def smallSession : SessionData where
  cmd := .replicate 16 0
  cmdAddr := 0x1000
  resp := .replicate 8 0
  respAddr := 0x2000

/-- The device answers with all status bits set, and the write-only ioctl
succeeds. -/
theorem command_verdict_fails_minusOne :
    ((Device.init ⟨0, 0x10000⟩).sendCommand 24 (.answered 0xffffffff 24)).1 = 0 ∧
      (sendWIoctl ⟨false, 0x100000⟩ (.init ⟨0, 0x10000⟩) smallSession
        (.replicate 4 ⟨0, 0, 0, false⟩) ⟨[1, 0, 0, 0], .at 0x3000⟩ (.answered 0xffffffff 8)).1 = 0 ∧
      ¬ (Device.init ⟨0, 0x10000⟩).Verdict 24 0xffffffff 24 := by
  refine ⟨by decide, by decide, fun h => ?_⟩
  exact absurd (h.zero.mp (by decide)).2.1 (by decide)

end VirtioMedia.Driver
