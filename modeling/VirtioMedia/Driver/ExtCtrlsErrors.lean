import VirtioMedia.Driver.SendIoctls

/-!
# The error of an extended controls ioctl

After a failed command the function looks at the length of the response, to
read the controls back where the device has sent them with the error. With a
shorter response it goes on as after a success. Below the size of the response
header the subtraction wraps, the length then looks sufficient, and the error
is lost.
-/

namespace VirtioMedia.Driver

open V4l2 Wire

/-- The failures of the command that the caller gets to see. `settled` is the
structure when the command is over, `left` what can be read back. -/
def ErrorReported (arg : ExtCtrlsArg) (settled left : ExtControls) (ret : Int)
    (respLen : Nat) : Prop :=
  if arg.ctrls.count < settled.count then ret = -enospc
  else respIoctlSize + extControls.size ≤ respLen ∨
    (respIoctlSize ≤ respLen ∧ ret = -einval) ∨
    (respLen < respIoctlSize ∧ ret = -erange ∧ arg.ctrls.count = 0 ∧
      left.count ≠ 0 ∧ arg.ctrls.controls ≠ 0)

theorem extCtrlsReadBack_iff_of_short (ret : Int) {respLen : Nat}
    (h : ¬ respIoctlSize + extControls.size ≤ respLen) :
    extCtrlsReadBack ret respLen ↔ respLen < respIoctlSize := by
  have hsize : extControls.size = 32 := by decide
  simp only [extCtrlsReadBack, respIoctlSize, sizeSub, hsize] at h ⊢
  omega

/-- For every outcome of a command that was sent and failed: the function
returns the value of the command if and only if the device has not raised the
count in place and the response holds the controls, or the value is the one
that the function returns on its own at that point. -/
theorem ext_ctrls_error_reported_iff (env : Env) (session : SessionData)
    (userptr : UInt64 → UInt32 → Except Int (List SgEntry)) (pool : List Desc)
    (arg : ExtCtrlsArg) (p : ExtCtrlsPlacement) (c : CommandChain) (b : Builder)
    (disconnected : Bool) (reply : Reply ExtControls) (ret : Int) (respLen : Nat)
    (hchain : sendExtCtrlsChain env session userptr pool arg p = .ok (c, b))
    (hsep : SeparateObjects env (sentData (extCtrlsPayload arg p)))
    (hout : sendCommandLen disconnected (respIoctlSize + extControls.size) 0 reply.answer =
      (ret, respLen))
    (hret : ret < 0) :
    (sendExtCtrls env session userptr pool arg p disconnected reply).1 = ret ↔
      ErrorReported arg (reply.settled env p.ctrls arg.ctrls)
        (reply.left env p.ctrls extControls) ret respLen := by
  obtain ⟨hraised, hread, hshort⟩ := sendExtCtrls_eq hchain hsep hout
  unfold ErrorReported
  by_cases hcount : arg.ctrls.count < (reply.settled env p.ctrls arg.ctrls).count
  · rw [hraised hcount, if_pos hcount]
    exact eq_comm
  · rw [if_neg hcount]
    by_cases hlong : respIoctlSize + extControls.size ≤ respLen
    · rw [hread hcount (.inl ⟨hret, hlong⟩)]
      exact iff_of_true (if_pos ⟨hret, hlong⟩) (.inl hlong)
    · have hiff := extCtrlsReadBack_iff_of_short ret hlong
      simp only [hlong, false_or]
      by_cases hwrap : respLen < respIoctlSize
      · -- nothing was answered, and the length looks sufficient
        rw [hread hcount (hiff.mpr hwrap)]
        simp only [hlong, and_false, if_false, extCtrlsRetrieved, hwrap,
          Nat.not_le.mpr hwrap, false_and, true_and, false_or]
        split <;> rename_i hretrieved
        · simp [hretrieved.1, hretrieved.2.1, hretrieved.2.2, eq_comm]
        · constructor
          · intro h
            omega
          · rintro ⟨-, h1, h2, h3⟩
            exact absurd ⟨h2, h3, h1⟩ hretrieved
      · rw [hshort hcount (mt hiff.mp hwrap)]
        simp [hwrap, Nat.le_of_not_lt hwrap, eq_comm]

/-! ### A lost timeout -/

/-- One control, both structures in the 1:1 mapping. -/
def oneControl : ExtCtrlsArg where
  ctrls := { (default : ExtControls) with count := 1, controls := 0x600000 }
  array := [default]
  count := rfl

def oneControlPlacement : ExtCtrlsPlacement where
  ctrls := .direct 300 ⟨0, pageSize_pos⟩
  array := .direct 301 ⟨0, pageSize_pos⟩

/-- The shadow buffer of the session, the command and the response. -/
def kernelEnv : Env := ⟨false, 0x400000⟩

def kernelSession : SessionData := ⟨.replicate 16 0, 0x500000, .replicate 8 0, 0x500040⟩

/-- No user pointer can be resolved, and the pool is cleared. -/
def noUserptr : UInt64 → UInt32 → Except Int (List SgEntry) := fun _ _ => .error (-einval)

def clearedPool : List Desc := .replicate 128 ⟨0, 0, 0, false⟩

/-- The reply to the one control. -/
def sendOneControl (reply : Reply ExtControls) : Int × ExtControls :=
  sendExtCtrls kernelEnv kernelSession noUserptr clearedPool oneControl oneControlPlacement
    false reply

/-- The controls come back as they were sent. -/
def unchangedReply (a : Answer) : Reply ExtControls := ⟨a, oneControl.ctrls, fun _ => 0⟩

theorem oneControl_separate :
    SeparateObjects kernelEnv (sentData (extCtrlsPayload oneControl oneControlPlacement)) := by
  have hsent : sentData (extCtrlsPayload oneControl oneControlPlacement) =
      extCtrlsPayload oneControl oneControlPlacement := by
    rw [sentData, List.filter_eq_self]
    simp only [extCtrlsPayload, List.mem_cons, List.not_mem_nil, or_false, forall_eq_or_imp,
      forall_eq]
    decide
  rw [hsent]
  apply separateObjects_pages 300 301
  · exact ⟨_, rfl, by decide⟩
  · exact ⟨_, rfl, by decide⟩
  · decide
  · decide
  · decide

/-- The device rejects the control and sends it back: the error is reported. -/
theorem ext_ctrls_error_reported_iff_rejected :
    (sendOneControl (unchangedReply (.answered 22 40))).1 = -22 := by
  obtain ⟨⟨c, b⟩, h, -⟩ : ∃ r, sendExtCtrlsChain kernelEnv kernelSession noUserptr clearedPool
      oneControl oneControlPlacement = .ok r ∧ true = true :=
    Fallible.exists_ok_of_any (by decide +kernel)
  refine (ext_ctrls_error_reported_iff kernelEnv kernelSession noUserptr clearedPool oneControl
    oneControlPlacement c b false (unchangedReply (.answered 22 40)) (-22) 40 h
    oneControl_separate (by decide) (by decide)).mpr ?_
  unfold ErrorReported
  rw [if_neg (by decide)]
  exact .inl (by decide)

/-- The command times out, and the function returns success. -/
theorem ext_ctrls_error_lost_timeout :
    (sendCommandLen false (respIoctlSize + extControls.size) 0
        (unchangedReply .timeout).answer).1 = -etimedout ∧
      (sendOneControl (unchangedReply .timeout)).1 = 0 := by
  refine ⟨by decide, by decide +kernel⟩

end VirtioMedia.Driver
