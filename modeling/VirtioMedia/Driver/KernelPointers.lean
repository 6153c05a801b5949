import VirtioMedia.Driver.ExtCtrlsErrors

/-!
# Kernel pointers in structures that the device answers

A `v4l2_buffer` and a `v4l2_ext_controls` hold a pointer to an array, and the
device may write over it. The pointer of the controls is restored whatever
happens. The pointer of the planes is restored where the reply is retrieved,
and only if the type is still multiplanar in what the device has written. The
count of the controls is compared before the copy in the shadow buffer is read
back, and a count that was raised in place is left as it is.
-/

namespace VirtioMedia.Driver

open V4l2 Wire Fallible

/-! ### Buffers -/

section Buffers

variable {env : Env} {session : SessionData}
  {userptr : UInt64 → UInt32 → Except Int (List SgEntry)} {uuids : List Data}
  {pool : List Desc} {c : CommandChain} {b : Builder} {arg : BufferArg} {p : BufferPlacement}

theorem sendBufferChain_built
    (h : sendBufferChain env session userptr uuids pool arg p = .ok (c, b)) :
    (∃ start body, Built env session userptr pool (sentData (bufferPayload arg.fixup p uuids))
      arg.fixup.userptrs c start body) ∧
    addResponse env session c = .ok b := by
  obtain ⟨c', hc, h⟩ := bind_eq_ok.mp h
  obtain ⟨b', hb, hcb⟩ := map_eq_ok.mp h
  cases hcb
  obtain ⟨start, body, hbuilt⟩ := buildBufferCmd_built hc
  exact ⟨⟨start, body, hbuilt.sent⟩, hb⟩

/-- Retrieving the buffer. -/
theorem retrieveData_buffer
    (h : sendBufferChain env session userptr uuids pool arg p = .ok (c, b))
    (hsep : SeparateObjects env (sentData (bufferPayload arg.fixup p uuids)))
    (shadow : Nat → UInt8) :
    b.retrieveData env shadow (c.numCmdSgs + 1) = .ok
      (if p.buffer.shadowed env then
        some ((List.range' env.payloadPos v4l2Buffer.size).map shadow) else none) := by
  obtain ⟨⟨start, body, hbuilt⟩, hb⟩ := sendBufferChain_built h
  have hne : v4l2Buffer.enc arg.fixup.buffer ≠ [] := by
    intro hnil
    have hlen := v4l2Buffer.length_enc arg.fixup.buffer
    rw [hnil] at hlen
    cases hlen
  have hsent : sentData (bufferPayload arg.fixup p uuids) =
      ⟨v4l2Buffer.enc arg.fixup.buffer, p.buffer⟩ ::
        sentData (⟨arg.fixup.sentPlanes.flatMap v4l2Plane.enc, p.planes⟩ ::
          uuidPayload arg.fixup uuids) := by
    rw [bufferPayload, sentData, List.filter_cons_of_pos (by simpa using hne)]
  rw [hsent] at hbuilt hsep
  have hfirst := hbuilt.retrieve_first (hsent ▸ bytes_ne_nil_of_sent) hsep hb shadow
    (payloadPos_add_lt env (by rw [v4l2Buffer.length_enc]; decide))
  rwa [v4l2Buffer.length_enc] at hfirst

/-- The pointer after the retrieval: restored if the device has left a
multiplanar type, else what the device has left. -/
theorem retrieveBuffer_m
    (h : sendBufferChain env session userptr uuids pool arg p = .ok (c, b))
    (hsep : SeparateObjects env (sentData (bufferPayload arg.fixup p uuids)))
    (reply : Reply V4l2Buffer) (origPlanes : UInt64) :
    (b.retrieveBuffer env reply.shadow (c.numCmdSgs + 1)
        (reply.settled env p.buffer arg.fixup.buffer) origPlanes).2.m =
      if typeIsMultiplanar (reply.left env p.buffer v4l2Buffer).type then origPlanes
      else (reply.left env p.buffer v4l2Buffer).m := by
  obtain ⟨copied, hfirst, hleft⟩ : ∃ copied,
      b.retrieveData env reply.shadow (c.numCmdSgs + 1) = .ok copied ∧
      (copied.map v4l2Buffer.dec).getD (reply.settled env p.buffer arg.fixup.buffer) =
        reply.left env p.buffer v4l2Buffer := by
    refine ⟨_, retrieveData_buffer h hsep reply.shadow, ?_⟩
    unfold Reply.settled Reply.left
    split <;> rfl
  simp only [Builder.retrieveBuffer, hfirst, hleft]
  split
  · split
    · split <;> rfl
    · rfl
  · rfl

theorem fixup_m (arg : BufferArg) : arg.fixup.buffer.m = arg.buffer.m := by
  unfold BufferArg.fixup
  split
  · rfl
  · split
    · rfl
    · split <;> rfl

end Buffers

/-- The buffer is read back after a command with this value and length. -/
def bufferReadBack (ret : Int) (respLen : Nat) : Prop :=
  ¬ ret < 0 ∧ ¬ sizeSub respLen respIoctlSize < v4l2Buffer.size

/-- The answers to a buffer ioctl that leave the pointer alone. If the buffer is
not read back, the device must not have written over the pointer in place; if it
is, the device has left either a multiplanar type or the pointer. -/
def PlanesKept (arg : BufferArg) (settled left : V4l2Buffer) (ret : Int) (respLen : Nat) : Prop :=
  (¬ bufferReadBack ret respLen → settled.m = arg.buffer.m) ∧
    (bufferReadBack ret respLen →
      typeIsMultiplanar left.type = true ∨ left.m = arg.buffer.m)

/-- The answers to a controls ioctl that leave the count within what was
submitted: in place, and in the copy if it is read back. -/
def CountKept (arg : ExtCtrlsArg) (settled left : ExtControls) (ret : Int) (respLen : Nat) :
    Prop :=
  settled.count ≤ arg.ctrls.count ∧
    (extCtrlsReadBack ret respLen → left.count ≤ arg.ctrls.count)

section SendBuffer

variable {env : Env} {session : SessionData}
  {userptr : UInt64 → UInt32 → Except Int (List SgEntry)} {uuids : List Data}
  {pool : List Desc} {arg : BufferArg} {p : BufferPlacement} {disconnected : Bool}
  {garbage : Nat} {reply : Reply V4l2Buffer}

/-- Without a chain nothing is sent, and the pointer stays. -/
theorem sendBuffer_error {e : Int}
    (h : sendBufferChain env session userptr uuids pool arg p = .error e) :
    (sendBuffer env session userptr uuids pool arg p disconnected garbage reply).2.m =
      arg.buffer.m := by
  simp only [sendBuffer, h]
  split
  · rfl
  · split
    · rfl
    · exact fixup_m arg

theorem sendBuffer_planes_iff {c : CommandChain} {b : Builder} {ret : Int} {respLen : Nat}
    (hmulti : arg.isMultiplanar = true)
    (h : sendBufferChain env session userptr uuids pool arg p = .ok (c, b))
    (hsep : SeparateObjects env (sentData (bufferPayload arg.fixup p uuids)))
    (hout : sendCommandLen disconnected (respIoctlSize + v4l2Buffer.size) garbage reply.answer =
      (ret, respLen)) :
    (sendBuffer env session userptr uuids pool arg p disconnected garbage reply).2.m =
        arg.buffer.m ↔
      PlanesKept arg (reply.settled env p.buffer arg.fixup.buffer)
        (reply.left env p.buffer v4l2Buffer) ret respLen := by
  have hback := retrieveBuffer_m h hsep reply arg.buffer.m
  simp only [sendBuffer, h, hout, hmulti, if_true, PlanesKept, bufferReadBack]
  by_cases hret : ret < 0
  · simp [hret]
  · by_cases hshort : sizeSub respLen respIoctlSize < v4l2Buffer.size
    · simp [hret, hshort]
    · simp only [if_neg hret, if_neg hshort, hback]
      split <;> simp_all

end SendBuffer

theorem sendExtCtrls_controls {env : Env} {session : SessionData}
    {userptr : UInt64 → UInt32 → Except Int (List SgEntry)} {pool : List Desc}
    {arg : ExtCtrlsArg} {p : ExtCtrlsPlacement} {c : CommandChain} {b : Builder}
    {disconnected : Bool} {reply : Reply ExtControls} {ret : Int} {respLen : Nat}
    (h : sendExtCtrlsChain env session userptr pool arg p = .ok (c, b))
    (hsep : SeparateObjects env (sentData (extCtrlsPayload arg p)))
    (hout : sendCommandLen disconnected (respIoctlSize + extControls.size) 0 reply.answer =
      (ret, respLen)) :
    (sendExtCtrls env session userptr pool arg p disconnected reply).2.controls =
        arg.ctrls.controls ∧
      ((sendExtCtrls env session userptr pool arg p disconnected reply).2.count ≤
          arg.ctrls.count ↔
        CountKept arg (reply.settled env p.ctrls arg.ctrls)
          (reply.left env p.ctrls extControls) ret respLen) := by
  obtain ⟨hraised, hread, hshort⟩ := sendExtCtrls_eq h hsep hout
  unfold CountKept
  by_cases hcount : arg.ctrls.count < (reply.settled env p.ctrls arg.ctrls).count
  · rw [hraised hcount]
    have hnot := UInt32.not_le.mpr hcount
    exact ⟨rfl, iff_of_false hnot (fun h => hnot h.1)⟩
  · have hle := UInt32.not_lt.mp hcount
    by_cases hback : extCtrlsReadBack ret respLen
    · rw [hread hcount hback]
      exact ⟨rfl, by simp [hle, hback]⟩
    · rw [hshort hcount hback]
      exact ⟨rfl, by simp [hle, hback]⟩

theorem sendExtCtrls_error {env : Env} {session : SessionData}
    {userptr : UInt64 → UInt32 → Except Int (List SgEntry)} {pool : List Desc}
    {arg : ExtCtrlsArg} {p : ExtCtrlsPlacement} {disconnected : Bool}
    {reply : Reply ExtControls} {e : Int}
    (h : sendExtCtrlsChain env session userptr pool arg p = .error e) :
    sendExtCtrls env session userptr pool arg p disconnected reply = (e, arg.ctrls) := by
  simp only [sendExtCtrls, h]

/-- For every answer of the device, every placement of the structures and every
way the functions return. The planes pointer of a multiplanar buffer is what it
was if and only if no command was sent or the answer keeps it. The controls
pointer is always what it was; the count is at most the submitted one if and
only if no command was sent or the answer keeps it. -/
theorem kernel_pointers_kept_iff (env : Env) (session : SessionData)
    (userptr : UInt64 → UInt32 → Except Int (List SgEntry)) (pool : List Desc)
    (disconnected : Bool) :
    (∀ uuids arg p garbage reply, arg.isMultiplanar = true →
      SeparateObjects env (sentData (bufferPayload arg.fixup p uuids)) →
      ((sendBuffer env session userptr uuids pool arg p disconnected garbage reply).2.m =
          arg.buffer.m ↔
        ∀ sent, sendBufferChain env session userptr uuids pool arg p = .ok sent →
          let out := sendCommandLen disconnected (respIoctlSize + v4l2Buffer.size) garbage
            reply.answer
          PlanesKept arg (reply.settled env p.buffer arg.fixup.buffer)
            (reply.left env p.buffer v4l2Buffer) out.1 out.2)) ∧
    (∀ arg p reply, SeparateObjects env (sentData (extCtrlsPayload arg p)) →
      (sendExtCtrls env session userptr pool arg p disconnected reply).2.controls =
          arg.ctrls.controls ∧
        ((sendExtCtrls env session userptr pool arg p disconnected reply).2.count ≤
            arg.ctrls.count ↔
          ∀ sent, sendExtCtrlsChain env session userptr pool arg p = .ok sent →
            let out := sendCommandLen disconnected (respIoctlSize + extControls.size) 0
              reply.answer
            CountKept arg (reply.settled env p.ctrls arg.ctrls)
              (reply.left env p.ctrls extControls) out.1 out.2)) := by
  constructor
  · intro uuids arg p garbage reply hmulti hsep
    cases hchain : sendBufferChain env session userptr uuids pool arg p with
    | error e => exact iff_of_true (sendBuffer_error hchain) (by simp)
    | ok sent =>
        have hout : ∀ n, sendCommandLen disconnected n garbage reply.answer =
            ((sendCommandLen disconnected n garbage reply.answer).1,
              (sendCommandLen disconnected n garbage reply.answer).2) := fun _ => rfl
        rw [sendBuffer_planes_iff hmulti hchain hsep (hout _)]
        simp only [Except.ok.injEq, forall_eq']
  · intro arg p reply hsep
    cases hchain : sendExtCtrlsChain env session userptr pool arg p with
    | error e =>
        rw [sendExtCtrls_error hchain]
        exact ⟨rfl, iff_of_true (UInt32.le_refl _) (by simp)⟩
    | ok sent =>
        have hout : ∀ n, sendCommandLen disconnected n 0 reply.answer =
            ((sendCommandLen disconnected n 0 reply.answer).1,
              (sendCommandLen disconnected n 0 reply.answer).2) := fun _ => rfl
        obtain ⟨hcontrols, hcount⟩ := sendExtCtrls_controls hchain hsep (hout _)
        refine ⟨hcontrols, ?_⟩
        rw [hcount]
        simp only [Except.ok.injEq, forall_eq']

/-! ### A planes pointer of the device -/

/-- A multiplanar buffer with one plane, both in the 1:1 mapping. -/
def onePlane : BufferArg where
  buffer := { (default : V4l2Buffer) with
    type := bufTypeVideoCaptureMplane, memory := memoryMmap, length := 1, m := 0x600000 }
  planes := [default]
  count := fun _ => rfl

def onePlanePlacement : BufferPlacement where
  buffer := .direct 300 ⟨0, pageSize_pos⟩
  planes := .direct 301 ⟨0, pageSize_pos⟩

/-- The reply to the buffer. -/
def sendOnePlane (reply : Reply V4l2Buffer) : Int × V4l2Buffer :=
  sendBuffer kernelEnv kernelSession noUserptr [] clearedPool onePlane onePlanePlacement false 0
    reply

/-- The device writes another pointer over the one in the buffer. -/
def pointerReply (a : Answer) : Reply V4l2Buffer :=
  ⟨a, { onePlane.buffer with m := 0xdead000 }, fun _ => 0⟩

theorem onePlane_separate :
    SeparateObjects kernelEnv
      (sentData (bufferPayload onePlane.fixup onePlanePlacement [])) := by
  have hsent : sentData (bufferPayload onePlane.fixup onePlanePlacement []) =
      bufferPayload onePlane.fixup onePlanePlacement [] := by
    rw [sentData, List.filter_eq_self]
    simp only [bufferPayload, show uuidPayload onePlane.fixup [] = [] by decide, List.mem_cons,
      List.not_mem_nil, or_false, forall_eq_or_imp, forall_eq]
    decide
  rw [hsent]
  apply separateObjects_pages 300 301
  · exact ⟨_, rfl, by decide⟩
  · exact ⟨_, rfl, by decide⟩
  · decide
  · decide
  · decide

/-- After a success the pointer is restored. -/
theorem kernel_pointers_kept_iff_restored :
    (sendOnePlane (pointerReply (.answered 0 96))).2.m = onePlane.buffer.m := by
  unfold sendOnePlane
  refine ((kernel_pointers_kept_iff kernelEnv kernelSession noUserptr clearedPool false).1 []
    onePlane onePlanePlacement 0 (pointerReply (.answered 0 96)) (by decide)
    onePlane_separate).mpr ?_
  intro sent _
  refine ⟨fun h => absurd ?_ h, fun _ => .inl (by decide)⟩
  exact ⟨by decide, by decide +kernel⟩

/-- The device fails the buffer ioctl and leaves its own pointer; or it raises
the count of the controls. -/
theorem kernel_pointers_taken :
    onePlane.isMultiplanar = true ∧
      (sendOnePlane (pointerReply (.answered 22 96))).2.m ≠ onePlane.buffer.m ∧
      ¬ (sendOneControl ⟨.answered 0 40, { oneControl.ctrls with count := 2 },
        fun _ => 0⟩).2.count ≤ oneControl.ctrls.count := by
  refine ⟨by decide, by decide +kernel, by decide +kernel⟩

end VirtioMedia.Driver
