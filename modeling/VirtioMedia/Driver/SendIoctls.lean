import VirtioMedia.Driver.Mappings
import VirtioMedia.Driver.Retrieval

/-!
# Commands with buffers and with extended controls

`virtio_media_send_buffer_ioctl` and `virtio_media_send_ext_controls_ioctl`
from end to end: the chain, the command, and what is read back. The device
answers through three channels, which it fills as it likes: the status and the
length of the response, the structure itself where the chain refers to it in
place, and the shadow buffer where the structure was copied.

The length of the response is subtracted from as a `size_t`. The extended
controls function goes on after a failed command, so there the subtraction may
wrap, and a failure without a response is read back like a success.
-/

namespace VirtioMedia.Driver

open V4l2 Wire Fallible

/-! ### Answers -/

/-- `virtio_media_send_command`: its value, and `*resp_len` after it. The length
is only set once the device has answered. -/
def sendCommandLen (disconnected : Bool) (minimumRespLen initial : Nat) (a : Answer) :
    Int × Nat :=
  if disconnected then (-enodev, initial)
  else
    let ret := (kickCommand a).1
    let respLen := match a with
      | .answered _ respLen => respLen
      | _ => initial
    if ret < 0 then (ret, respLen)
    else if respLen < minimumRespLen then (-einval, respLen)
    else (0, respLen)

/-- What the device does with a command: its answer, what it writes into a
structure that it can reach, and what it leaves in the shadow buffer. -/
structure Reply (α : Type) where
  answer : Answer
  inPlace : α
  shadow : Nat → UInt8

/-- The structure when the command is over: the device has not reached one that
was copied. -/
def Reply.settled {α : Type} (r : Reply α) (env : Env) (p : Placement) (sent : α) : α :=
  if p.shadowed env then sent else r.inPlace

/-- The answer to the structure, wherever the device has written it. -/
def Reply.left {α : Type} (r : Reply α) (env : Env) (p : Placement) (codec : Codec α) : α :=
  if p.shadowed env then
    codec.dec ((List.range' env.payloadPos codec.size).map r.shadow)
  else r.inPlace

/-- The difference of two `size_t`. -/
def sizeSub (a b : Nat) : Nat := (a + 2 ^ 64 - b) % 2 ^ 64

/-! ### The two functions -/

/-- `sizeof(struct virtio_media_resp_ioctl)`. -/
def respIoctlSize : Nat := 8

/-- `virtio_media_send_buffer_ioctl`: its value and the `v4l2_buffer` after it.
`garbage` is what the uninitialized `resp_len` holds. -/
def sendBuffer (env : Env) (session : SessionData)
    (userptr : UInt64 → UInt32 → Except Int (List SgEntry)) (uuids : List Data)
    (pool : List Desc) (arg : BufferArg) (p : BufferPlacement) (disconnected : Bool)
    (garbage : Nat) (reply : Reply V4l2Buffer) : Int × V4l2Buffer :=
  match sendBufferChain env session userptr uuids pool arg p with
  | .error e =>
    -- the fixups are made once the command is in the chain
    if bufTypeMetaOutput < arg.buffer.type then (e, arg.buffer)
    else
      match (Builder.init pool).addData env session.cmdData with
      | .error _ => (e, arg.buffer)
      | .ok _ => (e, arg.fixup.buffer)
  | .ok (c, b) =>
    let origPlanes := if arg.isMultiplanar then arg.buffer.m else 0
    let (ret, respLen) :=
      sendCommandLen disconnected (respIoctlSize + v4l2Buffer.size) garbage reply.answer
    let buffer := reply.settled env p.buffer arg.fixup.buffer
    if ret < 0 then (ret, buffer)
    else if sizeSub respLen respIoctlSize < v4l2Buffer.size then (-einval, buffer)
    else b.retrieveBuffer env reply.shadow (c.numCmdSgs + 1) buffer origPlanes

/-- `virtio_media_send_ext_controls_ioctl`: its value and the
`v4l2_ext_controls` after it. -/
def sendExtCtrls (env : Env) (session : SessionData)
    (userptr : UInt64 → UInt32 → Except Int (List SgEntry)) (pool : List Desc)
    (arg : ExtCtrlsArg) (p : ExtCtrlsPlacement) (disconnected : Bool)
    (reply : Reply ExtControls) : Int × ExtControls :=
  match sendExtCtrlsChain env session userptr pool arg p with
  | .error e => (e, arg.ctrls)
  | .ok (c, b) =>
    let (ret, respLen) :=
      sendCommandLen disconnected (respIoctlSize + extControls.size) 0 reply.answer
    -- "Just in case the host touched these."
    let ctrls := restoreControls (reply.settled env p.ctrls arg.ctrls) arg.ctrls.controls
    if arg.ctrls.count < ctrls.count then (-enospc, ctrls)
    else if ret < 0 ∧ respIoctlSize + extControls.size ≤ respLen then
      (ret, (b.retrieveExtCtrls env reply.shadow (c.numCmdSgs + 1) ctrls).2)
    else if sizeSub respLen respIoctlSize < extControls.size then (-einval, ctrls)
    else b.retrieveExtCtrls env reply.shadow (c.numCmdSgs + 1) ctrls

/-! ### The command -/

/-- The value is the one of a caller that does not ask for the length. -/
theorem sendCommandLen_answered (vv : Device) (minimumRespLen initial : Nat) (status : UInt32)
    (respLen : Nat) :
    (sendCommandLen vv.disconnected minimumRespLen initial (.answered status respLen)).1 =
      (vv.sendCommand minimumRespLen (.answered status respLen)).1 := by
  unfold sendCommandLen Device.sendCommand
  cases vv.disconnected with
  | true => rfl
  | false =>
      obtain ⟨ret, hkick⟩ : ∃ ret, kickCommand (.answered status respLen) =
          (ret, respLen, false) := by
        simp only [kickCommand]
        split <;> exact ⟨_, rfl⟩
      by_cases hr : ret < 0
      · simp [hkick, hr]
      · by_cases hlen : respLen < minimumRespLen <;> simp [hkick, hr, hlen]

/-! ### What is read back -/

/-- The structures of a payload that have bytes. -/
abbrev sentData (ds : List Data) : List Data := ds.filter (·.bytes ≠ [])

theorem bytes_ne_nil_of_sent {ds : List Data} : ∀ d ∈ sentData ds, d.bytes ≠ [] := by simp

section Chain

variable {env : Env} {session : SessionData}
  {userptr : UInt64 → UInt32 → Except Int (List SgEntry)} {pool : List Desc}
  {c : CommandChain} {b : Builder}

theorem payloadPos_add_lt (env : Env) {n : Nat} (h : n ≤ 88) :
    env.payloadPos + n < shadowBufSize := by
  unfold Env.payloadPos shadowBufSize
  split <;> omega

section ExtCtrls

variable {arg : ExtCtrlsArg} {p : ExtCtrlsPlacement}

theorem sendExtCtrlsChain_built
    (h : sendExtCtrlsChain env session userptr pool arg p = .ok (c, b)) :
    (∃ start body, Built env session userptr pool (sentData (extCtrlsPayload arg p))
      (arg.array.map fun c => (c.value, c.size)) c start body) ∧
    addResponse env session c = .ok b := by
  obtain ⟨c', hc, h⟩ := bind_eq_ok.mp h
  obtain ⟨b', hb, hcb⟩ := map_eq_ok.mp h
  cases hcb
  obtain ⟨start, body, hbuilt⟩ := buildExtCtrlsCmd_built hc
  exact ⟨⟨start, body, hbuilt.sent⟩, hb⟩

/-- The controls structure is always sent. -/
theorem sentData_extCtrls (arg : ExtCtrlsArg) (p : ExtCtrlsPlacement) :
    sentData (extCtrlsPayload arg p) = ⟨extControls.enc arg.ctrls, p.ctrls⟩ ::
      sentData [⟨arg.array.flatMap extControl.enc, p.array⟩] := by
  have hne : extControls.enc arg.ctrls ≠ [] := by
    intro hnil
    have hlen := extControls.length_enc arg.ctrls
    rw [hnil] at hlen
    cases hlen
  rw [extCtrlsPayload, sentData, List.filter_cons_of_pos (by simpa using hne)]

/-- Retrieving the controls structure. -/
theorem retrieveData_extCtrls
    (h : sendExtCtrlsChain env session userptr pool arg p = .ok (c, b))
    (hsep : SeparateObjects env (sentData (extCtrlsPayload arg p))) (shadow : Nat → UInt8) :
    b.retrieveData env shadow (c.numCmdSgs + 1) = .ok
      (if p.ctrls.shadowed env then
        some ((List.range' env.payloadPos extControls.size).map shadow) else none) := by
  obtain ⟨⟨start, body, hbuilt⟩, hb⟩ := sendExtCtrlsChain_built h
  have hsent := sentData_extCtrls arg p
  rw [hsent] at hbuilt hsep
  have hfirst := hbuilt.retrieve_first (hsent ▸ bytes_ne_nil_of_sent) hsep hb shadow
    (payloadPos_add_lt env (by rw [extControls.length_enc]; decide))
  rwa [extControls.length_enc] at hfirst

/-- Retrieving the array of controls fails exactly if none was submitted. No
array ends with the shadow buffer. -/
theorem retrieveData_array
    (h : sendExtCtrlsChain env session userptr pool arg p = .ok (c, b))
    (hsep : SeparateObjects env (sentData (extCtrlsPayload arg p))) (shadow : Nat → UInt8) :
    if arg.ctrls.count = 0 then
      b.retrieveData env shadow (c.numCmdSgs + 1 + 1) = .error (-erange)
    else ∃ copied, b.retrieveData env shadow (c.numCmdSgs + 1 + 1) = .ok copied := by
  obtain ⟨⟨start, body, hbuilt⟩, hb⟩ := sendExtCtrlsChain_built h
  have hsent := sentData_extCtrls arg p
  have hds : ∀ d ∈ sentData (extCtrlsPayload arg p), d.bytes ≠ [] := bytes_ne_nil_of_sent
  rw [hsent] at hbuilt hsep hds
  have hlen := extControl.length_flatMap_enc arg.array
  rw [arg.count] at hlen
  split
  · next hzero =>
      have hnil : arg.array.flatMap extControl.enc = [] := by
        apply List.eq_nil_of_length_eq_zero
        rw [hlen, hzero]
        rfl
      have hrest : sentData [⟨arg.array.flatMap extControl.enc, p.array⟩] = [] := by
        simp [sentData, hnil]
      rw [hrest] at hbuilt hds
      exact hbuilt.retrieve_none hds hb shadow
  · next hcount =>
      have hne : arg.array.flatMap extControl.enc ≠ [] := by
        intro hnil
        rw [hnil] at hlen
        have hsize : extControl.size = 20 := by decide
        rw [hsize] at hlen
        have hz : arg.ctrls.count.toNat = 0 := by simpa using hlen.symm
        exact hcount (UInt32.toNat_inj.mp hz)
      have hrest : sentData [⟨arg.array.flatMap extControl.enc, p.array⟩] =
          [⟨arg.array.flatMap extControl.enc, p.array⟩] := by
        simpa [sentData] using hne
      rw [hrest] at hbuilt hds hsep
      apply hbuilt.retrieve_second hds hsep hb shadow
      -- 16 384 bytes are not 0, 16, 32 or 48 bytes and a multiple of 20
      have hfirst : (extControls.enc arg.ctrls).length = 32 := extControls.length_enc _
      have hsize : extControl.size = 20 := by decide
      simp only [hlen, hsize, Data.shadowLength, hfirst, Env.payloadPos, shadowBufSize]
      split <;> split <;> omega

/-- What the driver returns with when it reads the controls back. -/
def extCtrlsRetrieved (arg : ExtCtrlsArg) (left : ExtControls) : Int :=
  if left.count ≠ 0 ∧ arg.ctrls.controls ≠ 0 ∧ arg.ctrls.count = 0 then -erange else 0

theorem retrieveExtCtrls_eq
    (h : sendExtCtrlsChain env session userptr pool arg p = .ok (c, b))
    (hsep : SeparateObjects env (sentData (extCtrlsPayload arg p)))
    (reply : Reply ExtControls) :
    b.retrieveExtCtrls env reply.shadow (c.numCmdSgs + 1)
        (restoreControls (reply.settled env p.ctrls arg.ctrls) arg.ctrls.controls) =
      (extCtrlsRetrieved arg (reply.left env p.ctrls extControls),
        restoreControls (reply.left env p.ctrls extControls) arg.ctrls.controls) := by
  obtain ⟨copied, hfirst, hleft⟩ : ∃ copied,
      b.retrieveData env reply.shadow (c.numCmdSgs + 1) = .ok copied ∧
      restoreControls ((copied.map extControls.dec).getD
          (restoreControls (reply.settled env p.ctrls arg.ctrls) arg.ctrls.controls))
          arg.ctrls.controls =
        restoreControls (reply.left env p.ctrls extControls) arg.ctrls.controls := by
    refine ⟨_, retrieveData_extCtrls h hsep reply.shadow, ?_⟩
    unfold Reply.settled Reply.left
    split <;> rfl
  have hsecond := retrieveData_array h hsep reply.shadow
  simp only [Builder.retrieveExtCtrls, hfirst, restoreControls_controls, hleft,
    restoreControls_count, extCtrlsRetrieved]
  by_cases hread : (reply.left env p.ctrls extControls).count ≠ 0 ∧ arg.ctrls.controls ≠ 0
  · rw [if_pos hread]
    by_cases hzero : arg.ctrls.count = 0
    · rw [if_pos hzero] at hsecond
      rw [hsecond, if_pos ⟨hread.1, hread.2, hzero⟩]
    · rw [if_neg hzero] at hsecond
      obtain ⟨array, harray⟩ := hsecond
      rw [harray, if_neg (fun h => hzero h.2.2)]
  · rw [if_neg hread, if_neg (fun h => hread ⟨h.1, h.2.1⟩)]

/-- The controls are read back after a command with this value and length. -/
def extCtrlsReadBack (ret : Int) (respLen : Nat) : Prop :=
  (ret < 0 ∧ respIoctlSize + extControls.size ≤ respLen) ∨
    ¬ sizeSub respLen respIoctlSize < extControls.size

/-- `virtio_media_send_ext_controls_ioctl` after its command: the count is
compared before the controls are read back. -/
theorem sendExtCtrls_eq
    (h : sendExtCtrlsChain env session userptr pool arg p = .ok (c, b))
    (hsep : SeparateObjects env (sentData (extCtrlsPayload arg p))) {disconnected : Bool}
    {reply : Reply ExtControls} {ret : Int} {respLen : Nat}
    (hout : sendCommandLen disconnected (respIoctlSize + extControls.size) 0 reply.answer =
      (ret, respLen)) :
    (arg.ctrls.count < (reply.settled env p.ctrls arg.ctrls).count →
      sendExtCtrls env session userptr pool arg p disconnected reply =
        (-enospc, restoreControls (reply.settled env p.ctrls arg.ctrls) arg.ctrls.controls)) ∧
    (¬ arg.ctrls.count < (reply.settled env p.ctrls arg.ctrls).count →
      extCtrlsReadBack ret respLen →
      sendExtCtrls env session userptr pool arg p disconnected reply =
        (if ret < 0 ∧ respIoctlSize + extControls.size ≤ respLen then ret
          else extCtrlsRetrieved arg (reply.left env p.ctrls extControls),
          restoreControls (reply.left env p.ctrls extControls) arg.ctrls.controls)) ∧
    (¬ arg.ctrls.count < (reply.settled env p.ctrls arg.ctrls).count →
      ¬ extCtrlsReadBack ret respLen →
      sendExtCtrls env session userptr pool arg p disconnected reply =
        (-einval, restoreControls (reply.settled env p.ctrls arg.ctrls) arg.ctrls.controls)) := by
  have hback := retrieveExtCtrls_eq h hsep reply
  simp only [sendExtCtrls, h, hout, restoreControls_count, hback, extCtrlsReadBack]
  refine ⟨fun hcount => by rw [if_pos hcount], fun hcount hread => ?_, fun hcount hread => ?_⟩
  · rw [if_neg hcount]
    by_cases hfail : ret < 0 ∧ respIoctlSize + extControls.size ≤ respLen
    · rw [if_pos hfail, if_pos hfail]
    · rw [if_neg hfail, if_neg hfail, if_neg (hread.resolve_left hfail)]
  · rw [not_or, not_not] at hread
    rw [if_neg hcount, if_neg hread.1, if_pos hread.2]

end ExtCtrls

end Chain

/-! ### Structures in pages of their own -/

/-- A structure within one page of the 1:1 mapping. -/
def Data.inPage (pfn : Nat) (d : Data) : Prop :=
  ∃ offset, d.placement = .direct pfn offset ∧ offset + d.bytes.length ≤ pageSize

theorem Data.inPage.phys {pfn : Nat} {d : Data} (h : d.inPage pfn) {a : Nat}
    (ha : a ∈ d.phys) : a / pageSize = pfn := by
  obtain ⟨offset, hplace, hlen⟩ := h
  obtain ⟨i, hi, hai⟩ := ha
  rw [hplace, Placement.byteAt, Option.some.injEq] at hai
  subst hai
  rw [Nat.add_assoc, Nat.mul_comm, Nat.mul_add_div (by decide), Nat.div_eq_of_lt (by omega),
    Nat.add_zero]

/-- Two structures in two pages, neither of which is of the shadow buffer. -/
theorem separateObjects_pages {env : Env} {d d' : Data} (pfn pfn' : Nat)
    (h : d.inPage pfn) (h' : d'.inPage pfn') (hne : pfn ≠ pfn')
    (hshadow : pfn < env.shadowBuffer / pageSize) (hshadow' : pfn' < env.shadowBuffer / pageSize) :
    SeparateObjects env [d, d'] := by
  have hout : ∀ {x : Data} {n : Nat}, x.inPage n → n < env.shadowBuffer / pageSize →
      ∀ a ∈ x.phys, a ∉ env.shadowPhys := by
    rintro x n hx hn a ha ⟨hlo, -⟩
    have := Nat.div_le_div_right (c := pageSize) hlo
    rw [hx.phys ha] at this
    omega
  have hfit : ∀ {x : Data} {n : Nat}, x.inPage n → x.FramesFit := by
    rintro x n ⟨offset, hplace, -⟩
    simp only [Data.FramesFit, hplace]
  refine ⟨?_, ?_, ?_⟩
  · rw [List.pairwise_pair]
    intro a ha ha'
    exact hne ((h.phys ha).symm.trans (h'.phys ha'))
  · simp only [List.mem_cons, List.not_mem_nil, or_false, forall_eq_or_imp, forall_eq]
    exact ⟨hout h hshadow, hout h' hshadow'⟩
  · simp only [List.mem_cons, List.not_mem_nil, or_false, forall_eq_or_imp, forall_eq]
    exact ⟨hfit h, hfit h'⟩

end VirtioMedia.Driver
