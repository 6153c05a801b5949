import VirtioMedia.Device.IoctlSizes
import VirtioMedia.Driver.ChainMemory
import VirtioMedia.Lib.Refinement
import VirtioMedia.Stack.Response

/-!
# Forwarded ioctls

The ioctls of the driver whose payload has one size, from the caller in the guest
to the handler in the host and back: the chain that the driver builds, the
command as `handle_command` gets it, the call of the handler, the response, and
what the driver makes of it.
-/

namespace VirtioMedia.Stack

open V4l2 Device Driver Wire Fallible

/-! ### The ioctls of the driver -/

/-- The function that sends an ioctl: `virtio_media_send_r_ioctl`,
`virtio_media_send_w_ioctl` or `virtio_media_send_wr_ioctl`. -/
inductive Direction where
  | r
  | w
  | wr
  deriving DecidableEq, Repr

/-- An ioctl whose payload has one size. -/
structure FixedIoctl where
  direction : Direction
  nr : UInt32
  size : Nat
  deriving DecidableEq, Repr

namespace FixedIoctl

def enumFmt : FixedIoctl := ⟨.wr, 2, 64⟩
def gFmt : FixedIoctl := ⟨.wr, 4, 208⟩
def sFmt : FixedIoctl := ⟨.wr, 5, 208⟩
def tryFmt : FixedIoctl := ⟨.wr, 64, 208⟩
def enumFramesizes : FixedIoctl := ⟨.wr, 74, 44⟩
def enumFrameintervals : FixedIoctl := ⟨.wr, 75, 52⟩
def queryctrl : FixedIoctl := ⟨.wr, 36, 68⟩
def gCtrl : FixedIoctl := ⟨.wr, 27, 8⟩
def sCtrl : FixedIoctl := ⟨.wr, 28, 8⟩
def queryExtCtrl : FixedIoctl := ⟨.wr, 103, 232⟩
def sDvTimings : FixedIoctl := ⟨.wr, 87, 132⟩
def gDvTimings : FixedIoctl := ⟨.wr, 88, 132⟩
def queryDvTimings : FixedIoctl := ⟨.r, 99, 132⟩
def enumDvTimings : FixedIoctl := ⟨.wr, 98, 148⟩
def dvTimingsCap : FixedIoctl := ⟨.wr, 100, 144⟩
def enuminput : FixedIoctl := ⟨.wr, 26, 80⟩
def querymenu : FixedIoctl := ⟨.wr, 37, 44⟩
def enumoutput : FixedIoctl := ⟨.wr, 48, 72⟩
def enumaudio : FixedIoctl := ⟨.wr, 65, 52⟩
def gAudio : FixedIoctl := ⟨.r, 33, 52⟩
def sAudio : FixedIoctl := ⟨.w, 34, 52⟩
def enumaudout : FixedIoctl := ⟨.wr, 66, 52⟩
def gAudout : FixedIoctl := ⟨.r, 49, 52⟩
def sAudout : FixedIoctl := ⟨.w, 50, 52⟩
def gModulator : FixedIoctl := ⟨.wr, 54, 68⟩
def sModulator : FixedIoctl := ⟨.w, 55, 68⟩
def gSelection : FixedIoctl := ⟨.wr, 94, 64⟩
def sSelection : FixedIoctl := ⟨.wr, 95, 64⟩
def gEncIndex : FixedIoctl := ⟨.r, 76, 2072⟩
def encoderCmd : FixedIoctl := ⟨.wr, 77, 40⟩
def tryEncoderCmd : FixedIoctl := ⟨.wr, 78, 40⟩
def tryDecoderCmd : FixedIoctl := ⟨.wr, 97, 72⟩
def gParm : FixedIoctl := ⟨.wr, 21, 204⟩
def sParm : FixedIoctl := ⟨.wr, 22, 204⟩
def gStd : FixedIoctl := ⟨.r, 23, 8⟩
def querystd : FixedIoctl := ⟨.r, 63, 8⟩
def enumstd : FixedIoctl := ⟨.wr, 25, 72⟩
def gTuner : FixedIoctl := ⟨.wr, 29, 84⟩
def sTuner : FixedIoctl := ⟨.w, 30, 84⟩
def gFrequency : FixedIoctl := ⟨.wr, 56, 44⟩
def sFrequency : FixedIoctl := ⟨.w, 57, 44⟩
def enumFreqBands : FixedIoctl := ⟨.wr, 101, 64⟩
def gSlicedVbiCap : FixedIoctl := ⟨.wr, 69, 116⟩
def sHwFreqSeek : FixedIoctl := ⟨.w, 82, 48⟩
def subscribeEvent : FixedIoctl := ⟨.w, 90, 32⟩
def unsubscribeEvent : FixedIoctl := ⟨.w, 91, 32⟩
def streamon : FixedIoctl := ⟨.w, 18, 4⟩
def streamoff : FixedIoctl := ⟨.w, 19, 4⟩
def reqbufs : FixedIoctl := ⟨.wr, 8, 20⟩
def createBufs : FixedIoctl := ⟨.wr, 92, 256⟩
def gInput : FixedIoctl := ⟨.wr, 38, 4⟩
def sInput : FixedIoctl := ⟨.wr, 39, 4⟩
def gOutput : FixedIoctl := ⟨.wr, 46, 4⟩
def sOutput : FixedIoctl := ⟨.wr, 47, 4⟩
def decoderCmd : FixedIoctl := ⟨.wr, 96, 72⟩
def sStd : FixedIoctl := ⟨.w, 24, 8⟩

/-- Those that `virtio_media_ioctls.c` sends, in its order. -/
def all : List FixedIoctl :=
  [enumFmt, gFmt, sFmt, tryFmt, enumFramesizes, enumFrameintervals, queryctrl, gCtrl, sCtrl,
    queryExtCtrl, sDvTimings, gDvTimings, queryDvTimings, enumDvTimings, dvTimingsCap, enuminput,
    querymenu, enumoutput, enumaudio, gAudio, sAudio, enumaudout, gAudout, sAudout, gModulator,
    sModulator, gSelection, sSelection, gEncIndex, encoderCmd, tryEncoderCmd, tryDecoderCmd,
    gParm, sParm, gStd, querystd, enumstd, gTuner, sTuner, gFrequency, sFrequency, enumFreqBands,
    gSlicedVbiCap, sHwFreqSeek, subscribeEvent, unsubscribeEvent, streamon, streamoff, reqbufs,
    createBufs, gInput, sInput, gOutput, sOutput, decoderCmd, sStd]

/-- The size of the answer that the driver has room for. -/
def answerSize (f : FixedIoctl) : Nat := if f.direction = .w then 0 else f.size

/-- The driver and the device agree on an ioctl: its number is known, its
structures have the same sizes, and the device reads what the driver sends. An
ioctl that is not supported has no structures. -/
structure Agrees (f : FixedIoctl) (ioctl : V4l2Ioctl) : Prop where
  code : V4l2Ioctl.n f.nr = some ioctl
  fixed : ioctl.fixed = true
  size : 0 < f.size ∧ f.size ≤ 2072
  answer : ioctl.unsupported = true ∨ ioctl.answerSize = f.answerSize
  read : ioctl.readSize = 0 ∨ (ioctl.readSize = f.size ∧ f.direction ≠ .r)

instance (f : FixedIoctl) (ioctl : V4l2Ioctl) : Decidable (f.Agrees ioctl) :=
  decidable_of_iff (V4l2Ioctl.n f.nr = some ioctl ∧ ioctl.fixed = true ∧
      (0 < f.size ∧ f.size ≤ 2072) ∧
      (ioctl.unsupported = true ∨ ioctl.answerSize = f.answerSize) ∧
      (ioctl.readSize = 0 ∨ (ioctl.readSize = f.size ∧ f.direction ≠ .r)))
    ⟨fun ⟨h₁, h₂, h₃, h₄, h₅⟩ => ⟨h₁, h₂, h₃, h₄, h₅⟩,
      fun ⟨h₁, h₂, h₃, h₄, h₅⟩ => ⟨h₁, h₂, h₃, h₄, h₅⟩⟩

theorem agrees : ∀ f ∈ all, ∃ ioctl, f.Agrees ioctl := by
  have hall : ∀ f ∈ all, (V4l2Ioctl.n f.nr).any (fun ioctl => f.Agrees ioctl) = true := by
    decide
  intro f hf
  obtain ⟨ioctl, -, h⟩ := (Option.any_eq_true _ _).mp (hall f hf)
  exact ⟨ioctl, of_decide_eq_true h⟩

/-! ### From the driver to the device and back -/

section Send

variable (f : FixedIoctl) (env : Env) (session : SessionData) (pool : List Desc)

/-- The chain of the ioctl. -/
def chain (payload : Data) : Except Int Builder :=
  match f.direction with
  | .r => rIoctlChain env session pool payload
  | .w => wIoctlChain env session pool payload
  | .wr => wrIoctlChain env session pool payload

/-- What the device gets of the payload. -/
def input (payload : List UInt8) : List UInt8 := if f.direction = .r then [] else payload

/-- The device-readable section of the chain. -/
def sent (b : Builder) : List UInt8 :=
  (b.sgs.take (if f.direction = .r then 1 else 2)).flatMap (·.data)

/-- What memory holds at the addresses of that section. -/
def received (b : Builder) (memory : Nat → UInt8) : List UInt8 :=
  (b.sgs.take (if f.direction = .r then 1 else 2)).flatMap fun sg => (b.addresses sg).map memory

/-- The size of the device-writable section. -/
def room : Nat := respIoctlSize + f.answerSize

/-- The value of the function that sends the ioctl. -/
def value (vv : Driver.Device) (payload : Data) (a : Answer) (shadow : Nat → UInt8) : Int :=
  match f.direction with
  | .r => (sendRIoctl env vv session pool payload a shadow).1
  | .w => (sendWIoctl env vv session pool payload a).1
  | .wr => (sendWrIoctl env vv session pool payload payload.bytes.length a shadow).1

/-- The payload where the device can reach it, after the response. -/
def reached (payload response : List UInt8) : List UInt8 :=
  if f.direction = .w then payload
  else response.drop respIoctlSize ++ payload.drop (response.drop respIoctlSize).length

/-- The first byte of the copy of the payload in the shadow buffer: it comes after
the command, and after the response if it is not sent. -/
def copyPos : Nat :=
  if f.direction = .r ∧ env.alwaysUseShadowBuffer then 24 else env.payloadPos

/-- The shadow buffer, as far as the payload is concerned. -/
def shadow (payload response : List UInt8) (i : Nat) : UInt8 :=
  (f.reached payload response).getD (i - f.copyPos env) 0

/-- The payload of the caller when the ioctl is over: the device has reached it, or
what the device left is copied back if the command succeeds. -/
def left (vv : Driver.Device) (payload : Data) (response : List UInt8) : List UInt8 :=
  match f.chain env session pool payload with
  | .error _ => payload.bytes
  | .ok b =>
    let inPlace := if payload.placement.shadowed env then payload.bytes
      else f.reached payload.bytes response
    let ret := (vv.sendCommand (respIoctlSize + f.answerSize) (answer response)).1
    if ret < 0 ∨ f.direction = .w then inPlace
    else
      match b.retrieveData env (f.shadow env payload.bytes response)
          (if f.direction = .r then 2 else 3) with
      | .error _ => inPlace
      | .ok copied => copied.getD inPlace

end Send

/-! ### The chain -/

section Chain

variable {f : FixedIoctl} {env : Env} {session : SessionData} {pool : List Desc} {payload : Data}
  {b : Builder}

/-- The structures of the chain. -/
def parts (f : FixedIoctl) (session : SessionData) (payload : Data) : List Data :=
  if f.direction = .r then [session.cmdData, session.respData, payload]
  else [session.cmdData, payload, session.respData]

/-- The chain has one entry for each structure, and for a payload that is sent and
answered one more, which refers to it again. -/
theorem chain_eq_ok (h : f.chain env session pool payload = .ok b) :
    ∃ b₁, (Builder.init pool).addAll env (f.parts session payload) = .ok b₁ ∧
      b = { b₁ with sgs := b₁.sgs ++ if f.direction = .wr then [⟨1, []⟩] else [] } := by
  have hall : ∀ {d₁ d₂ d₃ : Data} {b₁ b₂ b₃ : Builder},
      (Builder.init pool).addData env d₁ = .ok b₁ → b₁.addData env d₂ = .ok b₂ →
      b₂.addData env d₃ = .ok b₃ → (Builder.init pool).addAll env [d₁, d₂, d₃] = .ok b₃ :=
    fun h₁ h₂ h₃ => bind_eq_ok.mpr ⟨_, h₁, bind_eq_ok.mpr ⟨_, h₂, bind_eq_ok.mpr ⟨_, h₃, rfl⟩⟩⟩
  have hw : ∀ {b : Builder}, wIoctlChain env session pool payload = .ok b →
      (Builder.init pool).addAll env [session.cmdData, payload, session.respData] = .ok b := by
    intro b h
    obtain ⟨b₁, h₁, h⟩ := bind_eq_ok.mp h
    obtain ⟨b₂, h₂, h₃⟩ := bind_eq_ok.mp h
    exact hall h₁ h₂ h₃
  unfold chain at h
  unfold parts
  cases hdir : f.direction with
  | r =>
      rw [hdir] at h
      obtain ⟨b₁, h₁, h⟩ := bind_eq_ok.mp h
      obtain ⟨b₂, h₂, h₃⟩ := bind_eq_ok.mp h
      exact ⟨b, hall h₁ h₂ h₃, by simp⟩
  | w =>
      rw [hdir] at h
      exact ⟨b, hw h, by simp⟩
  | wr =>
      rw [hdir] at h
      obtain ⟨b₁, h₁, h⟩ := bind_eq_ok.mp h
      refine ⟨b₁, hw h₁, ?_⟩
      simp only [Builder.addDescriptor] at h
      split at h
      · cases h
      · exact (Except.ok.inj h).symm

/-- An entry of the chain for a structure: its descriptor is that of the copy at
`pos`, or is outside of the shadow buffer. -/
structure Entry (env : Env) (b : Builder) (d : Data) (i pos : Nat) : Prop where
  refers : ∃ k, (b.sgs[i]?).map (·.desc) = some k ∧ (∃ a ∈ d.owned env, b.addr? k = some a) ∧
    (d.placement.shadowed env = true → b.descs[k]? = some (.shadow env pos d.bytes.length))

theorem Entry.retrieve {d : Data} {i pos : Nat} (h : Entry env b d i pos)
    (hsep : ∀ a ∈ d.phys, a ∉ env.shadowPhys) (hsmall : pos + d.bytes.length < shadowBufSize)
    (shadow : Nat → UInt8) : b.retrieveData env shadow i = .ok
      (if d.placement.shadowed env then some ((List.range' pos d.bytes.length).map shadow)
        else none) := by
  obtain ⟨k, hentry, ⟨a, ha, hk⟩, hcopy⟩ := h.refers
  by_cases hs : d.placement.shadowed env = true
  · rw [if_pos hs]
    exact retrieveData_copy hentry (hcopy hs) hsmall
  · rw [if_neg hs]
    rw [owned_of_not_shadowed hs] at ha
    exact retrieveData_in_place hentry hk (hsep a ha)

theorem numDescs_at (env : Env) {bytes : List UInt8} (hne : bytes ≠ []) (addr : Nat) :
    Data.numDescs env ⟨bytes, .at addr⟩ = 1 :=
  Data.numDescs_eq_one hne (by
    cases hs : env.alwaysUseShadowBuffer <;> simp [Data.OneRun, Placement.at, hs])

theorem parts_ne_nil (hne : payload.bytes ≠ []) : ∀ d ∈ f.parts session payload, d.bytes ≠ [] := by
  have hcmd : session.cmdData.bytes ≠ [] := by simp [SessionData.cmdData]
  have hresp : session.respData.bytes ≠ [] := by simp [SessionData.respData]
  intro d hd
  unfold parts at hd
  split at hd <;>
  · simp only [List.mem_cons, List.not_mem_nil, or_false] at hd
    rcases hd with rfl | rfl | rfl <;> assumption

theorem parts_framesFit (hfit : payload.FramesFit) :
    ∀ d ∈ f.parts session payload, d.FramesFit := by
  intro d hd
  unfold parts at hd
  split at hd <;>
  · simp only [List.mem_cons, List.not_mem_nil, or_false] at hd
    rcases hd with rfl | rfl | rfl <;> first | exact hfit | trivial

/-- The entry through which the payload is answered. -/
theorem chain_entry (h : f.chain env session pool payload = .ok b) (hdir : f.direction ≠ .w)
    (hne : payload.bytes ≠ []) (hfit : payload.FramesFit) :
    Entry env b payload (if f.direction = .r then 2 else 3) (f.copyPos env) := by
  obtain ⟨b₁, hall, rfl⟩ := chain_eq_ok h
  obtain ⟨hsgs, -, hdesc⟩ := addAll_described (parts_ne_nil hne) hall
  obtain ⟨-, hstaged⟩ := addAll_staged (parts_ne_nil hne) (parts_framesFit hfit) hall
  have hcmd : session.cmdData.numDescs env = 1 := numDescs_at env (by simp) _
  have hresp : session.respData.numDescs env = 1 := numDescs_at env (by simp) _
  have hpos : 0 < payload.numDescs env := Data.numDescs_pos hne hfit
  have hcopied : ∀ addr, (Placement.at addr).shadowed env = env.alwaysUseShadowBuffer :=
    fun _ => rfl
  cases hd : f.direction with
  | w => exact absurd hd hdir
  | r =>
      simp only [parts, hd, if_true, firsts, hcmd, hresp, Builder.init] at hsgs
      simp only [parts, hd, if_true, Described, hcmd, hresp, Builder.init] at hdesc
      simp only [parts, hd, if_true, Staged, hcmd, hresp, Builder.init] at hstaged
      have hpayload : f.copyPos env = 0 + session.cmdData.shadowLength env +
          session.respData.shadowLength env := by
        cases ha : env.alwaysUseShadowBuffer <;>
          simp [copyPos, hd, ha, Env.payloadPos, Data.shadowLength, SessionData.cmdData,
            SessionData.respData, hcopied]
      refine ⟨2, ?_, (hdesc.2.2.1 2 le_rfl (by omega)).2, fun hs => ?_⟩
      · have hentry := congrArg (·[2]?) hsgs
        simpa [hd] using hentry
      · rw [hpayload]
        exact (hstaged.2.2.1 hs).2.2
  | wr =>
      simp only [parts, hd, reduceCtorEq, if_false, firsts, hcmd, Builder.init] at hsgs
      simp only [parts, hd, reduceCtorEq, if_false, Described, hcmd, Builder.init] at hdesc
      simp only [parts, hd, reduceCtorEq, if_false, Staged, hcmd, Builder.init] at hstaged
      have hpayload : f.copyPos env = 0 + session.cmdData.shadowLength env := by
        cases ha : env.alwaysUseShadowBuffer <;>
          simp [copyPos, hd, ha, Env.payloadPos, Data.shadowLength, SessionData.cmdData, hcopied]
      refine ⟨1, ?_, (hdesc.2.1 1 le_rfl (by omega)).2, fun hs => ?_⟩
      · have hlen : b₁.sgs.length = 3 := by simpa using congrArg List.length hsgs
        simp [hlen]
      · rw [hpayload]
        exact (hstaged.2.1 hs).2.2

/-- Each entry holds the bytes of its structure. -/
theorem addAll_data {ds : List Data} {b b' : Builder} (hds : ∀ d ∈ ds, d.bytes ≠ [])
    (h : b.addAll env ds = .ok b') :
    b'.sgs.map (·.data) = b.sgs.map (·.data) ++ ds.map (·.bytes) := by
  induction ds generalizing b with
  | nil =>
      cases h
      exact (List.append_nil _).symm
  | cons d ds ih =>
      obtain ⟨b₁, hadd, h⟩ := bind_eq_ok.mp h
      obtain ⟨b₂, hfills, rfl⟩ := addData_fills (hds d List.mem_cons_self) hadd
      rw [ih (fun d hd => hds d (.tail _ hd)) h]
      simp

theorem length_parts : (f.parts session payload).length = 3 := by
  unfold parts
  split <;> rfl

/-- The device gets the command, and the payload if it is sent. -/
theorem sent_eq (h : f.chain env session pool payload = .ok b) (hne : payload.bytes ≠ []) :
    f.sent b = session.cmd.toList ++ f.input payload.bytes := by
  obtain ⟨b₁, hall, rfl⟩ := chain_eq_ok h
  have hdata : b₁.sgs.map (·.data) = (f.parts session payload).map (·.bytes) :=
    addAll_data (parts_ne_nil hne) hall
  have hlen : b₁.sgs.length = 3 := by
    simpa [length_parts] using congrArg List.length hdata
  have htake : ∀ n ≤ 3, ∀ last : List Sg, ((b₁.sgs ++ last).take n).flatMap (·.data) =
      (((f.parts session payload).map (·.bytes)).take n).flatten := by
    intro n hn last
    rw [List.take_append_of_le_length (hlen ▸ hn), ← hdata, ← List.map_take, List.flatMap]
  unfold sent input
  cases hd : f.direction with
  | r =>
      rw [if_pos rfl, if_pos rfl, htake 1 (by decide)]
      simp [parts, hd, SessionData.cmdData]
  | w | wr =>
      simp only [reduceCtorEq, if_false]
      rw [htake 2 (by decide)]
      simp [parts, hd, SessionData.cmdData]

theorem parts_describable (hfit : payload.FramesFit) (hsmall : payload.bytes.length ≤ 2072) :
    ∀ d ∈ f.parts session payload, d.Describable env := by
  intro d hd
  refine (parts_framesFit hfit d hd).describable ?_ env
  unfold parts at hd
  split at hd <;>
  · simp only [List.mem_cons, List.not_mem_nil, or_false] at hd
    rcases hd with rfl | rfl | rfl <;> simp [SessionData.cmdData, SessionData.respData]
    omega

/-- While the chain is built over memory that holds its structures, memory comes to
hold what is sent at the addresses of the entries. -/
theorem received_eq (h : f.chain env session pool payload = .ok b) (hne : payload.bytes ≠ [])
    (hfit : payload.FramesFit) (hsmall : payload.bytes.length ≤ 2072) {memory : Nat → UInt8}
    (hin : InMemory env (f.parts session payload) memory) :
    ∃ s, BackedBuilder.addAll env ⟨.init pool, memory⟩ (f.parts session payload) = .ok s ∧
      s.builder.descs = b.descs ∧ f.received b s.memory = f.sent b := by
  obtain ⟨b₁, hall, rfl⟩ := chain_eq_ok h
  have hlen : b₁.sgs.length = 3 := by
    have hdata := addAll_data (parts_ne_nil hne) hall
    simpa [length_parts, Builder.init] using congrArg List.length hdata
  obtain ⟨s, hs, rfl, hsound⟩ := (BackedBuilder.Sound.init env pool memory).addAll
    (parts_describable hfit hsmall) hin hall
  refine ⟨s, hs, rfl, List.flatMap_congr fun sg hsg => ?_⟩
  have hmem : sg ∈ s.builder.sgs := by
    have hcount : (if f.direction = .r then 1 else 2) ≤ s.builder.sgs.length := by
      rw [hlen]
      split <;> decide
    simp only [List.take_append_of_le_length hcount] at hsg
    exact List.mem_of_mem_take hsg
  exact hsound.reads sg hmem

/-- What is retrieved is what the device left. -/
theorem retrieve_eq (h : f.chain env session pool payload = .ok b) (hdir : f.direction ≠ .w)
    (hne : payload.bytes ≠ []) (hsmall : payload.bytes.length ≤ 2072)
    (hsep : SeparateObjects env [payload]) (shadow : Nat → UInt8) :
    b.retrieveData env shadow (if f.direction = .r then 2 else 3) = .ok
      (if payload.placement.shadowed env then
        some ((List.range' (f.copyPos env) payload.bytes.length).map shadow) else none) := by
  have hpos : f.copyPos env ≤ 24 := by
    unfold copyPos Env.payloadPos
    split
    · exact le_rfl
    · split <;> decide
  have hin : f.copyPos env + payload.bytes.length < shadowBufSize := by
    unfold shadowBufSize
    omega
  exact (chain_entry h hdir hne (hsep.frames payload List.mem_cons_self)).retrieve
    (hsep.shadow payload List.mem_cons_self) hin shadow

end Chain

/-! ### The verdict -/

section Verdict

variable {f : FixedIoctl} {env : Env} {vv : Driver.Device} {session : SessionData}
  {pool : List Desc} {payload : Data} {b : Builder}

theorem value_eq (hlen : payload.bytes.length = f.size) (a : Answer) (shadow : Nat → UInt8) :
    f.value env session pool vv payload a shadow =
      (sendChain vv (f.chain env session pool payload) (respIoctlSize + f.answerSize)
        (fun b => if f.direction = .w then 0
          else b.retrieveRet env shadow (if f.direction = .r then 2 else 3)) a).1 := by
  unfold value chain answerSize
  cases f.direction with
  | r => simp [sendRIoctl, hlen]
  | w => simp [sendWIoctl]
  | wr => simp [sendWrIoctl, hlen]

/-- A response that is an error alone: the caller gets the error, and its payload is
as it was. -/
theorem failed (hlive : vv.disconnected = false) (hlen : payload.bytes.length = f.size)
    (h : f.chain env session pool payload = .ok b) {e : Int} (hpos : 0 < e) (hle : e ≤ 2 ^ 31)
    (shadow : Nat → UInt8) :
    f.value env session pool vv payload (answer (respHeader e)) shadow = -e ∧
      f.left env session pool vv payload (respHeader e) = payload.bytes := by
  have hstatus : UInt32.ofInt e ≠ 0 := by
    intro hz
    have hneg := neg_status_eq hpos hle
    rw [hz] at hneg
    have hzero : (0 : Int) = -e := hneg
    omega
  have hret : (vv.sendCommand (respIoctlSize + f.answerSize) (answer (respHeader e))).1 = -e := by
    have hsmall : (UInt32.ofInt e).toNat ≤ 2 ^ 31 := by
      rw [UInt32.ofInt, UInt32.toNat_ofNat']
      omega
    rw [answer_respHeader, sendCommand_status hlive (show 8 ≤ respIoctlSize from le_rfl) hstatus,
      if_pos hsmall]
    exact neg_status_eq hpos hle
  have hneg : -e < 0 := by omega
  have hreached : f.reached payload.bytes (respHeader e) = payload.bytes := by
    rw [reached, List.drop_of_length_le (length_respHeader e).le]
    simp
  refine ⟨?_, ?_⟩
  · rw [value_eq hlen, h, sendChain]
    simp only [hret, hneg, if_true]
  · simp only [left, h, hret, hneg, true_or, if_true, hreached, ite_self]

/-- What the shadow buffer holds at the place of a copy. -/
theorem map_range'_getD (l : List UInt8) (pos : Nat) :
    (List.range' pos l.length).map (fun i => l.getD (i - pos) 0) = l := by
  apply List.ext_getElem
  · simp
  · intro i hi hi'
    simp [hi']

/-- A response with an answer: the caller gets the answer. -/
theorem succeeded (hlive : vv.disconnected = false) (hlen : payload.bytes.length = f.size)
    (hsize : 0 < f.size ∧ f.size ≤ 2072) (h : f.chain env session pool payload = .ok b)
    (hsep : SeparateObjects env [payload]) {out : List UInt8} (hout : out.length = f.answerSize) :
    f.value env session pool vv payload (answer (respHeader 0 ++ out))
        (f.shadow env payload.bytes (respHeader 0 ++ out)) = 0 ∧
      f.left env session pool vv payload (respHeader 0 ++ out) =
        if f.direction = .w then payload.bytes else out := by
  have hret : (vv.sendCommand (respIoctlSize + f.answerSize)
      (answer (respHeader 0 ++ out))).1 = 0 := by
    have hlong : 8 ≤ respIoctlSize + f.answerSize := Nat.le_add_right _ _
    rw [answer_append, hout, show UInt32.ofInt 0 = 0 from rfl, sendCommand_zero hlive hlong,
      if_neg (lt_irrefl _)]
  have hne : payload.bytes ≠ [] := by
    intro hnil
    rw [hnil] at hlen
    exact absurd hlen.symm hsize.1.ne'
  by_cases hdir : f.direction = .w
  · refine ⟨?_, ?_⟩
    · rw [value_eq hlen, h, sendChain]
      simp only [hret, lt_irrefl, if_false, if_pos hdir]
    · simp only [left, h, hdir, or_true, if_true, reached, ite_self]
  · have hanswer : out.length = payload.bytes.length := by
      rw [hout, answerSize, if_neg hdir, hlen]
    have hreached : f.reached payload.bytes (respHeader 0 ++ out) = out := by
      rw [reached, if_neg hdir, List.drop_left' (length_respHeader 0), hanswer, List.drop_length,
        List.append_nil]
    have hback := retrieve_eq h hdir hne (hlen ▸ hsize.2) hsep
      (f.shadow env payload.bytes (respHeader 0 ++ out))
    refine ⟨?_, ?_⟩
    · rw [value_eq hlen, h, sendChain]
      simp only [hret, lt_irrefl, if_false, if_neg hdir, Builder.retrieveRet, hback]
    · simp only [left, h, hret, lt_irrefl, hdir, or_self, if_false, hback, hreached]
      split
      · rw [Option.getD_some, ← hanswer]
        have hshadow : f.shadow env payload.bytes (respHeader 0 ++ out) =
            fun i => out.getD (i - f.copyPos env) 0 := by
          funext i
          rw [shadow, hreached]
        rw [hshadow, map_range'_getD]
      · rfl

end Verdict

/-! ### The handler -/

section Handler

variable {σ : Type}

/-- What the caller of the ioctl would get from the handler itself. -/
def direct (f : FixedIoctl) (V : V4l2rChecks) (h : Handler σ) (ioctl : V4l2Ioctl)
    (payload : List UInt8) (s : σ) : (Int × List UInt8) × σ :=
  match request V (f.input payload) ioctl with
  | none => ((-ioctl.refusal, payload), s)
  | some r =>
    match r.outcome h s with
    | .ok out => ((0, if f.direction = .w then payload else out), r.after h s)
    | .error (e, _) => ((-e, payload), r.after h s)

/-- The handler returns error numbers. -/
def ReturnsErrno (h : Handler σ) : Prop :=
  ∀ c s e, (h.raw c s).1 = .error e → 0 < e ∧ e ≤ 2 ^ 31

variable {f : FixedIoctl} {ioctl : V4l2Ioctl} {V : V4l2rChecks} {h : Handler σ}
  {payload : List UInt8} {s : σ}

/-- The response to an ioctl, and what the caller makes of it: an error alone, or
an answer that fits. -/
inductive Responds (f : FixedIoctl) (payload response : List UInt8) : Int × List UInt8 → Prop where
  | error {e : Int} (hpos : 0 < e) (hle : e ≤ 2 ^ 31) (hresponse : response = respHeader e) :
    Responds f payload response (-e, payload)
  | answer {out : List UInt8} (hout : out.length = f.answerSize)
    (hresponse : response = respHeader 0 ++ out) :
    Responds f payload response (0, if f.direction = .w then payload else out)

theorem Responds.length_le {response : List UInt8} {result : Int × List UInt8}
    (h : Responds f payload response result) : response.length ≤ f.room := by
  cases h with
  | error _ _ hresponse =>
      rw [hresponse, length_respHeader]
      exact Nat.le_add_right _ _
  | answer hout hresponse =>
      rw [hresponse, List.length_append, length_respHeader, hout]
      exact le_rfl

theorem direct_responds (hagrees : f.Agrees ioctl) (herrno : ReturnsErrno h)
    (hknown : ¬ UnknownSubscription V ioctl (f.input payload)) :
    ∃ calls response, dispatchIoctl V h ioctl (f.input payload) (.start s) =
        some ((), ⟨(f.direct V h ioctl payload s).2, calls, response⟩) ∧
      Responds f payload response (f.direct V h ioctl payload s).1 := by
  unfold direct
  cases hreq : request V (f.input payload) ioctl with
  | none =>
      refine ⟨[], _, dispatch_refuses hagrees.fixed s hknown hreq, .error ?_ ?_ rfl⟩ <;>
      · unfold V4l2Ioctl.refusal
        split <;> decide
  | some r =>
      have hanswers := dispatch_answers (h := h) s hknown
      rw [hreq] at hanswers
      have hsized : r.Sized ioctl.answerSize := request_sized hagrees.fixed r hreq
      cases r with
      | buffer c maxPlanes => exact hsized.elim
      | extCtrls c => exact hsized.elim
      | raw c toPayload =>
          have hsize : ioctl.answerSize = f.answerSize := by
            rcases hagrees.answer with hunsupported | hsize
            · rw [request_unsupported hunsupported] at hreq
              cases hreq
            · exact hsize
          cases hr : (h.raw c s).1 with
          | error e =>
              obtain ⟨hpos, hle⟩ := herrno c s e hr
              simp only [Request.outcome, hr, Except.map, Except.mapError]
              simp only [Answers, Request.response, hr] at hanswers
              exact ⟨_, _, hanswers, .error hpos hle rfl⟩
          | ok o =>
              simp only [Request.outcome, hr, Except.map, Except.mapError]
              simp only [Answers, Request.response, hr] at hanswers
              exact ⟨_, _, hanswers, .answer ((hsized o).trans hsize) rfl⟩

end Handler

end FixedIoctl

/-! ### Calls -/

/-- An ioctl of a session, with the places of the structures that it needs. -/
structure IoctlCall where
  ioctl : FixedIoctl
  id : UInt32
  env : Env
  session : SessionData
  pool : List Desc
  payload : Data

namespace IoctlCall

/-- What `scatterlist_builder_add_ioctl_cmd` leaves in the command: the padding of
the header is not written. -/
def Commanded (c : IoctlCall) : Prop :=
  ∃ pad, c.session.cmd.toList =
    cmdHeader.enc (cmdIoctl, pad) ++ cmdHeader.enc (c.id, c.ioctl.nr)

/-- The ioctl is one of the driver, with a payload of its size that is not in the
shadow buffer. The chain has room for it, and `v4l2r` knows the event of a
subscription. -/
structure Ok (V : V4l2rChecks) (c : IoctlCall) : Prop where
  mem : c.ioctl ∈ FixedIoctl.all
  commanded : c.Commanded
  size : c.payload.bytes.length = c.ioctl.size
  separate : SeparateObjects c.env [c.payload]
  chain : ∃ b, c.ioctl.chain c.env c.session c.pool c.payload = .ok b
  known : ∀ ioctl, V4l2Ioctl.n c.ioctl.nr = some ioctl →
    ¬ UnknownSubscription V ioctl (c.ioctl.input c.payload.bytes)

/-- What a caller is left with: the value of the ioctl, and its payload. -/
abbrev Result := Int × List UInt8

variable {D S P : Type}

/-- A device that serves an ioctl through `virtio_media_dispatch_ioctl`. The
dispatcher does not panic on what follows. -/
def servingEnv (V : V4l2rChecks) (h : Handler (D × S)) (env : RunnerEnv D S P Writer) :
    RunnerEnv D S P Writer :=
  { env with
    write := Writer.write
    doIoctl := fun d s ioctl input w =>
      match dispatchIoctl V h ioctl input (.start (d, s)) with
      | some ((), out) =>
        let (ok, w) := w.write out.written
        (ok, out.handler.1, out.handler.2, w)
      | none => (false, d, s, w) }

/-- The ioctl through the driver and the runner. -/
def forward (env : RunnerEnv D S P Writer) (overflowChecks : Bool) (vv : Driver.Device)
    (r : Runner D S P) (c : IoctlCall) : Option (Runner D S P × Result) :=
  match c.ioctl.chain c.env c.session c.pool c.payload with
  | .error e => some (r, e, c.payload.bytes)
  | .ok b =>
    (r.handleCommand env overflowChecks (c.ioctl.sent b) ⟨c.ioctl.room, []⟩).map fun (r, w) =>
      (r, c.ioctl.value c.env c.session c.pool vv c.payload (answer w.written)
          (c.ioctl.shadow c.env c.payload.bytes w.written),
        c.ioctl.left c.env c.session c.pool vv c.payload w.written)

/-- The device and its sessions. -/
abbrev Host (D S : Type) := D × (UInt32 → Option S)

def hostOf (r : Runner D S P) : Host D S := (r.device, fun id => (r.sessions id).map (·.session))

/-- The ioctl as a call of the handler. -/
def serve (V : V4l2rChecks) (h : Handler (D × S)) (host : Host D S) (c : IoctlCall) :
    Host D S × Result :=
  match host.2 c.id, V4l2Ioctl.n c.ioctl.nr with
  | none, _ => (host, -einval, c.payload.bytes)
  | some _, none => (host, -enotty, c.payload.bytes)
  | some s, some ioctl =>
    let (result, d, s) := c.ioctl.direct V h ioctl c.payload.bytes (host.1, s)
    ((d, Function.update host.2 c.id (some s)), result)

/-- One call of a run, with the results of the calls so far. -/
def forwardStep (env : RunnerEnv D S P Writer) (overflowChecks : Bool)
    (vv : Driver.Device) (s : Runner D S P × List Result) (c : IoctlCall) :
    Option (Runner D S P × List Result) :=
  (forward env overflowChecks vv s.1 c).map fun (r, result) => (r, s.2 ++ [result])

def serveStep (V : V4l2rChecks) (h : Handler (D × S)) (s : Host D S × List Result)
    (c : IoctlCall) : Option (Host D S × List Result) :=
  some ((serve V h s.1 c).1, s.2 ++ [(serve V h s.1 c).2])

section Forwarding

variable {V : V4l2rChecks} {h : Handler (D × S)} {env : RunnerEnv D S P Writer}
  {overflowChecks : Bool} {vv : Driver.Device} {r : Runner D S P} {c : IoctlCall}

/-- What the driver makes of a response. -/
theorem Ok.result (hc : c.Ok V) (hlive : vv.disconnected = false) {response : List UInt8}
    {result : Result} (h : FixedIoctl.Responds c.ioctl c.payload.bytes response result) :
    (c.ioctl.value c.env c.session c.pool vv c.payload (answer response)
        (c.ioctl.shadow c.env c.payload.bytes response),
      c.ioctl.left c.env c.session c.pool vv c.payload response) = result := by
  obtain ⟨b, hb⟩ := hc.chain
  obtain ⟨ioctl, hagrees⟩ := FixedIoctl.agrees c.ioctl hc.mem
  cases h with
  | error hpos hle hresponse =>
      subst hresponse
      obtain ⟨hvalue, hleft⟩ := FixedIoctl.failed hlive hc.size hb hpos hle
        (c.ioctl.shadow c.env c.payload.bytes _)
      rw [hvalue, hleft]
  | answer hout hresponse =>
      subst hresponse
      obtain ⟨hvalue, hleft⟩ :=
        FixedIoctl.succeeded hlive hc.size hagrees.size hb hc.separate hout
      rw [hvalue, hleft]

/-- An ioctl command reaches its arm. -/
theorem handleCommand_ioctl {pad id code : UInt32} {input : List UInt8} {w : Writer} :
    r.handleCommand (servingEnv V h env) overflowChecks
        (cmdHeader.enc (cmdIoctl, pad) ++ cmdHeader.enc (id, code) ++ input) w =
      some (let (ok, r, w) := Runner.ioctlArm (servingEnv V h env) r id code input w
        (r, if ok then w else (w.write (respHeader einval)).2)) := by
  rw [List.append_assoc, Runner.handleCommand, Codec.read_enc_append]
  simp only [Runner.dispatch, show ¬ cmdIoctl = cmdOpen by decide,
    show ¬ cmdIoctl = cmdClose by decide, if_false, if_true, Codec.read_enc_append, Option.map_some]
  rfl

theorem hostOf_putSession {id : UInt32} {σ : Owned S} {session : S} {d : D} :
    hostOf (r.putSession id σ session d) =
      (d, Function.update (hostOf r).2 id (some session)) := by
  refine Prod.ext rfl (funext fun id' => ?_)
  simp only [hostOf, Runner.putSession, Function.update_apply]
  split <;> rfl

theorem serve_of {host : Host D S} {s : S} {ioctl : V4l2Ioctl} (hs : host.2 c.id = some s)
    (hcode : V4l2Ioctl.n c.ioctl.nr = some ioctl) :
    serve V h host c =
      (((c.ioctl.direct V h ioctl c.payload.bytes (host.1, s)).2.1,
          Function.update host.2 c.id
            (some (c.ioctl.direct V h ioctl c.payload.bytes (host.1, s)).2.2)),
        (c.ioctl.direct V h ioctl c.payload.bytes (host.1, s)).1) := by
  rw [serve, hs, hcode]

/-- The driver, the runner and the dispatcher together make the call of the handler. -/
theorem forward_eq (hlive : vv.disconnected = false) (herrno : FixedIoctl.ReturnsErrno h)
    (hc : c.Ok V) : ∃ r', forward (servingEnv V h env) overflowChecks vv r c =
      some (r', (serve V h (hostOf r) c).2) ∧ hostOf r' = (serve V h (hostOf r) c).1 := by
  obtain ⟨b, hb⟩ := hc.chain
  obtain ⟨ioctl, hagrees⟩ := FixedIoctl.agrees c.ioctl hc.mem
  obtain ⟨pad, hcmd⟩ := hc.commanded
  have hne : c.payload.bytes ≠ [] := by
    intro hnil
    have := hagrees.size.1
    rw [← hc.size, hnil] at this
    exact absurd this (lt_irrefl 0)
  rw [forward, hb]
  simp only [FixedIoctl.sent_eq hb hne, hcmd, handleCommand_ioctl, Option.map_some]
  cases hs : r.sessions c.id with
  | none =>
      have hhost : (hostOf r).2 c.id = none := by simp [hostOf, hs]
      have hresponds : c.ioctl.Responds c.payload.bytes (respHeader einval) _ :=
        .error (by decide : 0 < einval) (by decide) rfl
      refine ⟨r, ?_, ?_⟩
      · simp only [Runner.ioctlArm, hs, serve, hhost, servingEnv,
          Writer.write_empty hresponds.length_le, if_true]
        rw [hc.result hlive hresponds]
      · simp only [serve, hhost]
  | some σ =>
      have hhost : (hostOf r).2 c.id = some σ.session := by simp [hostOf, hs]
      obtain ⟨calls, response, hdispatch, hresponds⟩ :=
        FixedIoctl.direct_responds (s := (r.device, σ.session)) hagrees herrno
          (hc.known ioctl hagrees.code)
      rw [serve_of hhost hagrees.code]
      refine ⟨_, ?_, hostOf_putSession (σ := σ)⟩
      simp only [Runner.ioctlArm, hs, hagrees.code, servingEnv, hdispatch,
        Writer.write_empty hresponds.length_le, if_true]
      rw [hc.result hlive hresponds]
      rfl

theorem forwardStep_eq (hlive : vv.disconnected = false) (herrno : FixedIoctl.ReturnsErrno h)
    (hc : c.Ok V) (s : Runner D S P × List Result) :
    ∃ s', forwardStep (servingEnv V h env) overflowChecks vv s c = some s' ∧
      serveStep V h (hostOf s.1, s.2) c = some (hostOf s'.1, s'.2) := by
  obtain ⟨r', hforward, hhost⟩ :
      ∃ r', forward (servingEnv V h env) overflowChecks vv s.1 c =
          some (r', (serve V h (hostOf s.1) c).2) ∧ hostOf r' = (serve V h (hostOf s.1) c).1 :=
    forward_eq hlive herrno hc
  refine ⟨(r', s.2 ++ [(serve V h (hostOf s.1) c).2]), ?_, ?_⟩
  · rw [forwardStep, hforward]
    rfl
  · rw [serveStep, hhost]

/-- What the device gets is what memory holds at the addresses in the chain. -/
theorem Ok.received (hc : c.Ok V) {b : Builder}
    (hb : c.ioctl.chain c.env c.session c.pool c.payload = .ok b) {memory : Nat → UInt8}
    (hin : InMemory c.env (c.ioctl.parts c.session c.payload) memory) :
    ∃ s, BackedBuilder.addAll c.env ⟨.init c.pool, memory⟩
        (c.ioctl.parts c.session c.payload) = .ok s ∧
      s.builder.descs = b.descs ∧ c.ioctl.received b s.memory = c.ioctl.sent b := by
  obtain ⟨ioctl, hagrees⟩ := FixedIoctl.agrees c.ioctl hc.mem
  have hsize := hc.size
  refine FixedIoctl.received_eq hb (fun hnil => ?_)
    (hc.separate.frames c.payload List.mem_cons_self) (hsize ▸ hagrees.size.2) hin
  rw [hnil] at hsize
  exact absurd hsize.symm hagrees.size.1.ne'

/-- Ioctls that sessions send in any order have the results that the handler gives to
the same calls, and the device and the sessions end as the handler leaves them.
The runner has no more room for a response than the driver gives it. What it reads
of an ioctl is what memory holds at the addresses in the chain, if the structures
of the ioctl are in memory when the chain is built. -/
theorem ioctls_are_forwarded (V : V4l2rChecks) (h : Handler (D × S)) (env : RunnerEnv D S P Writer)
    (overflowChecks : Bool) (vv : Driver.Device) (hlive : vv.disconnected = false)
    (herrno : FixedIoctl.ReturnsErrno h) (r : Runner D S P) (cs : List IoctlCall)
    (hok : ∀ c ∈ cs, c.Ok V) :
    (∃ r' results,
      Trace.run (forwardStep (servingEnv V h env) overflowChecks vv) (r, []) cs =
          some (r', results) ∧
        Trace.run (serveStep V h) (hostOf r, []) cs = some (hostOf r', results)) ∧
      ∀ c ∈ cs, ∀ b memory, c.ioctl.chain c.env c.session c.pool c.payload = .ok b →
        InMemory c.env (c.ioctl.parts c.session c.payload) memory → ∃ s,
          BackedBuilder.addAll c.env ⟨.init c.pool, memory⟩ (c.ioctl.parts c.session c.payload) =
            .ok s ∧ s.builder.descs = b.descs ∧
          c.ioctl.received b s.memory = c.ioctl.sent b := by
  have hstep : ∀ (s : Runner D S P × List Result) (c : IoctlCall), c.Ok V →
      ∃ s', forwardStep (servingEnv V h env) overflowChecks vv s c = some s' ∧
        serveStep V h (hostOf s.1, s.2) c = some (hostOf s'.1, s'.2) :=
    fun s _ hc => forwardStep_eq hlive herrno hc s
  obtain ⟨s', hrun, hrun'⟩ := Trace.run_abs hstep
    (Trace.conforms_of_forall (fun c hc _ => hok c hc) (r, []))
  exact ⟨⟨s'.1, s'.2, hrun, hrun'⟩, fun c hc b memory hb hin => (hok c hc).received hb hin⟩

end Forwarding

/-! ### A control -/

/-- The device has one control. -/
def control : Handler (UInt32 × Unit) where
  raw
    | .gCtrl id, (value, ()) => (.ok ⟨(cmdHeader.enc (id, value)).toArray, rfl⟩, (value, ()))
    | .sCtrl id value, _ => (.ok ⟨(cmdHeader.enc (id, value)).toArray, rfl⟩, (value, ()))
    | _, s => (.error enotty, s)
  buffer _ s := (.error enotty, s)
  extCtrls c s := ((.error enotty, c.ctrls, c.array), s)

theorem control_returnsErrno : FixedIoctl.ReturnsErrno control := by
  intro c s e h
  cases c with
  | gCtrl | sCtrl => cases h
  | _ =>
      obtain rfl := Except.error.inj h
      decide

def controlEnv : RunnerEnv UInt32 Unit Unit Writer where
  newSession d _ := (.ok (), d)
  closeSession d _ := d
  pollFd _ := none
  doIoctl d s _ _ w := (true, d, s, w)
  doMmap d s _ _ := (.error enotty, d, s)
  doMunmap d _ := (.error enotty, d)
  addSession p _ _ := (.ok (), p)
  removeSession p _ := p
  write := Writer.write

/-- A runner with the session 0. -/
def controlRunner : Runner UInt32 Unit Unit where
  device := 0
  poller := ()
  sessions id := if id = 0 then some ⟨0, ()⟩ else none
  sessionIdCounter := 1
  ledger := ⟨1, [], fun id => id = 0, [(0, true)]⟩

/-- An ioctl with a payload of zeros, in the 1:1 mapping. -/
def controlCall (f : FixedIoctl) (id : UInt32) (alwaysUseShadowBuffer : Bool) : IoctlCall where
  ioctl := f
  id := id
  env := ⟨alwaysUseShadowBuffer, 0x100000⟩
  session := { smallSession with
    cmd := ⟨(cmdHeader.enc (cmdIoctl, 0) ++ cmdHeader.enc (id, f.nr)).toArray, rfl⟩ }
  pool := .replicate 4 ⟨0, 0, 0, false⟩
  payload := ⟨.replicate f.size 0, .direct 3 ⟨0, pageSize_pos⟩⟩

theorem controlCall_separate {f : FixedIoctl} (hsize : f.size ≤ Driver.pageSize) (id : UInt32)
    (alwaysUseShadowBuffer : Bool) :
    SeparateObjects ⟨alwaysUseShadowBuffer, 0x100000⟩
      [(controlCall f id alwaysUseShadowBuffer).payload] := by
  have hpage : (controlCall f id alwaysUseShadowBuffer).payload.inPage 3 :=
    ⟨⟨0, pageSize_pos⟩, rfl, by simpa [controlCall] using hsize⟩
  have hempty : Data.inPage 2 ⟨[], .direct 2 ⟨0, pageSize_pos⟩⟩ :=
    ⟨⟨0, pageSize_pos⟩, rfl, by decide⟩
  have hbelow : 2 < 0x100000 / Driver.pageSize ∧ 3 < 0x100000 / Driver.pageSize := by decide
  exact (separateObjects_pages 2 3 hempty hpage (by decide) hbelow.1 hbelow.2).tail

/-- The control is set and read, once through the shadow buffer, and an ioctl
that is not supported and a session that does not exist are refused. -/
def controlCalls : List IoctlCall :=
  [controlCall .sCtrl 0 false, controlCall .gCtrl 0 true, controlCall .sHwFreqSeek 0 true,
    controlCall .gCtrl 1 false]

theorem controlCall_ok {f : FixedIoctl} {id : UInt32} {alwaysUseShadowBuffer : Bool}
    (hmem : f ∈ FixedIoctl.all) (hnr : V4l2Ioctl.n f.nr ≠ some .subscribeEvent)
    (hchain : ((f.chain ⟨alwaysUseShadowBuffer, 0x100000⟩
      (controlCall f id alwaysUseShadowBuffer).session (.replicate 4 ⟨0, 0, 0, false⟩)
      (controlCall f id alwaysUseShadowBuffer).payload).toOption.any fun _ => true) = true) :
    (controlCall f id alwaysUseShadowBuffer).Ok kernelEvents where
  mem := hmem
  commanded := ⟨0, rfl⟩
  size := List.length_replicate
  separate := by
    obtain ⟨ioctl, hagrees⟩ := FixedIoctl.agrees f hmem
    exact controlCall_separate (hagrees.size.2.trans (by decide)) id alwaysUseShadowBuffer
  chain := (Fallible.exists_ok_of_any hchain).imp fun _ h => h.1
  known := by
    rintro ioctl hcode ⟨rfl, -⟩
    exact hnr hcode

theorem controlCalls_ok : ∀ c ∈ controlCalls, c.Ok kernelEvents := by
  simp only [controlCalls, List.mem_cons, List.not_mem_nil, or_false, forall_eq_or_imp, forall_eq]
  refine ⟨?_, ?_, ?_, ?_⟩ <;>
  · refine controlCall_ok (by decide) (by decide) ?_
    decide +kernel

/-- Memory with the command of a call, and zeros elsewhere. -/
def controlMemory (c : IoctlCall) : Nat → UInt8 :=
  store (fun _ => 0) c.session.cmdAddr c.session.cmd.toList

theorem ioctls_are_forwarded_control :
    (∃ r' results,
      Trace.run (forwardStep (servingEnv kernelEvents control controlEnv) true
          (.init ⟨0, 0x10000⟩)) (controlRunner, []) controlCalls = some (r', results) ∧
        Trace.run (serveStep kernelEvents control) (hostOf controlRunner, []) controlCalls =
          some (hostOf r', results)) ∧
      ∀ c ∈ controlCalls, ∃ b s, c.ioctl.chain c.env c.session c.pool c.payload = .ok b ∧
        BackedBuilder.addAll c.env ⟨.init c.pool, controlMemory c⟩
            (c.ioctl.parts c.session c.payload) = .ok s ∧
          c.ioctl.received b s.memory = c.ioctl.sent b := by
  obtain ⟨hruns, hreceived⟩ := ioctls_are_forwarded kernelEvents control controlEnv true
    (.init ⟨0, 0x10000⟩) rfl control_returnsErrno controlRunner controlCalls controlCalls_ok
  refine ⟨hruns, fun c hc => ?_⟩
  have hin : ∀ c ∈ controlCalls, InMemory c.env (c.ioctl.parts c.session c.payload)
      (controlMemory c) := by
    decide +kernel
  obtain ⟨b, hb⟩ := (controlCalls_ok c hc).chain
  obtain ⟨s, hs, -, heq⟩ := hreceived c hc b (controlMemory c) hb (hin c hc)
  exact ⟨b, s, hb, hs, heq⟩

end IoctlCall

end VirtioMedia.Stack
