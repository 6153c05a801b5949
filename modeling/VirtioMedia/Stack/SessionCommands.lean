import VirtioMedia.Device.SessionLifecycle
import VirtioMedia.Stack.Response

/-!
# What a command does to the sessions of the runner

OPEN and CLOSE as the driver sends them, and all other commands: which sessions
the runner holds afterwards, under which IDs, and which ID is the next one.
-/

namespace VirtioMedia.Stack

open V4l2 Device

variable {D S P : Type}

/-- `struct virtio_media_cmd_open`. The padding of the header is not written. -/
def openBytes (pad : UInt32) : List UInt8 := cmdHeader.enc (cmdOpen, pad)

/-- `struct virtio_media_cmd_close`. -/
def closeBytes (pad id padding : UInt32) : List UInt8 :=
  cmdHeader.enc (cmdClose, pad) ++ cmdHeader.enc (id, padding)

/-- What the driver finds in `struct virtio_media_resp_open`. -/
def respOpenId (response : List UInt8) : UInt32 := Codec.u32.dec ((response.drop 8).take 4)

/-- A command of OPEN or of CLOSE. -/
def opensOrCloses (input : List UInt8) : Bool :=
  (cmdHeader.read input).any fun h => h.1.1 == cmdOpen || h.1.1 == cmdClose

theorem respOpenId_openResp (id : UInt32) : respOpenId (openResp id) = id := by
  have hhead : (respHeader 0).length = 8 := length_respHeader 0
  have hid : (Codec.u32.enc id).length = 4 := Codec.u32.length_enc id
  rw [respOpenId, openResp, List.append_assoc, List.drop_left' hhead, List.take_left' hid,
    Codec.u32.dec_enc]

theorem length_openResp (id : UInt32) : (openResp id).length = 16 := by
  simp only [openResp, List.length_append, Codec.length_enc, length_respHeader]
  rfl

theorem answer_openResp (id : UInt32) : answer (openResp id) = .answered 0 16 := by
  rw [openResp, List.append_assoc, answer_append]
  simp only [List.length_append, Codec.length_enc]
  rfl

/-! ### Arms -/

/-- The sessions and the next ID stay. -/
structure SameSessions (r r' : Runner D S P) : Prop where
  quiet : Runner.Quiet r r'
  serials : r'.serials = r.serials
  counter : r'.sessionIdCounter = r.sessionIdCounter

theorem SameSessions.refl (r : Runner D S P) : SameSessions r r := ⟨.same rfl rfl, rfl, rfl⟩

/-- The session with an ID is closed, if there is one. -/
structure ClosesSession (id : UInt32) (r r' : Runner D S P) : Prop where
  quiet : Runner.Quiet r r'
  serials : r'.serials = Function.update r.serials id none
  counter : r'.sessionIdCounter = r.sessionIdCounter

/-- A session is created and the driver is told its ID, or it is told an error. -/
inductive OpensSession (r r' : Runner D S P) : List UInt8 → Prop where
  | opened (h : Runner.Opened r r' true)
    (hcounter : r'.sessionIdCounter = r.sessionIdCounter + 1) :
    OpensSession r r' (openResp r.sessionIdCounter)
  | refused (e : Int) (h : SameSessions r r') : OpensSession r r' (respHeader e)

section Arms

variable {env : RunnerEnv D S P Writer} {overflowChecks ok : Bool} {r r' : Runner D S P}
  {w w' : Writer}

/-- The session is stored, and its ID is written. -/
theorem storeSession_opened (hwrite : env.write = Writer.write) {r₀ : Runner D S P} {session : S}
    (h : Runner.storeSession env overflowChecks r ⟨r₀.ledger.created, session⟩ ⟨16, []⟩ =
      some (ok, r', w'))
    (hsessions : r.sessions = r₀.sessions) (hcounter : r.sessionIdCounter = r₀.sessionIdCounter)
    (hledger : r.ledger = { r₀.ledger with created := r₀.ledger.created + 1 }) :
    ok = true ∧ OpensSession r₀ r' w'.written := by
  have hroom : (openResp r.sessionIdCounter).length ≤ 16 := (length_openResp _).le
  unfold Runner.storeSession at h
  simp only [hwrite, Writer.write_empty hroom, if_true] at h
  split_ifs at h
  cases h
  have hserials : (fun u => Option.map Owned.serial (Function.update r₀.sessions
      r₀.sessionIdCounter (some ⟨r₀.ledger.created, session⟩) u)) =
      Function.update r₀.serials r₀.sessionIdCounter (some r₀.ledger.created) := by
    funext u
    by_cases hu : u = r₀.sessionIdCounter
    · subst hu
      simp
    · simp [hu, Runner.serials]
  refine ⟨rfl, ?_⟩
  dsimp only
  rw [hcounter]
  refine .opened ⟨?_, ?_, ?_, ?_, ?_⟩ ?_
  · rw [← hserials, ← hsessions]
    rfl
  · simp [hledger]
  · simp [hledger]
  · simp [hledger]
  · simp [hledger, hsessions]
  · rfl

theorem openArm_opens (hwrite : env.write = Writer.write)
    (h : Runner.openArm env overflowChecks r ⟨16, []⟩ = some (ok, r', w')) :
    ok = true ∧ OpensSession r r' w'.written := by
  have hroom : ∀ e : Int, (respHeader e).length ≤ 16 := fun e =>
    (length_respHeader e).trans_le (by decide)
  unfold Runner.openArm at h
  rcases hnew : env.newSession r.device r.sessionIdCounter with ⟨result, d⟩
  rw [hnew] at h
  cases result with
  | error e =>
      simp only [hwrite, Writer.write_empty (hroom e)] at h
      cases h
      exact ⟨rfl, .refused e ⟨.same rfl rfl, rfl, rfl⟩⟩
  | ok session =>
      cases hfd : env.pollFd session with
      | none =>
          simp only [hfd] at h
          exact storeSession_opened hwrite h rfl rfl rfl
      | some fd =>
          simp only [hfd] at h
          rcases hadd : env.addSession r.poller fd r.sessionIdCounter with ⟨added, p⟩
          rw [hadd] at h
          cases added with
          | ok =>
              dsimp only at h
              exact storeSession_opened hwrite h rfl rfl rfl
          | error e =>
              simp only [hwrite, Writer.write_empty (hroom e)] at h
              cases h
              exact ⟨rfl, .refused e ⟨.refused rfl rfl, rfl, rfl⟩⟩

theorem closeArm_closes (env : RunnerEnv D S P Writer) (r : Runner D S P) (id : UInt32) :
    ClosesSession id r (Runner.closeArm env r id) := by
  refine ⟨Runner.closeArm_quiet env r id, ?_, ?_⟩
  · funext u
    by_cases hu : u = id
    · subst hu
      cases hs : r.sessions u with
      | none => simp [Runner.serials, Runner.closeArm, hs]
      | some σ =>
          cases hfd : env.pollFd σ.session <;>
            simp [Runner.serials, Runner.closeArm, Runner.closeOwned, hs, hfd]
    · cases hs : r.sessions id with
      | none => simp [Runner.serials, Runner.closeArm, hs, hu]
      | some σ =>
          cases hfd : env.pollFd σ.session <;>
            simp [Runner.serials, Runner.closeArm, Runner.closeOwned, hs, hfd, hu]
  · cases hs : r.sessions id with
    | none => simp [Runner.closeArm, hs]
    | some σ =>
        cases hfd : env.pollFd σ.session <;> simp [Runner.closeArm, Runner.closeOwned, hs, hfd]

theorem ioctlArm_same (env : RunnerEnv D S P Writer) (r : Runner D S P) (id code : UInt32)
    (input : List UInt8) (w : Writer) :
    SameSessions r (Runner.ioctlArm env r id code input w).2.1 := by
  cases hs : r.sessions id with
  | none => simpa [Runner.ioctlArm, hs] using SameSessions.refl r
  | some σ =>
      cases hn : V4l2Ioctl.n code with
      | none => simpa [Runner.ioctlArm, hs, hn] using SameSessions.refl r
      | some ioctl =>
          simp only [Runner.ioctlArm, hs, hn]
          have hser := Runner.putSession_serials r id σ
            (env.doIoctl r.device σ.session ioctl input w).2.2.1
            (env.doIoctl r.device σ.session ioctl input w).2.1 hs
          exact ⟨.same hser rfl, hser, rfl⟩

theorem mmapArm_same (env : RunnerEnv D S P Writer) (r : Runner D S P)
    (id flags offset : UInt32) (w : Writer) :
    SameSessions r (Runner.mmapArm env r id flags offset w).2.1 := by
  cases hs : r.sessions id with
  | none => simpa [Runner.mmapArm, hs] using SameSessions.refl r
  | some σ =>
      simp only [Runner.mmapArm, hs]
      have hser := Runner.putSession_serials r id σ
        (env.doMmap r.device σ.session flags offset).2.2
        (env.doMmap r.device σ.session flags offset).2.1 hs
      exact ⟨.same hser rfl, hser, rfl⟩

theorem dispatch_same {cmd : UInt32} {input : List UInt8} (hopen : cmd ≠ cmdOpen)
    (hclose : cmd ≠ cmdClose)
    (h : r.dispatch env overflowChecks cmd input w = some (ok, r', w')) : SameSessions r r' := by
  unfold Runner.dispatch at h
  rw [if_neg hopen, if_neg hclose] at h
  split_ifs at h
  · cases hread : cmdHeader.read input with
    | none =>
        rw [hread] at h
        cases h
        exact .refl r
    | some p =>
        rw [hread] at h
        obtain ⟨-, hrest⟩ := Prod.mk.inj (Option.some.inj h)
        obtain ⟨rfl, -⟩ := Prod.mk.inj hrest
        exact ioctlArm_same env r p.1.1 p.1.2 p.2 w
  · cases hread : mmapCmd.read input with
    | none =>
        rw [hread] at h
        cases h
        exact .refl r
    | some p =>
        rw [hread] at h
        obtain ⟨-, hrest⟩ := Prod.mk.inj (Option.some.inj h)
        obtain ⟨rfl, -⟩ := Prod.mk.inj hrest
        exact mmapArm_same env r p.1.1 p.1.2.1 p.1.2.2 w
  · cases hread : Codec.u64.read input with
    | none =>
        rw [hread] at h
        cases h
        exact .refl r
    | some p =>
        rw [hread] at h
        cases h
        exact ⟨.same rfl rfl, rfl, rfl⟩
  · cases h
    exact .refl r

end Arms

/-! ### Commands -/

section Commands

variable {env : RunnerEnv D S P Writer} {overflowChecks : Bool} {r r' : Runner D S P}
  {response : List UInt8}

theorem command_open (hwrite : env.write = Writer.write) {pad : UInt32}
    (h : command env overflowChecks r (openBytes pad) 16 = some (r', response)) :
    OpensSession r r' response := by
  have hread : cmdHeader.read (openBytes pad) = some ((cmdOpen, pad), []) := by
    simpa [openBytes] using cmdHeader.read_enc_append (cmdOpen, pad) []
  rcases command_cases h with ⟨hnone, -⟩ | ⟨cmd, pad', rest, ok, w, hread', hdispatch, hresponse⟩
  · rw [hread] at hnone
    cases hnone
  · rw [hread] at hread'
    cases hread'
    rw [Runner.dispatch, if_pos rfl] at hdispatch
    obtain ⟨rfl, hopens⟩ := openArm_opens hwrite hdispatch
    rw [hresponse]
    exact hopens

theorem command_close {pad id padding : UInt32} {room : Nat}
    (h : command env overflowChecks r (closeBytes pad id padding) room = some (r', response)) :
    ClosesSession id r r' := by
  have hread : cmdHeader.read (closeBytes pad id padding) =
      some ((cmdClose, pad), cmdHeader.enc (id, padding)) :=
    cmdHeader.read_enc_append (cmdClose, pad) _
  have hread₂ : cmdHeader.read (cmdHeader.enc (id, padding)) = some ((id, padding), []) := by
    simpa using cmdHeader.read_enc_append (id, padding) []
  rcases command_cases h with ⟨hnone, -⟩ | ⟨cmd, pad', rest, ok, w, hread', hdispatch, -⟩
  · rw [hread] at hnone
    cases hnone
  · rw [hread] at hread'
    cases hread'
    rw [Runner.dispatch, if_neg (by decide), if_pos rfl, hread₂] at hdispatch
    cases hdispatch
    exact closeArm_closes env r id

theorem command_same {input : List UInt8} {room : Nat} (hother : opensOrCloses input = false)
    (h : command env overflowChecks r input room = some (r', response)) : SameSessions r r' := by
  rcases command_cases h with ⟨-, rfl⟩ | ⟨cmd, pad, rest, ok, w, hread, hdispatch, -⟩
  · exact .refl _
  · have hnot : cmd ≠ cmdOpen ∧ cmd ≠ cmdClose := by
      simpa [opensOrCloses, hread] using hother
    exact dispatch_same hnot.1 hnot.2 hdispatch

end Commands

end VirtioMedia.Stack
