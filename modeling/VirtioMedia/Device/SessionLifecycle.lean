import VirtioMedia.Device.Runner

/-!
# Session lifecycle of the runner

Three laws of the runner between two commands: every ID was free when it was
given to the guest, every session that was created is stored or was closed once,
and the stored sessions are those whose ID the guest holds. Only an OPEN that
stores its session can break one of them.
-/

namespace VirtioMedia.Device

open V4l2

namespace Runner

variable {D S P W : Type}

/-- The number of the session stored under each ID. -/
def serials (r : Runner D S P) (id : UInt32) : Option Nat := (r.sessions id).map Owned.serial

/-- The session with number `k` is stored. -/
def Stored (r : Runner D S P) (k : Nat) : Prop := ∃ id, r.serials id = some k

/-- The laws of the session lifecycle. -/
structure Lifecycle (r : Runner D S P) : Prop where
  fresh : ∀ e ∈ r.ledger.delivered, e.2 = true
  fate : ∀ k < r.ledger.created,
    (r.Stored k ∧ r.ledger.closed.count k = 0) ∨ (¬r.Stored k ∧ r.ledger.closed.count k = 1)
  held : ∀ id, (r.sessions id).isSome = r.ledger.live id

/-- The session was registered with the poller, or has nothing to poll. -/
def registered (env : RunnerEnv D S P W) (r : Runner D S P) (session : S) : Bool :=
  match env.pollFd session with
  | none => true
  | some fd =>
    match env.addSession r.poller fd r.sessionIdCounter with
    | (.ok (), _) => true
    | (.error _, _) => false

/-- A session can be created here, and is registered. -/
def sessionReady (env : RunnerEnv D S P W) (r : Runner D S P) : Bool :=
  match env.newSession r.device r.sessionIdCounter with
  | (.error _, _) => false
  | (.ok session, _) => registered env r session

/-- The command is an OPEN whose session is created and registered. -/
def opening (env : RunnerEnv D S P W) (r : Runner D S P) (input : List UInt8) : Bool :=
  match cmdHeader.read input with
  | none => false
  | some ((cmd, _), _) => decide (cmd = cmdOpen) && sessionReady env r

/-- An OPEN that stores its session finds the ID free and can advance the
counter, and its response is written. -/
def opensCleanly (env : RunnerEnv D S P W) (overflowChecks : Bool) (r : Runner D S P)
    (cmd : List UInt8 × W) : Bool :=
  !opening env r cmd.1 ||
    ((r.sessions r.sessionIdCounter).isNone &&
      !(overflowChecks && r.sessionIdCounter.toNat == 2 ^ 32 - 1) &&
      (env.write cmd.2 (openResp r.sessionIdCounter)).1)

/-! ### What one command does to the sessions -/

/-- A command that stores no new session. -/
inductive Quiet (r r' : Runner D S P) : Prop where
  | same (h : r'.serials = r.serials) (hl : r'.ledger = r.ledger)
  | closed (id : UInt32) (h : r'.serials = Function.update r.serials id none)
      (hl : r'.ledger = { r.ledger with
        live := Function.update r.ledger.live id false
        closed := (r.serials id).toList ++ r.ledger.closed })
  | refused (h : r'.serials = r.serials)
      (hl : r'.ledger = { r.ledger with
        created := r.ledger.created + 1
        closed := r.ledger.created :: r.ledger.closed })

theorem putSession_serials (r : Runner D S P) (id : UInt32) (σ : Owned S) (session : S) (d : D)
    (h : r.sessions id = some σ) : (r.putSession id σ session d).serials = r.serials := by
  funext u
  by_cases hu : u = id
  · subst hu
    simp [serials, putSession, h]
  · simp [serials, putSession, hu]

theorem closeArm_quiet (env : RunnerEnv D S P W) (r : Runner D S P) (id : UInt32) :
    Quiet r (closeArm env r id) := by
  cases hs : r.sessions id with
  | none =>
      refine .closed id ?_ ?_
      · funext u
        by_cases hu : u = id
        · subst hu
          simp [serials, closeArm, hs]
        · simp [serials, closeArm, hs, hu]
      · simp [closeArm, hs, serials]
  | some σ =>
      have hsess : (closeArm env r id).sessions = Function.update r.sessions id none := by
        simp only [closeArm, hs, closeOwned]
        split <;> rfl
      have hledger : (closeArm env r id).ledger = { r.ledger with
          live := Function.update r.ledger.live id false
          closed := σ.serial :: r.ledger.closed } := by
        simp only [closeArm, hs, closeOwned]
        split <;> rfl
      refine .closed id ?_ ?_
      · funext u
        by_cases hu : u = id
        · subst hu
          simp [serials, hsess]
        · simp [serials, hsess, hu]
      · rw [hledger]
        simp [serials, hs]

theorem ioctlArm_quiet (env : RunnerEnv D S P W) (r : Runner D S P) (id code : UInt32)
    (input : List UInt8) (w : W) : Quiet r (ioctlArm env r id code input w).2.1 := by
  unfold ioctlArm
  split
  · exact .same rfl rfl
  · rename_i σ hs
    split
    · exact .same rfl rfl
    · exact .same (putSession_serials r id σ _ _ hs) rfl

theorem mmapArm_quiet (env : RunnerEnv D S P W) (r : Runner D S P) (id flags offset : UInt32)
    (w : W) : Quiet r (mmapArm env r id flags offset w).2.1 := by
  unfold mmapArm
  split
  · exact .same rfl rfl
  · rename_i σ hs
    exact .same (putSession_serials r id σ _ _ hs) rfl

/-- An OPEN whose session is not created, or not registered. -/
theorem openArm_quiet {env : RunnerEnv D S P W} {r : Runner D S P}
    (h : sessionReady env r = false) (overflowChecks : Bool) (w : W) :
    ∃ ok r' w', openArm env overflowChecks r w = some (ok, r', w') ∧ Quiet r r' := by
  unfold sessionReady at h
  unfold openArm
  rcases hn : env.newSession r.device r.sessionIdCounter with ⟨result, d⟩
  rw [hn] at h
  cases result with
  | error e => exact ⟨_, _, _, rfl, .same rfl rfl⟩
  | ok session =>
      dsimp only [registered] at h ⊢
      cases hfd : env.pollFd session with
      | none =>
          rw [hfd] at h
          cases h
      | some fd =>
          rw [hfd] at h
          dsimp only at h ⊢
          rcases ha : env.addSession r.poller fd r.sessionIdCounter with ⟨added, p⟩
          rw [ha] at h
          cases added with
          | ok => cases h
          | error e => exact ⟨_, _, _, rfl, .refused rfl rfl⟩

/-- What an OPEN that stores its session leaves behind. -/
theorem openArm_opening {env : RunnerEnv D S P W} {r : Runner D S P}
    (h : sessionReady env r = true) (overflowChecks : Bool) (w : W) :
    ∃ d p session, openArm env overflowChecks r w =
      storeSession env overflowChecks
        { r with
          device := d
          poller := p
          ledger := { r.ledger with created := r.ledger.created + 1 } }
        ⟨r.ledger.created, session⟩ w := by
  unfold sessionReady at h
  unfold openArm
  rcases hn : env.newSession r.device r.sessionIdCounter with ⟨result, d⟩
  rw [hn] at h
  cases result with
  | error e => cases h
  | ok session =>
      dsimp only [registered] at h ⊢
      cases hfd : env.pollFd session with
      | none => exact ⟨d, r.poller, session, rfl⟩
      | some fd =>
          rw [hfd] at h
          dsimp only at h ⊢
          rcases ha : env.addSession r.poller fd r.sessionIdCounter with ⟨added, p⟩
          rw [ha] at h
          cases added with
          | ok => exact ⟨d, p, session, rfl⟩
          | error e => cases h

theorem dispatch_quiet {env : RunnerEnv D S P W} {r : Runner D S P} {cmd : UInt32}
    (h : (decide (cmd = cmdOpen) && sessionReady env r) = false) (overflowChecks : Bool)
    (input : List UInt8) (w : W) :
    ∃ ok r' w', dispatch env overflowChecks r cmd input w = some (ok, r', w') ∧ Quiet r r' := by
  unfold dispatch
  split
  · rename_i hc
    simp only [hc, decide_true, Bool.true_and] at h
    exact openArm_quiet h overflowChecks w
  · split
    · split
      · exact ⟨_, _, _, rfl, .same rfl rfl⟩
      · exact ⟨_, _, _, rfl, closeArm_quiet env r _⟩
    · split
      · split
        · exact ⟨_, _, _, rfl, .same rfl rfl⟩
        · exact ⟨_, _, _, rfl, ioctlArm_quiet env r _ _ _ w⟩
      · split
        · split
          · exact ⟨_, _, _, rfl, .same rfl rfl⟩
          · exact ⟨_, _, _, rfl, mmapArm_quiet env r _ _ _ w⟩
        · split
          · split
            · exact ⟨_, _, _, rfl, .same rfl rfl⟩
            · exact ⟨_, _, _, rfl, .same rfl rfl⟩
          · exact ⟨_, _, _, rfl, .same rfl rfl⟩

theorem step_quiet {env : RunnerEnv D S P W} {r : Runner D S P} {cmd : List UInt8 × W}
    (h : opening env r cmd.1 = false) (overflowChecks : Bool) :
    ∃ r', r.step env overflowChecks cmd = some r' ∧ Quiet r r' := by
  unfold opening at h
  unfold step handleCommand
  cases hr : cmdHeader.read cmd.1 with
  | none => exact ⟨_, rfl, .same rfl rfl⟩
  | some header =>
      rw [hr] at h
      obtain ⟨ok, r', w', hd, hq⟩ := dispatch_quiet h overflowChecks header.2 cmd.2
      simp only [hd]
      exact ⟨_, rfl, hq⟩

/-- The runner after an OPEN that stores its session and does not panic. -/
structure Opened (r r' : Runner D S P) (ok : Bool) : Prop where
  serials : r'.serials =
    Function.update r.serials r.sessionIdCounter (some r.ledger.created)
  created : r'.ledger.created = r.ledger.created + 1
  closed : r'.ledger.closed = r.ledger.closed
  live : r'.ledger.live =
    if ok then Function.update r.ledger.live r.sessionIdCounter true else r.ledger.live
  delivered : r'.ledger.delivered =
    if ok then
      (r.sessionIdCounter, (r.sessions r.sessionIdCounter).isNone &&
        !r.ledger.live r.sessionIdCounter) :: r.ledger.delivered
    else r.ledger.delivered

theorem step_opening {env : RunnerEnv D S P W} {r : Runner D S P} {cmd : List UInt8 × W}
    (h : opening env r cmd.1 = true) (overflowChecks : Bool) :
    if overflowChecks && r.sessionIdCounter.toNat == 2 ^ 32 - 1 then
      r.step env overflowChecks cmd = none
    else
      ∃ r', r.step env overflowChecks cmd = some r' ∧
        Opened r r' (env.write cmd.2 (openResp r.sessionIdCounter)).1 := by
  unfold opening at h
  unfold step handleCommand
  cases hr : cmdHeader.read cmd.1 with
  | none =>
      rw [hr] at h
      cases h
  | some header =>
      rw [hr] at h
      simp only [Bool.and_eq_true, decide_eq_true_eq] at h
      obtain ⟨d, p, session, ho⟩ := openArm_opening h.2 overflowChecks cmd.2
      simp only [dispatch, h.1, if_true, ho, storeSession]
      split
      · rfl
      · refine ⟨_, rfl, ?_⟩
        have hser : (fun u => Option.map Owned.serial (Function.update r.sessions
            r.sessionIdCounter (some ⟨r.ledger.created, session⟩) u)) =
            Function.update r.serials r.sessionIdCounter (some r.ledger.created) := by
          funext u
          by_cases hu : u = r.sessionIdCounter
          · subst hu
            simp
          · simp [hu, serials]
        cases hw : (env.write cmd.2 (openResp r.sessionIdCounter)).1 with
        | true => exact ⟨hser, rfl, rfl, rfl, rfl⟩
        | false => exact ⟨hser, rfl, rfl, rfl, rfl⟩

/-! ### The invariant -/

/-- The laws, and what they rest on: numbers are given out in order and no two
IDs hold the same session. -/
structure SessionsInv (r : Runner D S P) : Prop extends Lifecycle r where
  below : ∀ id k, r.serials id = some k → k < r.ledger.created
  closedBelow : ∀ k ∈ r.ledger.closed, k < r.ledger.created
  inj : ∀ id u k, r.serials id = some k → r.serials u = some k → id = u

theorem sessionsInv_new (d : D) (p : P) : SessionsInv (Runner.new d p : Runner D S P) where
  fresh := fun _ h => absurd h (by simp [Runner.new])
  fate := fun _ h => absurd h (by simp [Runner.new])
  held := fun _ => rfl
  below := fun _ _ h => absurd h (by simp [serials, Runner.new])
  closedBelow := fun _ h => absurd h (by simp [Runner.new])
  inj := fun _ _ _ h => absurd h (by simp [serials, Runner.new])

theorem sessions_isSome (r : Runner D S P) (id : UInt32) :
    (r.sessions id).isSome = (r.serials id).isSome := by
  simp [serials]

theorem stored_congr {r r' : Runner D S P} (h : r'.serials = r.serials) (k : Nat) :
    r'.Stored k ↔ r.Stored k := by
  simp only [Stored, h]

theorem SessionsInv.same {r r' : Runner D S P} (hr : SessionsInv r)
    (h : r'.serials = r.serials) (hl : r'.ledger = r.ledger) : SessionsInv r' where
  fresh := hl ▸ hr.fresh
  fate := by
    intro k hk
    rw [hl] at hk ⊢
    rw [stored_congr h]
    exact hr.fate k hk
  held := by
    intro id
    rw [sessions_isSome, h, hl, ← sessions_isSome]
    exact hr.held id
  below := by rw [h, hl]; exact hr.below
  closedBelow := by rw [hl]; exact hr.closedBelow
  inj := by rw [h]; exact hr.inj

/-- CLOSE moves a session from the stored ones to the closed ones. -/
theorem SessionsInv.close {r r' : Runner D S P} (hr : SessionsInv r) {id : UInt32}
    (h : r'.serials = Function.update r.serials id none)
    (hl : r'.ledger = { r.ledger with
      live := Function.update r.ledger.live id false
      closed := (r.serials id).toList ++ r.ledger.closed }) : SessionsInv r' where
  fresh := by rw [hl]; exact hr.fresh
  fate := by
    intro k hk
    rw [hl] at hk ⊢
    have hk : k < r.ledger.created := hk
    have hstored : r'.Stored k ↔ r.Stored k ∧ r.serials id ≠ some k := by
      constructor
      · rintro ⟨u, hu⟩
        rw [h] at hu
        by_cases hid : u = id
        · simp [hid] at hu
        · rw [Function.update_of_ne hid] at hu
          exact ⟨⟨u, hu⟩, fun hk' => hid (hr.inj u id k hu hk')⟩
      · rintro ⟨⟨u, hu⟩, hne⟩
        refine ⟨u, ?_⟩
        rw [h, Function.update_of_ne]
        · exact hu
        · rintro rfl
          exact hne hu
    rw [hstored]
    simp only [List.count_append]
    by_cases hid : r.serials id = some k
    · have hs : r.Stored k := ⟨id, hid⟩
      have hcount := ((hr.fate k hk).resolve_right fun h => h.1 hs).2
      exact .inr ⟨fun h => h.2 hid, by simp [hid, hcount]⟩
    · have hcount : (r.serials id).toList.count k = 0 := by
        apply List.count_eq_zero_of_not_mem
        simpa [Option.mem_toList] using hid
      rw [hcount, Nat.zero_add]
      simpa [hid] using hr.fate k hk
  held := by
    intro u
    rw [sessions_isSome, h, hl]
    by_cases hu : u = id
    · simp [hu]
    · simp only [Function.update_of_ne hu, ← sessions_isSome]
      exact hr.held u
  below := by
    intro u k hu
    rw [h] at hu
    rw [hl]
    by_cases hid : u = id
    · simp [hid] at hu
    · rw [Function.update_of_ne hid] at hu
      exact hr.below u k hu
  closedBelow := by
    rw [hl]
    intro k hk
    rcases List.mem_append.mp hk with hk | hk
    · exact hr.below id k (by simpa [Option.mem_toList] using hk)
    · exact hr.closedBelow k hk
  inj := by
    intro u v k hu hv
    rw [h] at hu hv
    by_cases hui : u = id
    · simp [hui] at hu
    · by_cases hvi : v = id
      · simp [hvi] at hv
      · rw [Function.update_of_ne hui] at hu
        rw [Function.update_of_ne hvi] at hv
        exact hr.inj u v k hu hv

theorem SessionsInv.count_created {r : Runner D S P} (hr : SessionsInv r) :
    r.ledger.closed.count r.ledger.created = 0 := by
  apply List.count_eq_zero_of_not_mem
  intro h
  exact absurd (hr.closedBelow _ h) (Nat.lt_irrefl _)

/-- A session that could not be registered is closed at once. -/
theorem SessionsInv.refuse {r r' : Runner D S P} (hr : SessionsInv r)
    (h : r'.serials = r.serials)
    (hl : r'.ledger = { r.ledger with
      created := r.ledger.created + 1
      closed := r.ledger.created :: r.ledger.closed }) : SessionsInv r' where
  fresh := by rw [hl]; exact hr.fresh
  fate := by
    intro k hk
    rw [hl] at hk ⊢
    rw [stored_congr h]
    have hk : k < r.ledger.created + 1 := hk
    by_cases hnew : k = r.ledger.created
    · subst hnew
      right
      refine ⟨?_, by simp [hr.count_created]⟩
      rintro ⟨u, hu⟩
      exact absurd (hr.below u _ hu) (Nat.lt_irrefl _)
    · simp only [List.count_cons_of_ne (Ne.symm hnew)]
      exact hr.fate k (by omega)
  held := by
    intro id
    rw [sessions_isSome, h, hl, ← sessions_isSome]
    exact hr.held id
  below := by
    rw [h, hl]
    exact fun id k hk => Nat.lt_succ_of_lt (hr.below id k hk)
  closedBelow := by
    rw [hl]
    intro k hk
    rcases List.mem_cons.mp hk with rfl | hk
    · exact Nat.lt_succ_self _
    · exact Nat.lt_succ_of_lt (hr.closedBelow k hk)
  inj := by rw [h]; exact hr.inj

/-- A new session is stored under a free ID, and the guest has it. -/
theorem SessionsInv.opened {r r' : Runner D S P} (hr : SessionsInv r) (h : Opened r r' true)
    (hfree : r.serials r.sessionIdCounter = none) : SessionsInv r' where
  fresh := by
    rw [h.delivered]
    intro e he
    rcases List.mem_cons.mp he with rfl | he
    · have hnone : (r.sessions r.sessionIdCounter).isSome = false := by
        rw [sessions_isSome, hfree]
        rfl
      have hlive := hr.held r.sessionIdCounter
      rw [hnone] at hlive
      simp [← hlive, Option.isSome_eq_false_iff.mp hnone]
    · exact hr.fresh e he
  fate := by
    intro k hk
    rw [h.created] at hk
    rw [h.closed]
    have hstored : r'.Stored k ↔ r.Stored k ∨ k = r.ledger.created := by
      constructor
      · rintro ⟨u, hu⟩
        rw [h.serials] at hu
        by_cases hid : u = r.sessionIdCounter
        · subst hid
          rw [Function.update_self, Option.some.injEq] at hu
          exact .inr hu.symm
        · rw [Function.update_of_ne hid] at hu
          exact .inl ⟨u, hu⟩
      · rintro (⟨u, hu⟩ | rfl)
        · refine ⟨u, ?_⟩
          rw [h.serials, Function.update_of_ne, hu]
          rintro rfl
          rw [hfree] at hu
          cases hu
        · exact ⟨r.sessionIdCounter, by rw [h.serials, Function.update_self]⟩
    by_cases hnew : k = r.ledger.created
    · exact .inl ⟨hstored.mpr (.inr hnew), hnew ▸ hr.count_created⟩
    · simp only [hstored, hnew, or_false]
      exact hr.fate k (by omega)
  held := by
    intro id
    rw [sessions_isSome, h.serials, h.live]
    by_cases hid : id = r.sessionIdCounter
    · simp [hid]
    · simp only [Function.update_of_ne hid, if_true, ← sessions_isSome]
      exact hr.held id
  below := by
    intro id k hk
    rw [h.serials] at hk
    rw [h.created]
    by_cases hid : id = r.sessionIdCounter
    · subst hid
      rw [Function.update_self, Option.some.injEq] at hk
      omega
    · rw [Function.update_of_ne hid] at hk
      exact Nat.lt_succ_of_lt (hr.below id k hk)
  closedBelow := by
    rw [h.closed, h.created]
    exact fun k hk => Nat.lt_succ_of_lt (hr.closedBelow k hk)
  inj := by
    intro u v k hu hv
    rw [h.serials] at hu hv
    by_cases hui : u = r.sessionIdCounter
    · by_cases hvi : v = r.sessionIdCounter
      · rw [hui, hvi]
      · rw [hui, Function.update_self, Option.some.injEq] at hu
        rw [Function.update_of_ne hvi] at hv
        exact absurd (hr.below v k hv) (by omega)
    · rw [Function.update_of_ne hui] at hu
      by_cases hvi : v = r.sessionIdCounter
      · rw [hvi, Function.update_self, Option.some.injEq] at hv
        exact absurd (hr.below u k hu) (by omega)
      · rw [Function.update_of_ne hvi] at hv
        exact hr.inj u v k hu hv

theorem SessionsInv.quiet {r r' : Runner D S P} (hr : SessionsInv r) (h : Quiet r r') :
    SessionsInv r' := by
  cases h with
  | same h hl => exact hr.same h hl
  | closed id h hl => exact hr.close h hl
  | refused h hl => exact hr.refuse h hl

theorem serials_eq_none_iff (r : Runner D S P) (id : UInt32) :
    r.serials id = none ↔ (r.sessions id).isNone = true := by
  simp [serials]

/-- A command that opens cleanly exists and keeps the laws. -/
theorem SessionsInv.step {env : RunnerEnv D S P W} {overflowChecks : Bool} {r : Runner D S P}
    {cmd : List UInt8 × W} (hr : SessionsInv r)
    (hok : opensCleanly env overflowChecks r cmd = true) :
    ∃ r', r.step env overflowChecks cmd = some r' ∧ SessionsInv r' := by
  by_cases ho : opening env r cmd.1 = true
  · simp only [opensCleanly, ho, Bool.not_true, Bool.false_or, Bool.and_eq_true,
      Bool.not_eq_true'] at hok
    obtain ⟨⟨hfree, hmax⟩, hw⟩ := hok
    have hstep := step_opening ho overflowChecks
    rw [hmax, hw] at hstep
    obtain ⟨r', hr', hopened⟩ := hstep
    exact ⟨r', hr', hr.opened hopened ((serials_eq_none_iff r _).mpr hfree)⟩
  · obtain ⟨r', hr', hq⟩ := step_quiet (by simpa using ho) overflowChecks
    exact ⟨r', hr', hr.quiet hq⟩

/-- After an OPEN under an ID in use, the session that had it is lost. -/
theorem lost_of_opened {r r' : Runner D S P} {ok : Bool} (hr : SessionsInv r)
    (h : Opened r r' ok) {k : Nat} (hk : r.serials r.sessionIdCounter = some k) :
    ¬Lifecycle r' := by
  intro hl
  have hlt := hr.below _ k hk
  have hcount := ((hr.fate k hlt).resolve_right fun hn => hn.1 ⟨_, hk⟩).2
  have hnot : ¬r'.Stored k := by
    rintro ⟨u, hu⟩
    rw [h.serials] at hu
    by_cases hid : u = r.sessionIdCounter
    · rw [hid, Function.update_self, Option.some.injEq] at hu
      omega
    · rw [Function.update_of_ne hid] at hu
      exact hid (hr.inj u _ k hu hk)
  have hfate := hl.fate k (by rw [h.created]; omega)
  rw [h.closed, hcount] at hfate
  rcases hfate with ⟨hs, -⟩ | ⟨-, h1⟩
  · exact hnot hs
  · cases h1

/-- The laws hold after a command exactly when it opens cleanly. -/
theorem lifecycle_step_iff {env : RunnerEnv D S P W} {overflowChecks : Bool}
    {r : Runner D S P} {cmd : List UInt8 × W} (hr : SessionsInv r) :
    (∃ r', r.step env overflowChecks cmd = some r' ∧ Lifecycle r') ↔
      opensCleanly env overflowChecks r cmd = true := by
  constructor
  · rintro ⟨r', hr', hl⟩
    by_cases ho : opening env r cmd.1 = true
    · have hstep := step_opening ho overflowChecks
      by_cases hmax : (overflowChecks && r.sessionIdCounter.toNat == 2 ^ 32 - 1) = true
      · rw [if_pos hmax, hr'] at hstep
        cases hstep
      · rw [if_neg hmax] at hstep
        obtain ⟨r'', hr'', hopened⟩ := hstep
        rw [hr', Option.some.injEq] at hr''
        subst hr''
        cases hs : r.serials r.sessionIdCounter with
        | some k => exact absurd hl (lost_of_opened hr hopened hs)
        | none =>
            cases hw : (env.write cmd.2 (openResp r.sessionIdCounter)).1 with
            | true =>
                have hfree := (serials_eq_none_iff r _).mp hs
                have hmax := Bool.eq_false_iff.mpr hmax
                simp only [opensCleanly, ho, hfree, hw, hmax]
                rfl
            | false =>
                -- the session is stored, but its ID was not delivered
                rw [hw] at hopened
                have hheld := hl.held r.sessionIdCounter
                rw [sessions_isSome, hopened.serials, hopened.live] at hheld
                have hbefore := hr.held r.sessionIdCounter
                rw [sessions_isSome, hs] at hbefore
                simp [← hbefore] at hheld
    · simp only [opensCleanly, ho]
      rfl
  · intro hok
    obtain ⟨r', hr', hinv⟩ := hr.step hok
    exact ⟨r', hr', hinv.toLifecycle⟩

/-- For every sequence of commands, with any device, poller and writer: after
every command the laws of the session lifecycle hold (and no command panics) if
and only if every OPEN that stores its session finds its ID free, can advance
the counter and gets its response written. -/
theorem session_lifecycle (env : RunnerEnv D S P W) (overflowChecks : Bool) (device : D)
    (poller : P) (cmds : List (List UInt8 × W)) :
    Trace.Conforms (step env overflowChecks)
        (fun r cmd => ∃ r', r.step env overflowChecks cmd = some r' ∧ Lifecycle r')
        (.new device poller) cmds ↔
      Trace.Conforms (step env overflowChecks)
        (fun r cmd => opensCleanly env overflowChecks r cmd = true)
        (.new device poller) cmds := by
  apply Trace.conforms_congr (P := SessionsInv) _ _ (sessionsInv_new device poller)
    (Trace.conforms_true _ cmds)
  · intro r cmd r' hr hok hstep
    obtain ⟨r'', hr'', hinv⟩ := hr.step hok
    rw [hstep, Option.some.injEq] at hr''
    exact hr'' ▸ hinv
  · intro r cmd hr _
    exact lifecycle_step_iff hr

/-- A device whose sessions need no polling, and a writer that fails as told. -/
def failingEnv : RunnerEnv Unit Unit Unit Bool where
  newSession := fun _ _ => (.ok (), ())
  closeSession := fun _ _ => ()
  pollFd := fun _ => none
  doIoctl := fun _ _ _ _ w => (true, (), (), w)
  doMmap := fun _ _ _ _ => (.error einval, (), ())
  doMunmap := fun _ _ => (.error einval, ())
  addSession := fun _ _ _ => (.ok (), ())
  removeSession := fun _ _ => ()
  write := fun w _ => (w, w)

/-- An OPEN whose response cannot be written leaves a session that the guest
does not know. -/
theorem session_lifecycle_fails_unwrittenResponse :
    ¬Trace.Conforms (step failingEnv false)
        (fun r cmd => ∃ r', r.step failingEnv false cmd = some r' ∧ Lifecycle r')
        (.new () ()) [(Codec.u32.enc cmdOpen ++ Codec.u32.enc 0, false)] := by
  rintro ⟨⟨r', hr', hl⟩, -⟩
  have hfacts : ((Runner.new () () : Runner Unit Unit Unit).step failingEnv false
      (Codec.u32.enc cmdOpen ++ Codec.u32.enc 0, false)).any
        (fun r => (r.sessions 0).isSome && !r.ledger.live 0) = true := by
    decide +kernel
  rw [hr', Option.any_some, Bool.and_eq_true, Bool.not_eq_true'] at hfacts
  have := hl.held 0
  rw [hfacts.1, hfacts.2] at this
  cases this

end Runner

end VirtioMedia.Device
