import VirtioMedia.Ffmpeg.Drain
import VirtioMedia.Ffmpeg.InputLedger

/-!
# The decode loop ends

A step of the loop takes a job, moves a drain on, takes something out of the
backlog of the codec, or uses up an output buffer, in this order of weight. The
codec may take any finite amount of work from a packet, and `try_receive_frame`
calls itself at most once, since a codec that was flushed asks for no input.
-/

namespace VirtioMedia.Ffmpeg

open V4l2 Device Fallible

variable {κ : Type} {W : World κ} {backlog : κ → Nat} {draining : κ → Bool} {s s' : Session κ}

/-- A codec with a finite backlog, which a frame or invalid data lowers. From a null
packet until it answers that it is flushed it does not ask for input. The other
calls of the loop neither raise the backlog nor end the draining. -/
structure World.Finite (W : World κ) (backlog : κ → Nat) (draining : κ → Bool) : Prop where
  backlogQuiet : ∀ n, W.Quiet fun k => backlog k ≤ n
  drainingQuiet : W.Quiet fun k => draining k = true
  lowers : ∀ k, 0 ≤ (W.receiveFrame k).1 ∨ (W.receiveFrame k).1 = averrorInvaliddata →
    backlog (W.receiveFrame k).2.2 < backlog k
  flushed : ∀ k, 0 ≤ (W.sendPacket k none).1 → draining (W.sendPacket k none).2 = true
  never : ∀ k, draining k = true → (W.receiveFrame k).1 ≠ averrorEagain
  drains : ∀ k, draining k = true → (W.receiveFrame k).1 ≠ averrorEof →
    draining (W.receiveFrame k).2.2 = true

/-- The world as the decode loop sees it, in which the calls that it does not make
do nothing. -/
def World.inLoop (W : World κ) : World κ :=
  { W with
    buildDecoder := fun k => (true, k)
    readExact := fun k _ _ => (none, k)
    mmap := fun k _ => (true, k) }

/-! ### The measure -/

/-- How far a drain is from its end: it was initiated, the codec is flushed, or
neither. -/
def phase (draining : κ → Bool) (d : DrainState) (k : κ) : Nat :=
  if d = .initiated then if draining k then 1 else 2 else 0

/-- Jobs, drain, backlog and output buffers. -/
def Session.rank (backlog : κ → Nat) (draining : κ → Bool) (s : Session κ) :
    Nat × Nat × Nat × Nat :=
  (s.jobs.length, phase draining s.drainState s.world, backlog s.world,
    s.availableOutputFrames.length)

/-- The ranks in lexicographic order. -/
def Lower (backlog : κ → Nat) (draining : κ → Bool) (s' s : Session κ) : Prop :=
  Prod.Lex (· < ·) (Prod.Lex (· < ·) (Prod.Lex (· < ·) (· < ·))) (s'.rank backlog draining)
    (s.rank backlog draining)

/-- The rank of a session cannot go down forever. -/
theorem lower_wellFounded (backlog : κ → Nat) (draining : κ → Bool) :
    WellFounded (Lower backlog draining) :=
  InvImage.wf _ (WellFounded.prod_lex Nat.lt_wfRel.wf
    (WellFounded.prod_lex Nat.lt_wfRel.wf
      (WellFounded.prod_lex Nat.lt_wfRel.wf Nat.lt_wfRel.wf)))

/-- With fewer jobs a session is lower, whatever else happens. -/
theorem lower_of_jobs (h : s'.jobs.length < s.jobs.length) : Lower backlog draining s' s :=
  .left _ _ h

/-- With the same jobs, a drain that has come further is lower. -/
theorem lower_of_phase (hjobs : s'.jobs = s.jobs)
    (h : phase draining s'.drainState s'.world < phase draining s.drainState s.world) :
    Lower backlog draining s' s := by
  simp only [Lower, Session.rank, Prod.lex_def, hjobs, true_and]
  omega

/-- With the same jobs and drain, a codec with less to give is lower. -/
theorem lower_of_backlog (hjobs : s'.jobs = s.jobs)
    (hphase : phase draining s'.drainState s'.world ≤ phase draining s.drainState s.world)
    (h : backlog s'.world < backlog s.world) : Lower backlog draining s' s := by
  simp only [Lower, Session.rank, Prod.lex_def, hjobs, true_and]
  omega

/-- With all of these the same, a frame less that waits for a buffer is lower.
-/
theorem lower_of_output (hjobs : s'.jobs = s.jobs)
    (hphase : phase draining s'.drainState s'.world ≤ phase draining s.drainState s.world)
    (hbacklog : backlog s'.world ≤ backlog s.world)
    (h : s'.availableOutputFrames.length < s.availableOutputFrames.length) :
    Lower backlog draining s' s := by
  simp only [Lower, Session.rank, Prod.lex_def, hjobs, true_and]
  omega

theorem backlog_le_of_leads (hW : W.Finite backlog draining) {k k' : κ} (h : W.Leads k k') :
    backlog k' ≤ backlog k :=
  h _ (hW.backlogQuiet _) le_rfl

theorem draining_of_leads (hW : W.Finite backlog draining) {k k' : κ} (h : W.Leads k k')
    (hk : draining k = true) : draining k' = true :=
  h _ hW.drainingQuiet hk

theorem phase_le {d : DrainState} {k k' : κ} (h : draining k = true → draining k' = true) :
    phase draining d k' ≤ phase draining d k := by
  unfold phase
  grind

theorem phase_of_ne {d : DrainState} (hd : d ≠ .initiated) (k : κ) : phase draining d k = 0 :=
  if_neg hd

theorem phase_initiated (k : κ) :
    phase draining .initiated k = if draining k then 1 else 2 := rfl

theorem phase_initiated_pos (k : κ) : 0 < phase draining .initiated k := by
  rw [phase_initiated]
  split <;> decide

/-! ### Output and input -/

/-- A frame that is output lowers the rank. -/
theorem tryOutputFrame_lower (hW : W.Finite backlog draining)
    (h : tryOutputFrame W s = .ok (.ok true, s')) : Lower backlog draining s' s := by
  rcases tryOutputFrame_cases h with ⟨-, -, err, herr⟩ | ⟨ctx, hctx, ⟨hfalse, -⟩ |
    ⟨out, rest, havail, ⟨hdrain, -, hemit⟩ | ⟨hdrain, frame, k, hframe, hk,
      ⟨⟨err, herr⟩, -⟩ | ⟨bytesUsed, hemit⟩⟩⟩⟩
  · cases herr
  · cases hfalse
  · obtain ⟨⟨q, rfl, -⟩, -⟩ := emit_cases hemit
    refine lower_of_output (by simp [Session.jobs, hctx]) ?_ ?_ (by simp [havail])
    · rw [phase_of_ne (by simp [Session.drainState])]
      exact Nat.zero_le _
    · exact backlog_le_of_leads hW (signalled_leads _)
  · cases herr
  · obtain ⟨⟨q, rfl, -⟩, -⟩ := emit_cases hemit
    have hleads := hk.trans (signalled_leads { s with
      availableOutputFrames := rest, context := some { ctx with avframe := none }, world := k })
    refine lower_of_output (by simp [Session.jobs, hctx]) ?_ ?_ (by simp [havail])
    · simpa [Session.drainState, hctx] using
        phase_le (d := ctx.drainState) (draining_of_leads hW hleads)
    · exact backlog_le_of_leads hW hleads

/-- A job that is sent lowers the rank. -/
theorem trySendInputJob_lower (h : trySendInputJob W s = .ok (.ok true, s')) :
    s'.jobs.length < s.jobs.length := by
  rcases trySendInputJob_cases h with ⟨-, -, err, herr⟩ | ⟨ctx, hctx, ⟨-, hfalse, -⟩ |
    ⟨rest, hjobs, -, rfl⟩ | ⟨packet, i, rest, hjobs, ⟨hfalse, -⟩ | ⟨-, err, herr, -⟩ |
      ⟨-, hemit⟩⟩⟩
  · cases herr
  · cases hfalse
  · simp [Session.jobs, hctx, hjobs]
  · cases hfalse
  · cases herr
  · obtain ⟨⟨q, rfl, -⟩, -⟩ := emit_cases hemit
    simp [Session.jobs, hctx, hjobs]

/-! ### Frames -/

/-- A frame or invalid data comes out of the codec, or the drain waits for its last
frame. The codec is asked at `k`. -/
def Session.Receives (W : World κ) (s : Session κ) (k : κ) (s' : Session κ) : Prop :=
  s'.jobs = s.jobs ∧
    ((s'.drainState = s.drainState ∧
        (0 ≤ (W.receiveFrame k).1 ∨ (W.receiveFrame k).1 = averrorInvaliddata) ∧
        W.Leads (W.receiveFrame k).2.2 s'.world) ∨
      (s.drainState = .initiated ∧ s'.drainState = .awaitingFinalFrame))

theorem received_ne_hang (s : Session κ) (ctx : DecodingContext) (frame : AvFrame) :
    s.received W ctx frame ≠ .error .hang := by
  unfold Session.received
  split
  · simp
  · dsimp only
    split
    · split <;> simp
    · simp

/-- A frame that was received leaves the jobs and the drain as they are. -/
theorem received_true {ctx : DecodingContext} {frame : AvFrame}
    (h : s.received W ctx frame = .ok (.ok true, s')) :
    s'.jobs = ctx.jobs ∧ s'.drainState = ctx.drainState ∧ W.Leads s.world s'.world := by
  rcases received_cases h with ⟨-, rfl⟩ | ⟨params, ⟨⟨err, herr⟩, -⟩ | ⟨converter, hannounce⟩⟩
  · exact ⟨rfl, rfl, .refl W _⟩
  · cases herr
  · obtain ⟨q, avframe, rfl, -⟩ := announce_cases hannounce
    refine ⟨rfl, rfl, .trans ?_ (signalled_leads _)⟩
    exact fun Q hQ hk => hQ.swsGetContext _ hk

/-- One call of `try_receive_frame` answers whatever the fuel, or it flushes the
codec, which asked for input, and calls itself. -/
theorem tryReceiveFrame_step (W : World κ) (s : Session κ) :
    (∃ x, (∀ n, tryReceiveFrame W (n + 1) s = x) ∧ x ≠ .error .hang ∧
      ∀ s', x = .ok (.ok true, s') → s.Receives W (W.frameAlloc s.world).2 s') ∨
    (s.drainState = .initiated ∧ ∃ k,
      (W.receiveFrame (W.frameAlloc s.world).2).1 = averrorEagain ∧
      k = (W.receiveFrame (W.frameAlloc s.world).2).2.2 ∧ 0 ≤ (W.sendPacket k none).1 ∧
      ∀ n, tryReceiveFrame W (n + 1) s =
        tryReceiveFrame W n { s with world := (W.sendPacket k none).2 }) := by
  cases hctx : s.context with
  | none => exact .inl ⟨_, fun n => by rw [tryReceiveFrame, hctx], by simp, by simp⟩
  | some ctx =>
      have hjobs : s.jobs = ctx.jobs := by simp [Session.jobs, hctx]
      have hstate : s.drainState = ctx.drainState := by simp [Session.drainState, hctx]
      by_cases hframe : ctx.avframe.isSome = true
      · exact .inl ⟨.ok (.ok false, s), fun n => by simp [tryReceiveFrame, hctx, hframe], by simp,
          by simp⟩
      by_cases halloc : (W.frameAlloc s.world).1 = true
      swap
      · exact .inl ⟨.ok (.error .cannotCreateAvFrame, { s with world := (W.frameAlloc s.world).2 }),
          fun n => by simp [tryReceiveFrame, hctx, hframe, halloc], by simp, by simp⟩
      generalize hk : (W.frameAlloc s.world).2 = k
      have hworld : (W.tryReceiveFrame k).2 = (W.receiveFrame k).2.2 := rfl
      rcases tryReceiveFrame_answer W k with ⟨hagain, hanswer⟩ | ⟨-, hanswer⟩ | ⟨hpos, hanswer⟩ |
        ⟨-, hanswer⟩
      · by_cases hdrain : ctx.drainState = .initiated
        · by_cases hflush : 0 ≤ (W.sendPacket (W.receiveFrame k).2.2 none).1
          · refine .inr ⟨hstate.trans hdrain, _, hagain, rfl, hflush, fun n => ?_⟩
            simp [tryReceiveFrame, hctx, hframe, halloc, hk, hanswer, hworld, hdrain,
              World.flushDecoder, hflush]
          · refine .inl ⟨.ok (.error .drainFailed, { s with
              world := (W.sendPacket (W.receiveFrame k).2.2 none).2
              context := some { ctx with drainState := .none } }), fun n => ?_, by simp, by simp⟩
            simp [tryReceiveFrame, hctx, hframe, halloc, hk, hanswer, hworld, hdrain,
              World.flushDecoder, hflush]
        · refine .inl ⟨.ok (.ok false, { s with world := (W.receiveFrame k).2.2 }), fun n => ?_,
            by simp, by simp⟩
          simp [tryReceiveFrame, hctx, hframe, halloc, hk, hanswer, hworld, hdrain]
      · by_cases hdrain : ctx.drainState = .initiated
        · refine .inl ⟨.ok (.ok true, { s with
            world := (W.receiveFrame k).2.2
            context := some { ctx with drainState := .awaitingFinalFrame } }), fun n => ?_,
            by simp, ?_⟩
          · simp [tryReceiveFrame, hctx, hframe, halloc, hk, hanswer, hworld, hdrain]
          · rintro s' h
            cases h
            exact ⟨hjobs.symm, .inr ⟨hstate.trans hdrain, rfl⟩⟩
        · refine .inl ⟨.ok (.ok false, { s with world := (W.receiveFrame k).2.2 }), fun n => ?_,
            by simp, by simp⟩
          simp [tryReceiveFrame, hctx, hframe, halloc, hk, hanswer, hworld, hdrain]
      · refine .inl
          ⟨{ s with world := (W.receiveFrame k).2.2 }.received W ctx (W.receiveFrame k).2.1,
            fun n => ?_, received_ne_hang _ _ _, fun s' h => ?_⟩
        · simp [tryReceiveFrame, hctx, hframe, halloc, hk, hanswer, hworld]
        · obtain ⟨hjobs', hstate', hleads⟩ := received_true h
          exact ⟨hjobs'.trans hjobs.symm, .inl ⟨hstate'.trans hstate.symm, .inl hpos, hleads⟩⟩
      · by_cases hinvalid : (W.receiveFrame k).1 = averrorInvaliddata
        · refine .inl ⟨.ok (.ok true, { s with world := (W.receiveFrame k).2.2 }), fun n => ?_,
            by simp, fun s' h => ?_⟩
          · simp [tryReceiveFrame, hctx, hframe, halloc, hk, hanswer, hworld, hinvalid]
          · cases h
            exact ⟨rfl, .inl ⟨rfl, .inr hinvalid, .refl W _⟩⟩
        · refine .inl ⟨.ok (.error (.decodingError (W.receiveFrame k).1),
            { s with world := (W.receiveFrame k).2.2 }), fun n => ?_, by simp, by simp⟩
          simp [tryReceiveFrame, hctx, hframe, halloc, hk, hanswer, hworld, hinvalid]

/-- A codec that is being drained still is after a frame or invalid data. -/
theorem Session.Receives.phase_le (hW : W.Finite backlog draining) {k : κ}
    (hk : W.Leads s.world k) (h : s.Receives W k s') :
    phase draining s'.drainState s'.world ≤ phase draining s.drainState s.world := by
  rcases h with ⟨-, ⟨hstate, hanswer, hleads⟩ | ⟨-, hstate'⟩⟩
  · rw [hstate]
    refine Ffmpeg.phase_le fun hdraining => draining_of_leads hW hleads ?_
    refine hW.drains k (draining_of_leads hW hk hdraining) ?_
    rcases hanswer with hpos | hinvalid
    · exact fun heof => absurd (heof ▸ hpos) (by decide)
    · rw [hinvalid]
      decide
  · rw [hstate', phase_of_ne (by simp)]
    exact Nat.zero_le _

/-- What is received lowers the rank. -/
theorem Session.Receives.lower (hW : W.Finite backlog draining) {k : κ} (hk : W.Leads s.world k)
    (h : s.Receives W k s') : Lower backlog draining s' s := by
  have hphase := h.phase_le hW hk
  obtain ⟨hjobs, ⟨-, hanswer, hleads⟩ | ⟨hstate, hstate'⟩⟩ := h
  · refine lower_of_backlog hjobs hphase ?_
    calc backlog s'.world
        ≤ backlog (W.receiveFrame k).2.2 := backlog_le_of_leads hW hleads
      _ < backlog k := hW.lowers k hanswer
      _ ≤ backlog s.world := backlog_le_of_leads hW hk
  · refine lower_of_phase hjobs ?_
    rw [hstate, hstate', phase_of_ne (by simp)]
    exact phase_initiated_pos _

/-- Any fuel from two on gives the same answer of `try_receive_frame`, and a
progress lowers the rank. -/
theorem tryReceiveFrame_settles (hW : W.Finite backlog draining) (s : Session κ) :
    ∃ x, (∀ n, tryReceiveFrame W (n + 2) s = x) ∧ x ≠ .error .hang ∧
      ∀ s', x = .ok (.ok true, s') → Lower backlog draining s' s := by
  have halloc (k : κ) : W.Leads k (W.frameAlloc k).2 := fun Q hQ hk => hQ.frameAlloc k hk
  rcases tryReceiveFrame_step W s with ⟨x, hx, hne, htrue⟩ | ⟨hstate, k, hagain, rfl, hflush, hcall⟩
  · exact ⟨x, fun n => hx (n + 1), hne, fun s' h => (htrue s' h).lower hW (halloc _)⟩
  · -- The codec is flushed, so it does not ask for input again.
    have hdraining := hW.flushed _ hflush
    generalize W.sendPacket (W.receiveFrame (W.frameAlloc s.world).2).2.2 none = p
      at hcall hdraining
    rcases tryReceiveFrame_step W { s with world := p.2 } with
      ⟨x, hx, hne, htrue⟩ | ⟨-, k, hagain', -⟩
    · refine ⟨x, fun n => (hcall (n + 1)).trans (hx n), hne, fun s' h => ?_⟩
      have hreceives := htrue s' h
      refine lower_of_phase hreceives.1 ((hreceives.phase_le hW (halloc _)).trans_lt ?_)
      have hbefore : draining s.world = false := by
        by_contra htrue
        exact hW.never _ (draining_of_leads hW (halloc _) (by simpa using htrue)) hagain
      change phase draining s.drainState p.2 < _
      rw [hstate, phase_initiated, phase_initiated, hbefore, hdraining]
      decide
    · exact absurd hagain' (hW.never _ (draining_of_leads hW (halloc _) hdraining))

/-! ### What does not hang -/

/-- The loop over the planes ends, or panics. -/
theorem planeRanges_ne_hang {format : Int} {width : UInt32} {buffers sizes : List Nat} {i : Nat}
    (planes : List PlaneDescriptor) :
    planeRanges W format width buffers sizes i planes ≠ .error .hang := by
  induction planes generalizing i with
  | nil => simp [planeRanges]
  | cons p rest ih =>
      intro h
      unfold planeRanges at h
      split at h
      · cases h
      · split at h
        · split at h
          · cases h
          · split at h
            · cases h
            · split at h
              · cases h
              · exact ih (map_eq_error.mp h)
        · cases h

theorem buildOwned_ne_hang (format : Int) (width height : UInt32) (buffers : List Nat)
    (planes : List PlaneDescriptor) :
    buildOwned W format width height buffers planes ≠ .error .hang := by
  intro h
  unfold buildOwned at h
  rcases bind_eq_error.mp h with hranges | ⟨ranges, -, h⟩
  · exact planeRanges_ne_hang planes hranges
  · split at h
    · cases h
    · split at h
      · cases h
      · split at h <;> cases h

theorem renderFrame_ne_hang (k : κ) (size : UInt32 × UInt32) (c : SwConverter) (planes : List Nat)
    (frame : AvFrame) : renderFrame W k size c planes frame ≠ .error .hang := by
  intro h
  rcases renderFrame_cases W k size c planes frame with
    ⟨crash, hx, rfl | ⟨buffers, ps, hbuilt⟩⟩ | ⟨err, k', hx, -⟩ | ⟨k', bytes, -, hx⟩
  · cases hx.symm.trans h
  · cases hx.symm.trans h
    exact buildOwned_ne_hang _ _ _ _ _ hbuilt
  · cases hx.symm.trans h
  · cases hx.symm.trans h

theorem tryOutputFrame_ne_hang (W : World κ) (s : Session κ) :
    tryOutputFrame W s ≠ .error .hang := by
  intro h
  unfold tryOutputFrame at h
  split at h
  · cases h
  · split at h
    · cases h
    · split at h
      · split at h <;> cases h
      · split at h
        · cases h
        · exact renderFrame_ne_hang _ _ _ _ _ (map_eq_error.mp h)

theorem trySendInputJob_ne_hang (W : World κ) (s : Session κ) :
    trySendInputJob W s ≠ .error .hang := by
  intro h
  unfold trySendInputJob at h
  split at h
  · cases h
  · split at h
    · cases h
    · cases h
    · dsimp only at h
      split at h
      · cases h
      · cases h
      · split at h
        · cases h
        · split at h <;> cases h

/-! ### The loop -/

/-- A round of the loop, which asks the codec at most twice. -/
def progress (W : World κ) : Loop.Step Crash DecodeError (Session κ) Bool :=
  Loop.orElse (tryOutputFrame W) (Loop.orElse (tryReceiveFrame W 2) (trySendInputJob W))

/-- One round ends. -/
theorem progress_ne_hang (hW : W.Finite backlog draining) (s : Session κ) :
    progress W s ≠ .error .hang := by
  refine Loop.orElse_ne_crash (tryOutputFrame_ne_hang W) (fun s => ?_) s
  refine Loop.orElse_ne_crash (fun s => ?_) (trySendInputJob_ne_hang W) s
  obtain ⟨x, hx, hne, -⟩ := tryReceiveFrame_settles hW s
  exact (hx 0).trans_ne hne

/-- Every round that makes progress lowers the rank. -/
theorem progress_lower (hW : W.Finite backlog draining)
    (h : progress W s = .ok (.ok true, s')) : Lower backlog draining s' s := by
  rcases Loop.orElse_cases h with ⟨houtput, -⟩ | ⟨s₁, houtput, hrest⟩
  · exact tryOutputFrame_lower hW houtput
  · obtain rfl : s₁ = s := by
      rcases tryOutputFrame_cases houtput with ⟨-, hs, -⟩ | ⟨ctx, -, ⟨-, hs, -⟩ |
        ⟨out, rest, -, ⟨-, -, hemit⟩ | ⟨-, frame, k, -, -, ⟨⟨err, herr⟩, -⟩ | ⟨bytesUsed, hemit⟩⟩⟩⟩
      · exact hs
      · exact hs
      · obtain ⟨-, htrue | ⟨err, herr⟩⟩ := emit_cases hemit
        · cases htrue
        · cases herr
      · cases herr
      · obtain ⟨-, htrue | ⟨err, herr⟩⟩ := emit_cases hemit
        · cases htrue
        · cases herr
    rcases Loop.orElse_cases hrest with ⟨hreceive, -⟩ | ⟨s₂, hreceive, hsend⟩
    · obtain ⟨x, hx, -, htrue⟩ := tryReceiveFrame_settles hW s₁
      exact htrue s' ((hx 0).symm.trans hreceive)
    · have hjobs : s₁.jobs = s₂.jobs := by simpa using (tryReceiveFrame_sends hreceive).jobs
      refine lower_of_jobs ?_
      rw [hjobs]
      exact trySendInputJob_lower hsend

/-- The fuel is only used by the loop and by `try_receive_frame`. -/
theorem tryReceiveFrame_fuel (W : World κ) (m n : Nat) :
    tryReceiveFrame { W with fuel := m } n = tryReceiveFrame W n := by
  induction n with
  | zero => rfl
  | succ n ih =>
      funext s
      unfold tryReceiveFrame
      rw [ih]
      rfl

/-- Two steps of fuel are enough for one round. -/
theorem tryProgress_fuel (hW : W.Finite backlog draining) (n : Nat) :
    tryProgress { W with fuel := n + 2 } = progress W := by
  have hreceive : tryReceiveFrame { W with fuel := n + 2 } (n + 2) = tryReceiveFrame W 2 := by
    rw [tryReceiveFrame_fuel]
    funext s
    obtain ⟨x, hx, -⟩ := tryReceiveFrame_settles hW s
    exact (hx n).trans (hx 0).symm
  unfold tryProgress
  rw [hreceive]
  rfl

/-- By well-founded induction on the rank. -/
theorem tryDecode_ne_hang (hW : W.Finite backlog draining) (s : Session κ) :
    ∃ fuel, ∀ n, fuel ≤ n → tryDecode { W with fuel := n } s ≠ .error .hang := by
  obtain ⟨fuel, hfuel⟩ := Loop.whileTrue_terminates (lower_wellFounded backlog draining)
    (progress_ne_hang hW) (fun s s' => progress_lower hW) s
  refine ⟨fuel + 2, fun n hn => ?_⟩
  obtain ⟨n, rfl⟩ := Nat.exists_eq_add_of_le' hn
  unfold tryDecode
  split
  · simp
  · change Loop.whileTrue .hang (tryProgress { W with fuel := n + fuel + 2 }) (n + fuel + 2) s ≠ _
    rw [tryProgress_fuel hW]
    exact hfuel _ (by omega)

theorem tryReceiveFrame_inLoop (W : World κ) (n : Nat) :
    tryReceiveFrame W.inLoop n = tryReceiveFrame W n := by
  induction n with
  | zero => rfl
  | succ n ih =>
      funext s
      unfold tryReceiveFrame
      rw [ih]
      rfl

theorem tryDecode_inLoop (W : World κ) (n : Nat) :
    tryDecode { W.inLoop with fuel := n } = tryDecode { W with fuel := n } := by
  have hprogress : tryProgress { W.inLoop with fuel := n } = tryProgress { W with fuel := n } := by
    unfold tryProgress
    rw [tryReceiveFrame_fuel W.inLoop n, tryReceiveFrame_fuel W n, tryReceiveFrame_inLoop]
    rfl
  unfold tryDecode
  rw [hprogress]

/-- The decode loop ends in every state of the session: some fuel is enough. -/
theorem decode_loop_terminates (hW : W.inLoop.Finite backlog draining) (s : Session κ) :
    ∃ fuel, ∀ n, fuel ≤ n → tryDecode { W with fuel := n } s ≠ .error .hang := by
  obtain ⟨fuel, hfuel⟩ := tryDecode_ne_hang hW s
  refine ⟨fuel, fun n hn => ?_⟩
  rw [← tryDecode_inLoop]
  exact hfuel n hn

/-- The codec of the examples has a finite backlog. -/
theorem codecWorld_finite (frame : AvFrame) :
    (codecWorld frame).inLoop.Finite CodecState.frames CodecState.draining := by
  have hinvalid : averrorInvaliddata < 0 := by decide
  have hne : averrorEof ≠ averrorEagain ∧ averrorInvaliddata ≠ averrorEof ∧
    averrorInvaliddata ≠ averrorEagain := by decide
  have hagain : averrorEagain < 0 := by decide
  have heof : averrorEof < 0 := by decide
  refine ⟨fun n => ⟨?_, ?_, ?_, ?_, ?_, ?_, ?_, ?_, ?_⟩, ⟨?_, ?_, ?_, ?_, ?_, ?_, ?_, ?_, ?_⟩,
    ?_, ?_, ?_, ?_⟩
  all_goals
    simp only [World.inLoop, codecWorld, CodecState.send, CodecState.receive]
    intro k
    grind

/-- Two packets, a drain and one output buffer. -/
def busySession : Session CodecState where
  codedSize := (320, 240)
  streamParams := ⟨(320, 240), ⟨0, 0, 320, 240⟩⟩
  context := some
    ⟨[.decode ⟨0, [0, 0, 0, 0]⟩ 0, .decode ⟨1, [0, 0, 0, 0]⟩ 1, .drain], ⟨0, 23⟩, true, none, .none⟩
  availableOutputFrames := [⟨0, [115200]⟩]
  events := .new
  world := ⟨0, false⟩

theorem decode_loop_terminates_busy :
    (codecWorld defaultFrame).inLoop.Finite CodecState.frames CodecState.draining ∧
      ∃ fuel, ∀ n, fuel ≤ n →
        tryDecode { codecWorld defaultFrame with fuel := n } busySession ≠ .error .hang :=
  ⟨codecWorld_finite defaultFrame,
    decode_loop_terminates (codecWorld_finite defaultFrame) busySession⟩

end VirtioMedia.Ffmpeg
