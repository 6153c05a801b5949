import VirtioMedia.Ffmpeg.Drain

/-!
# Input buffers of the ffmpeg backend

`decode` adds its job to the FIFO and runs the decode loop, which may fail on
behalf of a frame or of another job. The caller takes a failure to mean that
the buffer was not accepted. A ledger next to the session writes down the jobs
of the `decode` calls that succeeded and the `InputBufferDone` events that were
taken. It agrees with the session as long as the loop of `decode` fails only
for the packet of its own call.
-/

namespace VirtioMedia.Ffmpeg

open V4l2 Device Fallible

variable {κ : Type} {W : World κ} {s s' : Session κ} {r : Except DecodeError Bool}

def Job.isDecode : Job → Bool
  | .decode _ _ => true
  | .drain => false

theorem filterMap_inputIndex_filter (jobs : List Job) :
    (jobs.filter Job.isDecode).filterMap Job.inputIndex? = jobs.filterMap Job.inputIndex? := by
  rw [List.filterMap_filter]
  refine List.filterMap_congr fun job _ => ?_
  cases job <;> rfl

/-! ### The steps of the loop -/

/-- The codec takes the jobs `sent` from the front of the FIFO, and their buffers
are done. -/
structure Session.Sends (s : Session κ) (sent : List Job) (s' : Session κ) : Prop where
  jobs : s.jobs = sent ++ s'.jobs
  inputsDone : s'.inputsDone = s.inputsDone ++ sent.filterMap Job.inputIndex?

theorem Session.Sends.of_eq (hjobs : s'.jobs = s.jobs) (hdone : s'.inputsDone = s.inputsDone) :
    s.Sends [] s' :=
  ⟨hjobs.symm, by simp [hdone]⟩

/-- What is sent first and what is sent then. -/
theorem Session.Sends.trans {t : Session κ} {sent sent' : List Job} (h : s.Sends sent t)
    (h' : t.Sends sent' s') : s.Sends (sent ++ sent') s' where
  jobs := by rw [h.jobs, h'.jobs, List.append_assoc]
  inputsDone := by
    rw [h'.inputsDone, h.inputsDone, List.filterMap_append, List.append_assoc]

/-- A job is dropped, and its buffer is not done. -/
structure Session.Drops (s s' : Session κ) : Prop where
  jobs : ∃ job, s.jobs = job :: s'.jobs
  inputsDone : s'.inputsDone = s.inputsDone

theorem tryOutputFrame_sends (h : tryOutputFrame W s = .ok (r, s')) : s.Sends [] s' := by
  rcases tryOutputFrame_cases h with ⟨-, rfl, -⟩ | ⟨ctx, hctx, ⟨-, rfl, -⟩ |
    ⟨out, rest, -, ⟨-, -, hemit⟩ | ⟨-, frame, k, -, -, ⟨-, rfl⟩ | ⟨bytesUsed, hemit⟩⟩⟩⟩
  · exact .of_eq rfl rfl
  · exact .of_eq rfl rfl
  · obtain ⟨⟨q, rfl, hq⟩, -⟩ := emit_cases hemit
    exact .of_eq (by simp [Session.jobs, hctx])
      (by simp [Session.inputsDone, hq, BackendEvent.inputDone?])
  · exact .of_eq (by simp [Session.jobs, hctx]) rfl
  · obtain ⟨⟨q, rfl, hq⟩, -⟩ := emit_cases hemit
    exact .of_eq (by simp [Session.jobs, hctx])
      (by simp [Session.inputsDone, hq, BackendEvent.inputDone?])

/-- A frame that is received sends nothing. -/
theorem tryReceiveFrame_sends {n : Nat} (h : tryReceiveFrame W n s = .ok (r, s')) :
    s.Sends [] s' := by
  rcases tryReceiveFrame_cases h with ⟨-, rfl, -⟩ | ⟨ctx, hctx, ⟨-, -, rfl⟩ |
    ⟨-, k, -, ⟨k', rfl, -⟩ | ⟨-, -, -, rfl⟩ | ⟨-, rfl⟩ | ⟨frame, hreceived⟩⟩⟩
  · exact .of_eq rfl rfl
  · exact .of_eq rfl rfl
  · exact .of_eq rfl rfl
  · exact .of_eq (by simp [Session.jobs, hctx]) rfl
  · exact .of_eq (by simp [Session.jobs, hctx]) rfl
  · rcases received_cases hreceived with ⟨-, rfl⟩ | ⟨params, ⟨-, rfl⟩ | ⟨converter, hannounce⟩⟩
    · exact .of_eq (by simp [Session.jobs, hctx]) rfl
    · exact .of_eq rfl rfl
    · obtain ⟨q, avframe, rfl, hq, -⟩ := announce_cases hannounce
      exact .of_eq (by simp [Session.jobs, hctx])
        (by simp [Session.inputsDone, hq, BackendEvent.inputDone?, Session.adapt])

/-- The codec refuses the packet of the first job. -/
def Session.refuses (W : World κ) (s : Session κ) : Bool :=
  match s.jobs with
  | .decode packet _ :: _ => W.refuses s.world packet
  | _ => false

/-- The codec takes the job at the front, or none. -/
theorem trySendInputJob_sends (hrefuses : s.refuses W = false)
    (h : trySendInputJob W s = .ok (r, s')) : ∃ sent, s.Sends sent s' := by
  rcases trySendInputJob_cases h with ⟨-, rfl, -⟩ | ⟨ctx, hctx, ⟨-, -, rfl⟩ |
    ⟨rest, hjobs, -, rfl⟩ | ⟨packet, i, rest, hjobs, ⟨-, rfl, -⟩ | ⟨hrefused, -⟩ | ⟨-, hemit⟩⟩⟩
  · exact ⟨[], .of_eq rfl rfl⟩
  · exact ⟨[], .of_eq rfl rfl⟩
  · refine ⟨[.drain], ?_, ?_⟩
    · simp [Session.jobs, hctx, hjobs]
    · simp [Session.inputsDone, Job.inputIndex?]
  · exact ⟨[], .of_eq rfl rfl⟩
  · simp [Session.refuses, Session.jobs, hctx, hjobs, hrefused] at hrefuses
  · obtain ⟨⟨q, rfl, hq⟩, -⟩ := emit_cases hemit
    refine ⟨[.decode packet i], ?_, ?_⟩
    · simp [Session.jobs, hctx, hjobs]
    · simp [Session.inputsDone, hq, BackendEvent.inputDone?, Job.inputIndex?]

/-- A job that the codec refuses is lost with its error. -/
theorem trySendInputJob_drops (hrefuses : s.refuses W = true)
    (h : trySendInputJob W s = .ok (r, s')) : s.Drops s' ∧ ∃ err, r = .error err := by
  rcases trySendInputJob_cases h with ⟨hnone, -⟩ | ⟨ctx, hctx, ⟨hjobs, -⟩ | ⟨rest, hjobs, -⟩ |
    ⟨packet, i, rest, hjobs, ⟨-, -, hwaits⟩ | ⟨-, err, hr, rfl⟩ | ⟨haccepted, -⟩⟩⟩
  · simp [Session.refuses, Session.jobs, hnone] at hrefuses
  · simp [Session.refuses, Session.jobs, hctx, hjobs] at hrefuses
  · simp [Session.refuses, Session.jobs, hctx, hjobs] at hrefuses
  · have hrefused : W.refuses s.world packet = true := by
      simpa [Session.refuses, Session.jobs, hctx, hjobs] using hrefuses
    rcases hwaits with hagain | heof
    · simp [World.refuses, hagain] at hrefused
    · simp [World.refuses, heof] at hrefused
  · exact ⟨⟨⟨.decode packet i, by simp [Session.jobs, hctx, hjobs]⟩, rfl⟩, err, hr⟩
  · simp [Session.refuses, Session.jobs, hctx, hjobs, haccepted] at hrefuses

/-- The session in which a round of the loop gets to the jobs, if it does. -/
def Session.reachesJobs (W : World κ) (s : Session κ) : Option (Session κ) :=
  match tryOutputFrame W s with
  | .ok (.ok false, s₁) =>
    match tryReceiveFrame W W.fuel s₁ with
    | .ok (.ok false, s₂) => some s₂
    | _ => none
  | _ => none

/-- The round gets to the jobs, and the codec refuses the first one. -/
def Session.dropsJob (W : World κ) (s : Session κ) : Bool := (s.reachesJobs W).any (·.refuses W)

/-- The round fails. -/
def Session.fails (W : World κ) (s : Session κ) : Bool :=
  match tryProgress W s with
  | .ok (.error _, _) => true
  | _ => false

/-- A round of the loop that loses no job. -/
theorem tryProgress_sends (hdrops : s.dropsJob W = false) (h : tryProgress W s = .ok (r, s')) :
    ∃ sent, s.Sends sent s' := by
  rcases tryProgress_cases h with ⟨h, -⟩ | ⟨s₁, h₁, h, -⟩ | ⟨s₁, s₂, h₁, h₂, h⟩
  · exact ⟨[], tryOutputFrame_sends h⟩
  · exact ⟨[], (tryOutputFrame_sends h₁).trans (tryReceiveFrame_sends h)⟩
  · have hrefuses : s₂.refuses W = false := by
      simpa [Session.dropsJob, Session.reachesJobs, h₁, h₂] using hdrops
    obtain ⟨sent, hsent⟩ := trySendInputJob_sends hrefuses h
    exact ⟨_, ((tryOutputFrame_sends h₁).trans (tryReceiveFrame_sends h₂)).trans hsent⟩

/-- A round that gets to the jobs has neither output nor received a frame. -/
theorem reachesJobs_eq_some {t : Session κ} (h : s.reachesJobs W = some t) :
    s.Sends [] t ∧ tryProgress W s = trySendInputJob W t := by
  unfold Session.reachesJobs at h
  split at h
  · rename_i s₁ h₁
    split at h
    · rename_i s₂ h₂
      cases h
      refine ⟨(tryOutputFrame_sends h₁).trans (tryReceiveFrame_sends h₂), ?_⟩
      simp [tryProgress, Loop.orElse, h₁, h₂, Except.bind]
    · cases h
  · cases h

/-- A round of the loop that loses one. -/
theorem tryProgress_drops (hdrops : s.dropsJob W = true) (h : tryProgress W s = .ok (r, s')) :
    s.Drops s' ∧ ∃ err, r = .error err := by
  obtain ⟨t, ht, hrefuses⟩ := (Option.any_eq_true _ _).mp hdrops
  obtain ⟨hbefore, hround⟩ := reachesJobs_eq_some ht
  obtain ⟨⟨⟨job, hjob⟩, hdone⟩, herr⟩ := trySendInputJob_drops hrefuses (hround.symm.trans h)
  refine ⟨⟨⟨job, hbefore.jobs.trans hjob⟩, ?_⟩, herr⟩
  rw [hdone, hbefore.inputsDone, List.filterMap_nil, List.append_nil]

/-- Only jobs that are sent leave the FIFO before the last round of the loop. -/
theorem tryDecode_sends {ok : Session κ → Prop} (hcontext : s.context.isSome = true)
    (hok : Loop.Throughout ok (tryProgress W) W.fuel s) {res : Except DecodeError Unit}
    (h : tryDecode W s = .ok (res, s')) :
    ∃ s₀ sent, s.Sends sent s₀ ∧ ok s₀ ∧
      ((res = .ok () ∧ ∃ sent', s₀.Sends sent' s') ∨
        ∃ err, res = .error err ∧ tryProgress W s₀ = .ok (.error err, s')) := by
  have hround : ∀ {b : Bool} {t t' : Session κ}, tryProgress W t = .ok (.ok b, t') →
      ∃ sent, t.Sends sent t' := by
    intro b t t' h
    cases hdrops : t.dropsJob W with
    | false => exact tryProgress_sends hdrops h
    | true =>
        obtain ⟨-, err, herr⟩ := tryProgress_drops hdrops h
        cases herr
  have hloop : ∀ t t', (∃ sent, s.Sends sent t) → ok t →
      tryProgress W t = .ok (.ok true, t') → ∃ sent, s.Sends sent t' := by
    rintro t t' ⟨sent, hsent⟩ - h
    obtain ⟨sent', hsent'⟩ := hround h
    exact ⟨_, hsent.trans hsent'⟩
  obtain ⟨s₀, ⟨sent, hsent⟩, hok₀, ⟨hres, hlast⟩ | hlast⟩ :=
    tryDecode_last hloop ⟨[], .of_eq rfl rfl⟩ hcontext hok h
  · exact ⟨s₀, sent, hsent, hok₀, .inl ⟨hres, hround hlast⟩⟩
  · exact ⟨s₀, sent, hsent, hok₀, .inr hlast⟩

/-! ### The ledger -/

/-- A session with the jobs of the `decode` calls that succeeded, and the buffers
of the `InputBufferDone` events that were taken. -/
structure InputLedger (κ : Type) where
  session : Session κ
  accepted : List Job
  taken : List UInt32

/-- The decode job that a call adds to the FIFO. -/
def Session.submits (W : World κ) (s : Session κ) (c : Call) : List Job :=
  (s.loops W c).elim [] fun t => (t.jobs.drop s.jobs.length).filter Job.isDecode

/-- The buffer whose `InputBufferDone` event the call takes. -/
def Session.takes (s : Session κ) : Call → List UInt32
  | .nextEvent => (s.nextEvent.1.bind BackendEvent.inputDone?).toList
  | _ => []

namespace InputLedger

def new (k : κ) : InputLedger κ := ⟨.new k, [], []⟩

def next (W : World κ) (l : InputLedger κ) (c : Call) : Option (InputLedger κ) :=
  (l.session.call W c).toOption.map fun r => {
    session := r.2
    accepted := if r.1.isOk then l.accepted ++ l.session.submits W c else l.accepted
    taken := l.taken ++ l.session.takes c }

/-- The accepted jobs are, in their order, those whose `InputBufferDone` was
taken, those whose `InputBufferDone` waits, and those that wait in the FIFO. -/
def Conserved (l : InputLedger κ) : Prop :=
  ∃ done, l.accepted = done ++ l.session.jobs.filter Job.isDecode ∧
    l.taken ++ l.session.inputsDone = done.filterMap Job.inputIndex?

end InputLedger

/-- The loop that the call runs keeps the jobs: that of `decode` fails only where
the codec refuses the last job of the FIFO, which is that of the call, and that
of `drain` refuses no job. -/
def Session.KeepsInputs (W : World κ) (s : Session κ) : Call → Prop
  | .decode input index timestamp bytesUsed =>
    ∀ t ∈ s.loops W (.decode input index timestamp bytesUsed), Loop.Throughout
      (fun t => t.fails W = true → t.dropsJob W = true ∧ t.jobs.length = 1)
      (tryProgress W) W.fuel t
  | .drain => ∀ t ∈ s.loops W .drain,
    Loop.Throughout (fun t => t.dropsJob W = false) (tryProgress W) W.fuel t
  | _ => True

instance instDecidableKeepsInputs (W : World κ) (s : Session κ) :
    (c : Call) → Decidable (s.KeepsInputs W c)
  | .decode input index timestamp bytesUsed => inferInstanceAs (Decidable
      (∀ t ∈ s.loops W (.decode input index timestamp bytesUsed), _))
  | .drain => inferInstanceAs (Decidable (∀ t ∈ s.loops W .drain, _))
  | .useAsOutput _ _ | .clearOutputBuffers | .nextEvent | .streamingState _ _ => .isTrue trivial

/-! ### The calls -/

/-- What a call does to the input buffers: it adds jobs at the end of the FIFO,
the codec takes some from the front, and events for some buffers are taken. -/
def Session.Passes (s : Session κ) (added : List Job) (taken : List UInt32) (s' : Session κ) :
    Prop :=
  ∃ sent, s.jobs.filter Job.isDecode ++ added = sent ++ s'.jobs.filter Job.isDecode ∧
    taken ++ s'.inputsDone = s.inputsDone ++ sent.filterMap Job.inputIndex?

theorem Session.Passes.of_eq (hjobs : s'.jobs = s.jobs) (hdone : s'.inputsDone = s.inputsDone) :
    s.Passes [] [] s' :=
  ⟨[], by simp [hjobs], by simp [hdone]⟩

/-- The jobs of the session in which the loop starts are those that there were
and the one that is added. -/
theorem Session.Sends.passes {t : Session κ} {job : Job} {sent : List Job}
    (h : t.Sends sent s') (hjobs : t.jobs = s.jobs ++ [job])
    (hdone : t.inputsDone = s.inputsDone) :
    s.Passes ([job].filter Job.isDecode) [] s' := by
  refine ⟨sent.filter Job.isDecode, ?_, ?_⟩
  · rw [← List.filter_append, ← List.filter_append, ← hjobs, h.jobs]
  · rw [filterMap_inputIndex_filter, List.nil_append, h.inputsDone, hdone]

/-- `decode` puts its job behind those that wait. -/
theorem opens_submits {ctx : DecodingContext} {t : Session κ} {c : Call} {job : Job}
    (hctx : s.Opens ctx) (hloops : s.loops W c = some t) (hjobs : t.jobs = ctx.jobs ++ [job]) :
    t.jobs = s.jobs ++ [job] ∧ s.submits W c = [job].filter Job.isDecode := by
  rw [← opens_jobs hctx] at hjobs
  refine ⟨hjobs, ?_⟩
  rw [Session.submits, hloops, Option.elim_some, hjobs, List.drop_left]

/-- `decode`: the job is accepted if the call succeeds. -/
theorem decode_passes {input : FfmpegDecoderBuffer} {index : UInt32} {timestamp : Timeval}
    {bytesUsed : UInt32} {res : Except Int Unit}
    (hkeeps : s.KeepsInputs W (.decode input index timestamp bytesUsed))
    (h : s.decode W input index timestamp bytesUsed = .ok (res, s')) :
    s.Passes (if res.isOk then s.submits W (.decode input index timestamp bytesUsed) else [])
      [] s' := by
  obtain ⟨k, -, ⟨⟨e, rfl⟩, rfl | ⟨ctx, hctx, rfl⟩⟩ | ⟨ctx, packet, t, hctx, rfl, hloops, r,
    hdecode, rfl⟩⟩ := decode_cases h
  · exact .of_eq rfl rfl
  · exact .of_eq (opens_jobs hctx).symm rfl
  · obtain ⟨hjobs, hsubmits⟩ := opens_submits hctx hloops rfl
    obtain ⟨s₀, sent, hsent, hok, ⟨rfl, sent', hlast⟩ | ⟨err, rfl, hlast⟩⟩ :=
      tryDecode_sends rfl (hkeeps _ hloops) hdecode
    · rw [hsubmits]
      exact (hsent.trans hlast).passes hjobs rfl
    · -- the job that is dropped is the only one left, so it is that of the call
      obtain ⟨hdrops, hlength⟩ := hok (by simp [Session.fails, hlast])
      obtain ⟨⟨⟨job, hjob⟩, hdone⟩, -⟩ := tryProgress_drops hdrops hlast
      have hempty : s'.jobs = [] := by
        rw [hjob, List.length_cons] at hlength
        exact List.eq_nil_of_length_eq_zero (by omega)
      have hall : s.jobs ++ [.decode packet index] = sent ++ [job] := by
        rw [← hjobs, hsent.jobs, hjob, hempty]
      obtain ⟨hsame, -⟩ := List.append_inj' hall rfl
      refine ⟨sent.filter Job.isDecode, ?_, ?_⟩
      · simp [hsame, hempty, Except.mapError, Except.isOk, Except.toBool]
      · rw [filterMap_inputIndex_filter, List.nil_append, hdone, hsent.inputsDone]
        rfl

/-- `drain` accepts no input buffer. -/
theorem drain_passes {res : Except Int Unit} (hkeeps : s.KeepsInputs W .drain)
    (h : s.drain W = .ok (res, s')) :
    s.Passes (if res.isOk then s.submits W .drain else []) [] s' := by
  rcases drain_cases h with ⟨hnone, -, rfl⟩ | ⟨ctx, t, hctx, rfl, hloops, r, hdecode, -⟩
  · have hsubmits : s'.submits W .drain = [] := by
      simp [Session.submits, Session.loops, hnone]
    rw [hsubmits, ite_self]
    exact .of_eq rfl rfl
  · obtain ⟨hjobs, hsubmits⟩ := opens_submits (.inl hctx) hloops rfl
    rw [hsubmits, show [Job.drain].filter Job.isDecode = [] from rfl, ite_self]
    obtain ⟨s₀, sent, hsent, hdrops, ⟨-, sent', hlast⟩ | ⟨err, -, hlast⟩⟩ :=
      tryDecode_sends rfl (hkeeps _ hloops) hdecode
    · exact (hsent.trans hlast).passes hjobs rfl
    · obtain ⟨sent', hsent'⟩ := tryProgress_sends hdrops hlast
      exact (hsent.trans hsent').passes hjobs rfl

/-- An event is taken off. -/
theorem nextEvent_passes (s : Session κ) : s.Passes [] (s.takes .nextEvent) s.nextEvent.2 := by
  refine ⟨[], by simp [Session.nextEvent, Session.jobs], ?_⟩
  rw [List.filterMap_nil, List.append_nil]
  unfold Session.takes Session.nextEvent EventQueue.dequeueEvent Session.inputsDone
  cases hpending : s.events.pendingEvents with
  | nil => simp [hpending]
  | cons ev rest =>
      cases hev : ev.inputDone? <;> simp [hev]

/-- Every call that keeps the jobs. -/
theorem call_passes {c : Call} {res : Except Int Unit} (hkeeps : s.KeepsInputs W c)
    (h : s.call W c = .ok (res, s')) :
    s.Passes (if res.isOk then s.submits W c else []) (s.takes c) s' := by
  cases c with
  | decode input index timestamp bytesUsed => exact decode_passes hkeeps h
  | drain => exact drain_passes hkeeps h
  | nextEvent =>
      cases h
      exact nextEvent_passes s
  | clearOutputBuffers =>
      cases h
      exact .of_eq rfl s.clearOutputBuffers_inputsDone
  | streamingState direction streaming =>
      cases h
      obtain ⟨hjobs, hevents, -⟩ := streamingState_same s direction streaming
      exact .of_eq hjobs (by rw [Session.inputsDone, hevents, Session.inputsDone])
  | useAsOutput index backing =>
      have hused : s.useAsOutput W index backing = (res, s') := Except.ok.inj h
      have hsubmits : s.submits W (.useAsOutput index backing) = [] := rfl
      rw [hsubmits, ite_self]
      rcases useAsOutput_cases W s index backing with ⟨-, res, k, -, h⟩ | ⟨-, planes, k, -, h⟩
      · obtain ⟨-, rfl⟩ := Prod.mk.inj (h.symm.trans hused)
        exact .of_eq rfl rfl
      · obtain ⟨-, rfl⟩ := Prod.mk.inj (h.symm.trans hused)
        exact .of_eq rfl rfl

namespace InputLedger

variable {l l' : InputLedger κ}

/-- Every call keeps the ledger balanced. -/
theorem Conserved.next {c : Call} (h : l.Conserved) (hkeeps : l.session.KeepsInputs W c)
    (hnext : l.next W c = some l') : l'.Conserved := by
  obtain ⟨⟨res, s'⟩, hcall, rfl⟩ := Option.map_eq_some_iff.mp hnext
  obtain ⟨done, haccepted, htaken⟩ := h
  obtain ⟨sent, hjobs, hdone⟩ := call_passes hkeeps (toOption_eq_some.mp hcall)
  refine ⟨done ++ sent, ?_, ?_⟩
  · calc (if res.isOk then l.accepted ++ l.session.submits W c else l.accepted)
        = l.accepted ++ if res.isOk then l.session.submits W c else [] := by
          split_ifs <;> simp
      _ = done ++ (l.session.jobs.filter Job.isDecode ++
            if res.isOk then l.session.submits W c else []) := by
          rw [haccepted, List.append_assoc]
      _ = done ++ sent ++ s'.jobs.filter Job.isDecode := by
          rw [hjobs, List.append_assoc]
  · calc l.taken ++ l.session.takes c ++ s'.inputsDone
        = l.taken ++ (l.session.inputsDone ++ sent.filterMap Job.inputIndex?) := by
          rw [List.append_assoc, hdone]
      _ = (done ++ sent).filterMap Job.inputIndex? := by
          rw [← List.append_assoc, htaken, List.filterMap_append]

end InputLedger

/-- For every world and every run of calls on a new session whose decode loops
keep the jobs: the ledger agrees with the session in every state that is
reached. -/
theorem inputs_conserved (W : World κ) (k : κ) (calls : List Call) (l : InputLedger κ)
    (hkeeps : Trace.Conforms (InputLedger.next W) (fun l c => l.session.KeepsInputs W c)
      (.new k) calls)
    (hrun : Trace.run (InputLedger.next W) (.new k) calls = some l) : l.Conserved :=
  Trace.run_invariant_of_conforms (fun _ _ _ h hc hn => h.next hc hn) ⟨[], rfl, rfl⟩ hkeeps hrun

/-- Two packets, of which one is reported as done, and a drain. -/
def drainedInputsRun : List Call :=
  [.useAsOutput 0 ⟨[⟨1, 115200⟩]⟩, .decode ⟨[⟨0, 4096⟩]⟩ 0 ⟨0, 0⟩ 4, .nextEvent,
    .decode ⟨[⟨0, 4096⟩]⟩ 1 ⟨1, 0⟩ 4, .drain]

theorem inputs_conserved_drainedInputs :
    ∃ l, Trace.run (InputLedger.next (codecWorld defaultFrame)) (.new ⟨0, false⟩)
        drainedInputsRun = some l ∧
      l.accepted = [.decode ⟨0, [0, 0, 0, 0]⟩ 0, .decode ⟨1000000, [0, 0, 0, 0]⟩ 1] ∧
      l.taken = [0] ∧ l.Conserved := by
  refine ⟨_, rfl, rfl, rfl, ?_⟩
  exact inputs_conserved (codecWorld defaultFrame) ⟨0, false⟩ drainedInputsRun _
    (by decide +kernel) rfl

/-- The codec of `codecWorld` on a system that cannot convert frames. -/
def noScaleWorld : World CodecState :=
  { codecWorld defaultFrame with swsScale := fun k => (-1, k) }

/-- A packet for which there is an output buffer. -/
def unconvertedRun : List Call :=
  [.useAsOutput 0 ⟨[⟨1, 115200⟩]⟩, .decode ⟨[⟨0, 4096⟩]⟩ 0 ⟨0, 0⟩ 4]

/-- The codec takes the packet, the conversion of its frame fails, and so does
`decode`. -/
theorem inputs_conserved_fails_unconverted :
    ∃ l, Trace.run (InputLedger.next noScaleWorld) (.new ⟨0, false⟩) unconvertedRun = some l ∧
      l.accepted = [] ∧ l.session.inputsDone = [0] ∧ ¬l.Conserved := by
  refine ⟨_, rfl, rfl, rfl, ?_⟩
  rintro ⟨done, haccepted, hdone⟩
  obtain ⟨rfl, -⟩ := List.append_eq_nil_iff.mp haccepted.symm
  cases hdone

end VirtioMedia.Ffmpeg
