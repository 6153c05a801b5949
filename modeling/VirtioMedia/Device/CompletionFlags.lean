import VirtioMedia.Device.QueuedFlags

/-!
# What the flags of a completed buffer say

The flags of a buffer live as long as the buffer. `process_events` replaces
them where it calls `set_flags`: an error is set and never cleared again, so
that a later successful completion carries it, and LAST replaces
TIMESTAMP_COPY.
-/

namespace VirtioMedia.Device

open V4l2 Fallible

variable {β S : Type} {B : DecoderBackend β S} {checks : Bool} {d : VideoDecoder}
  {s : DecoderSession β S}

/-! ### Buffers know their place -/

/-- Every buffer names its queue and its position. -/
def DecoderSession.Placed (s : DecoderSession β S) : Prop := ∀ dir, Numbered dir (s.views dir)

theorem call_placed (hs : s.Placed) {c : DecoderCall} {p : VideoDecoder × DecoderSession β S}
    (h : VideoDecoder.call B checks d s c = .ok p) : p.2.Placed :=
  fun dir => (call_views h dir).numbered (hs dir)

theorem placed_new (id : UInt32) (b : β) :
    (DecoderSession.new id b : DecoderSession β S).Placed := by
  intro dir n v hv
  cases dir <;> cases hv

/-! ### What is sent -/

/-- The buffer that the next event of the backend gives back to the guest. -/
def DecoderSession.GivesBack (B : DecoderBackend β S) (s : DecoderSession β S)
    (v : DecoderV4l2Buffer) : Prop :=
  (∃ bufferId error host,
    (B.nextEvent s.backendSession).1 = some (.inputBufferDone bufferId error) ∧
    s.inputBuffers[bufferId.toNat]? = some host ∧ v = host.v4l2Buffer.done error) ∨
  ∃ bufferId timestamp bytesUsed isLast host,
    (B.nextEvent s.backendSession).1 = some (.frameCompleted bufferId timestamp bytesUsed isLast) ∧
    s.outputBuffers[bufferId.toNat]? = some host ∧
    v = host.v4l2Buffer.complete s.sequenceCpt timestamp bytesUsed isLast

theorem processEvents_sent {c : Called β S Unit} (h : d.processEvents B checks s = .ok c) :
    ∃ news, c.device.sent = news ++ d.sent ∧
      ∀ id v, .dequeueBuffer id v ∈ news ↔ id = s.id ∧ s.GivesBack B v := by
  obtain ⟨ev, b, hev, hcase⟩ := processEvents_cases h
  have hfst : (B.nextEvent s.backendSession).1 = ev := by rw [hev]
  rcases hcase with ⟨rfl, hnone⟩ | ⟨bufferId, error, host, rfl, hhost, rfl⟩ | ⟨rfl, rfl⟩ |
    ⟨bufferId, timestamp, bytesUsed, isLast, host, v, rfl, hhost, rfl, rfl⟩
  · refine ⟨[], rfl, fun id v => iff_of_false List.not_mem_nil ?_⟩
    rintro ⟨-, ⟨i, e, host, hi, hhost, -⟩ | ⟨i, t, u, l, host, hi, hhost, -⟩⟩
    · rcases hnone with rfl | ⟨_, _, rfl, hbuf⟩ | ⟨_, _, _, _, rfl, hbuf⟩
      · cases hfst.symm.trans hi
      · cases hfst.symm.trans hi
        cases hbuf.symm.trans hhost
      · cases hfst.symm.trans hi
    · rcases hnone with rfl | ⟨_, _, rfl, hbuf⟩ | ⟨_, _, _, _, rfl, hbuf⟩
      · cases hfst.symm.trans hi
      · cases hfst.symm.trans hi
      · cases hfst.symm.trans hi
        cases hbuf.symm.trans hhost
  · refine ⟨[_], rfl, fun id v => ?_⟩
    rw [List.mem_singleton, DecoderEvent.dequeueBuffer.injEq]
    refine and_congr_right fun _ => ⟨fun hv => .inl ⟨_, _, host, hfst, hhost, hv⟩, ?_⟩
    rintro (⟨i, e, host', hi, hhost', rfl⟩ | ⟨i, t, u, l, host', hi, -, -⟩)
    · cases hfst.symm.trans hi
      cases hhost.symm.trans hhost'
      rfl
    · cases hfst.symm.trans hi
  · refine ⟨if s.srcChangeSubscribed then [.sourceChange s.id] else [], ?_, fun id v => ?_⟩
    · simp only
      split <;> rfl
    · refine iff_of_false ?_ ?_
      · split <;> simp
      · rintro ⟨-, ⟨i, e, host', hi, -⟩ | ⟨i, t, u, l, host', hi, -⟩⟩ <;>
          cases hfst.symm.trans hi
  · refine ⟨_, rfl, fun id v => ?_⟩
    have hmem : .dequeueBuffer id v ∈ s.frameEvents
        (host.v4l2Buffer.complete s.sequenceCpt timestamp bytesUsed isLast) isLast ↔
          id = s.id ∧ v = host.v4l2Buffer.complete s.sequenceCpt timestamp bytesUsed isLast := by
      unfold DecoderSession.frameEvents
      split <;> simp
    rw [hmem]
    refine and_congr_right fun _ => ⟨fun hv => .inr ⟨_, _, _, _, host, hfst, hhost, hv⟩, ?_⟩
    rintro (⟨i, e, host', hi, -⟩ | ⟨i, t, u, l, host', hi, hhost', rfl⟩)
    · cases hfst.symm.trans hi
    · cases hfst.symm.trans hi
      cases hhost.symm.trans hhost'
      rfl

/-! ### The flags -/

/-- The buffer is the one that the event completes, and its flags say how: on
the OUTPUT queue ERROR stands for an error, on the CAPTURE queue LAST stands
for the last frame and TIMESTAMP_COPY is always there. -/
def BackendEvent.DescribedBy (ev : BackendEvent) (v : DecoderV4l2Buffer) : Prop :=
  v.isQueued = false ∧
    match v.queue.direction with
    | .output => ∃ error, ev = .inputBufferDone v.index error ∧
        (hasFlag v.flags bufFlagError = true ↔ error ≠ 0)
    | .capture => ∃ timestamp bytesUsed isLast,
        ev = .frameCompleted v.index timestamp bytesUsed isLast ∧
        (hasFlag v.flags bufFlagLast = true ↔ isLast = true) ∧
        hasFlag v.flags bufFlagTimestampCopy = true

/-- Every DequeueBuffer event that the action sends describes an event of the
backend. -/
def Decoder.DescribesCompletions (B : DecoderBackend β S) (checks : Bool) (s : Decoder β S)
    (a : DecoderAction β) : Prop :=
  ∀ s', s.next B checks a = some s' → ∀ id v, .dequeueBuffer id v ∈ s.sentSince s' →
    ∃ session ev, a = .call id .processEvents ∧ s.sessions id = some session ∧
      (B.nextEvent session.backendSession).1 = some ev ∧ ev.DescribedBy v

/-- The event of the backend does not go where the flags are lost: a buffer that
is completed without an error carries none from an earlier completion, and no
frame is the last one. The exception is the frame on which the sequence number
overflows: the program stops there and sends nothing. -/
def DecoderSession.PlainEvent (B : DecoderBackend β S) (checks : Bool) (s : DecoderSession β S) :
    DecoderCall → Prop
  | .processEvents =>
    match (B.nextEvent s.backendSession).1 with
    | some (.inputBufferDone bufferId error) => ∀ host ∈ s.inputBuffers[bufferId.toNat]?,
        error = 0 → hasFlag host.v4l2Buffer.flags bufFlagError = false
    | some (.frameCompleted bufferId _ _ isLast) => ∀ host ∈ s.outputBuffers[bufferId.toNat]?,
        isLast = true → checks = true ∧ s.sequenceCpt.toNat + 1 = 2 ^ 32
    | _ => True
  | _ => True

theorem hasFlag_done (v : DecoderV4l2Buffer) (error : Int) :
    hasFlag (v.done error).flags bufFlagError = true ↔
      error ≠ 0 ∨ hasFlag v.flags bufFlagError = true := by
  unfold DecoderV4l2Buffer.done
  by_cases h : error = 0
  · have hsame : hasFlag (v.flags &&& ~~~bufFlagQueued) bufFlagError =
        hasFlag v.flags bufFlagError := by
      have hmask : ~~~bufFlagQueued &&& bufFlagError = bufFlagError := by decide
      rw [hasFlag, hasFlag, UInt32.and_assoc, hmask]
    rw [if_neg (not_not.mpr h)]
    change hasFlag (v.flags &&& ~~~bufFlagQueued) bufFlagError = true ↔ _
    rw [hsame]
    simp [h]
  · have hset : hasFlag bufFlagError bufFlagError = true := by decide
    rw [if_pos h]
    exact iff_of_true hset (.inl h)

/-- A completed OUTPUT buffer describes the completion unless it carries an
earlier error. -/
theorem describedBy_done {v : DecoderV4l2Buffer} {index : UInt32} {error : Int}
    (hqueue : v.queue.direction = .output) (hindex : v.index = index) :
    BackendEvent.DescribedBy (.inputBufferDone index error) (v.done error) ↔
      (error = 0 → hasFlag v.flags bufFlagError = false) := by
  rw [BackendEvent.DescribedBy, done_queue, hqueue, done_index, hindex]
  simp only [done_isQueued, true_and]
  constructor
  · rintro ⟨e, he, hflag⟩ rfl
    cases he
    have hnot := mt ((hasFlag_done v 0).mpr ∘ .inr) fun h => hflag.mp h rfl
    exact Bool.not_eq_true _ ▸ hnot
  · intro h
    refine ⟨error, rfl, (hasFlag_done v error).trans ⟨?_, .inl⟩⟩
    rintro (hne | hflag) rfl
    · exact hne rfl
    · rw [h rfl] at hflag
      cases hflag

/-- A completed CAPTURE buffer describes the completion unless it is the last
one. -/
theorem describedBy_complete {v : DecoderV4l2Buffer} {index sequence : UInt32}
    {timestamp : Timeval} {bytesUsed : List UInt32} {isLast : Bool}
    (hqueue : v.queue.direction = .capture) (hindex : v.index = index) :
    BackendEvent.DescribedBy (.frameCompleted index timestamp bytesUsed isLast)
      (v.complete sequence timestamp bytesUsed isLast) ↔ isLast = false := by
  have hplace : (v.complete sequence timestamp bytesUsed isLast).queue.direction = .capture ∧
      (v.complete sequence timestamp bytesUsed isLast).index = index := ⟨hqueue, hindex⟩
  rw [BackendEvent.DescribedBy, hplace.1, hplace.2]
  simp only [complete_isQueued, true_and]
  constructor
  · rintro ⟨t, u, l, he, -, hcopy⟩
    cases isLast with
    | false => rfl
    | true =>
        have hlost : hasFlag bufFlagLast bufFlagTimestampCopy = false := by decide
        exact absurd (hlost.symm.trans hcopy) (by decide)
  · rintro rfl
    have hlast : hasFlag bufFlagTimestampCopy bufFlagLast = false := by decide
    have hcopy : hasFlag bufFlagTimestampCopy bufFlagTimestampCopy = true := by decide
    exact ⟨timestamp, bytesUsed, false, rfl, by
      change hasFlag bufFlagTimestampCopy bufFlagLast = true ↔ _
      simp [hlast], hcopy⟩

/-- The event of the backend is handled, unless the sequence number of a frame
overflows. -/
theorem processEvents_ok (d : VideoDecoder) (h : ∀ bufferId timestamp bytesUsed isLast host,
    (B.nextEvent s.backendSession).1 = some (.frameCompleted bufferId timestamp bytesUsed isLast) →
    s.outputBuffers[bufferId.toNat]? = some host →
    ¬(checks = true ∧ s.sequenceCpt.toNat + 1 = 2 ^ 32)) :
    ∃ c, d.processEvents B checks s = .ok c := by
  simp only [VideoDecoder.processEvents]
  cases hev : (B.nextEvent s.backendSession).1 with
  | none => exact ⟨_, rfl⟩
  | some ev =>
      cases ev with
      | streamFormatChanged => exact ⟨_, rfl⟩
      | inputBufferDone bufferId error => exact ⟨_, rfl⟩
      | frameCompleted bufferId timestamp bytesUsed isLast =>
          simp only [VideoDecoder.frameCompleted]
          cases hhost : s.outputBuffers[bufferId.toNat]? with
          | none => exact ⟨_, rfl⟩
          | some host =>
              simp only [if_neg (h _ _ _ _ host hev hhost)]
              split
              · exact ⟨_, rfl⟩
              · split
                · exact ⟨_, rfl⟩
                · exact ⟨_, rfl⟩

/-- What the next event gives back describes the event exactly if the event is a
plain one. -/
theorem givesBack_described (d : VideoDecoder) (hs : s.Placed) :
    (∀ c v, d.processEvents B checks s = .ok c → s.GivesBack B v →
      ∃ ev, (B.nextEvent s.backendSession).1 = some ev ∧ ev.DescribedBy v) ↔
      s.PlainEvent B checks .processEvents := by
  have houtput {bufferId : UInt32} {host : DecoderBuffer S}
      (h : s.inputBuffers[bufferId.toNat]? = some host) :
      host.v4l2Buffer.queue.direction = .output ∧ host.v4l2Buffer.index = bufferId := by
    have hview : (s.views .output)[bufferId.toNat]? = some host.v4l2Buffer := by
      simp [DecoderSession.views, h]
    exact ⟨(hs _ _ _ hview).1, toNat_injective (hs _ _ _ hview).2⟩
  have hcapture {bufferId : UInt32} {host : DecoderBuffer S}
      (h : s.outputBuffers[bufferId.toNat]? = some host) :
      host.v4l2Buffer.queue.direction = .capture ∧ host.v4l2Buffer.index = bufferId := by
    have hview : (s.views .capture)[bufferId.toNat]? = some host.v4l2Buffer := by
      simp [DecoderSession.views, h]
    exact ⟨(hs _ _ _ hview).1, toNat_injective (hs _ _ _ hview).2⟩
  simp only [DecoderSession.PlainEvent]
  constructor
  · intro h
    cases hev : (B.nextEvent s.backendSession).1 with
    | none => trivial
    | some ev =>
        cases ev with
        | streamFormatChanged => trivial
        | inputBufferDone bufferId error =>
            intro host hhost
            have hok : ∃ c, d.processEvents B checks s = .ok c :=
              processEvents_ok d fun _ _ _ _ _ h _ => by cases hev.symm.trans h
            obtain ⟨c, hc⟩ := hok
            obtain ⟨ev, hev', hdescribed⟩ := h c _ hc (.inl ⟨_, _, host, hev, hhost, rfl⟩)
            cases hev.symm.trans hev'
            exact (describedBy_done (houtput hhost).1 (houtput hhost).2).mp hdescribed
        | frameCompleted bufferId timestamp bytesUsed isLast =>
            intro host hhost hlast
            by_contra hstop
            obtain ⟨c, hc⟩ := processEvents_ok d fun _ _ _ _ _ _ _ => hstop
            obtain ⟨ev, hev', hdescribed⟩ := h c _ hc (.inr ⟨_, _, _, _, host, hev, hhost, rfl⟩)
            cases hev.symm.trans hev'
            have hnot := (describedBy_complete (hcapture hhost).1 (hcapture hhost).2).mp hdescribed
            rw [hlast] at hnot
            cases hnot
  · intro h c v hc hback
    rcases hback with ⟨bufferId, error, host, hev, hhost, rfl⟩ |
      ⟨bufferId, timestamp, bytesUsed, isLast, host, hev, hhost, rfl⟩
    · rw [hev] at h
      refine ⟨_, hev, ?_⟩
      exact (describedBy_done (houtput hhost).1 (houtput hhost).2).mpr (h host hhost)
    · rw [hev] at h
      refine ⟨_, hev, (describedBy_complete (hcapture hhost).1 (hcapture hhost).2).mpr ?_⟩
      cases isLast with
      | false => rfl
      | true =>
          have hstop := h host hhost rfl
          simp only [VideoDecoder.processEvents, hev, VideoDecoder.frameCompleted, hhost,
            if_pos hstop] at hc
          cases hc

/-! ### Runs -/

/-- Sessions have the ids under which they are open, and buffers know their
place. -/
structure Decoder.Ordered (s : Decoder β S) : Prop where
  named : s.Named
  placed : s.Every DecoderSession.Placed

variable {t t' : Decoder β S} {a : DecoderAction β}

theorem Decoder.Ordered.next (ht : t.Ordered) (h : t.next B checks a = some t') : t'.Ordered := by
  have hall : t.Calls (fun _ _ => True) a := by
    cases a with
    | call i c => exact fun _ _ => trivial
    | openSession i answer => trivial
    | closeSession i => trivial
    | munmap guestAddr => trivial
  exact ⟨ht.named.next h, ht.placed.next (fun id b _ => placed_new id b)
    (fun _ _ _ _ hs _ hp => call_placed hs hp) hall h⟩

/-- An action that is not a plain event is where a description fails, and the
other way round. -/
theorem describesCompletions_iff (ht : t.Ordered) :
    t.DescribesCompletions B checks a ↔ t.Calls (DecoderSession.PlainEvent B checks) a := by
  have hquiet {id : UInt32} {v : DecoderV4l2Buffer} {t' : Decoder β S}
      (hsent : t'.device.sent = t.device.sent) : .dequeueBuffer id v ∉ t.sentSince t' := by
    have hnil : t.sentSince t' = [] := Decoder.sentSince_of_append hsent
    rw [hnil]
    exact List.not_mem_nil
  by_cases hcall : ∃ i, a = .call i .processEvents
  · obtain ⟨i, rfl⟩ := hcall
    cases hi : t.sessions i with
    | none =>
        refine iff_of_true ?_ fun session h => by cases hi.symm.trans h
        intro t' h id v hv
        rcases Decoder.next_cases h with rfl | ⟨_, h, -⟩ | ⟨_, _, h, -⟩ | ⟨_, _, h, -⟩ |
          ⟨j, c, session, p, h, hj, -⟩
        · exact absurd hv (hquiet rfl)
        · cases h
        · cases h
        · cases h
        · cases h
          cases hi.symm.trans hj
    | some session =>
        have hid := ht.named i session hi
        have hstep {c : Called β S Unit}
            (hc : t.device.processEvents B checks session = .ok c) :
            t.next B checks (.call i .processEvents) =
              some ({ t with device := c.device }.setSession i (some c.session)) := by
          simp [Decoder.next, Decoder.step, hi, VideoDecoder.call, hc, Except.map,
            Except.toOption, Called.after]
        have hcalls : t.Calls (DecoderSession.PlainEvent B checks) (.call i .processEvents) ↔
            session.PlainEvent B checks .processEvents := by
          refine ⟨fun h => h session hi, fun h session' hi' => ?_⟩
          cases hi.symm.trans hi'
          exact h
        rw [hcalls, ← givesBack_described t.device (ht.placed i session hi)]
        constructor
        · intro h c v hc hback
          obtain ⟨news, hsent, hnews⟩ := processEvents_sent hc
          have hsince : t.sentSince ({ t with device := c.device }.setSession i (some c.session)) =
              news := Decoder.sentSince_of_append hsent
          obtain ⟨session', ev, -, hi', hev, hdescribed⟩ := h _ (hstep hc) i v
            (hsince ▸ (hnews i v).mpr ⟨hid.symm, hback⟩)
          cases hi.symm.trans hi'
          exact ⟨ev, hev, hdescribed⟩
        · intro h t' ht' id v hv
          have hok := Fallible.toOption_eq_some.mp ht'
          simp only [Decoder.step, hi] at hok
          obtain ⟨p, hp, rfl⟩ := map_eq_ok.mp hok
          obtain ⟨c, hc, rfl⟩ := map_eq_ok.mp hp
          obtain ⟨news, hsent, hnews⟩ := processEvents_sent hc
          have hsince : t.sentSince ({ t with device := c.device }.setSession i (some c.session)) =
              news := Decoder.sentSince_of_append hsent
          have hv : .dequeueBuffer id v ∈ news := hsince ▸ hv
          obtain ⟨rfl, hback⟩ := (hnews id v).mp hv
          obtain ⟨ev, hev, hdescribed⟩ := h c v hc hback
          exact ⟨session, ev, by rw [hid], by rw [hid]; exact hi, hev, hdescribed⟩
  · refine iff_of_true ?_ ?_
    · intro t' h id v hv
      refine absurd hv (hquiet ?_)
      by_cases hc : ∃ i c, a = .call i c
      · obtain ⟨i, c, rfl⟩ := hc
        rcases Decoder.next_cases h with rfl | ⟨_, ha, -⟩ | ⟨_, _, ha, -⟩ | ⟨_, _, ha, -⟩ |
          ⟨j, c, session, p, ha, -, hp, rfl⟩
        · rfl
        · cases ha
        · cases ha
        · cases ha
        · cases ha
          exact call_sent hp fun hc => hcall ⟨_, by rw [hc]⟩
      · exact Decoder.sent_of_next h fun i c ha => hc ⟨i, c, ha⟩
    · cases a with
      | openSession i answer => trivial
      | closeSession i => trivial
      | munmap guestAddr => trivial
      | call i c =>
          intro session _
          cases c with
          | processEvents => exact absurd ⟨i, rfl⟩ hcall
          | _ => trivial

/-- For every backend and every run on a new device: every completion is
described by its flags exactly if every event of the backend is a plain one. -/
theorem completion_flags (B : DecoderBackend β S) (checks : Bool)
    (acts : List (DecoderAction β)) :
    Trace.Conforms (Decoder.next B checks) (Decoder.DescribesCompletions B checks) .init acts ↔
      Trace.Conforms (Decoder.next B checks)
        (fun s a => s.Calls (DecoderSession.PlainEvent B checks) a) .init acts := by
  have htrue : Trace.Conforms (Decoder.next B checks) (fun _ _ => True) .init acts :=
    Trace.conforms_true _ acts
  refine Trace.conforms_congr (P := Decoder.Ordered) ?_ ?_ ?_ htrue
  · exact fun s a s' hs _ h => hs.next h
  · exact fun s a hs _ => describesCompletions_iff hs
  · exact ⟨Decoder.named_init, Decoder.every_init⟩

/-- A backend that accepts everything and has a list of events to report. -/
def scriptedBackend : DecoderBackend (List BackendEvent) Unit where
  new b _ _ _ := (.ok (), b)
  fdForPlane _ _ := some 0
  decode b _ _ _ _ := (.ok (), b)
  useAsOutput b _ _ := (.ok (), (), b)
  drain b := (.ok (), b)
  clearOutputBuffers b := (.ok (), b)
  nextEvent b := (b.head?, b.tail)
  sizeimages _ _ := [4096]
  visibleRect _ := ⟨0, 0, 0, 0⟩
  buffersAllocated b _ _ := b
  streamingState b _ _ := b

/-- One OUTPUT buffer is decoded twice, the first time with an error. -/
def erroneousRun : List (DecoderAction (List BackendEvent)) :=
  .openSession 0 (.ok [.inputBufferDone 0 5, .inputBufferDone 0 0]) ::
    ([.reqbufs .videoOutputMplane .mmap 1, .streamon .videoOutputMplane,
      .qbuf (guestBuffer .videoOutputMplane 0), .processEvents,
      .qbuf (guestBuffer .videoOutputMplane 0)].map (.call 0))

/-- The second completion carries the error of the first one. -/
theorem completion_flags_fails_error :
    ¬ ∀ acts, Trace.Conforms (Decoder.next scriptedBackend true)
      (Decoder.DescribesCompletions scriptedBackend true) .init acts := by
  intro h
  have hlaw := Trace.conforms_at (h (erroneousRun ++ [.call 0 .processEvents]))
    (rfl : Trace.run (Decoder.next scriptedBackend true) .init erroneousRun = some _)
  obtain ⟨session, ev, -, hsession, hev, -, hdescribed⟩ := hlaw _ rfl 0
    { guestBuffer .videoOutputMplane 0 with flags := bufFlagError } List.mem_cons_self
  cases hsession
  obtain ⟨error, rfl, hflag⟩ := hdescribed
  cases hev
  exact hflag.mp (by decide) rfl

end VirtioMedia.Device
