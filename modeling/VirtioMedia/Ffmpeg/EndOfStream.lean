import VirtioMedia.Ffmpeg.Steps

/-!
# End of stream events

`process_events` answers the last frame of a drain with an EOS event, unless a
format change is pending: then the frame is taken for the last one before the
change. The ffmpeg backend sends no such frame at a format change, so the next
drain ends without the event.
-/

namespace VirtioMedia.Device

open V4l2 Fallible

variable {β S : Type} {B : DecoderBackend β S} {checks : Bool} {d : VideoDecoder}
  {s : DecoderSession β S}

/-- The EOS events that were sent for a session. -/
def VideoDecoder.eosSent (d : VideoDecoder) (sessionId : UInt32) : Nat :=
  d.sent.count (.eos sessionId)

/-- The buffer of the last frame of a drain, if the call takes one from the
backend while EOS is subscribed. -/
def DecoderSession.endOfDrain? (B : DecoderBackend β S) (s : DecoderSession β S) :
    DecoderCall → Option UInt32
  | .processEvents =>
    match (B.nextEvent s.backendSession).1 with
    | some (.frameCompleted bufferId _ _ true) => if s.eosSubscribed then some bufferId else none
    | _ => none
  | _ => none

/-- The last frame of a drain finds no format change pending, names a buffer that
there is, and has a sequence number. -/
def DecoderSession.Signals (B : DecoderBackend β S) (checks : Bool) (s : DecoderSession β S)
    (c : DecoderCall) : Prop :=
  ∀ bufferId ∈ s.endOfDrain? B c, s.formatChangePending = false ∧
    bufferId.toNat < s.outputBuffers.length ∧ ¬(checks = true ∧ s.sequenceCpt.toNat + 1 = 2 ^ 32)

/-- The action takes the last frame of a drain on the session. -/
def Decoder.endsDrain (B : DecoderBackend β S) (s : Decoder β S) (i : UInt32) :
    DecoderAction β → Bool
  | .call sessionId c => sessionId = i && ((s.sessions sessionId).bind (·.endOfDrain? B c)).isSome
  | _ => false

/-- One EOS event is sent for a session whose drain ends, and none for the
others. -/
def Decoder.OneEos (B : DecoderBackend β S) (checks : Bool) (s : Decoder β S)
    (a : DecoderAction β) : Prop :=
  ∀ i, if s.endsDrain B i a then
      ∃ s', s.next B checks a = some s' ∧ s'.device.eosSent i = s.device.eosSent i + 1
    else ∀ s', s.next B checks a = some s' → s'.device.eosSent i = s.device.eosSent i

/-! ### Calls -/

theorem endOfDrain?_eq_some {c : DecoderCall} {bufferId : UInt32}
    (h : s.endOfDrain? B c = some bufferId) :
    c = .processEvents ∧ s.eosSubscribed = true ∧ ∃ timestamp bytesUsed b,
      B.nextEvent s.backendSession =
        (some (.frameCompleted bufferId timestamp bytesUsed true), b) := by
  unfold DecoderSession.endOfDrain? at h
  split at h
  · split at h
    · rename_i id timestamp bytesUsed hev
      split at h
      · rename_i hsubscribed
        obtain rfl := Option.some.inj h
        exact ⟨rfl, hsubscribed, timestamp, bytesUsed, _, Prod.ext hev rfl⟩
      · cases h
    · cases h
  · cases h

/-- The last frame of a drain sends an EOS event in exactly one case. -/
theorem call_eosSent_iff {c : DecoderCall} {bufferId : UInt32}
    (hend : s.endOfDrain? B c = some bufferId) :
    (∃ p, VideoDecoder.call B checks d s c = .ok p ∧
        p.1.eosSent s.id = d.eosSent s.id + 1) ↔ s.Signals B checks c := by
  unfold DecoderSession.Signals
  rw [hend]
  obtain ⟨rfl, hsubscribed, timestamp, bytesUsed, b, hev⟩ := endOfDrain?_eq_some hend
  simp only [VideoDecoder.call, VideoDecoder.processEvents, hev, VideoDecoder.frameCompleted,
    Option.mem_some_iff, forall_eq']
  cases hbuf : s.outputBuffers[bufferId.toNat]? with
  | none =>
      refine iff_of_false ?_ fun h => ?_
      · rintro ⟨p, hp, hcount⟩
        cases hp
        simp [VideoDecoder.eosSent, Called.after] at hcount
      · exact absurd h.2.1 (not_lt.mpr (List.getElem?_eq_none_iff.mp hbuf))
  | some host =>
      have hlt : bufferId.toNat < s.outputBuffers.length :=
        (List.getElem?_eq_some_iff.mp hbuf).1
      by_cases hover : checks = true ∧ s.sequenceCpt.toNat + 1 = 2 ^ 32
      · simp [hover, Except.map]
      · simp only [hover, hlt, if_false, not_false_eq_true, and_true, hsubscribed]
        cases hpending : s.formatChangePending <;>
          simp [Except.map, Called.after, VideoDecoder.send, VideoDecoder.eosSent]

/-- A frame sends no other EOS event. -/
theorem frameEvents_count_eos {v : DecoderV4l2Buffer} {isLast : Bool} {i : UInt32}
    (h : i ≠ s.id ∨ isLast = false ∨ s.eosSubscribed = false) :
    (s.frameEvents v isLast).count (.eos i) = 0 := by
  rw [List.count_eq_zero]
  unfold DecoderSession.frameEvents
  split <;> grind

/-- Every other call sends none. -/
theorem call_eosSent {c : DecoderCall} {p : VideoDecoder × DecoderSession β S} {i : UInt32}
    (h : VideoDecoder.call B checks d s c = .ok p)
    (hend : i ≠ s.id ∨ s.endOfDrain? B c = none) : p.1.eosSent i = d.eosSent i := by
  by_cases hc : c = .processEvents
  · subst hc
    obtain ⟨c, hc, rfl⟩ := map_eq_ok.mp h
    obtain ⟨ev, b, hev, ⟨rfl, -⟩ | ⟨bufferId, error, host, -, -, rfl⟩ | ⟨-, rfl⟩ |
      ⟨bufferId, timestamp, bytesUsed, isLast, host, v, rfl, -, -, rfl⟩⟩ := processEvents_cases hc
    · rfl
    · simp [VideoDecoder.eosSent, VideoDecoder.send, Called.after]
    · simp only [VideoDecoder.eosSent, VideoDecoder.send, Called.after]
      split
      · simp
      · rfl
    · simp only [VideoDecoder.eosSent, Called.after, List.count_append]
      rw [frameEvents_count_eos, Nat.zero_add]
      refine hend.imp_right fun hend => ?_
      simp only [DecoderSession.endOfDrain?, hev] at hend
      cases isLast <;> simp_all
  · simp only [VideoDecoder.eosSent, call_sent h hc]

/-! ### Actions -/

theorem Decoder.oneEos_iff {s : Decoder β S} (hs : s.Named) (a : DecoderAction β) :
    s.OneEos B checks a ↔ s.Calls (DecoderSession.Signals B checks) a := by
  have hother (hends : ∀ i, s.endsDrain B i a = false)
      (hsent : ∀ s', s.next B checks a = some s' → ∀ i, s'.device.eosSent i = s.device.eosSent i) :
      s.OneEos B checks a := by
    intro i
    rw [if_neg (by simp [hends])]
    exact fun s' h => hsent s' h i
  have hquiet (s' : Decoder β S) (h : s.next B checks a = some s') (hcall : ∀ i c, a ≠ .call i c)
      (i : UInt32) : s'.device.eosSent i = s.device.eosSent i := by
    rw [VideoDecoder.eosSent, Decoder.sent_of_next h hcall, VideoDecoder.eosSent]
  cases a with
  | openSession sessionId answer =>
      exact iff_of_true (hother (fun _ => rfl) fun s' h i => hquiet s' h (by simp) i) trivial
  | closeSession sessionId =>
      exact iff_of_true (hother (fun _ => rfl) fun s' h i => hquiet s' h (by simp) i) trivial
  | munmap guestAddr =>
      exact iff_of_true (hother (fun _ => rfl) fun s' h i => hquiet s' h (by simp) i) trivial
  | call sessionId c =>
      cases hsession : s.sessions sessionId with
      | none =>
          refine iff_of_true (hother (by simp [Decoder.endsDrain, hsession]) fun s' h i => ?_) ?_
          · simp only [Decoder.next, Decoder.step, hsession] at h
            cases h
            rfl
          · simp [Decoder.Calls, hsession]
      | some session =>
          have hid := hs sessionId session hsession
          have hnext : ∀ s', s.next B checks (.call sessionId c) = some s' ↔
              ∃ p, s.device.call B checks session c = .ok p ∧
                { s with device := p.1 }.setSession sessionId (some p.2) = s' := by
            intro s'
            simp only [Decoder.next, toOption_eq_some, Decoder.step, hsession, map_eq_ok]
          simp only [Decoder.Calls, hsession, Option.some.injEq, forall_eq']
          cases hend : session.endOfDrain? B c with
          | none =>
              refine iff_of_true (hother (by simp [Decoder.endsDrain, hsession, hend]) ?_) ?_
              · intro s' h i
                obtain ⟨p, hp, rfl⟩ := (hnext s').mp h
                exact call_eosSent hp (.inr hend)
              · simp [DecoderSession.Signals, hend]
          | some bufferId =>
              rw [← call_eosSent_iff (d := s.device) hend, hid]
              constructor
              · intro h
                have h := h sessionId
                rw [if_pos (by simp [Decoder.endsDrain, hsession, hend])] at h
                obtain ⟨s', hs', hcount⟩ := h
                obtain ⟨p, hp, rfl⟩ := (hnext s').mp hs'
                exact ⟨p, hp, hcount⟩
              · rintro ⟨p, hp, hcount⟩ i
                by_cases hi : i = sessionId
                · rw [if_pos (by simp [Decoder.endsDrain, hsession, hend, hi]), hi]
                  exact ⟨_, (hnext _).mpr ⟨p, hp, rfl⟩, hcount⟩
                · rw [if_neg (by simp [Decoder.endsDrain, Ne.symm hi])]
                  intro s' h
                  obtain ⟨p, hp, rfl⟩ := (hnext s').mp h
                  exact call_eosSent hp (.inl (hid ▸ hi))

end VirtioMedia.Device

namespace VirtioMedia.Ffmpeg

open V4l2 Device

variable {κ : Type}

/-- For every world and every run of the device over the ffmpeg backend: every
last frame of a drain that `process_events` takes while EOS is subscribed sends
one EOS event and nothing else sends one, if and only if each of these frames
finds no format change pending, names a buffer that there is, and has a sequence
number. -/
theorem one_eos_per_drain (W : World κ) (checks : Bool) (acts : List (DecoderAction κ)) :
    Trace.Conforms (ffmpegNext W checks)
        (fun s a => s.OneEos (ffmpegBackend W) checks (ffmpegAction a)) .init acts ↔
      Trace.Conforms (ffmpegNext W checks)
        (fun s a => s.Calls (DecoderSession.Signals (ffmpegBackend W) checks) (ffmpegAction a))
        .init acts := by
  refine Trace.conforms_congr (P := Decoder.Named) ?_ ?_ Decoder.named_init
    (Trace.conforms_true _ acts)
  · exact fun s a s' hs _ h => hs.next h
  · exact fun s a hs _ => Decoder.oneEos_iff hs (ffmpegAction a)

/-- A frame that is not of the format a new session assumes. -/
def croppedFrame : AvFrame := ⟨320, 240, 0, 0, 0, 0, 0, 0⟩

/-- The first frame changes the format. The guest restarts the CAPTURE queue, as
it has to, queues two buffers and drains. The first of two events is taken. -/
def formatChangeRun : List (DecoderAction CodecState) :=
  .openSession 0 (.ok ⟨0, false⟩) ::
    ([.subscribeEvent .eos, .reqbufs .videoOutputMplane .mmap 1,
      .reqbufs .videoCaptureMplane .mmap 2, .streamon .videoOutputMplane,
      .streamon .videoCaptureMplane, .qbuf packetBuffer, .processEvents,
      .processEvents, .streamoff .videoCaptureMplane, .streamon .videoCaptureMplane,
      .qbuf (guestBuffer .videoCaptureMplane 0), .qbuf (guestBuffer .videoCaptureMplane 1),
      .decoderCmd (some .stop), .processEvents].map (.call 0))

/-- The last frame of the drain is taken, EOS is subscribed, and no EOS event is
sent. -/
theorem one_eos_per_drain_fails_formatChange :
    (Trace.run (ffmpegNext (codecWorld croppedFrame) true) .init formatChangeRun).map (fun s =>
      (s.endsDrain (ffmpegBackend (codecWorld croppedFrame)) 0 (.call 0 .processEvents),
        s.device.eosSent 0,
        (ffmpegNext (codecWorld croppedFrame) true s (.call 0 .processEvents)).map
          (·.device.eosSent 0))) = some (true, 0, some 0) := by
  decide +kernel

end VirtioMedia.Ffmpeg
