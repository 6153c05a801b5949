import VirtioMedia.Device.BackendErasure
import VirtioMedia.Device.BufferOwners
import VirtioMedia.Device.DecoderPending

/-!
# At most one owner

A CAPTURE buffer waits in `pending_output_buffers` or was handed to the backend.
What was handed over is written down in a ledger that is kept beside any
backend: `use_as_output` adds an index, a completed frame takes one away, and
`clear_output_buffers` takes all of them.
-/

namespace VirtioMedia.Device

open V4l2 Fallible

variable {β S : Type}

/-- The backend together with the indices that were handed to it. -/
def DecoderBackend.ledger (B : DecoderBackend β S) : DecoderBackend (β × List UInt32) S where
  new b queue index size :=
    let r := B.new b.1 queue index size
    (r.1, r.2, b.2)
  fdForPlane := B.fdForPlane
  decode b backing index timestamp bytesUsed :=
    let r := B.decode b.1 backing index timestamp bytesUsed
    (r.1, r.2, b.2)
  useAsOutput b index backing :=
    let r := B.useAsOutput b.1 index backing
    (r.1, r.2.1, r.2.2, if r.1.toOption.isSome then b.2 ++ [index] else b.2)
  drain b :=
    let r := B.drain b.1
    (r.1, r.2, b.2)
  clearOutputBuffers b :=
    let r := B.clearOutputBuffers b.1
    (r.1, r.2, if r.1.toOption.isSome then [] else b.2)
  nextEvent b :=
    let r := B.nextEvent b.1
    (r.1, r.2, (r.1.bind (·.frameDone?)).elim b.2 b.2.erase)
  sizeimages b := B.sizeimages b.1
  visibleRect b := B.visibleRect b.1
  buffersAllocated b direction count := (B.buffersAllocated b.1 direction count, b.2)
  streamingState b direction streaming := (B.streamingState b.1 direction streaming, b.2)

/-- The ledger is about CAPTURE buffers. -/
def handed : QueueDirection → β × List UInt32 → List UInt32
  | .output, _ => []
  | .capture, b => b.2

theorem ledger_custodian (B : DecoderBackend β S) : B.ledger.Custodian handed where
  new dir b queue i size := by cases dir <;> exact .refl _
  decode_output b x i timestamp bytesUsed := List.nil_subperm
  decode_capture b x i timestamp bytesUsed := .refl _
  useAsOutput_output b i x := .refl _
  useAsOutput_capture b i x := by
    simp only [DecoderBackend.ledger, handed]
    split
    · exact .refl _
    · exact (List.sublist_append_left _ _).subperm
  drain dir b := by cases dir <;> exact .refl _
  clearOutputBuffers dir b := by
    cases dir with
    | output => exact .refl _
    | capture =>
        simp only [DecoderBackend.ledger, handed]
        split
        · exact List.nil_subperm
        · exact .refl _
  clearOutputBuffers_ok b h := by
    have h : (B.clearOutputBuffers b.1).1 = .ok () := h
    simp [DecoderBackend.ledger, handed, h, Except.toOption]
  nextEvent dir b := by
    cases dir with
    | output => exact .refl _
    | capture =>
        simp only [DecoderBackend.ledger, handed]
        cases (B.nextEvent b.1).1.bind (·.frameDone?) with
        | none => exact .refl _
        | some i => exact List.erase_sublist.subperm
  inputBufferDone b ev _ _ i _ := List.not_mem_nil
  frameCompleted b ev hev hnodup i hi := by
    have hev : (B.nextEvent b.1).1 = some ev := hev
    have hi : ev.frameDone? = some i := hi
    simp only [DecoderBackend.ledger, handed, hev, Option.bind_some, hi, Option.elim_some]
    exact hnodup.not_mem_erase
  buffersAllocated dir b direction count := by cases dir <;> exact .refl _
  streamingState dir b direction streaming := by cases dir <;> exact .refl _

/-- The device with the ledger, which starts empty. -/
def ledgerNext (B : DecoderBackend β S) (checks : Bool) (s : Decoder (β × List UInt32) S)
    (a : DecoderAction β) : Option (Decoder (β × List UInt32) S) :=
  s.next B.ledger checks (a.map fun b => (b, []))

theorem ledger_hom (B : DecoderBackend β S) : B.ledger.Hom B Prod.fst id where
  new b queue index size := by
    dsimp only [DecoderBackend.ledger]
    obtain ⟨res, b'⟩ := B.new b.1 queue index size
    cases res with
    | error e => rfl
    | ok backing => rfl
  fdForPlane _ _ := rfl
  decode _ _ _ _ _ := rfl
  useAsOutput _ _ _ := rfl
  drain _ := rfl
  clearOutputBuffers _ := rfl
  nextEvent _ := rfl
  sizeimages _ _ := rfl
  visibleRect _ := rfl
  buffersAllocated _ _ _ := rfl
  streamingState _ _ _ := rfl

/-- The ledger does not change the device. -/
theorem ledgerRun_erase (B : DecoderBackend β S) (checks : Bool)
    (acts : List (DecoderAction β)) :
    (Trace.run (ledgerNext B checks) .init acts).map (·.map Prod.fst id) =
      Trace.run (Decoder.next B checks) .init acts :=
  (ledger_hom B).run_erase (fun _ => rfl) acts

/-- No index is pending or handed over twice. -/
def DecoderSession.OneOwner (s : DecoderSession (β × List UInt32) S) : Prop :=
  (s.pendingOutputBuffers ++ s.backendSession.2).Nodup

/-- QBUF of a buffer that is queued is refused and changes nothing. -/
def DecoderSession.RefusesQueued (B : DecoderBackend β S) (d : VideoDecoder)
    (s : DecoderSession β S) : DecoderCall → Prop
  | .qbuf buffer => ∀ bufs host, s.buffers buffer.queue = some bufs →
      bufs[buffer.index.toNat]? = some host → host.v4l2Buffer.isQueued = true →
      ∃ e, d.qbuf B s buffer = .ok ⟨.error e, d, s⟩
  | _ => True

theorem refusesQueued_of_careful {B : DecoderBackend β S}
    {held : QueueDirection → β → List UInt32} {s : DecoderSession β S} {c : DecoderCall}
    (hc : s.Careful B held c) (d : VideoDecoder) : s.RefusesQueued B d c := by
  cases c with
  | qbuf buffer =>
      intro bufs host hbufs hhost hqueued
      refine ⟨einval, ?_⟩
      have hmemory : buffer.memory ≠ host.v4l2Buffer.memory := by
        intro hmemory
        have haccepts : s.accepts buffer = some host := by
          simp [DecoderSession.accepts, hbufs, hhost, Option.filter, hmemory]
        have hclear := (hc host haccepts).1
        rw [hqueued] at hclear
        cases hclear
      simp only [VideoDecoder.qbuf, hbufs, hhost, if_pos hmemory]
  | _ => trivial

/-- For every backend and every run on a new device in which every call is
careful: no index is pending or handed over twice, and QBUF of a buffer that is
queued is refused. -/
theorem buffers_have_one_owner (B : DecoderBackend β S) (checks : Bool)
    {acts : List (DecoderAction β)}
    (hc : Trace.Conforms (ledgerNext B checks)
      (fun s a => s.Calls (DecoderSession.Careful B.ledger handed) (a.map fun b => (b, [])))
      .init acts) :
    Trace.Conforms (ledgerNext B checks) (fun s a =>
      (∀ s', ledgerNext B checks s a = some s' → s'.Every DecoderSession.OneOwner) ∧
        s.Calls (DecoderSession.RefusesQueued B.ledger s.device) (a.map fun b => (b, [])))
      .init acts := by
  have hstep : ∀ s a s', s.Every (DecoderSession.Tracked handed) →
      s.Calls (DecoderSession.Careful B.ledger handed) (a.map fun b => (b, [])) →
      ledgerNext B checks s a = some s' → s'.Every (DecoderSession.Tracked handed) := by
    intro s a s' hs hc h
    refine hs.next (fun id b ha => ?_) ?_ hc h
    · obtain ⟨b, rfl⟩ := DecoderAction.map_eq_openSession ha
      exact tracked_new fun dir => by cases dir <;> rfl
    · exact fun d s c p hs hc h => call_tracked (ledger_custodian B) hs hc h
  refine Trace.conforms_of_invariant (P := Decoder.Every (DecoderSession.Tracked handed))
    hstep ?_ Decoder.every_init hc
  intro s a hs hc
  constructor
  · intro s' h sessionId session hsession
    exact ((hstep s a s' hs hc h sessionId session hsession).tracks .capture).nodup
  · exact hc.imp fun session c hcareful => refusesQueued_of_careful hcareful s.device

/-- Two CAPTURE buffers are queued, taken back by STREAMOFF, and one of them is
queued again. -/
def requeueRun : List (DecoderAction Unit) :=
  .openSession 0 (.ok ()) ::
    ([.reqbufs .videoOutputMplane .mmap 1, .reqbufs .videoCaptureMplane .mmap 2,
      .streamon .videoOutputMplane, .streamon .videoCaptureMplane,
      .qbuf (guestBuffer .videoCaptureMplane 0), .qbuf (guestBuffer .videoCaptureMplane 1),
      .processEvents, .streamoff .videoCaptureMplane,
      .qbuf (guestBuffer .videoCaptureMplane 1)].map (.call 0))

theorem buffers_have_one_owner_requeue :
    Trace.Conforms (ledgerNext idleBackend true) (fun s a =>
      (∀ s', ledgerNext idleBackend true s a = some s' → s'.Every DecoderSession.OneOwner) ∧
        s.Calls (DecoderSession.RefusesQueued idleBackend.ledger s.device)
          (a.map fun b => (b, []))) .init requeueRun :=
  buffers_have_one_owner idleBackend true (by decide +kernel)

/-- One CAPTURE buffer is queued. -/
def queuedRun : List (DecoderAction Unit) :=
  .openSession 0 (.ok ()) ::
    ([.reqbufs .videoCaptureMplane .mmap 1,
      .qbuf (guestBuffer .videoCaptureMplane 0)].map (.call 0))

/-- It is queued again, and then it is pending twice. -/
theorem buffers_have_one_owner_fails_twice :
    ∃ s session c, Trace.run (ledgerNext idleBackend true) .init queuedRun = some s ∧
      s.sessions 0 = some session ∧
      (session.outputBuffers.map (·.v4l2Buffer.isQueued)) = [true] ∧
      s.device.qbuf idleBackend.ledger session (guestBuffer .videoCaptureMplane 0) = .ok c ∧
      c.result.toOption.isSome = true ∧
      c.session.pendingOutputBuffers ++ c.session.backendSession.2 = [0, 0] :=
  ⟨_, _, _, rfl, rfl, rfl, rfl, rfl, rfl⟩

end VirtioMedia.Device
