import VirtioMedia.Device.DecoderCalls

/-!
# What the device keeps of the backend

A property of the backend session that its methods keep is kept by the calls of
the device, which change the backend session only through them.
-/

namespace VirtioMedia.Device

open V4l2 Fallible

/-- Every method of the backend session keeps a property. -/
structure DecoderBackend.Keeps {β S : Type} (B : DecoderBackend β S) (P : β → Prop) : Prop where
  new : ∀ b queue index size, P b → P (B.new b queue index size).2
  decode : ∀ b x index timestamp bytesUsed, P b → P (B.decode b x index timestamp bytesUsed).2
  useAsOutput : ∀ b index x, P b → P (B.useAsOutput b index x).2.2
  drain : ∀ b, P b → P (B.drain b).2
  clearOutputBuffers : ∀ b, P b → P (B.clearOutputBuffers b).2
  nextEvent : ∀ b, P b → P (B.nextEvent b).2
  buffersAllocated : ∀ b direction count, P b → P (B.buffersAllocated b direction count)
  streamingState : ∀ b direction streaming, P b → P (B.streamingState b direction streaming)

namespace DecoderBackend.Keeps

variable {β S : Type} {B : DecoderBackend β S} {P : β → Prop} {checks : Bool} {d : VideoDecoder}
  {s : DecoderSession β S}

theorem sendPending (hB : B.Keeps P) {is : List UInt32} {bufs : List (DecoderBuffer S)} {b : β}
    {q : Except Int Unit × List (DecoderBuffer S) × β} (hb : P b)
    (h : Device.sendPending B is bufs b = .ok q) : P q.2.2 := by
  induction is generalizing bufs b with
  | nil =>
      cases h
      exact hb
  | cons i rest ih =>
      unfold Device.sendPending at h
      split at h
      · cases h
      · next buffer hbuffer =>
          have hnext := hB.useAsOutput b buffer.v4l2Buffer.index buffer.backing hb
          dsimp only at h
          split at h
          · cases h
            exact hnext
          · exact ih hnext h

theorem trySend (hB : B.Keeps P) {r : Except Int Unit × DecoderSession β S}
    (h : s.trySendPendingOutputBuffers B = .ok r) (hs : P s.backendSession) :
    P r.2.backendSession := by
  rcases trySendPendingOutputBuffers_cases h with ⟨-, rfl⟩ | ⟨-, q, hq, rfl⟩
  · exact hs
  · exact hB.sendPending hs hq

theorem reqbufs (hB : B.Keeps P) (hs : P s.backendSession) {queue : QueueType}
    {memory : MemoryType} {count : UInt32} {c : Called β S UInt32}
    (h : d.reqbufs B checks s queue memory count = .ok c) : P c.session.backendSession := by
  rcases reqbufs_cases h with rfl | ⟨bufs, -, ⟨-, rfl⟩ |
    ⟨-, size, r, -, hr, ⟨e, -, rfl⟩ | ⟨news, -, rfl⟩⟩⟩
  · exact hs
  · exact hB.buffersAllocated _ _ _ hs
  · exact allocateBuffers_backend hB.new hs hr
  · exact hB.buffersAllocated _ _ _ (allocateBuffers_backend hB.new hs hr)

theorem streamon (hB : B.Keeps P) (hs : P s.backendSession) {queue : QueueType}
    {c : Called β S Unit} (h : d.streamon B s queue = .ok c) : P c.session.backendSession := by
  rcases streamon_cases h with rfl | ⟨state, r, -, hr, rfl⟩
  · exact hs
  · exact hB.trySend hr (hB.streamingState _ _ _ hs)

theorem streamoff (hB : B.Keeps P) (hs : P s.backendSession) (queue : QueueType) :
    P (d.streamoff B s queue).session.backendSession := by
  unfold VideoDecoder.streamoff
  split
  · exact hB.streamingState _ _ _ hs
  · have hclear := hB.clearOutputBuffers _ hs
    split
    · next hanswer => rwa [hanswer] at hclear
    · next hanswer =>
        rw [hanswer] at hclear
        exact hB.streamingState _ _ _ hclear

theorem qbuf (hB : B.Keeps P) (hs : P s.backendSession) {buffer : DecoderV4l2Buffer}
    {c : Called β S DecoderV4l2Buffer} (h : d.qbuf B s buffer = .ok c) :
    P c.session.backendSession := by
  rcases qbuf_cases h with
    ⟨-, rfl⟩ | ⟨host, -, -, -, res, b, hdecode, v, -, rfl⟩ | ⟨host, -, -, -, r, hr, rfl⟩
  · exact hs
  · have hnext := hB.decode _ host.backing host.v4l2Buffer.index buffer.timestamp buffer.payload hs
    rwa [hdecode] at hnext
  · exact hB.trySend hr hs

theorem decoderCmd (hB : B.Keeps P) (hs : P s.backendSession) {cmd : Option DecoderCmd}
    {c : Called β S DecoderCmd} (h : d.decoderCmd B s cmd = .ok c) :
    P c.session.backendSession := by
  rcases decoderCmd_cases h with ⟨-, hsame⟩ | ⟨-, -, rfl⟩ | ⟨-, s', r, hs', hr, rfl⟩ |
    ⟨-, -, rfl⟩ | ⟨-, -, rfl⟩
  · rwa [hsame]
  · exact hB.drain _ hs
  · rcases hs' with ⟨-, rfl⟩ | ⟨i, o, -, -, rfl⟩
    · exact hB.trySend hr (hB.streamingState _ _ _ hs)
    · exact hB.trySend hr hs
  · exact hs
  · exact hs

theorem processEvents (hB : B.Keeps P) (hs : P s.backendSession) {c : Called β S Unit}
    (h : d.processEvents B checks s = .ok c) : P c.session.backendSession := by
  obtain ⟨ev, b, hev, hcase⟩ := processEvents_cases h
  have hnext := hB.nextEvent _ hs
  rw [hev] at hnext
  rcases hcase with ⟨rfl, -⟩ | ⟨bufferId, error, host, -, -, rfl⟩ | ⟨-, rfl⟩ |
    ⟨bufferId, timestamp, bytesUsed, isLast, host, v, -, -, -, rfl⟩
  · exact hnext
  · exact hnext
  · exact hnext
  · exact hnext

/-- Every call of the device keeps the property. -/
theorem call (hB : B.Keeps P) (hs : P s.backendSession) {c : DecoderCall}
    {r : VideoDecoder × DecoderSession β S} (h : d.call B checks s c = .ok r) :
    P r.2.backendSession := by
  cases c with
  | streamoff queue =>
      cases h
      exact hB.streamoff hs queue
  | subscribeEvent event =>
      cases h
      unfold VideoDecoder.subscribeEvent
      split <;> exact hs
  | unsubscribeEvent event =>
      cases h
      unfold VideoDecoder.unsubscribeEvent
      split <;> exact hs
  | reqbufs queue memory count =>
      obtain ⟨c, hc, rfl⟩ := map_eq_ok.mp h
      exact hB.reqbufs hs hc
  | qbuf buffer =>
      obtain ⟨c, hc, rfl⟩ := map_eq_ok.mp h
      exact hB.qbuf hs hc
  | streamon queue =>
      obtain ⟨c, hc, rfl⟩ := map_eq_ok.mp h
      exact hB.streamon hs hc
  | decoderCmd cmd =>
      obtain ⟨c, hc, rfl⟩ := map_eq_ok.mp h
      exact hB.decoderCmd hs hc
  | mmap flags offset answer =>
      obtain ⟨c, hc, rfl⟩ := map_eq_ok.mp h
      rcases doMmap_cases hc with rfl | ⟨buffer, fd, rw, -, -, rfl⟩
      · exact hs
      · exact hs
  | processEvents =>
      obtain ⟨c, hc, rfl⟩ := map_eq_ok.mp h
      exact hB.processEvents hs hc

end DecoderBackend.Keeps

end VirtioMedia.Device
