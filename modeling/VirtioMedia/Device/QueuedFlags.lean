import VirtioMedia.Device.BufferOwners

/-!
# Where QUEUED is set

Only QBUF sets the flag, and only for the buffer that it is for. Every other
call keeps or clears the flags, and new buffers come without it. What a call
does to the buffers of a queue is one of five steps.
-/

namespace VirtioMedia.Device

open V4l2 Fallible

variable {β S : Type} {B : DecoderBackend β S} {checks : Bool} {d : VideoDecoder}
  {s : DecoderSession β S}

/-- No buffer is queued that was not queued before. -/
def NoneQueued (vs vs' : List DecoderV4l2Buffer) : Prop :=
  ∀ (n : Nat) (v : DecoderV4l2Buffer), vs'[n]? = some v → v.isQueued = true →
    ∃ w : DecoderV4l2Buffer, vs[n]? = some w ∧ w.isQueued = true

theorem NoneQueued.refl (vs : List DecoderV4l2Buffer) : NoneQueued vs vs :=
  fun _ v hv hqueued => ⟨v, hv, hqueued⟩

theorem NoneQueued.take (vs : List DecoderV4l2Buffer) (m : Nat) : NoneQueued vs (vs.take m) := by
  intro n v hv hqueued
  rw [List.getElem?_take] at hv
  split at hv
  · exact ⟨v, hv, hqueued⟩
  · cases hv

theorem NoneQueued.append (vs : List DecoderV4l2Buffer) {news : List DecoderV4l2Buffer}
    (h : ∀ (j : Nat) (v : DecoderV4l2Buffer), news[j]? = some v → v.isQueued = false) :
    NoneQueued vs (vs ++ news) := by
  intro n v hv hqueued
  rw [List.getElem?_append] at hv
  split at hv
  · exact ⟨v, hv, hqueued⟩
  · rw [h _ v hv] at hqueued
    cases hqueued

theorem NoneQueued.set (vs : List DecoderV4l2Buffer) (m : Nat) {v : DecoderV4l2Buffer}
    (h : v.isQueued = false) : NoneQueued vs (vs.set m v) := by
  intro n w hw hqueued
  by_cases hm : m = n
  · subst hm
    rw [List.getElem?_set_self'] at hw
    obtain ⟨_, -, rfl⟩ := Option.map_eq_some_iff.mp hw
    rw [Function.const_apply, h] at hqueued
    cases hqueued
  · rw [List.getElem?_set_ne hm] at hw
    exact ⟨w, hw, hqueued⟩

theorem NoneQueued.clear (vs : List DecoderV4l2Buffer) :
    NoneQueued vs (vs.map (·.clearFlags bufFlagQueued)) := by
  intro n v hv hqueued
  rw [List.getElem?_map] at hv
  obtain ⟨w, -, rfl⟩ := Option.map_eq_some_iff.mp hv
  rw [clearFlags_isQueued] at hqueued
  cases hqueued

def DecoderCall.isReqbufs : DecoderCall → Bool
  | .reqbufs _ _ _ => true
  | _ => false

/-- What a call may do to the buffers of a queue as the guest sees them. Only
REQBUFS changes their number, a buffer keeps its index and its offset, and only
QBUF leaves a buffer queued, the one that it is for. -/
inductive ViewsStep (c : DecoderCall) (dir : QueueDirection) (vs : List DecoderV4l2Buffer) :
    List DecoderV4l2Buffer → Prop where
  | same : ViewsStep c dir vs vs
  | take (n : Nat) (hc : c.isReqbufs = true) : ViewsStep c dir vs (vs.take n)
  | append (news : List DecoderV4l2Buffer) (hc : c.isReqbufs = true)
      (hnews : ∀ (j : Nat) (v : DecoderV4l2Buffer), news[j]? = some v →
        v.queue.direction = dir ∧ v.index.toNat = vs.length + j ∧ v.isQueued = false) :
      ViewsStep c dir vs (vs ++ news)
  | clear : ViewsStep c dir vs (vs.map (·.clearFlags bufFlagQueued))
  | set (n : Nat) (v w : DecoderV4l2Buffer) (hv : vs[n]? = some v) (hqueue : w.queue = v.queue)
      (hindex : w.index = v.index) (hoffset : w.plane.memOffset = v.plane.memOffset)
      (hqueued : w.isQueued = false ∨
        ∃ buffer, c = .qbuf buffer ∧ buffer.queue.direction = dir ∧ buffer.index.toNat = n) :
      ViewsStep c dir vs (vs.set n w)

theorem ViewsStep.of_eq {c : DecoderCall} {dir : QueueDirection}
    {vs vs' : List DecoderV4l2Buffer} (h : vs' = vs) : ViewsStep c dir vs vs' :=
  h ▸ .same

/-- A call keeps the number of every buffer. -/
theorem ViewsStep.numbered {c : DecoderCall} {dir : QueueDirection}
    {vs vs' : List DecoderV4l2Buffer} (h : ViewsStep c dir vs vs') (hvs : Numbered dir vs) :
    Numbered dir vs' := by
  cases h with
  | same => exact hvs
  | take n hc => exact hvs.take n
  | append news hc hnews =>
      exact hvs.append fun j v hv => ⟨(hnews j v hv).1, (hnews j v hv).2.1⟩
  | clear => exact hvs.clear
  | set n v w hv hqueue hindex hoffset hqueued => exact hvs.set hv hqueue hindex

theorem reqbufs_views {queue : QueueType} {memory : MemoryType} {count : UInt32}
    {c : Called β S UInt32} (h : d.reqbufs B checks s queue memory count = .ok c)
    (dir : QueueDirection) :
    ViewsStep (.reqbufs queue memory count) dir (s.views dir) (c.session.views dir) := by
  rcases reqbufs_cases h with rfl | ⟨bufs, hbufs, ⟨-, rfl⟩ |
    ⟨⟨-, hge⟩, size, r, -, hr, ⟨e, -, rfl⟩ | ⟨news, hok, rfl⟩⟩⟩
  · exact .same
  · change ViewsStep (.reqbufs queue memory count) dir _ ((s.setBuffers queue _).views dir)
    rw [views_setBuffers]
    split
    · rename_i hdir
      rw [← hdir, views_of_buffers hbufs, List.map_take]
      exact .take _ rfl
    · exact .same
  · exact .same
  · change ViewsStep (.reqbufs queue memory count) dir _ ((s.setBuffers queue _).views dir)
    rw [views_setBuffers]
    split
    · rename_i hdir
      have hbound : bufs.length + (count.toNat - bufs.length) ≤ 2 ^ 32 := by
        have := count.toNat_lt
        omega
      rw [← hdir, views_of_buffers hbufs, List.map_append]
      refine .append _ rfl fun j v hv => ?_
      obtain ⟨hqueue, hindex, hclear⟩ := allocateBuffers_news hbound hr hok hv
      rw [List.length_map, hqueue]
      exact ⟨rfl, hindex, hclear⟩
    · exact .same

theorem qbuf_views {buffer : DecoderV4l2Buffer} {c : Called β S DecoderV4l2Buffer}
    (h : d.qbuf B s buffer = .ok c) (dir : QueueDirection) :
    ViewsStep (.qbuf buffer) dir (s.views dir) (c.session.views dir) := by
  rcases qbuf_cases h with ⟨-, rfl⟩ | ⟨host, -, hqueue, hhost, res, b, -, v, rfl, rfl⟩ |
    ⟨host, -, hqueue, hhost, r, hr, rfl⟩
  · exact .same
  · cases dir with
    | output =>
        have hview : (s.views .output)[buffer.index.toNat]? = some host.v4l2Buffer := by
          simp [DecoderSession.views, hhost]
        rw [DecoderSession.views, DecoderSession.views, List.map_set]
        refine .set _ _ _ hview ?_ ?_ ?_ (.inr ⟨buffer, rfl, by rw [hqueue]; rfl, rfl⟩)
        · split <;> rfl
        · split <;> rfl
        · split <;> rfl
    | capture => exact .same
  · rw [trySendPendingOutputBuffers_views hr]
    cases dir with
    | output => exact .same
    | capture =>
        have hview : (s.views .capture)[buffer.index.toNat]? = some host.v4l2Buffer := by
          simp [DecoderSession.views, hhost]
        rw [DecoderSession.views, DecoderSession.views, List.map_set]
        exact .set _ _ _ hview rfl rfl rfl (.inr ⟨buffer, rfl, by rw [hqueue]; rfl, rfl⟩)

theorem streamoff_views (queue : QueueType) (dir : QueueDirection) :
    ViewsStep (.streamoff queue) dir (s.views dir) ((d.streamoff B s queue).session.views dir) := by
  unfold VideoDecoder.streamoff
  split
  · cases dir with
    | output =>
        rw [DecoderSession.views, DecoderSession.views, views_clearQueued]
        exact .clear
    | capture => exact .same
  · split
    · cases dir <;> exact .same
    · cases dir with
      | output => exact .same
      | capture =>
          rw [DecoderSession.views, DecoderSession.views, views_clearQueued]
          exact .clear

theorem processEvents_views {c : Called β S Unit} (h : d.processEvents B checks s = .ok c)
    (dir : QueueDirection) : ViewsStep .processEvents dir (s.views dir) (c.session.views dir) := by
  obtain ⟨ev, b, -, ⟨rfl, -⟩ | ⟨bufferId, error, host, -, hhost, rfl⟩ | ⟨-, rfl⟩ |
    ⟨bufferId, timestamp, bytesUsed, isLast, host, v, -, hhost, rfl, rfl⟩⟩ :=
    processEvents_cases h
  · cases dir <;> exact .same
  · cases dir with
    | output =>
        have hview : (s.views .output)[bufferId.toNat]? = some host.v4l2Buffer := by
          simp [DecoderSession.views, hhost]
        rw [DecoderSession.views, DecoderSession.views, List.map_set]
        exact .set _ _ _ hview (done_queue _ _) (done_index _ _) (done_memOffset _ _)
          (.inl (done_isQueued _ _))
    | capture => exact .same
  · cases dir <;> exact .same
  · cases dir with
    | output => exact .same
    | capture =>
        have hview : (s.views .capture)[bufferId.toNat]? = some host.v4l2Buffer := by
          simp [DecoderSession.views, hhost]
        rw [DecoderSession.views, DecoderSession.views, List.map_set]
        exact .set _ _ _ hview rfl rfl rfl (.inl (complete_isQueued _ _ _ _ _))

theorem call_views {c : DecoderCall} {p : VideoDecoder × DecoderSession β S}
    (h : VideoDecoder.call B checks d s c = .ok p) (dir : QueueDirection) :
    ViewsStep c dir (s.views dir) (p.2.views dir) := by
  cases c with
  | reqbufs queue memory count =>
      obtain ⟨c, hcalled, rfl⟩ := map_eq_ok.mp h
      exact reqbufs_views hcalled dir
  | qbuf buffer =>
      obtain ⟨c, hcalled, rfl⟩ := map_eq_ok.mp h
      exact qbuf_views hcalled dir
  | streamon queue =>
      obtain ⟨c, hcalled, rfl⟩ := map_eq_ok.mp h
      rcases streamon_cases hcalled with rfl | ⟨state, r, -, hr, rfl⟩
      · exact .same
      · refine .of_eq ((trySendPendingOutputBuffers_views hr dir).trans ?_)
        cases dir <;> rfl
  | streamoff queue =>
      cases h
      exact streamoff_views queue dir
  | decoderCmd cmd =>
      obtain ⟨c, hcalled, rfl⟩ := map_eq_ok.mp h
      refine .of_eq ?_
      rcases decoderCmd_cases hcalled with ⟨-, hsame⟩ | ⟨-, -, rfl⟩ | ⟨-, s', r, hs', hr, rfl⟩ |
        ⟨-, -, rfl⟩ | ⟨-, -, rfl⟩
      · exact congrArg (·.views dir) hsame
      · cases dir <;> rfl
      · refine (trySendPendingOutputBuffers_views hr dir).trans ?_
        rcases hs' with ⟨-, rfl⟩ | ⟨i, o, -, -, rfl⟩
        · cases dir <;> rfl
        · rfl
      · cases dir <;> rfl
      · cases dir <;> rfl
  | subscribeEvent event =>
      cases h
      refine .of_eq ?_
      unfold VideoDecoder.subscribeEvent
      split <;> cases dir <;> rfl
  | unsubscribeEvent event =>
      cases h
      refine .of_eq ?_
      unfold VideoDecoder.unsubscribeEvent
      split <;> cases dir <;> rfl
  | mmap flags offset answer =>
      obtain ⟨c, hcalled, rfl⟩ := map_eq_ok.mp h
      rcases doMmap_cases hcalled with rfl | ⟨buffer, fd, rw, -, -, rfl⟩
      · exact .same
      · exact .same
  | processEvents =>
      obtain ⟨c, hcalled, rfl⟩ := map_eq_ok.mp h
      exact processEvents_views hcalled dir

/-- A call other than REQBUFS leaves the buffers at their offsets. -/
theorem ViewsStep.offsets {c : DecoderCall} {dir : QueueDirection}
    {vs vs' : List DecoderV4l2Buffer} (h : ViewsStep c dir vs vs') (hc : c.isReqbufs = false) :
    vs'.map (·.plane.memOffset) = vs.map (·.plane.memOffset) := by
  cases h with
  | same => rfl
  | take n hreqbufs => exact absurd hreqbufs (by simp [hc])
  | append news hreqbufs hnews => exact absurd hreqbufs (by simp [hc])
  | clear =>
      rw [List.map_map]
      rfl
  | set n v w hv hqueue hindex hoffset hqueued => exact map_set_same hv hoffset

/-- No buffer gets queued but the one that QBUF is for. -/
theorem ViewsStep.queued {c : DecoderCall} {dir : QueueDirection}
    {vs vs' : List DecoderV4l2Buffer} (h : ViewsStep c dir vs vs') :
    NoneQueued vs vs' ∨ ∃ buffer v, c = .qbuf buffer ∧ buffer.queue.direction = dir ∧
      vs' = vs.set buffer.index.toNat v := by
  cases h with
  | same => exact .inl (.refl vs)
  | take n hc => exact .inl (.take vs n)
  | append news hc hnews => exact .inl (.append vs fun j v hv => (hnews j v hv).2.2)
  | clear => exact .inl (.clear vs)
  | set n v w hv hqueue hindex hoffset hqueued =>
      rcases hqueued with hqueued | ⟨buffer, hc, hdir, rfl⟩
      · exact .inl (.set vs n hqueued)
      · exact .inr ⟨buffer, w, hc, hdir, rfl⟩

/-- A call that is not QBUF of a buffer does not set its flag. -/
theorem call_queued {c : DecoderCall} {p : VideoDecoder × DecoderSession β S}
    (h : VideoDecoder.call B checks d s c = .ok p) {dir : QueueDirection} {n : Nat}
    (hother : ∀ buffer, c = .qbuf buffer → buffer.queue.direction = dir → buffer.index.toNat ≠ n)
    {v : DecoderV4l2Buffer} (hv : (p.2.views dir)[n]? = some v) (hqueued : v.isQueued = true) :
    ∃ w : DecoderV4l2Buffer, (s.views dir)[n]? = some w ∧ w.isQueued = true := by
  rcases (call_views h dir).queued with hnone | ⟨buffer, w, hc, hdir, hset⟩
  · exact hnone n v hv hqueued
  · rw [hset, List.getElem?_set_ne (hother buffer hc hdir)] at hv
    exact ⟨v, hv, hqueued⟩

/-- A STREAMOFF that succeeds clears the flags of the queue. -/
theorem streamoff_clears {queue : QueueType} (hok : (d.streamoff B s queue).result = .ok ())
    {n : Nat} {v : DecoderV4l2Buffer}
    (hv : ((d.streamoff B s queue).session.views queue.direction)[n]? = some v) :
    v.isQueued = false := by
  have hcleared {bufs : List (DecoderBuffer S)}
      (h : ((clearQueued bufs).map (·.v4l2Buffer))[n]? = some v) : v.isQueued = false := by
    rw [views_clearQueued, List.getElem?_map] at h
    obtain ⟨w, -, rfl⟩ := Option.map_eq_some_iff.mp h
    exact clearFlags_isQueued w
  unfold VideoDecoder.streamoff at hok hv
  split at hok
  · rename_i hdir
    rw [hdir] at hv
    exact hcleared hv
  · rename_i hdir
    rw [hdir] at hv
    split at hok
    · cases hok
    · rename_i b hclear
      rw [hclear] at hv
      exact hcleared hv

/-! ### The device -/

/-- The buffer is queued. -/
def Decoder.Queued (s : Decoder β S) (sessionId : UInt32) (dir : QueueDirection)
    (index : UInt32) : Prop :=
  ∃ session v, s.sessions sessionId = some session ∧
    (session.views dir)[index.toNat]? = some v ∧ v.isQueued = true

/-- The action is QBUF of the buffer. -/
def DecoderAction.Queues (sessionId : UInt32) (dir : QueueDirection) (index : UInt32) :
    DecoderAction β → Prop
  | .call i (.qbuf buffer) =>
    i = sessionId ∧ buffer.queue.direction = dir ∧ buffer.index = index
  | _ => False

theorem DecoderAction.queues_map {α : Type} (f : α → β) (a : DecoderAction α) (sessionId : UInt32)
    (dir : QueueDirection) (index : UInt32) :
    (a.map f).Queues sessionId dir index ↔ a.Queues sessionId dir index := by
  cases a with
  | call i c => cases c <;> rfl
  | openSession i answer => rfl
  | closeSession i => rfl
  | munmap guestAddr => rfl

/-- A buffer that is queued was queued before, or it is queued now. -/
theorem Decoder.queued_next {s s' : Decoder β S} {a : DecoderAction β}
    (h : s.next B checks a = some s') {sessionId : UInt32} {dir : QueueDirection}
    {index : UInt32} (hqueued : s'.Queued sessionId dir index) :
    s.Queued sessionId dir index ∨ a.Queues sessionId dir index := by
  obtain ⟨session', v, hsession', hv, hflag⟩ := hqueued
  -- a session that the action does not touch
  have hsame (hsessions : s'.sessions sessionId = s.sessions sessionId) :
      s.Queued sessionId dir index ∨ a.Queues sessionId dir index :=
    .inl ⟨session', v, hsessions.symm.trans hsession', hv, hflag⟩
  rcases Decoder.next_cases h with rfl | ⟨guestAddr, -, rfl⟩ | ⟨i, b, -, -, rfl⟩ |
    ⟨i, session, -, -, rfl⟩ | ⟨i, c, session, p, rfl, hsession, hp, rfl⟩
  · exact hsame rfl
  · exact hsame rfl
  · by_cases heq : sessionId = i
    · simp only [Decoder.setSession, heq, if_true, Option.some.injEq] at hsession'
      subst hsession'
      cases dir <;> cases hv
    · exact hsame (by simp [Decoder.setSession, heq])
  · by_cases heq : sessionId = i
    · simp [Decoder.setSession, heq] at hsession'
    · exact hsame (by simp [Decoder.setSession, heq])
  · by_cases heq : sessionId = i
    · subst heq
      simp only [Decoder.setSession, if_true, Option.some.injEq] at hsession'
      subst hsession'
      refine or_iff_not_imp_right.mpr fun hother => ?_
      have hfree : ∀ buffer, c = .qbuf buffer → buffer.queue.direction = dir →
          buffer.index.toNat ≠ index.toNat := by
        intro buffer hc hdir hindex
        subst hc
        exact hother ⟨rfl, hdir, toNat_injective hindex⟩
      obtain ⟨w, hw, hflag'⟩ := call_queued hp hfree hv hflag
      exact ⟨session, w, hsession, hw, hflag'⟩
    · exact hsame (by simp [Decoder.setSession, heq])

/-- The events that were sent between two states. -/
def Decoder.sentSince (s s' : Decoder β S) : List DecoderEvent :=
  s'.device.sent.take (s'.device.sent.length - s.device.sent.length)

theorem Decoder.sentSince_of_append {s s' : Decoder β S} {news : List DecoderEvent}
    (h : s'.device.sent = news ++ s.device.sent) : s.sentSince s' = news := by
  rw [Decoder.sentSince, h, List.length_append, Nat.add_sub_cancel, List.take_left]

end VirtioMedia.Device
