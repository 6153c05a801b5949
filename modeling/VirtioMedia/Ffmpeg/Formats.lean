import VirtioMedia.Device.Formats
import VirtioMedia.Ffmpeg.Steps
import VirtioMedia.Lib.SortedList

/-!
# The formats of the ffmpeg decoder

The codecs that `FfmpegDecoder::new` keeps, the formats of a session and the
format methods of the backend in `extras/ffmpeg-decoder/src/lib.rs`. A session
has the codec of its input format, which is opened when the first buffer is
decoded.

`adjust_format` accepts every format that the decoder knows, `apply_format` only
those for which there is a codec.
-/

namespace VirtioMedia.Ffmpeg

open V4l2 Device Fallible

/-! ### Formats -/

/-- `PixelFormat::from_fourcc`. -/
def fourcc (a b c d : Char) : UInt32 := a.val ||| b.val <<< 8 ||| c.val <<< 16 ||| d.val <<< 24

/-- `OutputFormat`. -/
inductive OutputFormat where
  | h264
  | vp8
  | vp9
  | hevc
  deriving DecidableEq, Repr

def OutputFormat.code : OutputFormat → UInt32
  | .h264 => fourcc 'H' '2' '6' '4'
  | .vp8 => fourcc 'V' 'P' '8' '0'
  | .vp9 => fourcc 'V' 'P' '9' '0'
  | .hevc => fourcc 'H' 'E' 'V' 'C'

/-- `CaptureFormat`. -/
inductive CaptureFormat where
  | nv12
  deriving DecidableEq, Repr

def CaptureFormat.code : CaptureFormat → UInt32
  | .nv12 => fourcc 'N' 'V' '1' '2'

/-- `OutputFormat::n`. -/
def OutputFormat.n (x : UInt32) : Option OutputFormat :=
  [OutputFormat.h264, .vp8, .vp9, .hevc].find? (·.code == x)

/-- `CaptureFormat::n`. -/
def CaptureFormat.n (x : UInt32) : Option CaptureFormat :=
  [CaptureFormat.nv12].find? (·.code == x)

@[simp] theorem OutputFormat.n_code (f : OutputFormat) : OutputFormat.n f.code = some f := by
  cases f <;> decide

@[simp] theorem CaptureFormat.n_code (f : CaptureFormat) : CaptureFormat.n f.code = some f := by
  cases f
  decide

theorem OutputFormat.code_inj {f g : OutputFormat} : f.code = g.code ↔ f = g := by
  constructor
  · intro h
    have hn := OutputFormat.n_code f
    rw [h, OutputFormat.n_code] at hn
    exact (Option.some.inj hn).symm
  · exact congrArg OutputFormat.code

/-- `format_filler`, with the fields that both kinds of formats set. -/
def formatFiller (codedSize : UInt32 × UInt32) (pixelformat : UInt32) (plane : PlanePixFormat) :
    PixFormatMplane where
  width := codedSize.1
  height := codedSize.2
  pixelformat
  field := fieldNone
  colorspace := 0
  planeFmt := (Vector.replicate 8 ⟨0, 0⟩).set 0 plane
  numPlanes := 1
  flags := 0
  ycbcrEnc := 0
  quantization := 0
  xferFunc := 0

/-- `OutputFormat::into_v4l2_pix_format`. -/
def OutputFormat.intoV4l2PixFormat (f : OutputFormat) (codedSize : UInt32 × UInt32) :
    PixFormatMplane :=
  formatFiller codedSize f.code ⟨1024 * 1024, 0⟩

/-- `CaptureFormat::into_v4l2_pix_format`. -/
def CaptureFormat.intoV4l2PixFormat {κ : Type} (W : World κ) (f : CaptureFormat)
    (codedSize : UInt32 × UInt32) : PixFormatMplane :=
  let avFormat := match f with
    | .nv12 => W.nv12
  let lineSize : UInt32 := .ofNat (W.lineSize avFormat codedSize.1 0)
  formatFiller codedSize f.code
    ⟨.ofNat (W.planeSizes avFormat [lineSize, lineSize] codedSize.2).sum, lineSize⟩

/-! ### The decoder -/

/-- `AvCodec`, with what the decoder asks of it. -/
structure AvCodec where
  id : Nat
  name : String
  isDecoder : Bool
  /-- `AV_CODEC_CAP_DR1`. -/
  dr1 : Bool
  deriving DecidableEq, Repr

/-- The format for which a codec is kept. -/
def AvCodec.outputFormat? (c : AvCodec) : Option OutputFormat :=
  if !c.isDecoder then none
  else
    let format := match c.name with
      | "h264" => some OutputFormat.h264
      | "hevc" => some .hevc
      | "vp8" => some .vp8
      | "vp9" => some .vp9
      | _ => none
    if c.dr1 then format else none

/-- `FfmpegDecoder`. -/
structure FfmpegDecoderBackend where
  codecs : SortedMap fun c : OutputFormat × AvCodec => c.1.code.toNat

namespace FfmpegDecoderBackend

/-- `FfmpegDecoder::new`, for the codecs that libavcodec lists. -/
def new (found : List AvCodec) : FfmpegDecoderBackend :=
  ⟨(found.filterMap fun c => c.outputFormat?.map (·, c)).foldl SortedMap.insert .empty⟩

/-- `self.codecs.get`. -/
def codec? (d : FfmpegDecoderBackend) (f : OutputFormat) : Option AvCodec :=
  (d.codecs.get? f.code.toNat).map Prod.snd

/-- There is a codec for a format exactly if one was found. -/
theorem codec?_new_eq_none_iff {found : List AvCodec} {f : OutputFormat} :
    (new found).codec? f = none ↔ ∀ c ∈ found, c.outputFormat? ≠ some f := by
  have hkey (c : AvCodec) (g : OutputFormat) : g.code.toNat = f.code.toNat ↔ g = f := by
    rw [UInt32.toNat_inj, OutputFormat.code_inj]
  have hkept : (∃ e ∈ found.filterMap fun c => c.outputFormat?.map (·, c),
      e.1.code.toNat = f.code.toNat) ↔ ∃ c ∈ found, c.outputFormat? = some f := by
    simp only [List.mem_filterMap, Option.map_eq_some_iff]
    constructor
    · rintro ⟨e, ⟨c, hc, g, hg, rfl⟩, he⟩
      obtain rfl := (hkey c g).mp he
      exact ⟨c, hc, hg⟩
    · rintro ⟨c, hc, hf⟩
      exact ⟨(f, c), ⟨c, hc, f, hf, rfl⟩, rfl⟩
  rw [codec?, Option.map_eq_none_iff, SortedMap.get?_eq_none_iff, new,
    SortedMap.exists_key_foldl_insert, hkept]
  simp [SortedMap.empty]

end FfmpegDecoderBackend

/-- `FfmpegDecoderSession` with its formats. -/
structure FormattedSession (κ : Type) where
  inputFormat : OutputFormat × AvCodec
  outputFormat : CaptureFormat
  session : Option (Session κ)

section Backend

variable {κ : Type} (W : World κ) (build : AvCodec → κ → Bool × κ)

/-- `new_session`, for what the creation of the event queue answers. -/
def FfmpegDecoderBackend.newSession (d : FfmpegDecoderBackend) (answer : Except Int κ) :
    Except Int (FormattedSession κ) :=
  match d.codecs.entries with
  | [] => .error enodev
  | c :: _ => answer.map fun k => ⟨c, .nv12, some (.new k)⟩

namespace FormattedSession

variable (b : FormattedSession κ)

def codedSize : UInt32 × UInt32 := b.session.elim (0, 0) (·.codedSize)

/-- `stream_params.coded_size`. -/
def streamCodedSize : UInt32 × UInt32 := b.session.elim (0, 0) (·.streamParams.codedSize)

/-- The backend on which the codec of the input format is the one to be
opened. -/
def backend : DecoderBackend (Option (Session κ)) FfmpegDecoderBuffer :=
  ffmpegBackend { W with buildDecoder := build b.inputFormat.2 }

/-- The session with another state of the decoder. -/
def withSession (session : Option (Session κ)) : FormattedSession κ := { b with session }

end FormattedSession

/-- The ffmpeg backend, with the formats of its sessions. -/
def formattedBackend : DecoderBackend (FormattedSession κ) FfmpegDecoderBuffer where
  new b queue index size :=
    let r := (b.backend W build).new b.session queue index size
    (r.1, b.withSession r.2)
  fdForPlane := (ffmpegBackend W).fdForPlane
  decode b input index timestamp bytesUsed :=
    let r := (b.backend W build).decode b.session input index timestamp bytesUsed
    (r.1, b.withSession r.2)
  useAsOutput b index backing :=
    let r := (b.backend W build).useAsOutput b.session index backing
    (r.1, r.2.1, b.withSession r.2.2)
  drain b :=
    let r := (b.backend W build).drain b.session
    (r.1, b.withSession r.2)
  clearOutputBuffers b :=
    let r := (b.backend W build).clearOutputBuffers b.session
    (r.1, b.withSession r.2)
  nextEvent b :=
    let r := (b.backend W build).nextEvent b.session
    (r.1, b.withSession r.2)
  sizeimages b := (b.backend W build).sizeimages b.session
  visibleRect b := (b.backend W build).visibleRect b.session
  buffersAllocated b direction count :=
    b.withSession ((b.backend W build).buffersAllocated b.session direction count)
  streamingState b direction streaming :=
    b.withSession ((b.backend W build).streamingState b.session direction streaming)

/-- `current_format`, `adjust_format` and `apply_format`. -/
def FfmpegDecoderBackend.formats (d : FfmpegDecoderBackend) :
    FormatBackend (FormattedSession κ) where
  currentFormat b
    | .output => b.inputFormat.1.intoV4l2PixFormat b.streamCodedSize
    | .capture => b.outputFormat.intoV4l2PixFormat W b.codedSize
  adjustFormat b direction pixMp :=
    match direction with
    | .output => ((OutputFormat.n pixMp.pixelformat).getD b.inputFormat.1).intoV4l2PixFormat
        b.streamCodedSize
    | .capture => ((CaptureFormat.n pixMp.pixelformat).getD b.outputFormat).intoV4l2PixFormat W
        b.codedSize
  applyFormat b direction pixMp :=
    match direction with
    | .output =>
      match OutputFormat.n pixMp.pixelformat with
      | none => b
      | some f =>
        match d.codec? f with
        | none => b
        | some c => { b with inputFormat := (f, c) }
    | .capture =>
      match CaptureFormat.n pixMp.pixelformat with
      | none => b
      | some f => { b with outputFormat := f }

/-- The device over the ffmpeg backend after an action. -/
def formatNext {E : FormatEnums} (d : FfmpegDecoderBackend) (checks : Bool)
    (s : FormatDecoder E (FormattedSession κ) FfmpegDecoderBuffer) (a : FormatAction κ) :
    Option (FormatDecoder E (FormattedSession κ) FfmpegDecoderBuffer) :=
  s.step (formattedBackend W build) (d.formats W) (·.streamCodedSize) checks (a.map d.newSession)

/-! ### The codec of the input format -/

variable {W build}

section Calls

variable {d : FfmpegDecoderBackend} {b : FormattedSession κ} {p : PixFormatMplane}
  {f : OutputFormat}

theorem adjustFormat_output (hn : OutputFormat.n p.pixelformat = some f) :
    (d.formats W).adjustFormat b .output p = f.intoV4l2PixFormat b.streamCodedSize := by
  simp only [FfmpegDecoderBackend.formats, hn, Option.getD_some]

theorem applyFormat_output {c : AvCodec} (hn : OutputFormat.n p.pixelformat = some f)
    (hc : d.codec? f = some c) :
    (d.formats W).applyFormat b .output p = { b with inputFormat := (f, c) } := by
  simp only [FfmpegDecoderBackend.formats, hn, hc]

theorem applyFormat_output_of_none (hn : OutputFormat.n p.pixelformat = some f)
    (hc : d.codec? f = none) : (d.formats W).applyFormat b .output p = b := by
  simp only [FfmpegDecoderBackend.formats, hn, hc]

theorem applyFormat_output_unknown (hn : OutputFormat.n p.pixelformat = none) :
    (d.formats W).applyFormat b .output p = b := by
  simp only [FfmpegDecoderBackend.formats, hn]

variable {g : CaptureFormat}

theorem adjustFormat_capture (hn : CaptureFormat.n p.pixelformat = some g) :
    (d.formats W).adjustFormat b .capture p = g.intoV4l2PixFormat W b.codedSize := by
  simp only [FfmpegDecoderBackend.formats, hn, Option.getD_some]

theorem applyFormat_capture (hn : CaptureFormat.n p.pixelformat = some g) :
    (d.formats W).applyFormat b .capture p = { b with outputFormat := g } := by
  simp only [FfmpegDecoderBackend.formats, hn]

theorem applyFormat_capture_unknown (hn : CaptureFormat.n p.pixelformat = none) :
    (d.formats W).applyFormat b .capture p = b := by
  simp only [FfmpegDecoderBackend.formats, hn]

end Calls

/-- There is a codec for the input format. -/
def FormattedSession.HasCodec (d : FfmpegDecoderBackend) (b : FormattedSession κ) : Prop :=
  d.codec? b.inputFormat.1 ≠ none

/-- No method of the session changes its formats. -/
theorem formattedBackend_keeps (d : FfmpegDecoderBackend) :
    (formattedBackend W build).Keeps (·.HasCodec d) where
  new _ _ _ _ h := h
  decode _ _ _ _ _ h := h
  useAsOutput _ _ _ h := h
  drain _ h := h
  clearOutputBuffers _ h := h
  nextEvent _ h := h
  buffersAllocated _ _ _ h := h
  streamingState _ _ _ h := h

theorem applyFormat_hasCodec {d : FfmpegDecoderBackend} {b : FormattedSession κ} (hb : b.HasCodec d)
    (direction : QueueDirection) (pixMp : PixFormatMplane) :
    ((d.formats W).applyFormat b direction pixMp).HasCodec d := by
  cases direction with
  | output =>
      cases hn : OutputFormat.n pixMp.pixelformat with
      | none => rwa [applyFormat_output_unknown hn]
      | some f =>
          cases hc : d.codec? f with
          | none => rwa [applyFormat_output_of_none hn hc]
          | some c =>
              rw [applyFormat_output hn hc]
              exact ne_of_eq_of_ne hc (Option.some_ne_none c)
  | capture =>
      cases hn : CaptureFormat.n pixMp.pixelformat with
      | none => rwa [applyFormat_capture_unknown hn]
      | some f => rwa [applyFormat_capture hn]

/-- A new session has the first of the codecs. -/
theorem newSession_hasCodec {d : FfmpegDecoderBackend} {answer : Except Int κ}
    {b : FormattedSession κ} (h : d.newSession answer = .ok b) : b.HasCodec d := by
  unfold FfmpegDecoderBackend.newSession at h
  split at h
  · cases h
  · next c rest hentries =>
      obtain ⟨k, -, rfl⟩ := map_eq_ok.mp h
      have hfirst : d.codecs.get? c.1.code.toNat = some c :=
        SortedMap.get?_eq_some_iff.mpr ⟨hentries ▸ List.mem_cons_self, rfl⟩
      have hcodec : d.codec? c.1 = some c.2 := by
        rw [FfmpegDecoderBackend.codec?, hfirst]
        rfl
      exact ne_of_eq_of_ne hcodec (Option.some_ne_none c.2)

/-- In every reachable session there is a codec for the input format. -/
theorem reachable_hasCodec {E : FormatEnums} {d : FfmpegDecoderBackend} {checks : Bool}
    {actions : List (FormatAction κ)}
    {s : FormatDecoder E (FormattedSession κ) FfmpegDecoderBuffer}
    (h : Trace.run (formatNext W build d checks) .init actions = some s) :
    s.All (·.HasCodec d) := by
  refine Trace.run_invariant (fun s a s' hs hstep => ?_) (fun i session hi => by cases hi) h
  refine hs.step (formattedBackend_keeps d) (fun b direction pixMp hb =>
    applyFormat_hasCodec hb direction pixMp) ?_ hstep
  cases a with
  | openSession i answer =>
      simp only [FormatAction.map]
      cases hnew : d.newSession answer with
      | error e => trivial
      | ok b => exact newSession_hasCodec hnew
  | closeSession i => trivial
  | munmap guestAddr => trivial
  | call i c => trivial
  | sFmt i queue pixMp => trivial
  | tryFmt i queue pixMp => trivial
  | sSelection i selType selTarget selRect => trivial

/-! ### Agreement of the format calls -/

/-- On the CAPTURE queue every adjusted format is applied. -/
theorem formatsAgree_capture {E : FormatEnums} (d : FfmpegDecoderBackend)
    (session : FormatSession E (FormattedSession κ) FfmpegDecoderBuffer) (pixMp : PixFormatMplane) :
    session.FormatsAgree (d.formats W) .videoCaptureMplane pixMp := by
  have hn : CaptureFormat.n (session.adjusted (d.formats W) .capture pixMp).pixelformat =
      some ((CaptureFormat.n pixMp.pixelformat).getD session.backendSession.outputFormat) :=
    CaptureFormat.n_code _
  refine (FormatSession.formatsAgree_iff session rfl pixMp).mpr ⟨?_, ?_⟩
  · simp only [QueueType.direction]
    rw [applyFormat_capture hn]
    rfl
  · simp only [QueueType.direction]
    rw [adjustFormat_capture hn]
    rfl

/-- On the OUTPUT queue an adjusted format is applied if there is a codec for
it. -/
theorem formatsAgree_output_iff {E : FormatEnums} (d : FfmpegDecoderBackend)
    (session : FormatSession E (FormattedSession κ) FfmpegDecoderBuffer) (pixMp : PixFormatMplane) :
    session.FormatsAgree (d.formats W) .videoOutputMplane pixMp ↔
      d.codec? ((OutputFormat.n pixMp.pixelformat).getD session.backendSession.inputFormat.1) ≠
          none ∨
        (OutputFormat.n pixMp.pixelformat).getD session.backendSession.inputFormat.1 =
          session.backendSession.inputFormat.1 := by
  rw [FormatSession.formatsAgree_iff session rfl]
  generalize hf : (OutputFormat.n pixMp.pixelformat).getD session.backendSession.inputFormat.1 = f
  have hadjusted : session.adjusted (d.formats W) .output pixMp =
      (session.tryColorspace .output pixMp).apply
        (f.intoV4l2PixFormat session.backendSession.streamCodedSize) := by
    rw [← hf]
    rfl
  have hn : OutputFormat.n (session.adjusted (d.formats W) .output pixMp).pixelformat = some f := by
    rw [hadjusted]
    exact OutputFormat.n_code f
  have hagain : (session.tryColorspace .output pixMp).apply ((d.formats W).adjustFormat
      session.backendSession .output (session.adjusted (d.formats W) .output pixMp)) =
        session.adjusted (d.formats W) .output pixMp := by
    rw [adjustFormat_output hn, hadjusted]
  simp only [QueueType.direction, hagain, and_true]
  cases hc : d.codec? f with
  | some c =>
      refine iff_of_true ?_ (.inl (Option.some_ne_none c))
      rw [applyFormat_output hn hc, hadjusted]
      rfl
  | none =>
      -- `apply_format` returns, and the old format stays
      rw [applyFormat_output_of_none hn hc, hadjusted]
      constructor
      · intro h
        exact .inr (OutputFormat.code_inj.mp (congrArg PixFormatMplane.pixelformat h)).symm
      · rintro (hsome | hsame)
        · exact absurd rfl hsome
        · rw [hsame]
          rfl

/-- In every reachable session the format calls agree on a request, unless it
asks the OUTPUT queue for a format that is known and for which no codec was
found. -/
theorem formats_agree (E : FormatEnums) (W : World κ) (build : AvCodec → κ → Bool × κ)
    (found : List AvCodec) (checks : Bool) (actions : List (FormatAction κ))
    (s : FormatDecoder E (FormattedSession κ) FfmpegDecoderBuffer)
    (hrun : Trace.run (formatNext W build (.new found) checks) .init actions = some s) (i : UInt32)
    (session : FormatSession E (FormattedSession κ) FfmpegDecoderBuffer)
    (hi : s.sessions i = some session) (queue : QueueType) (pixMp : PixFormatMplane) :
    session.FormatsAgree ((FfmpegDecoderBackend.new found).formats W) queue pixMp ↔
      (queue = .videoOutputMplane → ∀ f, OutputFormat.n pixMp.pixelformat = some f →
        ∃ c ∈ found, c.outputFormat? = some f) := by
  have hfound (f : OutputFormat) : (FfmpegDecoderBackend.new found).codec? f ≠ none ↔
      ∃ c ∈ found, c.outputFormat? = some f := by
    rw [ne_eq, FfmpegDecoderBackend.codec?_new_eq_none_iff]
    simp
  by_cases hqueue : queue = .videoOutputMplane
  · subst hqueue
    have hinput := reachable_hasCodec hrun i session hi
    simp only [true_implies]
    rw [formatsAgree_output_iff]
    cases hn : OutputFormat.n pixMp.pixelformat with
    | none => exact iff_of_true (.inr rfl) (fun f hf => by cases hf)
    | some f =>
        simp only [Option.getD_some, Option.some.injEq, forall_eq']
        rw [hfound]
        constructor
        · rintro (hcodec | rfl)
          · exact hcodec
          · exact (hfound _).mp hinput
        · exact .inl
  · refine iff_of_true ?_ (fun h => absurd h hqueue)
    cases hq : queue.isMultiplanar with
    | false => exact session.formatsAgree_of_not_multiplanar hq pixMp
    | true =>
        obtain rfl := (QueueType.eq_of_isMultiplanar hq).resolve_left hqueue
        exact formatsAgree_capture _ session pixMp

end Backend

/-! ### A decoder with one codec -/

def h264Codec : AvCodec := ⟨27, "h264", true, true⟩

def h264Formats : FormatBackend (FormattedSession CodecState) :=
  (FfmpegDecoderBackend.new [h264Codec]).formats (codecWorld defaultFrame)

def h264Next := formatNext (E := kernelEnums) (codecWorld defaultFrame) (fun _ k => (true, k))
  (.new [h264Codec]) true

def openRun : List (FormatAction CodecState) := [.openSession 0 (.ok ⟨0, false⟩)]

theorem formats_agree_h264 :
    ∃ s session, Trace.run h264Next .init openRun = some s ∧ s.sessions 0 = some session ∧
      session.FormatsAgree h264Formats .videoOutputMplane
        (OutputFormat.h264.intoV4l2PixFormat (640, 480)) :=
  ⟨_, _, rfl, rfl, (formats_agree kernelEnums (codecWorld defaultFrame) (fun _ k => (true, k))
    [h264Codec] true openRun _ rfl 0 _ rfl .videoOutputMplane _).mpr fun _ _ hn =>
      ⟨h264Codec, List.mem_cons_self, (OutputFormat.n_code .h264).symm.trans hn⟩⟩

/-- VP8 is set, as the answer says, and the session still has H264. -/
theorem formats_agree_fails_vp8 :
    ∃ s session, Trace.run h264Next .init openRun = some s ∧ s.sessions 0 = some session ∧
      let r := session.sFmt h264Formats .videoOutputMplane
        (OutputFormat.vp8.intoV4l2PixFormat (640, 480))
      r.1.map (·.pixMp.pixelformat) = .ok OutputFormat.vp8.code ∧
      (r.2.gFmt h264Formats .videoOutputMplane).map (·.pixMp.pixelformat) =
        .ok OutputFormat.h264.code ∧
      ¬session.FormatsAgree h264Formats .videoOutputMplane
        (OutputFormat.vp8.intoV4l2PixFormat (640, 480)) := by
  refine ⟨_, _, rfl, rfl, by decide +kernel, by decide +kernel, fun h => ?_⟩
  have hget := congrArg (Except.map (·.pixMp.pixelformat)) h.get
  revert hget
  decide +kernel

end VirtioMedia.Ffmpeg
