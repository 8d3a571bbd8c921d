import RemotePlay.Common.Types

set_option autoImplicit false

/-! # The video encoder (`encoding/VideoEncoder.cpp`)

Captured frames of any size are fitted into the target size. The scaler is made for the first frame
and kept as long as the fitted size is the same; the buffer it scales into only grows. What FFmpeg
returns is part of a call, and two functions of it are parameters (`Libav`). An `int` is an `Int`, and
what is cut to 32 bits says so. Pixels, times, error texts and encoder options are left out. -/

namespace RemotePlay.Media

/-- `VideoEncoderParams`. -/
structure VideoEncoderParams where
  codec : VideoCodec := .H264
  width : Int := 1920
  height : Int := 1080
  fps : Int := 60
  bitrateKbps : Int := 8000
  gop : Int := 120
  preferredEncoder : Bytes := []
deriving DecidableEq, Repr

structure EncodedPacket where
  data : Bytes
  ptsUs : UInt64
  keyframe : Bool
deriving DecidableEq, Repr

/-- An `AVPacket`. -/
structure RawPacket where
  data : Bytes
  dts : Int
  keyframe : Bool
deriving DecidableEq, Repr

/-- What FFmpeg says about images in YUV420P. -/
structure Libav where
  /-- `av_frame_get_buffer` takes a frame of this size. -/
  allocates : Int → Int → Bool
  /-- `av_image_get_buffer_size` with an alignment of one byte; an error is negative. -/
  bufferSize : Int → Int → Int

/-- The tight size of an image: a luma plane and two chroma planes of half its sides. -/
def yuv420Size (w h : Int) : Int := w * h + 2 * ((w + 1) / 2 * ((h + 1) / 2))

/-- What is relied on: an image that fits into a frame has the size it says. -/
structure Libav.Sound (lib : Libav) : Prop where
  positive : ∀ tw th, lib.allocates tw th = true → 0 < tw ∧ 0 < th
  bufferSize : ∀ tw th w h, lib.allocates tw th = true → 0 < w → w ≤ tw → 0 < h → h ≤ th →
    lib.bufferSize w h = yuv420Size w h

/-! ## Letterbox -/

/-- `static_cast<int>`. -/
def toInt (n : Int) : Int := Int.bmod n (2 ^ 32)

/-- `n & ~1`. -/
def even (n : Int) : Int := n - n % 2

/-- Where the source goes in the target. -/
structure Fit where
  fitW : Int
  fitH : Int
  offX : Int
  offY : Int
deriving DecidableEq, Repr

/-- The sizes made even, and centred. -/
def centred (tw th fitW fitH : Int) : Fit :=
  { fitW := even fitW
    fitH := even fitH
    offX := even ((tw - even fitW).tdiv 2)
    offY := even ((th - even fitH).tdiv 2) }

/-- `if (n > limit) n = limit; if (n < 1) n = 1;` -/
def clampFit (n limit : Int) : Int :=
  let n := if limit < n then limit else n
  if n < 1 then 1 else n

/-- The letterbox geometry, or `none` for a division by zero. -/
def letterbox (tw th srcW srcH : Int) : Option Fit :=
  if srcH * tw ≤ srcW * th then
    if srcW = 0 then none
    else some (centred tw th tw (clampFit (toInt ((tw * srcH + srcW - 1).tdiv srcW)) th))
  else
    if srcH = 0 then none
    else some (centred tw th (clampFit (toInt ((th * srcW + srcH - 1).tdiv srcH)) tw) th)

/-! ## The encoder -/

/-- An `SwsContext`, by what it was made for. -/
structure SwsContext where
  srcW : Int
  srcH : Int
  dstW : Int
  dstH : Int
deriving DecidableEq, Repr

/-- The encoder; `opened` is `ctx_` with `frame_` and `packet_`, and `scaleBuffer` holds the size of the
    buffer. -/
structure VideoEncoder where
  params : VideoEncoderParams := {}
  opened : Bool := false
  encoderName : Bytes := []
  sws : Option SwsContext := none
  scaleBuffer : Option Int := none
  scaleBufSize : Int := 0
  lastFitW : Int := 0
  lastFitH : Int := 0
  bitrateDirty : Bool := false
  frameCounter : Int := 0
  keyframeRequested : Bool := true
  framesEncoded : UInt32 := 0
  bytesEncoded : UInt64 := 0
deriving DecidableEq, Repr

/-- How far `openEncoder` gets with a candidate. -/
inductive OpenEnd where
  | notFound
  | noContext
  | notOpened
  | noFrame
  | noPacket
  | opened
deriving DecidableEq, Repr

/-- What FFmpeg makes of a call of `encode`, as far as the call gets. -/
structure EncodeLibrary where
  malloc : Bool := true
  context : Bool := true
  writable : Bool := true
  sent : Bool := true
  packets : List RawPacket := []
  /-- The packets end without an error. -/
  received : Bool := true
deriving DecidableEq, Repr

/-- A call of `sws_scale`, with the sizes that it is about and the size of the buffer it writes. -/
structure ScaleCall where
  context : SwsContext
  srcW : Int
  srcH : Int
  fitW : Int
  fitH : Int
  buffer : Int
deriving DecidableEq, Repr

/-- The frame that `avcodec_send_frame` gets. -/
structure SentFrame where
  pts : Int
  keyframe : Bool
deriving DecidableEq, Repr

/-- How a call of `encode` ends; `ok` is `none` if the process does. -/
structure EncodeEnd where
  encoder : VideoEncoder
  scaled : Option ScaleCall := none
  sentFrame : Option SentFrame := none
  out : List EncodedPacket := []
  ok : Option Bool
deriving DecidableEq, Repr

/-- `encoderCandidates`. -/
def encoderCandidates (codec : VideoCodec) : List Bytes :=
  if codec = .Hevc then [ascii "hevc_nvenc", ascii "hevc_amf", ascii "hevc_qsv", ascii "libx265"]
  else if codec = .Av1 then [ascii "av1_nvenc", ascii "av1_amf", ascii "av1_qsv", ascii "libsvtav1"]
  else [ascii "h264_nvenc", ascii "h264_amf", ascii "h264_qsv", ascii "libx264"]

namespace VideoEncoder

/-- `VideoEncoder::close`. -/
def close (s : VideoEncoder) : VideoEncoder :=
  { s with
    sws := none
    scaleBuffer := none
    scaleBufSize := if s.scaleBuffer.isSome then 0 else s.scaleBufSize
    opened := false }

/-- `openEncoder`; when it fails, nothing of the encoder is left. -/
def openEncoder (lib : Libav) (p : VideoEncoderParams) (e : OpenEnd) : Bool :=
  match e with
  | .opened => lib.allocates p.width p.height
  | .notFound | .noContext | .notOpened | .noFrame | .noPacket => false

/-- The candidates of `init`. -/
def candidates (p : VideoEncoderParams) : List Bytes :=
  (if p.preferredEncoder.isEmpty then [] else [p.preferredEncoder]) ++
    (encoderCandidates p.codec).filter (fun c => c != p.preferredEncoder)

/-- `VideoEncoder::init`, with what comes of the candidate of each name. -/
def init (lib : Libav) (s : VideoEncoder) (p : VideoEncoderParams) (opens : Bytes → OpenEnd) :
    VideoEncoder × Bool :=
  let s := { s.close with
    params := p
    frameCounter := 0
    keyframeRequested := true
    framesEncoded := 0
    bytesEncoded := 0 }
  match (candidates p).find? (fun name => openEncoder lib p (opens name)) with
  | some name => ({ s with opened := true, encoderName := name }, true)
  | none => (s, false)

/-- The scaler and its buffer in `encode`; the result is `false` if there is no scaler. -/
def refit (lib : Libav) (s : VideoEncoder) (srcW srcH : Int) (fit : Fit) (o : EncodeLibrary) :
    VideoEncoder × Bool :=
  if s.sws.isNone ∨ s.lastFitW ≠ fit.fitW ∨ s.lastFitH ≠ fit.fitH then
    let yuvSize := lib.bufferSize fit.fitW fit.fitH
    let s :=
      if s.scaleBufSize < yuvSize then
        { s with scaleBuffer := if o.malloc then some yuvSize else none, scaleBufSize := yuvSize }
      else s
    if o.context then
      ({ s with
          sws := some { srcW := srcW, srcH := srcH, dstW := fit.fitW, dstH := fit.fitH }
          lastFitW := fit.fitW
          lastFitH := fit.fitH }, true)
    else ({ s with sws := none }, false)
  else (s, true)

/-- The call of `sws_scale`, if there is a buffer. -/
def scaleCall (s : VideoEncoder) (srcW srcH : Int) (fit : Fit) : Option ScaleCall :=
  match s.sws, s.scaleBuffer with
  | some context, some buffer =>
      some { context, srcW, srcH, fitW := fit.fitW, fitH := fit.fitH, buffer }
  | _, _ => none

/-- A packet of `encode`. -/
def encodedPacket (s : VideoEncoder) (p : RawPacket) : EncodedPacket where
  data := p.data
  ptsUs :=
    UInt64.ofInt (if 0 ≤ p.dts then p.dts else s.frameCounter) * 1000000 / UInt64.ofInt s.params.fps
  keyframe := p.keyframe

/-- The end of `encode`, from `av_frame_make_writable` on. -/
def submit (s : VideoEncoder) (call : ScaleCall) (o : EncodeLibrary) : EncodeEnd :=
  if !o.writable then { encoder := s, scaled := some call, ok := some false }
  else
    let frame := { pts := s.frameCounter, keyframe := s.keyframeRequested }
    let s := { s with frameCounter := s.frameCounter + 1, keyframeRequested := false }
    if !o.sent then { encoder := s, scaled := some call, sentFrame := some frame, ok := some false }
    else
      { encoder :=
          { s with
            framesEncoded := s.framesEncoded + UInt32.ofNat o.packets.length
            bytesEncoded :=
              s.bytesEncoded + UInt64.ofNat (o.packets.map (fun p => p.data.length)).sum }
        scaled := some call
        sentFrame := some frame
        out := o.packets.map s.encodedPacket
        ok := some o.received }

/-- `VideoEncoder::encode`. -/
def encode (lib : Libav) (s : VideoEncoder) (srcW srcH : Int) (o : EncodeLibrary) : EncodeEnd :=
  if !s.opened then { encoder := s, ok := some false }
  else
    match letterbox s.params.width s.params.height srcW srcH with
    | none => { encoder := s, ok := none }
    | some fit =>
        match s.refit lib srcW srcH fit o with
        | (s, false) => { encoder := s, ok := some false }
        | (s, true) =>
            match s.scaleCall srcW srcH fit with
            | none => { encoder := s, ok := some false }
            | some call => s.submit call o

/-- `requestKeyframe`. -/
def requestKeyframe (s : VideoEncoder) : VideoEncoder := { s with keyframeRequested := true }

/-- `setBitrate`. -/
def setBitrate (s : VideoEncoder) (kbps : Int) : VideoEncoder :=
  let kbps := max 2000 (min kbps 50000)
  if kbps = s.params.bitrateKbps then s
  else { s with params := { s.params with bitrateKbps := kbps }, bitrateDirty := true }

/-- `applyBitrateIfDirty`. -/
def applyBitrateIfDirty (lib : Libav) (s : VideoEncoder) (opens : Bytes → OpenEnd) :
    VideoEncoder × Bool :=
  if !s.bitrateDirty || !s.opened then (s, false)
  else
    match s.init lib s.params opens with
    | (s, true) => ({ s with bitrateDirty := false }, true)
    | (s, false) => (s, false)

end VideoEncoder

end RemotePlay.Media
