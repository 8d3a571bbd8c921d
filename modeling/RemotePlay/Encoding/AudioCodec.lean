import RemotePlay.Lib.Bytes

set_option autoImplicit false

/-! # The audio codec (`encoding/AudioCodec.cpp`)

The encoder keeps what does not fill an Opus frame in an `AVFifo`, a bounded queue of elements whose
size it chose as one byte, and submits one `AVFrame` after the other, always the same one. What FFmpeg
returns is part of the call. Encoding times and error texts are left out. -/

namespace RemotePlay.Media

/-- `kOpusFrameSize`: 20 ms at 48 kHz. -/
def kOpusFrameSize : Nat := 960

/-! ## Encoder -/

structure AudioPacket where
  data : Bytes
  ptsUs : UInt64
deriving DecidableEq, Repr

/-- An `AVFrame` of interleaved stereo samples; `data` is `data[0]`. -/
structure AudioFrame where
  pts : Int := 0
  data : Bytes := []
deriving DecidableEq, Repr

/-- What FFmpeg makes of a frame. -/
inductive FrameEnd where
  /-- `av_frame_make_writable` fails. -/
  | notWritable
  /-- `avcodec_send_frame` fails. -/
  | notSent
  /-- The packets with their `pts`, until there are no more, or until an error. -/
  | received (packets : List (Bytes × Int)) (ok : Bool)
deriving DecidableEq, Repr

/-- The encoder; `submitted` is what `avcodec_send_frame` was given, which no code reads. -/
structure AudioEncoderOpus where
  ctx : Bool := false
  nbSamples : Nat := kOpusFrameSize
  frame : AudioFrame := {}
  fifo : Bytes := []
  nextPts : Int := 0
  packets : UInt64 := 0
  submitted : List AudioFrame := []
deriving DecidableEq, Repr

/-- How far `init` gets. -/
inductive EncoderInit where
  | noEncoder
  | noContext
  | notOpened
  | noBuffer
  /-- The encoder wants `frameSize` samples a frame, and `memory` is what there is in its buffer. -/
  | ready (frameSize : Int) (memory : Nat → UInt8)

/-- A call of `encode`: a pointer to `frameCount` stereo frames, or a null pointer. -/
structure EncodeCall where
  samples : Option Bytes
  frameCount : Nat
  covers : ∀ bytes, samples = some bytes → bytes.length = frameCount * 4

/-- The samples of a call. -/
def EncodeCall.input (c : EncodeCall) : Bytes := c.samples.getD []

namespace AudioEncoderOpus

/-- The capacity of the FIFO, in elements. -/
def fifoCapacity : Nat := kOpusFrameSize * 2 * 2 * 4

/-- `AudioEncoderOpus::init`. -/
def init : EncoderInit → AudioEncoderOpus × Bool
  | .noEncoder => ({}, false)
  | .noContext => ({}, false)
  | .notOpened => ({}, false)
  | .noBuffer => ({}, false)
  | .ready frameSize memory =>
      let nbSamples := if 0 < frameSize then frameSize.toNat else kOpusFrameSize
      ({ ctx := true
         nbSamples := nbSamples
         frame := { data := (List.range (nbSamples * 4)).map memory } }, true)

/-- `bufferedFrames`: elements over bytes per stereo frame. -/
def bufferedFrames (s : AudioEncoderOpus) : Nat := s.fifo.length / 4

/-- The `ptsUs` of a packet. -/
def ptsUs (pts : Int) : UInt64 := UInt64.ofInt pts * 1000000 / 48000

/-- One frame leaves the FIFO: as many elements as it has samples, into a buffer that keeps what it
    held behind them. -/
def fillFrame (s : AudioEncoderOpus) : AudioEncoderOpus :=
  let need := s.nbSamples * 2
  { s with
    frame := { pts := s.nextPts, data := s.fifo.take need ++ s.frame.data.drop need }
    fifo := s.fifo.drop need
    nextPts := s.nextPts + s.nbSamples }

/-- The encoder takes the frame and has this many packets ready. -/
def submitFrame (s : AudioEncoderOpus) (packets : Nat) : AudioEncoderOpus :=
  { s with
    submitted := s.submitted ++ [s.frame]
    packets := s.packets + UInt64.ofNat packets }

/-- The loop of `encode`, at the frame number `i` of the call; every frame takes at least one element,
    so the length of the FIFO is enough fuel. -/
def sendFrames (library : Nat → FrameEnd) :
    (fuel i : Nat) → AudioEncoderOpus → List AudioPacket → AudioEncoderOpus × List AudioPacket × Bool
  | 0, _, s, out => (s, out, true)
  | fuel + 1, i, s, out =>
      if s.fifo.length < s.nbSamples * 2 then (s, out, true)
      else
        match library i with
        | .notWritable => (s, out, false)
        | .notSent => (s.fillFrame, out, false)
        | .received packets ok =>
            let s := s.fillFrame.submitFrame packets.length
            let out := out ++ packets.map (fun p => { data := p.1, ptsUs := ptsUs p.2 })
            if !ok then (s, out, false) else sendFrames library fuel (i + 1) s out

/-- `av_fifo_write` of `frameCount * 2` elements; `none` if they do not fit. -/
def writeFifo (s : AudioEncoderOpus) (bytes : Bytes) (frameCount : Nat) : Option AudioEncoderOpus :=
  if fifoCapacity < s.fifo.length + frameCount * 2 then none
  else some { s with fifo := s.fifo ++ bytes.take (frameCount * 2) }

/-- `AudioEncoderOpus::encode`: the packets that are added to `out`, and the result. -/
def encode (s : AudioEncoderOpus) (c : EncodeCall) (library : Nat → FrameEnd) :
    AudioEncoderOpus × List AudioPacket × Bool :=
  if !s.ctx then (s, [], false)
  else
    match c.samples with
    | none => sendFrames library s.fifo.length 0 s []
    | some bytes =>
        if c.frameCount = 0 then sendFrames library s.fifo.length 0 s []
        else
          match s.writeFifo bytes c.frameCount with
          | none => (s, [], false)
          | some s => sendFrames library s.fifo.length 0 s []

end AudioEncoderOpus

/-! ## Decoder -/

/-- What FFmpeg makes of a packet: the samples of each frame it returns, until there are no more or
    until an error, which ends the loop all the same. -/
inductive PacketEnd where
  | rejected
  | received (frames : List (List Int16)) (failed : Bool)
deriving DecidableEq, Repr

/-- `AudioDecoderOpus`, as far as its callers see it. -/
structure AudioDecoderOpus where
  ctx : Bool := false
  packets : UInt64 := 0
deriving DecidableEq, Repr

/-- `AudioDecoderOpus::decode`: `outSamples` is added to. -/
def AudioDecoderOpus.decode (d : AudioDecoderOpus) (packet : PacketEnd) (outSamples : List Int16) :
    AudioDecoderOpus × List Int16 × Bool :=
  if !d.ctx then (d, outSamples, false)
  else
    match packet with
    | .rejected => (d, outSamples, false)
    | .received frames _ => ({ d with packets := d.packets + 1 }, outSamples ++ frames.flatten, true)

end RemotePlay.Media
