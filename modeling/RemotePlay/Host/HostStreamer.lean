import RemotePlay.Capture.ScreenCapture
import RemotePlay.Lib.Runs

set_option autoImplicit false

/-! # The host's streaming engine (`host/HostStreamer.cpp`)

A streamer captures, encodes and sends in a thread of its own. Calls of other threads come in between
the steps of this thread, so a step is one part of the body of `captureLoop`; what the platform answers
to it is an argument. A step that opens an encoder takes long, and `lateBitrate` is a call that falls
into it. Everything that `start` makes is there until the thread has ended and `stop` has joined it.

Audio, statistics, sleeps and log lines are left out, and so is a second `start`, which would clear
`running_`: the coordinator starts a streamer once, with the error callback set. -/

namespace RemotePlay.Media

/-- `StreamConfig`, as far as the engine reads it; `window` says that a window is to be captured and
    that there is a handle. -/
structure StreamConfig where
  codec : VideoCodec := .H264
  width : Int := 1920
  height : Int := 1080
  fps : Int := 60
  bitrateKbps : Int := 8000
  gop : Int := 120
  window : Bool := false
  outputIndex : Int := 0
deriving DecidableEq, Repr

/-- What the error callback is called with. -/
inductive PipelineError where
  | restartFailed
  | recoveryFailed
  | captureFailed
deriving DecidableEq, Repr

inductive StreamerEffect where
  /-- `tp->sendFrame` with `UdpType::Video`. -/
  | sendFrame (keyframe : Bool) (data : Bytes) (timestampNs : UInt64)
  | sendStreamStop
  | error (e : PipelineError)
deriving DecidableEq, Repr

/-- Undefined behaviour on the capture thread, outside of FFmpeg. -/
inductive StreamerFault where
  | capture (fault : CaptureFault)
  /-- `encode` divides by a side of the frame. -/
  | divideByZero
deriving DecidableEq, Repr

/-- Where the thread is in `captureLoop`. -/
inductive CapturePosition where
  /-- At the condition of the loop. -/
  | loop
  /-- Before it looks for a deferred restart. -/
  | restart
  /-- Before the restart with a software encoder. -/
  | recovery
  | capture
  /-- Before it initialises the capture again. -/
  | reinit
  | encode (frame : CaptureFrame)
  /-- Before it looks for a pending bitrate. -/
  | bitrate
  | ended
deriving DecidableEq, Repr

/-- `HostStreamer`, once `start` has been called; `consecutiveFailures` is a local variable of the
    thread. -/
structure HostStreamer where
  cfg : StreamConfig := {}
  running : Bool := false
  restartRequested : Bool := false
  forcedEncoder : Bytes := []
  capture : DisplayCapture := {}
  encoder : Option VideoEncoder := none
  consecutiveFailures : Nat := 0
  position : CapturePosition := .ended
deriving DecidableEq, Repr

/-- What the platform answers to a step of the thread. -/
structure PassAnswers where
  opens : Bytes → OpenEnd
  window : Option ClientArea
  capture : CaptureAnswers
  init : InitEnd
  encode : EncodeLibrary

/-- What can happen to a streamer. -/
inductive StreamerEvent where
  /-- A step of the capture thread. -/
  | thread (a : PassAnswers)
  | setBitrate (kbps : Int)
  /-- `setBitrate` while a step of the thread opens an encoder; it comes after this step here. The call
      is lost with the encoder or the parameters that are replaced, or the encoder takes it on too late
      and its mark is cleared (`taken`). -/
  | lateBitrate (kbps : Int) (taken : Bool)
  | requestKeyframe
  | requestEncoderRestart
  | requestSoftwareEncoder
  /-- `stop` up to the join. -/
  | stop
  /-- The rest of `stop`, once the thread has ended. -/
  | joined

def kMaxConsecutiveCaptureFailures : Nat := 10

/-- `setBitrate`, of which the mark is cleared by an `applyBitrateIfDirty` that was opened without it. -/
def VideoEncoder.takeBitrate (e : VideoEncoder) (kbps : Int) : VideoEncoder :=
  { e.setBitrate kbps with bitrateDirty := e.bitrateDirty }

namespace HostStreamer

/-- The parameters of an encoder of this streamer. -/
def encoderParams (s : HostStreamer) (bitrateKbps : Int) : VideoEncoderParams where
  codec := s.cfg.codec
  width := s.cfg.width
  height := s.cfg.height
  fps := s.cfg.fps
  bitrateKbps := bitrateKbps
  gop := if 0 < s.cfg.gop then s.cfg.gop else s.cfg.fps * 2
  preferredEncoder := s.forcedEncoder

/-- `HostStreamer::start` on a streamer with this `forcedEncoder_`, if the socket is bound. -/
def start (lib : Libav) (forcedEncoder : Bytes) (cfg : StreamConfig) (init : InitEnd)
    (opens : Bytes → OpenEnd) : Except StreamerFault (HostStreamer × Bool) :=
  let s : HostStreamer := { cfg, forcedEncoder, running := true }
  match s.capture.init cfg.outputIndex true init with
  | .error fault => .error (.capture fault)
  | .ok (_, false) => .ok ({ s with running := false }, false)
  | .ok (capture, true) =>
      match VideoEncoder.init lib {} (s.encoderParams cfg.bitrateKbps) opens with
      | (_, false) => .ok ({ s with running := false }, false)
      | (encoder, true) =>
          .ok ({ s with capture, encoder := some encoder, position := .loop }, true)

/-- The bitrate that a new encoder gets: that of the current one. -/
def currentKbps (s : HostStreamer) : Int :=
  match s.encoder with
  | some e => e.params.bitrateKbps
  | none => s.cfg.bitrateKbps

/-- `performEncoderRestart`. -/
def performEncoderRestart (lib : Libav) (s : HostStreamer) (opens : Bytes → OpenEnd) :
    HostStreamer × Bool :=
  if !s.running then (s, false)
  else
    match VideoEncoder.init lib {} (s.encoderParams s.currentKbps) opens with
    | (encoder, true) => ({ s with encoder := some encoder }, true)
    | (_, false) => (s, false)

/-- The encoder that the loop falls back to. -/
def recoveryEncoder (codec : VideoCodec) : Bytes :=
  if codec = .Hevc then ascii "libx265" else ascii "libx264"

/-- The encoder of `requestSoftwareEncoder`. -/
def softwareEncoder (codec : VideoCodec) : Bytes :=
  if codec = .Hevc then ascii "libx265"
  else if codec = .Av1 then ascii "libsvtav1"
  else ascii "libx264"

/-- The crop of a window capture; without its window it falls back to the monitor. -/
def refreshCrop (s : HostStreamer) (window : Option ClientArea) : HostStreamer :=
  if !s.cfg.window then s
  else
    match s.capture.updateWindowCrop window with
    | (capture, true) => { s with capture }
    | (capture, false) =>
        { s with cfg := { s.cfg with window := false }, capture := capture.clearCrop }

/-- The part of the loop that captures. -/
def captureFrame (s : HostStreamer) (a : PassAnswers) :
    Except StreamerFault (HostStreamer × List StreamerEffect) :=
  let s := s.refreshCrop a.window
  match s.capture.capture true a.capture with
  | .error fault => .error (.capture fault)
  | .ok (capture, .timedOut) => .ok ({ s with capture, position := .loop }, [])
  | .ok (capture, .failed) =>
      let failures := s.consecutiveFailures + 1
      let s := { s with capture, consecutiveFailures := failures }
      if kMaxConsecutiveCaptureFailures ≤ failures then
        .ok ({ s with running := false, position := .ended }, [.error .captureFailed])
      else .ok ({ s with position := .reinit }, [])
  | .ok (capture, .captured frame) =>
      .ok ({ s with capture, consecutiveFailures := 0, position := .encode frame }, [])

/-- The part of the loop that encodes and sends. -/
def encodeFrame (lib : Libav) (s : HostStreamer) (e : VideoEncoder) (frame : CaptureFrame)
    (a : PassAnswers) : Except StreamerFault (HostStreamer × List StreamerEffect) :=
  let r := e.encode lib frame.width frame.height a.encode
  let s := { s with encoder := some r.encoder }
  match r.ok with
  | none => .error .divideByZero
  | some false => .ok ({ s with restartRequested := true, position := .loop }, [])
  | some true =>
      .ok ({ s with position := .bitrate },
        r.out.map (fun p => .sendFrame p.keyframe p.data (frame.timestampUs * 1000)))

/-- A step of `captureLoop`. -/
def captureLoop (lib : Libav) (s : HostStreamer) (a : PassAnswers) :
    Except StreamerFault (HostStreamer × List StreamerEffect) :=
  match s.position, s.encoder with
  | .loop, _ => .ok ({ s with position := if s.running then .restart else .ended }, [])
  | .restart, _ =>
      if !s.restartRequested then .ok ({ s with position := .capture }, [])
      else
        match performEncoderRestart lib { s with restartRequested := false } a.opens with
        | (s, true) => .ok ({ s with position := .capture }, [])
        | (s, false) =>
            .ok ({ s with forcedEncoder := recoveryEncoder s.cfg.codec, position := .recovery },
              [.error .restartFailed])
  | .recovery, _ =>
      match s.performEncoderRestart lib a.opens with
      | (s, true) => .ok ({ s with position := .capture }, [])
      | (s, false) =>
          .ok ({ s with running := false, position := .ended }, [.error .recoveryFailed])
  | .capture, some _ => s.captureFrame a
  | .reinit, _ =>
      -- the caller asks for no error text
      match s.capture.init s.cfg.outputIndex false a.init with
      | .error fault => .error (.capture fault)
      | .ok (capture, _) => .ok ({ s with capture, position := .loop }, [])
  | .encode frame, some e => s.encodeFrame lib e frame a
  | .bitrate, some e =>
      .ok ({ s with encoder := some (e.applyBitrateIfDirty lib a.opens).1, position := .loop }, [])
  | .capture, none | .encode _, none | .bitrate, none => .ok ({ s with position := .ended }, [])
  | .ended, _ => .ok (s, [])

/-- One event. -/
def handle (lib : Libav) (s : HostStreamer) (e : StreamerEvent) :
    Except StreamerFault (HostStreamer × List StreamerEffect) :=
  match e with
  | .thread a => s.captureLoop lib a
  | .setBitrate kbps =>
      .ok
        ({ s with
            encoder := s.encoder.map (fun e => e.setBitrate kbps)
            cfg := { s.cfg with bitrateKbps := kbps } }, [])
  | .lateBitrate kbps taken =>
      .ok
        ({ s with
            encoder := if taken then s.encoder.map (fun e => e.takeBitrate kbps) else s.encoder
            cfg := { s.cfg with bitrateKbps := kbps } }, [])
  | .requestKeyframe => .ok ({ s with encoder := s.encoder.map VideoEncoder.requestKeyframe }, [])
  | .requestEncoderRestart =>
      .ok ({ s with restartRequested := s.restartRequested || s.running }, [])
  | .requestSoftwareEncoder =>
      .ok
        ({ s with
            forcedEncoder := softwareEncoder s.cfg.codec
            restartRequested := s.restartRequested || s.running }, [])
  | .stop => .ok ({ s with running := false }, if s.running then [.sendStreamStop] else [])
  | .joined => .ok (if s.position = .ended then { s with encoder := none, capture := {} } else s, [])

/-- The state after an event. -/
def next (lib : Libav) (s : HostStreamer) (e : StreamerEvent) : Except StreamerFault HostStreamer :=
  (s.handle lib e).map Prod.fst

end HostStreamer

end RemotePlay.Media
