import RemotePlay.App.AudioPlayback
import RemotePlay.Decoding.VideoDecoder
import RemotePlay.Lib.Faults
import RemotePlay.Networking.UdpTransport

set_option autoImplicit false

/-! # The client's streaming engine (`client/ClientStreamer.cpp`)

The decode thread polls the transport, decodes what is due, presents the pictures and plays the audio.
The transport has a thread of its own and is called by others as well, so a step of the decode thread is
one part of the body of `decodeLoop`; what the clock and the libraries say to it is an argument.
Statistics, sleeps, log lines and error texts are left out, and so is what `stop` does once the thread
has ended. The calls that `start` makes on the transport are events like those of any other thread. -/

namespace RemotePlay.Media

open Net

/-- What the decode thread does outside the engine. -/
inductive ClientEffect where
  | present (frame : DecodedFrame)
  /-- The watchdog calls `requestKeyframe`. -/
  | requestKeyframe
deriving DecidableEq, Repr

/-- Where the thread is in `decodeLoop`. -/
inductive DecodePosition where
  /-- At the condition of the loop. -/
  | loop
  | poll
  /-- In the loop over the polled frames, with `decoded` so far. -/
  | decode (frames : List AssembledFrame) (decoded : List DecodedFrame)
  | present (decoded : List DecodedFrame)
  | audio
  | watchdog
  | ended
deriving DecidableEq, Repr

/-- `ClientStreamer`; `lastFrameNs` is a local variable of the thread. -/
structure ClientStreamer (σ κ : Type) where
  transport : UdpTransport σ
  decoder : VideoDecoder κ
  audio : AudioPath := {}
  running : Bool := false
  lastFrameNs : UInt64 := 0
  position : DecodePosition := .ended

/-- What a step of the thread meets: the readings of the clock, whether an empty vector has a null
    pointer for its data, the packets that the audio decoder makes of the frames of a poll, and whether
    an audio device comes up. -/
structure LoopAnswers where
  clk : Nat → UInt64
  nullData : Bool
  opus : Nat → AssembledFrame → PacketEnd
  device : Bool

/-- What can happen to an engine. -/
inductive ClientEvent where
  /-- The transport's thread, or a call of the transport by another thread. -/
  | io (e : UdpEvent)
  /-- A step of the decode thread. -/
  | thread (a : LoopAnswers)
  /-- The device takes samples. -/
  | renders (need : Nat)
  /-- `stop` up to the join. -/
  | stop (now : UInt64)

/-- The time without video after which the watchdog asks for a keyframe. -/
def kStallNs : UInt64 := 2000000000

/-- `f.data.data()`. -/
def packetData (f : AssembledFrame) (nullData : Bool) : Option Bytes :=
  if f.data.isEmpty && nullData then none else some f.data

namespace ClientStreamer

variable {σ κ : Type} (sink : UdpCryptoSink σ) (lib : Libavcodec κ) (s : ClientStreamer σ κ)

/-- `ClientStreamer::start` with this transport, once it is bound and has its peer; `opus` says whether
    the audio decoder could be opened. -/
def start (transport : UdpTransport σ) (codec : VideoCodec) (opus : Bool) :
    ClientStreamer σ κ × Bool :=
  match VideoDecoder.init lib {} codec with
  | (_, false) => ({ transport := transport, decoder := {} }, false)
  | (decoder, true) =>
      ({ transport := transport
         decoder := decoder
         audio := AudioPath.start opus
         running := true
         position := .loop }, true)

/-- The call of `decode` for a polled frame. -/
def decodeCall (f : AssembledFrame) (a : LoopAnswers) :
    VideoDecoder κ × List DecodedFrame × Bool :=
  s.decoder.decode lib (packetData f a.nullData) (f.timestampNs / 1000) f.keyframe

/-- The loop over the polled frames, for one of them. -/
def decodeFrame (f : AssembledFrame) (frames : List AssembledFrame) (decoded : List DecodedFrame)
    (a : LoopAnswers) : ClientStreamer σ κ :=
  match s.decodeCall lib f a with
  | (decoder, out, ok) =>
      { s with
        decoder := decoder
        lastFrameNs := if ok then a.clk 0 else s.lastFrameNs
        position := .decode frames (decoded ++ out) }

/-- The audio part of the loop. It does not come back from a player whose device does not come up, where
    the source renders on a null client. -/
def playAudio (a : LoopAnswers) : ClientStreamer σ κ :=
  if s.audio.lost then s
  else if s.audio.audioDecoder.isNone then { s with position := .watchdog }
  else
    let polled := s.transport.audioJitter.pop (a.clk 0)
    let packets := polled.1.mapIdx a.opus
    let audio := s.audio.step (.poll packets a.device)
    { s with
      transport := { s.transport with audioJitter := polled.2 }
      audio := audio
      position := if audio.lost then .audio else .watchdog }

/-- The watchdog finds that there was video, and that it is long ago. -/
def stalled (now : UInt64) : Bool := decide (s.lastFrameNs ≠ 0 ∧ kStallNs < now - s.lastFrameNs)

/-- A step of `decodeLoop`. -/
def decodeLoop (a : LoopAnswers) : ClientStreamer σ κ × List ClientEffect :=
  match s.position with
  | .loop => ({ s with position := if s.running then .poll else .ended }, [])
  | .poll =>
      let polled := s.transport.videoJitter.pop (a.clk 0)
      ({ s with
          transport := { s.transport with videoJitter := polled.2 }
          position := .decode polled.1 [] }, [])
  | .decode [] decoded => ({ s with position := .present decoded }, [])
  | .decode (f :: frames) decoded => (s.decodeFrame lib f frames decoded a, [])
  | .present [] => ({ s with position := .audio }, [])
  | .present (frame :: decoded) => ({ s with position := .present decoded }, [.present frame])
  | .audio => (s.playAudio a, [])
  | .watchdog =>
      if s.stalled (a.clk 0) then
        ({ s with
            transport := s.transport.requestKeyframe (a.clk 1)
            lastFrameNs := a.clk 2
            position := .loop }, [.requestKeyframe])
      else ({ s with position := .loop }, [])
  | .ended => (s, [])

/-- One event. What the transport sends and hands to its callbacks is left to it. -/
def handle (e : ClientEvent) : Except FeedFault (ClientStreamer σ κ × List ClientEffect) :=
  match e with
  | .io e => (s.transport.handle sink e).map (fun p => ({ s with transport := p.1 }, []))
  | .thread a => .ok (s.decodeLoop lib a)
  | .renders need => .ok ({ s with audio := s.audio.step (.renders need) }, [])
  | .stop now =>
      .ok
        (if s.running then
          { s with running := false, transport := s.transport.sendStreamStop now }
        else s, [])

/-- The state after an event. -/
def next (e : ClientEvent) : Except FeedFault (ClientStreamer σ κ) :=
  (s.handle sink lib e).map Prod.fst

end ClientStreamer

/-! ## What a step does -/

/-- What the decode thread does in a step, as seen from outside. -/
inductive LoopAction where
  | none
  | poll (frames : List AssembledFrame)
  /-- A frame is given to the decoder. -/
  | decode (f : AssembledFrame) (a : LoopAnswers)
  | present (frame : DecodedFrame)
  /-- The watchdog asks for a keyframe, and stores a later reading. -/
  | ask (now stored : UInt64)

namespace ClientStreamer

variable {σ κ : Type} (lib : Libavcodec κ) (s : ClientStreamer σ κ) (e : ClientEvent)

def action : LoopAction :=
  match e, s.position with
  | .thread a, .poll => .poll (s.transport.videoJitter.pop (a.clk 0)).1
  | .thread a, .decode (f :: _) _ => .decode f a
  | .thread _, .present (frame :: _) => .present frame
  | .thread a, .watchdog => if s.stalled (a.clk 0) then .ask (a.clk 0) (a.clk 2) else .none
  | _, _ => .none

/-- The frames that a step polls from the video queue. -/
def polledFrames : List AssembledFrame :=
  match s.action e with
  | .poll frames => frames
  | _ => []

/-- The frame that a step gives to the decoder. -/
def fedFrame : Option AssembledFrame :=
  match s.action e with
  | .decode f _ => some f
  | _ => none

/-- The pictures that come out of the decoder in a step. -/
def decodedFrames : List DecodedFrame :=
  match s.action e with
  | .decode f a => (s.decodeCall lib f a).2.1
  | _ => []

/-- FFmpeg refuses the packet of a step. -/
def refuses : Bool :=
  match s.action e with
  | .decode f a =>
      s.decoder.refuses lib (packetData f a.nullData) (f.timestampNs / 1000) f.keyframe
  | _ => false

/-- The picture that a step presents. -/
def presentedFrame : Option DecodedFrame :=
  match s.action e with
  | .present frame => some frame
  | _ => none

/-- The time at which the watchdog asks for a keyframe in a step. -/
def asksAt : Option UInt64 :=
  match s.action e with
  | .ask now _ => some now
  | _ => none

/-- The reading that a step stores for the watchdog: the time of a packet that went through, or of a
    request. -/
def mark : Option UInt64 :=
  match s.action e with
  | .decode f a => if (s.decodeCall lib f a).2.2 then some (a.clk 0) else none
  | .ask _ stored => some stored
  | _ => none

end ClientStreamer

end RemotePlay.Media
