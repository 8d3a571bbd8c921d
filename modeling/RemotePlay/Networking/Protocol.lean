import RemotePlay.Networking.Packet

set_option autoImplicit false

/-! # Control-channel messages (`networking/Protocol.cpp`)

An `Envelope` carries its type tag next to the variant body, and `encodeMessage` looks at the body
only: a body that does not match its tag is encoded as what it is. `decodeMessage` goes by the tag
of the frame. -/

namespace RemotePlay.Proto

/-- `proto::Id`. A raw type outside this list is stopped by `knownId` before it is cast. -/
inductive Id where
  | ClientHello
  | HostReject
  | HostApproved
  | HostCapabilities
  | ClientCapabilities
  | NegotiationResult
  | Ping
  | Pong
  | InputPermission
  | Kick
  | Bye
  | StreamStart
  | StreamStop
  | KeyframeRequest
  | KeyExchange
  | SessionKeyReady
deriving DecidableEq, Repr

namespace Id

/-- The value on the wire. -/
def code : Id → UInt16
  | ClientHello => 0x0001
  | HostReject => 0x0002
  | HostApproved => 0x0003
  | HostCapabilities => 0x0004
  | ClientCapabilities => 0x0005
  | NegotiationResult => 0x0006
  | Ping => 0x0007
  | Pong => 0x0008
  | InputPermission => 0x0009
  | Kick => 0x000A
  | Bye => 0x000B
  | StreamStart => 0x0010
  | StreamStop => 0x0011
  | KeyframeRequest => 0x0012
  | KeyExchange => 0x0013
  | SessionKeyReady => 0x0014

def all : List Id :=
  [ClientHello, HostReject, HostApproved, HostCapabilities, ClientCapabilities, NegotiationResult,
    Ping, Pong, InputPermission, Kick, Bye, StreamStart, StreamStop, KeyframeRequest, KeyExchange,
    SessionKeyReady]

/-- `static_cast<Id>(raw)`, for the raw values that `knownId` lets through. -/
def ofRaw (raw : UInt16) : Option Id := all.find? (fun id => id.code == raw)

end Id

/-- `proto::knownId`. -/
def knownId (raw : UInt16) : Bool := (Id.ofRaw raw).isSome

/-- `proto::Reason`. -/
inductive Reason where
  | Ok
  | BadSessionCode
  | RejectedByHost
  | ProtocolError
  | UnsupportedVersion
  | InactivityTimeout
  | Kicked
  | ServerFull
  | NoCommonCodec
deriving DecidableEq, Repr

def Reason.code : Reason → UInt16
  | Ok => 0
  | BadSessionCode => 1
  | RejectedByHost => 2
  | ProtocolError => 3
  | UnsupportedVersion => 4
  | InactivityTimeout => 5
  | Kicked => 6
  | ServerFull => 7
  | NoCommonCodec => 8

/-! ## Message bodies -/

namespace Msg

structure ClientHello where
  clientName : Bytes := []
  sessionCode : Bytes := []
  appVersion : Bytes := []
deriving DecidableEq, Repr

structure HostReject where
  reasonCode : UInt16 := 0
  reasonText : Bytes := []
deriving DecidableEq, Repr

structure HostCapabilities where
  hostName : Bytes := []
  gameName : Bytes := []
  captureMode : UInt8 := 0
  width : UInt16 := 1920
  height : UInt16 := 1080
  fps : UInt8 := 60
  bitrateKbps : UInt32 := 8000
  offeredCodecs : List VideoCodec := []
deriving DecidableEq, Repr

structure ClientCapabilities where
  supportedCodecs : List VideoCodec := []
deriving DecidableEq, Repr

structure NegotiationResult where
  accepted : Bool := false
  codec : UInt8 := 0
  width : UInt16 := 1920
  height : UInt16 := 1080
  fps : UInt8 := 60
  bitrateKbps : UInt32 := 8000
  note : Bytes := []
deriving DecidableEq, Repr

structure Ping where
  epochMs : UInt64 := 0
deriving DecidableEq, Repr

structure Pong where
  echoEpochMs : UInt64 := 0
deriving DecidableEq, Repr

structure InputPermission where
  controller : Bool := true
  keyboard : Bool := false
  mouse : Bool := false
  vibration : Bool := true
deriving DecidableEq, Repr

structure Kick where
  reason : Bytes := []
deriving DecidableEq, Repr

structure Bye where
  reason : Bytes := []
deriving DecidableEq, Repr

structure StreamStart where
  udpPort : UInt16 := 0
  sessionId : UInt32 := 0
  playerIndex : UInt8 := 0
  codec : UInt8 := 0
  width : UInt16 := 1920
  height : UInt16 := 1080
  fps : UInt8 := 60
  bitrateKbps : UInt32 := 8000
deriving DecidableEq, Repr

structure StreamStop where
  reason : Bytes := []
deriving DecidableEq, Repr

structure KeyExchange where
  publicKey : Bytes := []
  salt : Bytes := []
deriving DecidableEq, Repr

end Msg

/-- `proto::Body`, the variant of all messages. -/
inductive Body where
  | clientHello (m : Msg.ClientHello)
  | hostReject (m : Msg.HostReject)
  | hostApproved
  | hostCapabilities (m : Msg.HostCapabilities)
  | clientCapabilities (m : Msg.ClientCapabilities)
  | negotiationResult (m : Msg.NegotiationResult)
  | ping (m : Msg.Ping)
  | pong (m : Msg.Pong)
  | inputPermission (m : Msg.InputPermission)
  | kick (m : Msg.Kick)
  | bye (m : Msg.Bye)
  | streamStart (m : Msg.StreamStart)
  | streamStop (m : Msg.StreamStop)
  | keyframeRequest
  | keyExchange (m : Msg.KeyExchange)
  | sessionKeyReady
deriving DecidableEq, Repr

/-- `proto::Envelope`. A default-constructed variant holds its first alternative. -/
structure Envelope where
  type : Id := .ClientHello
  body : Body := .clientHello {}
deriving DecidableEq, Repr

/-! ## Encoding -/

open Net.ByteWriter in
/-- `writeVideoCodecList`: at most 32 entries. -/
def writeVideoCodecList (list : List VideoCodec) : Bytes :=
  u8 (UInt8.ofNat (min list.length 32)) ++ (list.take 32).map VideoCodec.code

open Net.ByteWriter in
/-- `writeMsg` of every alternative. -/
def writeMsg : Body → Bytes
  | .clientHello m => str m.clientName ++ str m.sessionCode ++ str m.appVersion
  | .hostReject m => u16 m.reasonCode ++ str m.reasonText
  | .hostApproved => []
  | .hostCapabilities m =>
      str m.hostName ++ str m.gameName ++ u8 m.captureMode ++ u16 m.width ++ u16 m.height ++
        u8 m.fps ++ u32 m.bitrateKbps ++ writeVideoCodecList m.offeredCodecs
  | .clientCapabilities m => writeVideoCodecList m.supportedCodecs
  | .negotiationResult m =>
      boolean m.accepted ++ u8 m.codec ++ u16 m.width ++ u16 m.height ++ u8 m.fps ++
        u32 m.bitrateKbps ++ str m.note
  | .ping m => u64 m.epochMs
  | .pong m => u64 m.echoEpochMs
  | .inputPermission m =>
      boolean m.controller ++ boolean m.keyboard ++ boolean m.mouse ++ boolean m.vibration
  | .kick m => str m.reason
  | .bye m => str m.reason
  | .streamStart m =>
      u16 m.udpPort ++ u32 m.sessionId ++ u8 m.playerIndex ++ u8 m.codec ++ u16 m.width ++
        u16 m.height ++ u8 m.fps ++ u32 m.bitrateKbps
  | .streamStop m => str m.reason
  | .keyframeRequest => []
  | .keyExchange m => Net.ByteWriter.bytes m.publicKey ++ Net.ByteWriter.bytes m.salt
  | .sessionKeyReady => []

/-- `encodeMessage`: the body alone. -/
def encodeMessage (e : Envelope) : Bytes := writeMsg e.body

/-! ## Decoding -/

open Net (ByteReader)

/-- The loop of `readVideoCodecList`. -/
def readCodecs : Nat → ByteReader → List VideoCodec × ByteReader
  | 0, r => ([], r)
  | n + 1, r =>
      let (c, r) := r.u8
      let (cs, r) := readCodecs n r
      (⟨c⟩ :: cs, r)

/-- `readVideoCodecList`. -/
def readVideoCodecList (r : ByteReader) : List VideoCodec × ByteReader :=
  let (n, r) := r.u8
  readCodecs n.toNat r

/-- The result of a `readMsg` that returns `r.ok()`. -/
def whenOk (r : ByteReader) (body : Body) : Option Body := if r.ok then some body else none

/-- The result of a `readMsg` that returns `r.ok() && r.remaining() == 0`. -/
def whenDone (r : ByteReader) (body : Body) : Option Body :=
  if r.ok && r.remaining == 0 then some body else none

/-- `readMsg` of the alternative that `decodeMessage` picks for the type. -/
def readMsg (type : Id) (r : ByteReader) : Option Body :=
  match type with
  | .ClientHello =>
      let (clientName, r) := r.str
      let (sessionCode, r) := r.str
      let (appVersion, r) := r.str
      whenOk r (.clientHello { clientName, sessionCode, appVersion })
  | .HostReject =>
      let (reasonCode, r) := r.u16
      let (reasonText, r) := r.str
      whenOk r (.hostReject { reasonCode, reasonText })
  | .HostApproved => whenDone r .hostApproved
  | .HostCapabilities =>
      let (hostName, r) := r.str
      let (gameName, r) := r.str
      let (captureMode, r) := r.u8
      let (width, r) := r.u16
      let (height, r) := r.u16
      let (fps, r) := r.u8
      let (bitrateKbps, r) := r.u32
      let (offeredCodecs, r) := readVideoCodecList r
      whenOk r (.hostCapabilities
        { hostName, gameName, captureMode, width, height, fps, bitrateKbps, offeredCodecs })
  | .ClientCapabilities =>
      let (supportedCodecs, r) := readVideoCodecList r
      whenOk r (.clientCapabilities { supportedCodecs })
  | .NegotiationResult =>
      let (accepted, r) := r.boolean
      let (codec, r) := r.u8
      let (width, r) := r.u16
      let (height, r) := r.u16
      let (fps, r) := r.u8
      let (bitrateKbps, r) := r.u32
      let (note, r) := r.str
      whenOk r (.negotiationResult { accepted, codec, width, height, fps, bitrateKbps, note })
  | .Ping =>
      let (epochMs, r) := r.u64
      whenDone r (.ping { epochMs })
  | .Pong =>
      let (echoEpochMs, r) := r.u64
      whenDone r (.pong { echoEpochMs })
  | .InputPermission =>
      let (controller, r) := r.boolean
      let (keyboard, r) := r.boolean
      let (mouse, r) := r.boolean
      let (vibration, r) := r.boolean
      whenDone r (.inputPermission { controller, keyboard, mouse, vibration })
  | .Kick =>
      let (reason, r) := r.str
      whenOk r (.kick { reason })
  | .Bye =>
      let (reason, r) := r.str
      whenOk r (.bye { reason })
  | .StreamStart =>
      let (udpPort, r) := r.u16
      let (sessionId, r) := r.u32
      let (playerIndex, r) := r.u8
      let (codec, r) := r.u8
      let (width, r) := r.u16
      let (height, r) := r.u16
      let (fps, r) := r.u8
      let (bitrateKbps, r) := r.u32
      whenDone r (.streamStart
        { udpPort, sessionId, playerIndex, codec, width, height, fps, bitrateKbps })
  | .StreamStop =>
      let (reason, r) := r.str
      whenOk r (.streamStop { reason })
  | .KeyframeRequest => whenDone r .keyframeRequest
  | .KeyExchange =>
      let (publicKey, r) := r.bytes 64
      let (salt, r) := r.bytes 16
      whenDone r (.keyExchange { publicKey, salt })
  | .SessionKeyReady => whenDone r .sessionKeyReady

/-- `decodeMessage`. -/
def decodeMessage (rawType : UInt16) (data : Bytes) : Option Envelope :=
  match Id.ofRaw rawType with
  | none => none
  | some type => (readMsg type { data := data }).map (fun body => { type := type, body := body })

/-- Only known types decode. -/
theorem knownId_of_decodeMessage {rawType : UInt16} {data : Bytes} {env : Envelope}
    (h : decodeMessage rawType data = some env) : knownId rawType = true := by
  unfold decodeMessage at h
  unfold knownId
  split at h
  · exact absurd h (by simp)
  · next hid =>
      rw [hid]
      rfl

/-- `negotiateCodec`: the first preference that the client supports too. -/
def negotiateCodec (hostPreference clientSupported : List VideoCodec) : Option VideoCodec :=
  hostPreference.find? (fun want => clientSupported.contains want)

end RemotePlay.Proto
