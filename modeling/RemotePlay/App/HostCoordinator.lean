import RemotePlay.Host.HostSession
import RemotePlay.Security.SecureChannel

set_option autoImplicit false

/-! # The host's coordinator (`app/HostCoordinator.cpp`)

The coordinator lives on the Qt thread. Session events reach it as queued invocations, so it is a
machine whose events are the bodies of those invocations, together with what the stream-start
workers report back. This is the coordinator from a successful start to `stop`, while `host_` and
`settings_` are set.

Platform results (a generated key pair, random bytes, the port a streamer was bound to) are part of
the event. A `SecureChannel` is shared with the streamers that use it; they advance its counters,
which the coordinator never looks at. -/

namespace RemotePlay.App

open Proto (Envelope Body Id encodeMessage decodeMessage)
open Crypto (Cng EcdhKeyPair SecureChannel)
open Host (ClientRow)

/-- What `startStreamFor` takes from `HostLaunchSettings` for the `StreamConfig` of a streamer. -/
structure StreamSettings where
  codec : VideoCodec := .H264
  resolution : Resolution := {}
  fps : UInt32 := 60
  bitrateKbps : UInt32 := 8000
deriving DecidableEq, Repr

/-- A `HostStreamer` that was created, with the arguments its `start` gets. -/
structure HostStreamer where
  clientId : UInt32
  config : StreamSettings := {}
  playerIndex : UInt8
  udpSession : UInt32
  channel : Option SecureChannel
deriving DecidableEq, Repr

/-- `HostCoordinator::ClientStream`; a streamer is named by its place in `streamers`. -/
structure ClientStream where
  clientId : UInt32 := 0
  playerIndex : UInt8 := 0
  keysReady : Bool := false
  ecdh : Option EcdhKeyPair := none
  ourSalt : Bytes := []
  channel : Option SecureChannel := none
  streamer : Option Nat := none
deriving DecidableEq, Repr

/-- `HostCoordinator`. `streamers` lists every streamer ever created, oldest first. -/
structure HostCoordinator where
  sessionCode : Bytes
  settings : StreamSettings := {}
  streams : Std.TreeMap UInt32 ClientStream := {}
  streamers : List HostStreamer := []

/-- What the coordinator does to the outside. -/
inductive HostCoordinatorEffect where
  | sendAppMessage (clientId : UInt32) (type : UInt16) (payload : Bytes)
  | kick (clientId : UInt32)
  | errorOccurred (message : Bytes)
  | startStreamer (index : Nat)
  | stopStreamer (index : Nat)
  | requestKeyframe (index : Nat)
  /-- `injector_.setPermissions`. -/
  | setPermissions (playerIndex : UInt8) (perms : InputPermissions)
  /-- `injector_.clientDisconnected`. -/
  | clientDisconnected (playerIndex : UInt8)
  /-- `injector_.setRumbleSender` with a sender to this client. -/
  | setRumbleSender (clientId : UInt32)
  /-- Input datagrams of this streamer go to the injector as this player. -/
  | setInputHandler (index : Nat) (playerIndex : UInt8)
deriving DecidableEq, Repr

/-- The bodies of the queued invocations. -/
inductive HostCoordinatorEvent where
  /-- `onClientUpdated`; `keys` and `salt` are what `generateEcdhP256` and `randomBytes(16)` return
      if they are called. -/
  | clientUpdated (row : ClientRow) (keys : Option EcdhKeyPair) (salt : Bytes)
  | inputPermissions (clientId : UInt32) (perms : InputPermissions)
  | appMessage (clientId : UInt32) (type : UInt16) (payload : Bytes)
  /-- A worker calls `onStreamStart`: the streamer's socket is bound. -/
  | streamBound (index : Nat) (udpPort : UInt16)
  /-- A worker reports the result of `HostStreamer::start`. -/
  | streamResult (index : Nat) (ok : Bool) (err : Bytes)
  /-- The error callback of a client's streamer. -/
  | streamError (clientId : UInt32) (running : Bool)
  /-- The user kicks a client. -/
  | kick (clientId : UInt32)
deriving DecidableEq, Repr

/-- `makeUdpSessionId`. -/
def makeUdpSessionId (code : Bytes) (clientId : UInt32) : UInt32 :=
  let h : UInt32 := code.foldl (fun h c => (h ^^^ c.toUInt32) * 16777619) 2166136261
  ((h ^^^ clientId) * 16777619) ||| 1

namespace HostCoordinator

/-- `streams_[clientId] = cs`. -/
def putStream (k : HostCoordinator) (clientId : UInt32) (cs : ClientStream) : HostCoordinator :=
  { k with streams := k.streams.insert clientId cs }

/-- `assignPlayerIndex`: the first unused of the four indices, or the last one. -/
def assignPlayerIndex (k : HostCoordinator) : UInt8 :=
  let used := fun (i : UInt8) => k.streams.values.any (fun cs => cs.playerIndex == i)
  if !used 0 then 0 else if !used 1 then 1 else if !used 2 then 2 else 3

/-- The payload of the `KEY_EXCHANGE` message that `beginKeyExchange` sends. -/
def keyExchangePayload (publicKey salt : Bytes) : Bytes :=
  encodeMessage
    { type := .KeyExchange, body := .keyExchange { publicKey := publicKey, salt := salt } }

/-- The payload of the `SESSION_KEY_READY` message: the envelope's type is set, its body is left at
    the default. -/
def sessionKeyReadyPayload : Bytes :=
  let ready : Envelope := {}
  encodeMessage { ready with type := .SessionKeyReady }

/-- `beginKeyExchange`. -/
def beginKeyExchange (k : HostCoordinator) (clientId : UInt32) (keys : Option EcdhKeyPair)
    (salt : Bytes) : HostCoordinator × List HostCoordinatorEffect :=
  match k.streams[clientId]? with
  | some _ => (k, [])
  | none =>
      match keys with
      | none =>
          (k, [.errorOccurred
            (ascii "Cryptography unavailable (CNG). Cannot secure this session."), .kick clientId])
      | some kp =>
          let cs : ClientStream :=
            { clientId := clientId
              playerIndex := k.assignPlayerIndex
              ecdh := some kp
              ourSalt := salt }
          (k.putStream clientId cs,
            [.sendAppMessage clientId Id.KeyExchange.code (keyExchangePayload kp.publicKey salt)])

/-- `teardownClient`. -/
def teardownClient (k : HostCoordinator) (clientId : UInt32) :
    HostCoordinator × List HostCoordinatorEffect :=
  match k.streams[clientId]? with
  | none => (k, [])
  | some cs =>
      ({ k with streams := k.streams.erase clientId },
        (cs.streamer.map .stopStreamer).toList ++ [.clientDisconnected cs.playerIndex])

/-- `startStreamFor`: a new streamer with the channel as it is. -/
def startStreamFor (k : HostCoordinator) (clientId : UInt32) (cs : ClientStream) :
    HostCoordinator × List HostCoordinatorEffect :=
  let index := k.streamers.length
  let streamer : HostStreamer :=
    { clientId := cs.clientId
      config := k.settings
      playerIndex := cs.playerIndex
      udpSession := makeUdpSessionId k.sessionCode cs.clientId
      channel := cs.channel }
  ({ k with streamers := k.streamers ++ [streamer] }.putStream clientId
      { cs with streamer := some index },
    [.startStreamer index])

/-- The `KeyExchange` case of `handleAppMessage`. -/
def handleKeyExchange (c : Cng) (k : HostCoordinator) (clientId : UInt32)
    (m : Proto.Msg.KeyExchange) : HostCoordinator × List HostCoordinatorEffect :=
  match k.streams[clientId]? with
  | none => (k, [])
  | some cs =>
      match cs.ecdh with
      | none => (k, [])
      | some ecdh =>
          if cs.keysReady then (k, [])
          else
            let (ok, channel) := SecureChannel.finish c {} ecdh cs.ourSalt m.publicKey m.salt
              k.sessionCode true
            let k := k.putStream clientId { cs with channel := some channel }
            -- the failed channel stays in the stream until the kick comes back as a disconnect
            if !ok then
              (k, [.errorOccurred (ascii "Key exchange failed for a player; disconnecting them."),
                .kick clientId])
            else
              (k, [.sendAppMessage clientId Id.SessionKeyReady.code sessionKeyReadyPayload])

/-- The `SessionKeyReady` case: only the presence of a channel is checked. -/
def handleSessionKeyReady (k : HostCoordinator) (clientId : UInt32) :
    HostCoordinator × List HostCoordinatorEffect :=
  match k.streams[clientId]? with
  | none => (k, [])
  | some cs =>
      if cs.channel.isNone then (k, [])
      else k.startStreamFor clientId { cs with keysReady := true }

/-- The `StreamStop` case. -/
def handleStreamStop (k : HostCoordinator) (clientId : UInt32) : List HostCoordinatorEffect :=
  match k.streams[clientId]? with
  | none => []
  | some cs => (cs.streamer.map .stopStreamer).toList ++ [.clientDisconnected cs.playerIndex]

/-- The `KeyframeRequest` case. -/
def handleKeyframeRequest (k : HostCoordinator) (clientId : UInt32) : List HostCoordinatorEffect :=
  match k.streams[clientId]? with
  | none => []
  | some cs => (cs.streamer.map .requestKeyframe).toList

/-- `handleAppMessage`. -/
def handleAppMessage (c : Cng) (k : HostCoordinator) (clientId : UInt32) (type : UInt16)
    (payload : Bytes) : HostCoordinator × List HostCoordinatorEffect :=
  match decodeMessage type payload with
  | none => (k, [])
  | some env =>
      match env.body with
      | .keyExchange m => k.handleKeyExchange c clientId m
      | .sessionKeyReady => k.handleSessionKeyReady clientId
      | .streamStop _ => (k, k.handleStreamStop clientId)
      | .keyframeRequest => (k, k.handleKeyframeRequest clientId)
      | _ => (k, [])

/-- The `onClientUpdated` invocation. -/
def handleClientUpdated (k : HostCoordinator) (row : ClientRow) (keys : Option EcdhKeyPair)
    (salt : Bytes) : HostCoordinator × List HostCoordinatorEffect :=
  if row.state = .Connected then k.beginKeyExchange row.id keys salt
  else if row.state = .Disconnected then k.teardownClient row.id
  else (k, [])

/-- The `onInputPermissions` invocation. -/
def handleInputPermissions (k : HostCoordinator) (clientId : UInt32) (perms : InputPermissions) :
    List HostCoordinatorEffect :=
  match k.streams[clientId]? with
  | none => []
  | some cs =>
      .setPermissions cs.playerIndex perms ::
        if cs.streamer.isSome ∧ perms.controller then [.setRumbleSender clientId] else []

/-- `onStreamStart`: the `STREAM_START` message for a streamer whose socket is bound. -/
def handleStreamBound (k : HostCoordinator) (index : Nat) (udpPort : UInt16) :
    List HostCoordinatorEffect :=
  match k.streamers[index]? with
  | none => []
  | some st =>
      [.sendAppMessage st.clientId Id.StreamStart.code (encodeMessage
        { type := .StreamStart
          body := .streamStart
            { udpPort := udpPort
              sessionId := st.udpSession
              playerIndex := st.playerIndex
              codec := st.config.codec.code
              width := st.config.resolution.width.toUInt16
              height := st.config.resolution.height.toUInt16
              fps := st.config.fps.toUInt8
              bitrateKbps := st.config.bitrateKbps } })]

/-- What follows a worker's `HostStreamer::start`. The input handler goes to the client's current
    streamer. -/
def handleStreamResult (k : HostCoordinator) (index : Nat) (ok : Bool) (err : Bytes) :
    List HostCoordinatorEffect :=
  match k.streamers[index]? with
  | none => []
  | some st =>
      if !ok then [.errorOccurred (ascii "Stream start failed: " ++ err), .kick st.clientId]
      else
        match (k.streams[st.clientId]?).bind ClientStream.streamer with
        | none => []
        | some current => [.setInputHandler current st.playerIndex]

/-- The error callback: a streamer that stopped itself is torn down. -/
def handleStreamError (k : HostCoordinator) (clientId : UInt32) (running : Bool) :
    List HostCoordinatorEffect :=
  match k.streams[clientId]? with
  | none => []
  | some cs =>
      match cs.streamer with
      | none => []
      | some index =>
          if running then [] else [.stopStreamer index, .clientDisconnected cs.playerIndex]

/-- One invocation. -/
def handle (c : Cng) (k : HostCoordinator) (e : HostCoordinatorEvent) :
    HostCoordinator × List HostCoordinatorEffect :=
  match e with
  | .clientUpdated row keys salt => k.handleClientUpdated row keys salt
  | .inputPermissions clientId perms => (k, k.handleInputPermissions clientId perms)
  | .appMessage clientId type payload => k.handleAppMessage c clientId type payload
  | .streamBound index udpPort => (k, k.handleStreamBound index udpPort)
  | .streamResult index ok err => (k, k.handleStreamResult index ok err)
  | .streamError clientId running => (k, k.handleStreamError clientId running)
  | .kick clientId =>
      let (k, out) := k.teardownClient clientId
      (k, out ++ [.kick clientId])

/-- The state after an invocation. -/
def step (c : Cng) (k : HostCoordinator) (e : HostCoordinatorEvent) : HostCoordinator :=
  (k.handle c e).1

end HostCoordinator

end RemotePlay.App
