import RemotePlay.App.HostCoordinator
import RemotePlay.Client.ClientSession

set_option autoImplicit false

/-! # The client's coordinator (`app/ClientCoordinator.cpp`)

The counterpart of `HostCoordinator.lean` on the client's Qt thread. `client` says that `client_` is
not null; whether its session is still active is read when a handler asks, and is part of the event.
The presentation, the statistics and the input forwarding are left out. -/

namespace RemotePlay.App

open Proto (Envelope Body Id encodeMessage decodeMessage)
open Crypto (Cng EcdhKeyPair SecureChannel)

/-- A `ClientStreamer` that was created, with the arguments its `start` gets. -/
structure ClientStreamer where
  udpPort : UInt16
  udpSessionId : UInt32
  codec : VideoCodec
  channel : Option SecureChannel
deriving DecidableEq, Repr

/-- `ClientCoordinator`. `streamers` lists every streamer ever created, oldest first; `streamer` is
    the current one's place in it. -/
structure ClientCoordinator where
  sessionCode : Bytes
  client : Bool := true
  channel : Option SecureChannel := none
  ecdh : Option EcdhKeyPair := none
  ourSalt : Bytes := []
  keysReady : Bool := false
  streamer : Option Nat := none
  streamers : List ClientStreamer := []
  streamStartWatchdog : Bool := false
  negotiatedCodec : VideoCodec := .H264
deriving DecidableEq, Repr

/-- What the coordinator does to the outside. -/
inductive ClientCoordinatorEffect where
  | sendAppMessage (type : UInt16) (payload : Bytes)
  /-- `client_->disconnect()`. -/
  | disconnect
  | errorOccurred (message : Bytes)
  | startStreamer (index : Nat)
  | stopStreamer (index : Nat)
deriving DecidableEq, Repr

/-- The bodies of the queued invocations and the timer. -/
inductive ClientCoordinatorEvent where
  /-- `onState`; `connected` is what `client_->connected()` returns, `keys` and `salt` what
      `generateEcdhP256` and `randomBytes(16)` return, if they are called. -/
  | state (state : ConnectionState) (connected : Bool) (keys : Option EcdhKeyPair) (salt : Bytes)
  /-- `onConnected`. -/
  | connectedToHost (codec : VideoCodec)
  | appMessage (type : UInt16) (payload : Bytes)
  /-- A worker reports the result of `ClientStreamer::start`. -/
  | streamResult (ok : Bool) (err : Bytes)
  /-- The stream-start watchdog fires; `running` is what the streamer says. -/
  | watchdog (running : Bool)
  | stop
deriving DecidableEq, Repr

namespace ClientCoordinator

/-- `beginKeyExchange`. -/
def beginKeyExchange (k : ClientCoordinator) (connected : Bool) (keys : Option EcdhKeyPair)
    (salt : Bytes) : ClientCoordinator × List ClientCoordinatorEffect :=
  if k.ecdh.isSome ∨ !k.client ∨ !connected then (k, [])
  else
    match keys with
    | none =>
        (k, [.errorOccurred
          (ascii "Cryptography unavailable (CNG); cannot secure this session."), .disconnect])
    | some kp =>
        ({ k with ecdh := some kp, ourSalt := salt },
          [.sendAppMessage Id.KeyExchange.code
            (HostCoordinator.keyExchangePayload kp.publicKey salt)])

/-- `startStream`: the channel goes in as it is. -/
def startStream (k : ClientCoordinator) (udpPort : UInt16) (udpSessionId : UInt32) :
    ClientCoordinator × List ClientCoordinatorEffect :=
  if k.streamer.isSome then (k, [])
  else
    let index := k.streamers.length
    ({ k with
        streamer := some index
        streamers := k.streamers ++
          [{ udpPort := udpPort
             udpSessionId := udpSessionId
             codec := k.negotiatedCodec
             channel := k.channel }] },
      [.startStreamer index])

/-- The `KeyExchange` case of `handleAppMessage`. -/
def handleKeyExchange (c : Cng) (k : ClientCoordinator) (m : Proto.Msg.KeyExchange) :
    ClientCoordinator × List ClientCoordinatorEffect :=
  match k.ecdh with
  | none => (k, [])
  | some ecdh =>
      let (ok, channel) := SecureChannel.finish c {} ecdh k.ourSalt m.publicKey m.salt
        k.sessionCode false
      let k := { k with channel := some channel }
      if !ok then (k, [.errorOccurred (ascii "Key exchange failed."), .disconnect])
      else (k, [.sendAppMessage Id.SessionKeyReady.code HostCoordinator.sessionKeyReadyPayload])

/-- The `StreamStart` case: nothing is checked about the channel. -/
def handleStreamStart (k : ClientCoordinator) (m : Proto.Msg.StreamStart) :
    ClientCoordinator × List ClientCoordinatorEffect :=
  { k with
    keysReady := true
    streamStartWatchdog := false
    negotiatedCodec := ⟨m.codec⟩ }.startStream m.udpPort m.sessionId

/-- The effect of stopping the current streamer, if there is one. -/
def stopCurrent (k : ClientCoordinator) : List ClientCoordinatorEffect :=
  (k.streamer.map .stopStreamer).toList

/-- `handleAppMessage`. -/
def handleAppMessage (c : Cng) (k : ClientCoordinator) (type : UInt16) (payload : Bytes) :
    ClientCoordinator × List ClientCoordinatorEffect :=
  match decodeMessage type payload with
  | none => (k, [])
  | some env =>
      match env.body with
      | .keyExchange m => k.handleKeyExchange c m
      | .sessionKeyReady => ({ k with keysReady := true, streamStartWatchdog := true }, [])
      | .streamStart m => k.handleStreamStart m
      | .streamStop _ => (k, k.stopCurrent)
      | _ => (k, [])

/-- The `onState` invocation. -/
def handleState (k : ClientCoordinator) (state : ConnectionState) (connected : Bool)
    (keys : Option EcdhKeyPair) (salt : Bytes) : ClientCoordinator × List ClientCoordinatorEffect :=
  match state with
  | .Connected => k.beginKeyExchange connected keys salt
  | .Disconnected => (k, k.stopCurrent)
  | _ => (k, [])

/-- `stop`. -/
def stop (k : ClientCoordinator) : ClientCoordinator × List ClientCoordinatorEffect :=
  ({ k with
      client := false
      channel := none
      ecdh := none
      ourSalt := []
      keysReady := false
      streamer := none
      streamStartWatchdog := false },
    k.stopCurrent ++ if k.client then [.disconnect] else [])

/-- `onStreamStartWatchdog`. -/
def onStreamStartWatchdog (k : ClientCoordinator) (running : Bool) :
    ClientCoordinator × List ClientCoordinatorEffect :=
  if !k.streamStartWatchdog then (k, [])
  else
    let k := { k with streamStartWatchdog := false }
    if k.streamer.isSome ∧ running then (k, [])
    else
      let (k, out) := k.stop
      (k, .errorOccurred
        (ascii "The host did not start the video stream within 15 seconds. " ++
          ascii "The host app may have hit an error " ++
          ascii "(see its log under %LOCALAPPDATA%\\RemotePlay\\Logs) " ++
          ascii "or the connection is blocked. Disconnecting.") :: out)

/-- One invocation. -/
def handle (c : Cng) (k : ClientCoordinator) (e : ClientCoordinatorEvent) :
    ClientCoordinator × List ClientCoordinatorEffect :=
  match e with
  | .state state connected keys salt => k.handleState state connected keys salt
  | .connectedToHost codec => ({ k with negotiatedCodec := codec }, [])
  | .appMessage type payload => k.handleAppMessage c type payload
  | .streamResult ok err =>
      if ok then ({ k with streamStartWatchdog := false }, [])
      else (k, [.errorOccurred (ascii "Stream failed to start: " ++ err)])
  | .watchdog running => k.onStreamStartWatchdog running
  | .stop => k.stop

/-- The state after an invocation. -/
def step (c : Cng) (k : ClientCoordinator) (e : ClientCoordinatorEvent) : ClientCoordinator :=
  (k.handle c e).1

end ClientCoordinator

end RemotePlay.App
