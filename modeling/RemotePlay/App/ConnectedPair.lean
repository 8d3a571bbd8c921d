import RemotePlay.App.ClientCoordinator

set_option autoImplicit false

/-! # A host and a client on one connection

Both programs together: the two sessions on their network threads, the two coordinators on their Qt
threads, the callbacks queued between them, and the frames in flight. A step is one handler of one
thread, so a run is an interleaving. The connection is reliable and in order; either side may see it
close at any time.

The platform's part of the key exchange, the generated key pairs and random salts, is fixed for a
run: each side generates at most one of each. Users do nothing during the run. -/

namespace RemotePlay.App

open Crypto (Cng EcdhKeyPair)
open Host (HostSession HostEvent HostEffect)
open Client (ClientSession ClientEvent ClientEffect)

/-- What `generateEcdhP256` and `randomBytes(16)` return on the two machines. -/
structure KeyMaterial where
  hostKeys : EcdhKeyPair
  hostSalt : Bytes
  clientKeys : EcdhKeyPair
  clientSalt : Bytes

/-- One direction of the connection: the frames in flight, and whether its writer is still open. -/
structure Wire where
  frames : List (UInt16 × Bytes) := []
  sending : Bool := true

def Wire.put (w : Wire) (type : UInt16) (payload : Bytes) : Wire :=
  if w.sending then { w with frames := w.frames ++ [(type, payload)] } else w

def Wire.close (w : Wire) : Wire := { w with sending := false }

/-- What a host effect puts on the wire of the client `id`. -/
def Wire.carryHost (id : UInt32) (w : Wire) : HostEffect → Wire
  | .send clientId type payload => if clientId = id then w.put type payload else w
  | .sendAndClose clientId type payload => if clientId = id then (w.put type payload).close else w
  | .close clientId => if clientId = id then w.close else w
  | _ => w

/-- What a client effect puts on the wire. -/
def Wire.carryClient (w : Wire) : ClientEffect → Wire
  | .send type payload => w.put type payload
  | .sendAndClose type payload => (w.put type payload).close
  | .close => w.close
  | _ => w

/-- The whole system. `hostCalls` and `clientCalls` are the callbacks queued for the Qt threads. -/
structure ConnectedPair where
  clientId : UInt32
  host : HostSession
  hostApp : HostCoordinator
  hostCalls : List HostEffect := []
  client : ClientSession
  clientApp : ClientCoordinator
  clientCalls : List ClientEffect := []
  toClient : Wire := {}
  toHost : Wire := {}

/-- The coordinator's invocation for a callback of the host's session. -/
def hostInvocation (m : KeyMaterial) : HostEffect → Option HostCoordinatorEvent
  | .onClientUpdated row => some (.clientUpdated row (some m.hostKeys) m.hostSalt)
  | .onInputPermissions clientId perms => some (.inputPermissions clientId perms)
  | .onAppMessage clientId type payload => some (.appMessage clientId type payload)
  | _ => none

/-- The coordinator's invocation for a callback of the client's session. -/
def clientInvocation (m : KeyMaterial) (connected : Bool) :
    ClientEffect → Option ClientCoordinatorEvent
  | .onState state => some (.state state connected (some m.clientKeys) m.clientSalt)
  | .onConnected status => some (.connectedToHost status.codec)
  | .onAppMessage type payload => some (.appMessage type payload)
  | _ => none

/-- One handler of one thread. -/
inductive PairEvent where
  | hostTask (now : Int)
  | hostFrame (now later : Int)
  | hostClosed
  | hostTick (now : Int)
  /-- The host's Qt thread takes the next callback. -/
  | hostCall
  | hostStreamBound (index : Nat) (udpPort : UInt16)
  | hostStreamResult (index : Nat) (ok : Bool) (err : Bytes)
  | hostStreamError (clientId : UInt32) (running : Bool)
  | clientTask
  | clientFrame (now later : Int)
  | clientClosed (lost : Option Bytes)
  | clientHeartbeat (now later : Int)
  /-- The client's Qt thread takes the next callback. -/
  | clientCall
  | clientStreamResult (ok : Bool) (err : Bytes)
  | clientWatchdog (running : Bool)
  /-- A `stop` of the client's session that has begun is completed. -/
  | clientEndStop

/-- What one of the four machines did. -/
inductive PairEffect where
  | host (eff : HostEffect)
  | hostApp (eff : HostCoordinatorEffect)
  | client (eff : ClientEffect)
  | clientApp (eff : ClientCoordinatorEffect)
deriving DecidableEq, Repr

namespace ConnectedPair

variable (c : Cng) (m : KeyMaterial)

/-- A call of the host's coordinator into its session. -/
def callHost (h : HostSession) : HostCoordinatorEffect → HostSession
  | .sendAppMessage clientId type payload => h.step (.sendAppMessage clientId type payload)
  | .kick clientId => h.step (.kickClient clientId (ascii "Kicked by host"))
  | _ => h

/-- A call of the client's coordinator into its session. -/
def callClient (k : ClientSession) : ClientCoordinatorEffect → ClientSession
  | .sendAppMessage type payload => k.step (.sendAppMessage type payload)
  | .disconnect => k.step .beginStop
  | _ => k

/-- An event of the host's session. -/
def onHost (s : ConnectedPair) (e : HostEvent) : ConnectedPair × List PairEffect :=
  let (host, out) := s.host.handle e
  ({ s with
      host := host
      hostCalls := s.hostCalls ++ out.filter (fun eff => (hostInvocation m eff).isSome)
      toClient := out.foldl (Wire.carryHost s.clientId) s.toClient },
    out.map .host)

/-- An invocation on the host's coordinator. -/
def onHostApp (s : ConnectedPair) (e : HostCoordinatorEvent) : ConnectedPair × List PairEffect :=
  let (hostApp, out) := s.hostApp.handle c e
  ({ s with hostApp := hostApp, host := out.foldl callHost s.host }, out.map .hostApp)

/-- An event of the client's session. -/
def onClient (s : ConnectedPair) (e : ClientEvent) : ConnectedPair × List PairEffect :=
  let (client, out) := s.client.handle e
  ({ s with
      client := client
      clientCalls := s.clientCalls ++ out.filter (fun eff => (clientInvocation m true eff).isSome)
      toHost := out.foldl Wire.carryClient s.toHost },
    out.map .client)

/-- An invocation on the client's coordinator. -/
def onClientApp (s : ConnectedPair) (e : ClientCoordinatorEvent) :
    ConnectedPair × List PairEffect :=
  let (clientApp, out) := s.clientApp.handle c e
  ({ s with clientApp := clientApp, client := out.foldl callClient s.client }, out.map .clientApp)

def setHostCalls (s : ConnectedPair) (calls : List HostEffect) : ConnectedPair :=
  { s with hostCalls := calls }

def setClientCalls (s : ConnectedPair) (calls : List ClientEffect) : ConnectedPair :=
  { s with clientCalls := calls }

def setToHost (s : ConnectedPair) (w : Wire) : ConnectedPair := { s with toHost := w }

def setToClient (s : ConnectedPair) (w : Wire) : ConnectedPair := { s with toClient := w }

/-- One step of the system. -/
def handle (s : ConnectedPair) (e : PairEvent) : ConnectedPair × List PairEffect :=
  match e with
  | .hostTask now => s.onHost m (.runTask now)
  | .hostFrame now later =>
      match s.toHost.frames with
      | [] => (s, [])
      | (type, payload) :: rest =>
          (s.setToHost { s.toHost with frames := rest }).onHost m
            (.frame s.clientId type payload now later)
  | .hostClosed => s.onHost m (.closed s.clientId)
  | .hostTick now => s.onHost m (.tick now)
  | .hostCall =>
      match s.hostCalls with
      | [] => (s, [])
      | call :: rest =>
          match hostInvocation m call with
          | none => (s.setHostCalls rest, [])
          | some e => (s.setHostCalls rest).onHostApp c e
  | .hostStreamBound index udpPort => s.onHostApp c (.streamBound index udpPort)
  | .hostStreamResult index ok err => s.onHostApp c (.streamResult index ok err)
  | .hostStreamError clientId running => s.onHostApp c (.streamError clientId running)
  | .clientTask => s.onClient m .runTask
  | .clientFrame now later =>
      match s.toClient.frames with
      | [] => (s, [])
      | (type, payload) :: rest =>
          (s.setToClient { s.toClient with frames := rest }).onClient m
            (.frame type payload now later)
  | .clientClosed lost => s.onClient m (.closed lost)
  | .clientHeartbeat now later => s.onClient m (.heartbeat now later)
  | .clientCall =>
      match s.clientCalls with
      | [] => (s, [])
      | call :: rest =>
          -- `client_->connected()` is the session's `running_`
          match clientInvocation m s.client.running call with
          | none => (s.setClientCalls rest, [])
          | some e => (s.setClientCalls rest).onClientApp c e
  | .clientStreamResult ok err => s.onClientApp c (.streamResult ok err)
  | .clientWatchdog running => s.onClientApp c (.watchdog running)
  | .clientEndStop => if s.client.stopping then s.onClient m .endStop else (s, [])

/-- The state after a step. -/
def step (s : ConnectedPair) (e : PairEvent) : ConnectedPair := (s.handle c m e).1

end ConnectedPair

end RemotePlay.App
