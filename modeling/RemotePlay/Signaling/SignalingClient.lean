import RemotePlay.Common.Json
import RemotePlay.Lib.OwnedThread

set_option autoImplicit false

/-! # The signaling client (`signaling/SignalingClient.cpp`)

A call writes a request and waits for a line in `pendingLine_`, a mailbox for one line, in which the
reader thread leaves every reply that it reads; notifications go to the handlers. A line is what
`json::parse` makes of it, since nothing else is done with its text. An exception that nothing catches
is `none`.

Log lines, error texts and the fields of the requests are left out: no code here reads them. -/

namespace RemotePlay.Signaling

/-! ## Results -/

structure HostRegisterResult where
  sessionId : Int := 0
  code : Bytes := []
  maxPlayers : Int := 4
  hostToken : Bytes := []
  relayTcpPort : Int := 0
  relayUdpPort : Int := 0
deriving DecidableEq, Repr

structure JoinResult where
  sessionId : Int := 0
  playerIndex : Int := 0
  hostName : Bytes := []
  token : Bytes := []
  relayTcpPort : Int := 0
  relayUdpPort : Int := 0
  hostPublicAddr : Bytes := []
  hostPublicPort : Int := 0
deriving DecidableEq, Repr

structure ClientJoined where
  playerIndex : Int := 0
  name : Bytes := []
  token : Bytes := []
  clientPublicAddr : Bytes := []
  clientPublicPort : Int := 0
deriving DecidableEq, Repr

/-- The address in `j[key]`, if there is one. -/
def publicEndpoint (j : Json) (key : String) : Option (Bytes × Int) :=
  match j.find? key with
  | some endpoint => do
      let addr ← endpoint.valueString "addr" []
      let port ← endpoint.valueInt "port" 0
      some (addr, port)
  | none => some ([], 0)

/-- What `hostRegister` makes of a line. -/
def hostRegistered (j : Json) : Option HostRegisterResult := do
  let type ← j.valueString "type" []
  if type ≠ ascii "host_registered" then none
  else
    let sessionId ← j.valueInt "session_id" 0
    let code ← j.valueString "code" []
    let maxPlayers ← j.valueInt "max_players" 4
    let hostToken ← j.valueString "host_token" []
    let relayTcpPort ← j.valueInt "relay_tcp_port" 0
    let relayUdpPort ← j.valueInt "relay_udp_port" 0
    some { sessionId, code, maxPlayers, hostToken, relayTcpPort, relayUdpPort }

/-- What `join` makes of a line. -/
def joined (j : Json) : Option JoinResult := do
  let type ← j.valueString "type" []
  if type ≠ ascii "joined" then none
  else
    let sessionId ← j.valueInt "session_id" 0
    let playerIndex ← j.valueInt "player_index" 0
    let hostName ← j.valueString "host_name" []
    let token ← j.valueString "token" []
    let relayTcpPort ← j.valueInt "relay_tcp_port" 0
    let relayUdpPort ← j.valueInt "relay_udp_port" 0
    let (hostPublicAddr, hostPublicPort) ← publicEndpoint j "host_public"
    some { sessionId, playerIndex, hostName, token, relayTcpPort, relayUdpPort, hostPublicAddr,
           hostPublicPort }

/-- The two calls that make a request. -/
inductive Request where
  | hostRegister
  | join
deriving DecidableEq, Repr

inductive CallResult where
  | hostRegistered (r : HostRegisterResult)
  | joined (r : JoinResult)
deriving DecidableEq, Repr

def Request.result : Request → Json → Option CallResult
  | .hostRegister, j => (hostRegistered j).map .hostRegistered
  | .join, j => (joined j).map .joined

/-! ## Lines -/

/-- A line; `request` is the request it answers, which no code knows. -/
structure Line where
  body : Option Json
  request : Option Nat

def responseTypes : List Bytes :=
  [ascii "host_registered", ascii "joined", ascii "join_rejected", ascii "error",
    ascii "keepalive_ok"]

/-- The type of a line, for `readerLoop`. -/
def typeOf : Option Json → Option Bytes
  | some j => j.valueString "type" []
  | none => some []

def isResponse (body : Option Json) : Bool := (typeOf body).any (fun type => type ∈ responseTypes)

/-- The handlers that are set. -/
structure Handlers where
  clientJoined : Bool := false
  clientLeft : Bool := false
  log : Bool := false
deriving DecidableEq, Repr

inductive Notified where
  | clientJoined (cj : ClientJoined)
  | clientLeft (playerIndex : Int)
  | log (message : Bytes)
deriving DecidableEq, Repr

/-- `handleNotification`: the calls of handlers, and whether `running_` is cleared. -/
def handleNotification (h : Handlers) : Option Json → Option (List Notified × Bool)
  | none => some ([], false)
  | some j => do
      let type ← j.valueString "type" []
      if type = ascii "client_joined" then
        if !h.clientJoined then some ([], false)
        else
          let playerIndex ← j.valueInt "player_index" (-1)
          let name ← j.valueString "name" []
          let token ← j.valueString "token" []
          let (clientPublicAddr, clientPublicPort) ← publicEndpoint j "client_public"
          some ([.clientJoined { playerIndex, name, token, clientPublicAddr, clientPublicPort }], false)
      else if type = ascii "client_left" then
        if !h.clientLeft then some ([], false)
        else
          let playerIndex ← j.valueInt "player_index" (-1)
          some ([.clientLeft playerIndex], false)
      else if type = ascii "session_closed" then
        some (if h.log then [.log (ascii "Session closed by host")] else [], true)
      else if type ∈ responseTypes then some ([], false)
      else some (if h.log then [.log (ascii "signaling: " ++ type)] else [], false)

/-! ## The client -/

/-- `thread` is `running_` with `readerThread_`, and `socket` says that there is a `socket_`. -/
structure SignalingClient where
  thread : OwnedThread := {}
  socket : Bool := false
  pendingLine : Option Line := none
  handlers : Handlers := {}

namespace SignalingClient

/-- What `connect` makes of the thread, behind its call of `disconnect`. -/
def startReader (t : OwnedThread) (connected : Bool) : OwnedThread × CallEnd :=
  if connected then t.launch else (t, .returned false)

/-- `connect` behind its call of `disconnect`. -/
def opened (c : SignalingClient) (connected : Bool) : SignalingClient × CallEnd :=
  let (thread, callEnd) := startReader c.thread connected
  ({ c with thread := thread, socket := connected }, callEnd)

/-- What `disconnect` makes of a client that is running. -/
def closed (c : SignalingClient) : SignalingClient :=
  { c with thread := c.thread.stop, socket := false }

/-- `writeLine` writes; `sent` is what becomes of that. -/
def writeLine (c : SignalingClient) (sent : Bool) : Bool := c.socket && c.thread.running && sent

/-- A line in `readerLoop`. A notification that clears the flag ends the loop. -/
def readerLine (c : SignalingClient) (line : Line) : Option SignalingClient :=
  match typeOf line.body with
  | none => none
  | some type =>
      if type ∈ responseTypes then some { c with pendingLine := some line }
      else
        match handleNotification c.handlers line.body with
        | none => none
        | some (_, closes) => some (if closes then { c with thread := c.thread.ended } else c)

/-- The end of `readerLoop`. -/
def readerEnd (c : SignalingClient) : SignalingClient := { c with thread := c.thread.ended }

end SignalingClient

end RemotePlay.Signaling
