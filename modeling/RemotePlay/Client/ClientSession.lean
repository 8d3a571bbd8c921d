import RemotePlay.Networking.Protocol

set_option autoImplicit false

/-! # The client's session (`client/ClientSession.cpp`)

One connection from `start` to its end, on its own network thread. As for the host, what happens on
the thread one handler at a time is an event, public methods post tasks, and each function returns
the new state and its effects in order. `stop` gives the `BYE` time to drain and then joins the
thread, so it is two events. Log lines are left out. -/

namespace RemotePlay.Client

open Proto (Envelope Body Id encodeMessage decodeMessage knownId)

/-- What `ClientSessionParams` says about the handshake. -/
structure ClientSessionParams where
  clientName : Bytes := ascii "Player"
  sessionCode : Bytes := []
  supportedCodecs : List VideoCodec := [.H264]
deriving DecidableEq, Repr

/-- `ClientStatus`. -/
structure ClientStatus where
  state : ConnectionState := .Disconnected
  hostName : Bytes := []
  gameName : Bytes := []
  codec : VideoCodec := .H264
  width : UInt32 := 0
  height : UInt32 := 0
  fps : UInt32 := 0
  bitrateKbps : UInt32 := 0
  rttMs : UInt32 := 0
  input : InputPermissions := {}
  lastError : Bytes := []
  bytesIn : UInt64 := 0
  bytesOut : UInt64 := 0
deriving DecidableEq, Repr

/-- A task posted onto the network thread. -/
inductive ClientTask where
  | sendAppMessage (type : UInt16) (payload : Bytes)
  /-- The farewell that `stop` posts. -/
  | bye
deriving DecidableEq, Repr

/-- What a handler does to the outside. -/
inductive ClientEffect where
  | send (type : UInt16) (payload : Bytes)
  | sendAndClose (type : UInt16) (payload : Bytes)
  | close
  | onState (state : ConnectionState)
  | onConnected (status : ClientStatus)
  | onDisconnected (reason : Bytes)
  | onError (message : Bytes)
  | onInputPermissions (perms : InputPermissions)
  | onAppMessage (type : UInt16) (payload : Bytes)
deriving DecidableEq, Repr

/-- `ClientSession`. `connection` says that `connection_` is not null, `appHandler` that
    `events_.onAppMessage` is set, `ioRunning` that the network thread still runs handlers, `joined`
    that `stop` has reaped it. Times are nanoseconds of the steady clock. -/
structure ClientSession where
  params : ClientSessionParams
  appHandler : Bool
  status : ClientStatus := { state := .Connecting }
  connection : Bool := false
  lastActivity : Int := 0
  tasks : List ClientTask := []
  running : Bool := true
  stopping : Bool := false
  ioRunning : Bool := true
  joined : Bool := false
deriving DecidableEq, Repr

def kHeartbeatTimeout : Int := 12 * 1000000000

/-- `steadyNowMs`, as a `uint64_t`. -/
def steadyNowMs (t : Int) : UInt64 := UInt64.ofInt (Int.tdiv t 1000000)

namespace ClientSession

def withStatus (s : ClientSession) (status : ClientStatus) : ClientSession :=
  { s with status := status }

def post (s : ClientSession) (task : ClientTask) : ClientSession :=
  { s with tasks := s.tasks ++ [task] }

/-- `send`: counts the payload and hands it to the connection. -/
def send (s : ClientSession) (msg : Envelope) : ClientSession × List ClientEffect :=
  if !s.connection then (s, [])
  else
    let payload := encodeMessage msg
    (s.withStatus
        { s.status with bytesOut := s.status.bytesOut + UInt64.ofNat payload.length },
      [.send msg.type.code payload])

/-- `setState`. -/
def setState (s : ClientSession) (state : ConnectionState) : ClientSession × List ClientEffect :=
  (s.withStatus { s.status with state := state }, [.onState state])

/-- `finish`, always with `notifyDisconnected`. -/
def finish (s : ClientSession) (finalState : ConnectionState) (reason : Bytes) :
    ClientSession × List ClientEffect :=
  let status :=
    { s.status with
      state := finalState
      lastError := if reason.isEmpty then s.status.lastError else reason }
  ({ s with status := status, connection := false, running := false, ioRunning := false },
    [.onState finalState] ++ (if s.connection then [.close] else []) ++ [.onDisconnected reason])

/-- An error report followed by `finish`. -/
def failWith (s : ClientSession) (message : Bytes) : ClientSession × List ClientEffect :=
  let (s, out) := s.finish .Disconnected message
  (s, .onError message :: out)

/-- `sendHello`. -/
def sendHello (s : ClientSession) : ClientSession × List ClientEffect :=
  s.send
    { type := .ClientHello
      body := .clientHello
        { clientName := s.params.clientName
          sessionCode := s.params.sessionCode
          appVersion := kAppVersion } }

/-- `handleConnected`. -/
def handleConnected (s : ClientSession) (now : Int) : ClientSession × List ClientEffect :=
  let s := { s with
    connection := true
    lastActivity := now
    status := { s.status with bytesIn := 0, bytesOut := 0 } }
  let (s, hello) := s.sendHello
  let (s, out) := s.setState .Authenticating
  (s, hello ++ out)

/-! ## Frames -/

/-- `handleHostCapabilities`. -/
def handleHostCapabilities (s : ClientSession) (caps : Proto.Msg.HostCapabilities) :
    ClientSession × List ClientEffect :=
  let s := s.withStatus
    { s.status with
      hostName := caps.hostName
      gameName := caps.gameName
      width := caps.width.toUInt32
      height := caps.height.toUInt32
      fps := caps.fps.toUInt32
      bitrateKbps := caps.bitrateKbps }
  s.send
    { type := .ClientCapabilities
      body := .clientCapabilities { supportedCodecs := s.params.supportedCodecs } }

/-- `handleNegotiation`. A failure is reported after `finish` here. -/
def handleNegotiation (s : ClientSession) (result : Proto.Msg.NegotiationResult) :
    ClientSession × List ClientEffect :=
  if !result.accepted then
    let message := ascii "Codec negotiation failed: " ++ result.note
    let (s, out) := s.finish .Disconnected message
    (s, out ++ [.onError message])
  else
    let s := s.withStatus
      { s.status with
        codec := ⟨result.codec⟩
        width := result.width.toUInt32
        height := result.height.toUInt32
        fps := result.fps.toUInt32
        bitrateKbps := result.bitrateKbps
        state := .Connected }
    let (s, out) := s.setState .Connected
    (s, out ++ [.onConnected s.status])

/-- `handleHostReject`. -/
def handleHostReject (s : ClientSession) (reject : Proto.Msg.HostReject) :
    ClientSession × List ClientEffect :=
  let message := ascii "Host rejected: " ++ reject.reasonText
  let (s, out) := s.finish .Disconnected message
  (s, out ++ [.onError message])

/-- `handleKick`. -/
def handleKick (s : ClientSession) (kick : Proto.Msg.Kick) : ClientSession × List ClientEffect :=
  s.finish .Disconnected (ascii "Kicked by host: " ++ kick.reason)

/-- `handlePing`. -/
def handlePing (s : ClientSession) (ping : Proto.Msg.Ping) : ClientSession × List ClientEffect :=
  s.send { type := .Pong, body := .pong { echoEpochMs := ping.epochMs } }

/-- `handlePong`. -/
def handlePong (s : ClientSession) (pong : Proto.Msg.Pong) (now : Int) : ClientSession :=
  let sample := if pong.echoEpochMs < steadyNowMs now then
    (steadyNowMs now - pong.echoEpochMs).toUInt32 else 0
  s.withStatus
    { s.status with
      rttMs := if s.status.rttMs = 0 then sample else (s.status.rttMs * 7 + sample) / 8 }

/-- `handleInputPermission`. -/
def handleInputPermission (s : ClientSession) (m : Proto.Msg.InputPermission) :
    ClientSession × List ClientEffect :=
  let perms : InputPermissions :=
    { controller := m.controller
      keyboard := m.keyboard
      mouse := m.mouse
      vibration := m.vibration }
  (s.withStatus { s.status with input := perms }, [.onInputPermissions perms])

/-- The `default` branch: messages of the application range are forwarded once connected, others are
    ignored. -/
def handleOther (s : ClientSession) (type : UInt16) (payload : Bytes) : List ClientEffect :=
  if 0x0010 ≤ type ∧ s.status.state = .Connected ∧ s.appHandler then [.onAppMessage type payload]
  else []

/-- The `switch` of `handleFrame`. -/
def dispatch (s : ClientSession) (type : UInt16) (payload : Bytes) (now : Int) (body : Body) :
    ClientSession × List ClientEffect :=
  match body with
  | .hostReject m => s.handleHostReject m
  | .hostApproved => (s, [])
  | .hostCapabilities m => s.handleHostCapabilities m
  | .negotiationResult m => s.handleNegotiation m
  | .ping m => s.handlePing m
  | .pong m => (s.handlePong m now, [])
  | .inputPermission m => s.handleInputPermission m
  | .kick m => s.handleKick m
  | .bye _ => s.finish .Disconnected (ascii "Host closed the session")
  | _ => (s, s.handleOther type payload)

/-- The report on a frame of unknown type. -/
def unknownTypeError (type : UInt16) : Bytes :=
  ascii "Host sent an unknown message type (0x" ++ ascii (toString type.toNat) ++ ascii ")"

/-- The report on a frame that does not decode. -/
def malformedError : Bytes := ascii "Host sent a malformed message"

/-- `handleFrame`. `now` is the reading for `lastActivity_`, `later` the one `handlePong` takes. -/
def handleFrame (s : ClientSession) (type : UInt16) (payload : Bytes) (now later : Int) :
    ClientSession × List ClientEffect :=
  if s.stopping then (s, [])
  else
    let s := { s with lastActivity := now }
    if !knownId type then s.failWith (unknownTypeError type)
    else
      match decodeMessage type payload with
      | none => s.failWith malformedError
      | some env => s.dispatch type payload later env.body

/-- `handleClosed`: `lost` is the error's text unless the connection ended cleanly. -/
def handleClosed (s : ClientSession) (lost : Option Bytes) : ClientSession × List ClientEffect :=
  if s.stopping then (s, [])
  else
    match lost with
    | none => s.finish .Disconnected (ascii "Connection closed by host")
    | some text => s.finish .Disconnected (ascii "Connection lost: " ++ text)

/-- `startHeartbeat`: the watchdog, then a ping once connected. -/
def startHeartbeat (s : ClientSession) (now later : Int) : ClientSession × List ClientEffect :=
  if s.stopping then (s, [])
  else if kHeartbeatTimeout < now - s.lastActivity then
    s.finish .Disconnected (ascii "Connection timed out (no data from host)")
  else if s.status.state = .Connected ∨ s.status.state = .Streaming then
    s.send { type := .Ping, body := .ping { epochMs := steadyNowMs later } }
  else (s, [])

/-- One posted task. -/
def runTask (s : ClientSession) (task : ClientTask) : List ClientEffect :=
  match task with
  | .sendAppMessage type payload => if s.connection then [.send type payload] else []
  | .bye =>
      if s.connection then
        [.sendAndClose Id.Bye.code (encodeMessage
          { type := .Bye, body := .bye { reason := ascii "Disconnected by user" } })]
      else []

end ClientSession

/-! ## The machine -/

/-- What can happen to a session. -/
inductive ClientEvent where
  | sendAppMessage (type : UInt16) (payload : Bytes)
  /-- The network thread takes the next posted task. -/
  | runTask
  | connected (now : Int)
  /-- The connect attempt, direct or through the relay, failed with this report. -/
  | connectFailed (message : Bytes)
  | frame (type : UInt16) (payload : Bytes) (now later : Int)
  | closed (lost : Option Bytes)
  | heartbeat (now later : Int)
  /-- `stop` up to the point where it waits for the `BYE` to drain. -/
  | beginStop
  /-- The rest of `stop`. -/
  | endStop
deriving DecidableEq, Repr

namespace ClientSession

/-- One event. The network thread's handlers run only while its loop does. -/
def handle (s : ClientSession) (e : ClientEvent) : ClientSession × List ClientEffect :=
  match e with
  | .sendAppMessage type payload =>
      if type < 0x0010 then (s, []) else (s.post (.sendAppMessage type payload), [])
  | .runTask =>
      if !s.ioRunning then (s, [])
      else
        match s.tasks with
        | [] => (s, [])
        | task :: rest => ({ s with tasks := rest }, s.runTask task)
  | .connected now => if !s.ioRunning then (s, []) else s.handleConnected now
  | .connectFailed message => if !s.ioRunning then (s, []) else s.failWith message
  | .frame type payload now later =>
      if !s.ioRunning then (s, []) else s.handleFrame type payload now later
  | .closed lost => if !s.ioRunning then (s, []) else s.handleClosed lost
  | .heartbeat now later => if !s.ioRunning then (s, []) else s.startHeartbeat now later
  | .beginStop =>
      if s.running then ({ s with running := false, stopping := true }.post .bye, []) else (s, [])
  | .endStop =>
      if s.joined then (s, [])
      else
        let t := { s with ioRunning := false, connection := false, joined := true }
        if s.stopping then
          (t.withStatus { s.status with state := .Disconnected },
            [.onDisconnected (ascii "Disconnected")])
        else (t, [])

/-- The state after an event. -/
def step (s : ClientSession) (e : ClientEvent) : ClientSession := (s.handle e).1

/-- A session right after `start`. -/
def started (params : ClientSessionParams) (appHandler : Bool) : ClientSession :=
  { params := params, appHandler := appHandler }

end ClientSession

end RemotePlay.Client
