import Std.Data.TreeMap
import RemotePlay.Networking.Protocol
import RemotePlay.Security.SessionCodes

set_option autoImplicit false

/-! # The host's session (`host/HostSession.cpp`)

The session runs on one network thread. What happens there, one handler at a time, is a `HostEvent`:
a new connection, a frame, a closed connection, the housekeeping timer, or the next posted task. The
public methods run on any thread and only post a task, so they are events of their own. Clock
readings and whatever the network delivers are part of the event.

Each function returns the new state and the effects in the order the code causes them: frames handed
to a connection and events reported to the application. Log lines are left out. -/

namespace RemotePlay.Host

open Proto (Envelope Body Id Reason encodeMessage decodeMessage knownId negotiateCodec)

/-- `HostSessionParams`, without the listen port. -/
structure HostSessionParams where
  hostName : Bytes := ascii "Host"
  gameName : Bytes := []
  captureMode : CaptureMode := .Window
  resolution : Resolution := {}
  fps : UInt32 := 60
  bitrateKbps : UInt32 := 8000
  preferredCodec : VideoCodec := .H264
  autoApprove : Bool := false
  inputDefaults : InputPermissions := {}
  maxClients : Nat := kMaxClients
deriving DecidableEq, Repr

/-- `ClientRow`. -/
structure ClientRow where
  id : UInt32 := 0
  name : Bytes := []
  state : ConnectionState := .Disconnected
  rttMs : UInt32 := 0
  inputEnabled : Bool := true
  address : Bytes := []
deriving DecidableEq, Repr

/-- `HostSession::ClientRecord`. The connection is named by the id; times are nanoseconds of the
    steady clock. -/
structure ClientRecord where
  id : UInt32 := 0
  name : Bytes := []
  state : ConnectionState := .Connecting
  lastActivity : Int := 0
  lastHostPing : Int := 0
  input : InputPermissions := {}
  rttMs : UInt32 := 0
  address : Bytes := []
deriving DecidableEq, Repr

def seconds (n : Int) : Int := n * 1000000000

def kHelloTimeout : Int := seconds 10
def kApprovalTimeout : Int := seconds 75
def kHeartbeatTimeout : Int := seconds 15
def kPingPeriod : Int := seconds 2

/-- `sinceEpochMs`: milliseconds, kept to 32 bits. -/
def sinceEpochMs (t : Int) : UInt32 := UInt32.ofInt (Int.tdiv t 1000000)

/-- A message type of the application range, the only ones `sendAppMessage` takes. -/
def AppType : Type := { type : UInt16 // 0x0010 ≤ type }

instance : DecidableEq AppType := inferInstanceAs (DecidableEq { type : UInt16 // 0x0010 ≤ type })

instance : Repr AppType := inferInstanceAs (Repr { type : UInt16 // 0x0010 ≤ type })

/-- A task posted onto the network thread. -/
inductive HostTask where
  | approveClient (clientId : UInt32) (accept : Bool)
  | kickClient (clientId : UInt32) (reason : Bytes)
  | setClientInput (clientId : UInt32) (enableAll : Bool)
  | sendAppMessage (clientId : UInt32) (type : AppType) (payload : Bytes)
  | attachConnection (address : Bytes)
  /-- The task that `stop` posts. -/
  | shutdown
deriving DecidableEq, Repr

/-- What a handler does to the outside. -/
inductive HostEffect where
  | send (clientId : UInt32) (type : UInt16) (payload : Bytes)
  | sendAndClose (clientId : UInt32) (type : UInt16) (payload : Bytes)
  | close (clientId : UInt32)
  /-- A connection that arrives while the session is stopping is closed at once. -/
  | refuseConnection
  | stopListening
  | onApprovalRequest (clientId : UInt32) (name : Bytes)
  | onClientUpdated (row : ClientRow)
  | onInputPermissions (clientId : UInt32) (perms : InputPermissions)
  | onAppMessage (clientId : UInt32) (type : UInt16) (payload : Bytes)
  | onStopped
deriving DecidableEq, Repr

/-- `HostSession`, once `start` has succeeded. `appHandler` says whether `events_.onAppMessage` is
    set; `running` ends when `stop` has joined the network thread. -/
structure HostSession where
  params : HostSessionParams
  sessionCode : Bytes
  appHandler : Bool
  clients : Std.TreeMap UInt32 ClientRecord := {}
  snapshot : List ClientRow := []
  nextClientId : UInt32 := 1
  tasks : List HostTask := []
  stopping : Bool := false
  running : Bool := true

namespace HostSession

/-! ## Small steps -/

def withClients (s : HostSession) (clients : Std.TreeMap UInt32 ClientRecord) : HostSession :=
  { s with clients := clients }

/-- `asio::post`. -/
def post (s : HostSession) (task : HostTask) : HostSession := { s with tasks := s.tasks ++ [task] }

/-- The row of a record in the published table. -/
def rowOf (id : UInt32) (rec : ClientRecord) : ClientRow :=
  { id := id
    name := rec.name
    state := rec.state
    rttMs := rec.rttMs
    inputEnabled := !rec.input.allDisabled
    address := rec.address }

/-- `rebuildSnapshot`. -/
def rebuildSnapshot (s : HostSession) : HostSession :=
  { s with snapshot := s.clients.toList.map (fun entry => rowOf entry.1 entry.2) }

/-- `sendTo`. -/
def sendTo (s : HostSession) (clientId : UInt32) (msg : Envelope) : List HostEffect :=
  if clientId ∈ s.clients then [.send clientId msg.type.code (encodeMessage msg)] else []

/-- `sendAndClose`. -/
def sendAndClose (s : HostSession) (clientId : UInt32) (msg : Envelope) : List HostEffect :=
  if clientId ∈ s.clients then [.sendAndClose clientId msg.type.code (encodeMessage msg)] else []

/-- `setState`. -/
def setState (s : HostSession) (clientId : UInt32) (state : ConnectionState) :
    HostSession × List HostEffect :=
  match s.clients[clientId]? with
  | none => (s, [])
  | some rec =>
      let s :=
        (s.withClients (s.clients.insert clientId { rec with state := state })).rebuildSnapshot
      (s, [.onClientUpdated ((s.snapshot.find? (fun row => row.id == clientId)).getD {})])

/-- `pushInputPermissions`. -/
def pushInputPermissions (s : HostSession) (clientId : UInt32) : List HostEffect :=
  match s.clients[clientId]? with
  | none => []
  | some rec =>
      s.sendTo clientId
          { type := .InputPermission
            body := .inputPermission
              { controller := rec.input.controller
                keyboard := rec.input.keyboard
                mouse := rec.input.mouse
                vibration := rec.input.vibration } } ++
        [.onInputPermissions clientId rec.input]

/-- `dropClient`. -/
def dropClient (s : HostSession) (clientId : UInt32) (sendReject : Bool) (reason : Reason)
    (text : Bytes) : HostSession × List HostEffect :=
  match s.clients[clientId]? with
  | none => (s, [])
  | some _ =>
      let farewell :=
        if sendReject then
          s.sendAndClose clientId
            { type := .HostReject
              body := .hostReject { reasonCode := reason.code, reasonText := text } }
        else [.close clientId]
      let (s, updated) := s.setState clientId .Disconnected
      ((s.withClients (s.clients.erase clientId)).rebuildSnapshot, farewell ++ updated)

/-! ## Posted tasks -/

/-- The capabilities `approveClient` announces; `std::unique` removes a repeated neighbour. -/
def hostCapabilities (params : HostSessionParams) : Proto.Msg.HostCapabilities :=
  { hostName := params.hostName
    gameName := params.gameName
    captureMode := params.captureMode.code
    width := params.resolution.width.toUInt16
    height := params.resolution.height.toUInt16
    fps := (min params.fps 255).toUInt8
    bitrateKbps := params.bitrateKbps
    offeredCodecs :=
      if params.preferredCodec = .H264 then [params.preferredCodec]
      else [params.preferredCodec, .H264] }

/-- The task of `approveClient`. -/
def runApproveClient (s : HostSession) (clientId : UInt32) (accept : Bool) (now : Int) :
    HostSession × List HostEffect :=
  match s.clients[clientId]? with
  | none => (s, [])
  | some rec =>
      if rec.state ≠ .Authenticating then (s, [])
      else if !accept then
        s.dropClient clientId true .RejectedByHost (ascii "The host rejected your join request.")
      else
        let out := s.sendTo clientId { type := .HostApproved, body := .hostApproved } ++
          s.sendTo clientId
            { type := .HostCapabilities, body := .hostCapabilities (hostCapabilities s.params) }
        (s.withClients (s.clients.insert clientId { rec with lastActivity := now }), out)

/-- The task of `kickClient`. -/
def runKickClient (s : HostSession) (clientId : UInt32) (reason : Bytes) :
    HostSession × List HostEffect :=
  match s.clients[clientId]? with
  | none => (s, [])
  | some _ =>
      let out := s.sendAndClose clientId { type := .Kick, body := .kick { reason := reason } }
      let (s, updated) := s.setState clientId .Disconnected
      (s, out ++ updated)

/-- The task of `setClientInput`. -/
def runSetClientInput (s : HostSession) (clientId : UInt32) (enableAll : Bool) :
    HostSession × List HostEffect :=
  match s.clients[clientId]? with
  | none => (s, [])
  | some rec =>
      let input : InputPermissions :=
        if enableAll then s.params.inputDefaults
        else { controller := false, keyboard := false, mouse := false, vibration := false }
      let s := s.withClients (s.clients.insert clientId { rec with input := input })
      (s, s.pushInputPermissions clientId)

/-- The task of `sendAppMessage`: "raw frame; caller pre-encodes". -/
def runSendAppMessage (s : HostSession) (clientId : UInt32) (type : AppType) (payload : Bytes) :
    List HostEffect :=
  if clientId ∈ s.clients then [.send clientId type.1 payload] else []

/-- `handleNewConnection`. The id counter wraps; a record under the same id is replaced. -/
def handleNewConnection (s : HostSession) (address : Bytes) (now : Int) :
    HostSession × List HostEffect :=
  if s.stopping then (s, [.refuseConnection])
  else
    let id := s.nextClientId
    let record : ClientRecord :=
      { id := id
        name := ascii "pending"
        state := .Connecting
        lastActivity := now
        address := address }
    (({ s with nextClientId := id + 1 }.withClients
        (s.clients.insert id record)).rebuildSnapshot, [])

/-- One posted task on the network thread. -/
def runTask (s : HostSession) (task : HostTask) (now : Int) : HostSession × List HostEffect :=
  match task with
  | .approveClient clientId accept => s.runApproveClient clientId accept now
  | .kickClient clientId reason => s.runKickClient clientId reason
  | .setClientInput clientId enableAll => s.runSetClientInput clientId enableAll
  | .sendAppMessage clientId type payload => (s, s.runSendAppMessage clientId type payload)
  | .attachConnection address => s.handleNewConnection address now
  | .shutdown => (s, .stopListening :: s.clients.keys.map .close)

/-! ## Frames -/

/-- The name a client is listed under. -/
def helloName (hello : Proto.Msg.ClientHello) : Bytes :=
  if hello.clientName.isEmpty then ascii "Player" else hello.clientName

/-- `handleClientHello` from the point where the record has its name. -/
def admitHello (s : HostSession) (clientId : UInt32) (record : ClientRecord)
    (hello : Proto.Msg.ClientHello) : HostSession × List HostEffect :=
  if s.params.maxClients < s.clients.size then
    s.dropClient clientId true .ServerFull
      (ascii "The session already has the maximum number of players.")
  else if !Security.verifySessionCode hello.sessionCode s.sessionCode then
    s.dropClient clientId true .BadSessionCode (ascii "Invalid session code.")
  else
    let record := { record with state := .Authenticating, input := s.params.inputDefaults }
    let s := (s.withClients (s.clients.insert clientId record)).rebuildSnapshot
    if s.params.autoApprove then (s.post (.approveClient clientId true), [])
    else (s, [.onApprovalRequest clientId record.name])

/-- `handleClientHello`; a second hello is ignored. -/
def handleClientHello (s : HostSession) (clientId : UInt32) (hello : Proto.Msg.ClientHello) :
    HostSession × List HostEffect :=
  match s.clients[clientId]? with
  | none => (s, [])
  | some record =>
      if record.state ≠ .Connecting then (s, [])
      else
        let record := { record with name := helloName hello }
        (s.withClients (s.clients.insert clientId record)).admitHello clientId record hello

/-- The codec the host and a client with these capabilities agree on. -/
def negotiated (params : HostSessionParams) (caps : Proto.Msg.ClientCapabilities) :
    Option VideoCodec :=
  negotiateCodec [params.preferredCodec, .H264] caps.supportedCodecs

/-- The `NegotiationResult` that `handleClientCapabilities` fills in. -/
def negotiationResult (params : HostSessionParams) (negotiated : Option VideoCodec) :
    Proto.Msg.NegotiationResult :=
  match negotiated with
  | none => { note := ascii "No common video codec between host and client." }
  | some codec =>
      { accepted := true
        codec := codec.code
        width := params.resolution.width.toUInt16
        height := params.resolution.height.toUInt16
        fps := (min params.fps 255).toUInt8
        bitrateKbps := params.bitrateKbps
        note := videoCodecString codec }

/-- `handleClientCapabilities`. -/
def handleClientCapabilities (s : HostSession) (clientId : UInt32)
    (caps : Proto.Msg.ClientCapabilities) : HostSession × List HostEffect :=
  match s.clients[clientId]? with
  | none => (s, [])
  | some rec =>
      -- the record is `Authenticating` before the host's decision and after it
      if rec.state ≠ .Authenticating then (s, [])
      else
        let out := s.sendTo clientId
          { type := .NegotiationResult
            body := .negotiationResult (negotiationResult s.params (negotiated s.params caps)) }
        match negotiated s.params caps with
        | none =>
            let (s, dropped) := s.dropClient clientId true .NoCommonCodec (ascii "No common codec.")
            (s, out ++ dropped)
        | some _ =>
            let (s, updated) := s.setState clientId .Connected
            (s, out ++ updated ++ s.pushInputPermissions clientId)

/-- `handlePing`. -/
def handlePing (s : HostSession) (clientId : UInt32) (ping : Proto.Msg.Ping) : List HostEffect :=
  s.sendTo clientId { type := .Pong, body := .pong { echoEpochMs := ping.epochMs } }

/-- `handlePong`: exponential smoothing in 32 bits. -/
def handlePong (s : HostSession) (clientId : UInt32) (pong : Proto.Msg.Pong) (now : Int) :
    HostSession :=
  match s.clients[clientId]? with
  | none => s
  | some rec =>
      let sample := sinceEpochMs now - pong.echoEpochMs.toUInt32
      let rttMs := if rec.rttMs = 0 then sample else (rec.rttMs * 7 + sample) / 8
      (s.withClients (s.clients.insert clientId { rec with rttMs := rttMs })).rebuildSnapshot

/-- `handleBye`. -/
def handleBye (s : HostSession) (clientId : UInt32) (bye : Proto.Msg.Bye) :
    HostSession × List HostEffect := s.dropClient clientId false .Ok bye.reason

/-- The `default` branch of `handleFrame`: messages of the application range go to the application
    once the client is connected. -/
def handleOther (s : HostSession) (clientId : UInt32) (type : UInt16) (payload : Bytes) :
    HostSession × List HostEffect :=
  let connected := (s.clients[clientId]?).any (fun rec => rec.state == .Connected)
  if 0x0010 ≤ type ∧ connected ∧ s.appHandler then (s, [.onAppMessage clientId type payload])
  else
    s.dropClient clientId true .ProtocolError (ascii "Unexpected message in current state.")

/-- The `switch` of `handleFrame`; `decodeMessage` fills in the alternative of the type it was
    given. -/
def dispatch (s : HostSession) (clientId : UInt32) (type : UInt16) (payload : Bytes) (now : Int)
    (body : Body) : HostSession × List HostEffect :=
  match body with
  | .clientHello hello => s.handleClientHello clientId hello
  | .clientCapabilities caps => s.handleClientCapabilities clientId caps
  | .ping ping => (s, s.handlePing clientId ping)
  | .pong pong => (s.handlePong clientId pong now, [])
  | .bye bye => s.handleBye clientId bye
  | _ => s.handleOther clientId type payload

/-- `handleFrame`. `now` is the reading for `lastActivity`, `later` the one `handlePong` takes. -/
def handleFrame (s : HostSession) (clientId : UInt32) (type : UInt16) (payload : Bytes)
    (now later : Int) : HostSession × List HostEffect :=
  if s.stopping then (s, [])
  else if !knownId type then
    s.dropClient clientId true .ProtocolError (ascii "Unknown message type.")
  else
    match s.clients[clientId]? with
    | none => (s, [])
    | some rec =>
        let s := s.withClients (s.clients.insert clientId { rec with lastActivity := now })
        match decodeMessage type payload with
        | none => s.dropClient clientId true .ProtocolError (ascii "Malformed message.")
        | some env => s.dispatch clientId type payload later env.body

/-- `handleClientClosed`. -/
def handleClientClosed (s : HostSession) (clientId : UInt32) : HostSession × List HostEffect :=
  if s.stopping then (s, [])
  else
    match s.clients[clientId]? with
    | none => (s, [])
    | some rec =>
        let row : ClientRow :=
          { id := clientId
            name := rec.name
            state := .Disconnected
            inputEnabled := !rec.input.allDisabled
            address := rec.address }
        ((s.withClients (s.clients.erase clientId)).rebuildSnapshot, [.onClientUpdated row])

/-! ## Housekeeping -/

/-- Whether a record has been silent for too long in its state. -/
def timedOut (rec : ClientRecord) (now : Int) : Bool :=
  let idle := now - rec.lastActivity
  match rec.state with
  | .Connecting => decide (kHelloTimeout < idle)
  | .Authenticating => decide (kApprovalTimeout < idle)
  | .Connected | .Streaming => decide (kHeartbeatTimeout < idle)
  | .Disconnected => false

/-- Whether the host probes this client's round trip now. -/
def pingDue (rec : ClientRecord) (now : Int) : Bool :=
  (rec.state == .Connected || rec.state == .Streaming) &&
    (rec.lastHostPing == 0 || decide (kPingPeriod ≤ now - rec.lastHostPing))

/-- The body of the first loop of `housekeeping`, for the record under `id`. -/
def probe (s : HostSession) (now : Int) (id : UInt32) : HostSession × List HostEffect :=
  match s.clients[id]? with
  | none => (s, [])
  | some rec =>
      if pingDue rec now then
        let s := s.withClients (s.clients.insert id { rec with lastHostPing := now })
        (s, s.sendTo id
          { type := .Ping, body := .ping { epochMs := (sinceEpochMs now).toUInt64 } })
      else (s, [])

/-- A loop over client ids that collects effects. -/
def forIds (f : HostSession → UInt32 → HostSession × List HostEffect) :
    HostSession → List UInt32 → HostSession × List HostEffect
  | s, [] => (s, [])
  | s, id :: ids =>
      let (s, out) := f s id
      let (s, rest) := forIds f s ids
      (s, out ++ rest)

/-- `housekeeping`; its timer only calls it while the session is not stopping. -/
def housekeeping (s : HostSession) (now : Int) : HostSession × List HostEffect :=
  if s.stopping then (s, [])
  else
    let ids := s.clients.keys
    let toDrop := ids.filter (fun id => (s.clients[id]?).any (fun rec => timedOut rec now))
    let (s, probes) := forIds (fun s id => s.probe now id) s ids
    let (s, drops) := forIds (fun s id => s.dropClient id true .InactivityTimeout
      (ascii "Connection timed out.")) s toDrop
    (s, probes ++ drops)

end HostSession

/-! ## The machine -/

/-- What can happen to a session. -/
inductive HostEvent where
  | approveClient (clientId : UInt32) (accept : Bool)
  | kickClient (clientId : UInt32) (reason : Bytes)
  | setClientInput (clientId : UInt32) (enableAll : Bool)
  | sendAppMessage (clientId : UInt32) (type : UInt16) (payload : Bytes)
  | attachConnection (address : Bytes)
  /-- The network thread takes the next posted task. -/
  | runTask (now : Int)
  | newConnection (address : Bytes) (now : Int)
  | frame (clientId : UInt32) (type : UInt16) (payload : Bytes) (now later : Int)
  | closed (clientId : UInt32)
  | tick (now : Int)
  /-- `stop` up to the point where it stops the network thread. -/
  | beginStop
  /-- The rest of `stop`. -/
  | endStop
deriving DecidableEq, Repr

namespace HostSession

/-- One event. The network thread's handlers run only while it does. -/
def handle (s : HostSession) (e : HostEvent) : HostSession × List HostEffect :=
  match e with
  | .approveClient clientId accept => (s.post (.approveClient clientId accept), [])
  | .kickClient clientId reason => (s.post (.kickClient clientId reason), [])
  | .setClientInput clientId enableAll => (s.post (.setClientInput clientId enableAll), [])
  | .sendAppMessage clientId type payload =>
      if h : 0x0010 ≤ type then (s.post (.sendAppMessage clientId ⟨type, h⟩ payload), [])
      else (s, [])
  | .attachConnection address => (s.post (.attachConnection address), [])
  | .runTask now =>
      if !s.running then (s, [])
      else
        match s.tasks with
        | [] => (s, [])
        | task :: rest => { s with tasks := rest }.runTask task now
  | .newConnection address now =>
      if !s.running then (s, []) else s.handleNewConnection address now
  | .frame clientId type payload now later =>
      if !s.running then (s, []) else s.handleFrame clientId type payload now later
  | .closed clientId => if !s.running then (s, []) else s.handleClientClosed clientId
  | .tick now => if !s.running then (s, []) else s.housekeeping now
  | .beginStop =>
      if s.stopping then (s, []) else ({ s with stopping := true }.post .shutdown, [])
  | .endStop =>
      if s.stopping ∧ s.running then
        ({ s with running := false, clients := {}, snapshot := [] }, [.onStopped])
      else (s, [])

/-- The state after an event. -/
def step (s : HostSession) (e : HostEvent) : HostSession := (s.handle e).1

/-- A session right after `start`. -/
def started (params : HostSessionParams) (sessionCode : Bytes) (appHandler : Bool) : HostSession :=
  { params := params, sessionCode := sessionCode, appHandler := appHandler }

end HostSession

end RemotePlay.Host
