import RemotePlay.Server.TcpRelay
import RemotePlay.Server.UdpRelay

set_option autoImplicit false

/-! # The signaling server (`server/signaling-server/server.py`)

One coroutine serves each signaling connection, and it can be suspended at an `await` and nowhere
else. An event takes one coroutine from the `await` at which it stands to the next one, or is the
work of another task of the loop: a pass of `expiry_loop`, an event of the TCP relay, a datagram. An
event carries what the code reads from outside: clocks, random draws, the peer's address, and the
outcome of calls that may raise.

`send_json` raises nothing, so that sending is handing a message over; `sent` lists the messages
handed over so far. Log lines are left out. -/

namespace RemotePlay.Server

/-- The two roles of a signaling connection. -/
inductive Role where
  | host
  | client
deriving DecidableEq, Repr

/-- The messages that the server sends. -/
inductive Message where
  | error (reason : String)
  | keepaliveOk
  | hostRegistered (sessionId : Nat) (code : String) (maxPlayers : Nat) (hostToken : String)
      (relayTcpPort relayUdpPort : Nat)
  | joinRejected (reason : String)
  | joined (sessionId playerIndex : Nat) (hostName token : String) (relayTcpPort relayUdpPort : Nat)
      (hostPublic : Address)
  | clientJoined (playerIndex : Nat) (name token : String) (clientPublic : Address)
  | clientLeft (playerIndex : Nat)
  | sessionClosed (reason : String)
deriving DecidableEq, Repr

/-- The messages that the server handles. A name is the text of the field, if there is one, and a
    code the text after `[:16].strip().upper()`. -/
inductive Request where
  | hostRegister (name : Option String)
  | join (code : String) (name : Option String)
  | keepalive
  | leave
  /-- Any other type, with its `repr`. -/
  | unknown (type : String)
deriving DecidableEq, Repr

/-- What `readline` and `json.loads` come to. -/
inductive Line where
  /-- Blank, or longer than 65536 bytes. -/
  | skipped
  | badJson
  | request (msg : Request)
  /-- The end of the stream, or anything that raises. -/
  | ended
deriving DecidableEq, Repr

/-- What the handlers read from outside. -/
structure Readings where
  /-- The clock in `expire_old` and in `create`. -/
  now : Int := 0
  createdAt : Int := 0
  /-- The codes that `create` draws. -/
  draws : List String := []
  /-- What `secrets.token_hex` draws. -/
  token : String := ""
  publicAddress : Address := {}
deriving DecidableEq, Repr

/-- The `await` at which the coroutine of a connection stands. A leave that is part of
    `on_disconnect` is `closing`. -/
inductive Task where
  | unconnected
  | readline
  /-- Sending a message, with nothing to do after it. -/
  | reply
  | startServer (s : SessionRef)
  | createDatagramEndpoint (s : SessionRef) (tcpPort : Nat)
  /-- Sending `joined`. -/
  | joined (s : SessionRef) (slot : ClientSlot)
  /-- Sending `client_left`, with the items that are still to be looked at. -/
  | clientLeft (s : SessionRef) (rest : List (Nat × ClientSlot)) (closing : Bool)
  /-- Sending `session_closed`: the dictionary over which the loop began to iterate, and the values
      that are still to come. -/
  | sessionClosed (s : SessionRef) (clients : Dict Nat ClientSlot) (rest : List ClientSlot)
      (closing : Bool)
  | waitClosed
  | done

/-- `SignalingConn`. -/
structure SignalingConn where
  session : Option SessionRef := none
  role : Option Role := none
  name : String := ""
  task : Task := .unconnected

/-- The server: the registry, the connections and the relays. -/
structure SignalingServer where
  registry : Registry := {}
  conns : ConnId → SignalingConn := fun _ => {}
  sent : List (ConnId × Message) := []
  relay : TcpRelay := {}
  udp : SessionRef → UdpSessionRelay := fun _ => {}

instance : Inhabited SignalingServer := ⟨{}⟩

inductive ServerEvent where
  | connect (c : ConnId)
  | line (c : ConnId) (x : Line) (env : Readings)
  /-- An `await` other than `readline` and those of `start_session_relays` returns. If the dictionary
      of a leave loop has been changed without changing its size, `next` is how the iteration goes
      on: it raises, or the values that it still visits. -/
  | resume (c : ConnId) (next : Option (List ClientSlot))
  /-- `start_server` or `create_datagram_endpoint` returns with a port, or raises. -/
  | bound (c : ConnId) (port : Option Nat)
  /-- A pass of `expiry_loop`. -/
  | expire (now : Int)
  | relay (e : RelayEvent)
  /-- A datagram at the socket of a session. -/
  | datagram (s : SessionRef) (data : Bytes) (addr : Address)

namespace SignalingServer

def modifyConn (st : SignalingServer) (c : ConnId) (f : SignalingConn → SignalingConn) : SignalingServer :=
  { st with conns := Function.update st.conns c (f (st.conns c)) }

def goto (st : SignalingServer) (c : ConnId) (task : Task) : SignalingServer :=
  st.modifyConn c (fun x => { x with task := task })

/-- `send_json`. -/
def send (st : SignalingServer) (c : ConnId) (msg : Message) : SignalingServer :=
  { st with sent := st.sent ++ [(c, msg)] }

def modifySession (st : SignalingServer) (s : SessionRef) (f : Session → Session) : SignalingServer :=
  { st with registry := st.registry.modify s f }

def session (st : SignalingServer) (s : SessionRef) : Session := st.registry.objects s

/-- Send a message and return to the loop of `run`. -/
def replyWith (st : SignalingServer) (c : ConnId) (msg : Message) : SignalingServer := (st.send c msg).goto c .reply

/-! ## `on_leave` -/

/-- What follows `on_leave`: the next line, or closing the writer. -/
def leaveDone (st : SignalingServer) (c : ConnId) (closing : Bool) : SignalingServer :=
  st.goto c (if closing then .waitClosed else .readline)

/-- The loop of a client's `on_leave` over the items that are left, up to the next `await`. -/
def leaveClient (c : ConnId) (s : SessionRef) (closing : Bool) :
    List (Nat × ClientSlot) → SignalingServer → SignalingServer
  | [], st => st.leaveDone c closing
  | (idx, slot) :: rest, st =>
      if slot.signalingConn = c then
        let st := st.modifySession s (fun x => { x with clients := x.clients.pop idx })
        match (st.session s).hostConn with
        | some host => (st.send host (.clientLeft idx)).goto c (.clientLeft s rest closing)
        | none => leaveClient c s closing rest st
      else leaveClient c s closing rest st

/-- The loop of a host's `on_leave` over the values that are left, up to the next `await`, and what
    follows the loop. -/
def leaveHost (st : SignalingServer) (c : ConnId) (s : SessionRef) (clients : Dict Nat ClientSlot)
    (closing : Bool) : List ClientSlot → SignalingServer
  | [] => { st with registry := st.registry.remove s }.leaveDone c closing
  | slot :: rest =>
      (st.send slot.signalingConn (.sessionClosed "host left")).goto c
        (.sessionClosed s clients rest closing)

/-- The next turn of that loop. The iteration raises if the dictionary has another size than at its
    beginning; the exception ends `run`, and `on_disconnect` finds no session any more. -/
def continueLeaveHost (st : SignalingServer) (c : ConnId) (s : SessionRef) (clients : Dict Nat ClientSlot)
    (rest : List ClientSlot) (closing : Bool) (next : Option (List ClientSlot)) : SignalingServer :=
  if (st.session s).clients.size ≠ clients.size then st.goto c .waitClosed
  else if (st.session s).clients = clients then st.leaveHost c s clients closing rest
  else
    match next with
    | none => st.goto c .waitClosed
    | some rest => st.leaveHost c s clients closing rest

/-- `on_leave`. -/
def onLeave (st : SignalingServer) (c : ConnId) (closing : Bool) : SignalingServer :=
  let conn := st.conns c
  let st := st.modifyConn c (fun x => { x with session := none })
  match conn.session with
  | none => st.leaveDone c closing
  | some s =>
      match conn.role with
      | some .client => leaveClient c s closing (st.session s).clients.toList st
      | some .host =>
          st.leaveHost c s (st.session s).clients closing (st.session s).clients.values
      | none => st.leaveDone c closing

/-- `on_disconnect`. -/
def onDisconnect (st : SignalingServer) (c : ConnId) : SignalingServer := st.onLeave c true

/-! ## The other messages -/

/-- `str[:64]`. -/
def clip (text : String) : String := String.ofList (text.toList.take 64)

/-- `on_host_register`, up to the `await` of `start_session_relays`. -/
def onHostRegister (st : SignalingServer) (c : ConnId) (name : Option String) (env : Readings) : SignalingServer :=
  if (st.conns c).role.isSome then st.replyWith c (.error "already registered")
  else
    let name := clip (name.getD "Host")
    match (st.registry.expireOld env.now).create name env.draws env.createdAt with
    | none => st
    | some (s, registry) =>
        { st with registry := registry.modify s (fun x =>
            { x with hostConn := some c, hostToken := env.token, hostPublic := env.publicAddress })
        }.modifyConn c (fun _ =>
          { session := some s, role := some .host, name := name, task := .startServer s })

/-- `start_session_relays` after `start_server`. -/
def onServerStarted (st : SignalingServer) (c : ConnId) (s : SessionRef) (port : Nat) : SignalingServer :=
  (st.modifySession s (fun x => { x with tcpRelayServer := .listening })).goto c
    (.createDatagramEndpoint s port)

/-- `start_session_relays` and `on_host_register` after `create_datagram_endpoint`. -/
def onRelaysStarted (st : SignalingServer) (c : ConnId) (s : SessionRef) (tcpPort udpPort : Nat) : SignalingServer :=
  let st := st.modifySession s (fun x =>
    { x with udpRelay := .listening, tcpRelayPort := tcpPort, udpRelayPort := udpPort })
  let x := st.session s
  st.replyWith c (.hostRegistered x.sessionId x.code maxPlayers x.hostToken tcpPort udpPort)

/-- The slot that `on_join` makes. -/
def newSlot (c : ConnId) (idx : Nat) (name : Option String) (env : Readings) : ClientSlot :=
  { playerIndex := idx
    name := clip (name.getD "Player")
    token := env.token
    signalingConn := c
    publicAddress := env.publicAddress }

/-- `on_join` from the assignment of the slot to the first `await`. -/
def takeSlot (st : SignalingServer) (c : ConnId) (s : SessionRef) (slot : ClientSlot) : SignalingServer :=
  let st := (st.modifySession s (fun x =>
    { x with clients := x.clients.assign slot.playerIndex slot })).modifyConn c (fun _ =>
      { session := some s, role := some .client, name := slot.name, task := .joined s slot })
  let x := st.session s
  { st with relay := st.relay.registerPair slot.token }.send c
    (.joined x.sessionId slot.playerIndex x.hostName slot.token x.tcpRelayPort x.udpRelayPort
      x.hostPublic)

/-- `on_join`. -/
def onJoin (st : SignalingServer) (c : ConnId) (code : String) (name : Option String) (env : Readings) :
    SignalingServer :=
  if (st.conns c).role.isSome then st.replyWith c (.error "already registered")
  else
    match st.registry.lookupCode code with
    | none => st.replyWith c (.joinRejected "unknown session code")
    | some s =>
        if (st.session s).hostConn = none then
          st.replyWith c (.joinRejected "unknown session code")
        else
          match Registry.freeSlot (st.session s) with
          | none => st.replyWith c (.joinRejected "session full")
          | some idx => st.takeSlot c s (newSlot c idx name env)

/-- `on_join` after `joined` has been sent. -/
def tellHost (st : SignalingServer) (c : ConnId) (s : SessionRef) (slot : ClientSlot) : SignalingServer :=
  match (st.session s).hostConn with
  | none => st.onDisconnect c
  | some host =>
      (st.send host (.clientJoined slot.playerIndex slot.name slot.token slot.publicAddress)).goto c
        .reply

/-- `handle`. -/
def handle (st : SignalingServer) (c : ConnId) (msg : Request) (env : Readings) : SignalingServer :=
  match msg with
  | .hostRegister name => st.onHostRegister c name env
  | .join code name => st.onJoin c code name env
  | .keepalive => st.replyWith c .keepaliveOk
  | .leave => st.onLeave c false
  | .unknown type => st.replyWith c (.error ("unknown type " ++ type))

/-! ## Events -/

/-- A line at a connection that waits for one. -/
def onLine (st : SignalingServer) (c : ConnId) (x : Line) (env : Readings) : SignalingServer :=
  match x with
  | .skipped => st
  | .badJson => st.replyWith c (.error "bad json")
  | .request msg => st.handle c msg env
  | .ended => st.onDisconnect c

def onResume (st : SignalingServer) (c : ConnId) (next : Option (List ClientSlot)) : SignalingServer :=
  match (st.conns c).task with
  | .reply => st.goto c .readline
  | .joined s slot => st.tellHost c s slot
  | .clientLeft s rest closing => leaveClient c s closing rest st
  | .sessionClosed s clients rest closing => st.continueLeaveHost c s clients rest closing next
  | .waitClosed => st.goto c .done
  | _ => st

def onBound (st : SignalingServer) (c : ConnId) (port : Option Nat) : SignalingServer :=
  match (st.conns c).task, port with
  | .startServer s, some port => st.onServerStarted c s port
  | .startServer _, none => st.onDisconnect c
  | .createDatagramEndpoint s tcpPort, some port => st.onRelaysStarted c s tcpPort port
  | .createDatagramEndpoint _ _, none => st.onDisconnect c
  | _, _ => st

/-- A datagram, unless the relay has been closed. -/
def onDatagram (st : SignalingServer) (s : SessionRef) (data : Bytes) (addr : Address) :
    SignalingServer :=
  if (st.session s).udpRelay = .closed then st
  else
    let udp := ((st.udp s).datagramReceived (st.session s) data addr).1
    { st with udp := Function.update st.udp s udp }

/-- One event. One that cannot happen where its coroutine stands changes nothing. -/
def step (st : SignalingServer) (e : ServerEvent) : SignalingServer :=
  match e with
  | .connect c =>
      match (st.conns c).task with
      | .unconnected => st.goto c .readline
      | _ => st
  | .line c x env =>
      match (st.conns c).task with
      | .readline => st.onLine c x env
      | _ => st
  | .resume c next => st.onResume c next
  | .bound c port => st.onBound c port
  | .expire now => { st with registry := st.registry.expireOld now }
  | .relay e => { st with relay := st.relay.step e }
  | .datagram s data addr => st.onDatagram s data addr

/-- The datagrams that an event makes the relay of a session send. -/
def forwarded (st : SignalingServer) (e : ServerEvent) : List (Bytes × Address) :=
  match e with
  | .datagram s data addr =>
      if (st.session s).udpRelay = .closed then []
      else ((st.udp s).datagramReceived (st.session s) data addr).2
  | _ => []

end SignalingServer

end RemotePlay.Server
