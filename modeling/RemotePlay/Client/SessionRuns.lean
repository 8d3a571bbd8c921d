import Mathlib.Logic.Function.Basic
import RemotePlay.Client.ClientSession
import RemotePlay.Lib.Runs
import RemotePlay.Networking.TcpTransport

set_option autoImplicit false

/-! # A client session that is started again (`client/ClientSession.cpp`)

All runs of a `ClientSession` share one `io_context`. `finish` and `joinNetworkThread` stop its loop
and never empty its queue: what is queued by then is executed first when the next run starts the
loop again. Nor do they end what the run has started. Its connect attempt keeps itself alive, its
connection closes only in a handler of its own, and both call back into the same object.

Here the queue is explicit and in order, every handler carries the number of the run it belongs to,
and the connect attempt and the connection of each run are kept. -/

namespace RemotePlay.Client

open Net (TcpConnection ConnEvent ConnEffect ErrorCode Reading parseFrameHeader)

/-! ## The queue -/

/-- What a handler in the queue does. -/
inductive Work where
  | task (task : ClientTask)
  /-- An operation of the connect attempt is complete: it connected, or failed with this report.
      The steps in between, which only start the next operation, are left out. -/
  | attempt (failure : Option Bytes)
  /-- A posted call or a completed operation of the connection. -/
  | conn (e : ConnEvent)
  /-- The wait on `heartbeat_` is over. -/
  | heartbeat (aborted : Bool)
deriving DecidableEq, Repr

/-- A queued handler, with the run whose object it was queued for. -/
structure Handler where
  run : Nat
  work : Work
deriving DecidableEq, Repr

namespace Work

def isTask : Work → Bool
  | task _ => true
  | _ => false

def isAttempt : Work → Bool
  | attempt _ => true
  | _ => false

def isRead : Work → Bool
  | conn (.readDone _ _) => true
  | _ => false

def isWrite : Work → Bool
  | conn (.writeDone _) => true
  | _ => false

end Work

/-- What a handler calls on the session. -/
inductive Call where
  | connected
  | connectFailed (message : Bytes)
  | frame (type : UInt16) (payload : Bytes)
  | closed (ec : ErrorCode)
  | heartbeat
  | task (task : ClientTask)
deriving DecidableEq, Repr

/-- The handlers that `handleConnected` gives to `setHandlers`. -/
def Call.ofEffect : ConnEffect → Option Call
  | .onFrame type _ payload => some (.frame type payload)
  | .onClose ec => some (.closed ec)
  | .asyncWrite _ => none

/-- What a run has made: its `ConnectAttempt` (or `RelayConnectAttempt`), by the flag `finished`,
    and the connection it resulted in. -/
structure RunObjects where
  finished : Bool := true
  conn : Option TcpConnection := none
deriving DecidableEq, Repr

/-- A handler of a run, on the objects of that run. -/
def RunObjects.exec (o : RunObjects) : Work → RunObjects × List Call
  | .task task => (o, [.task task])
  | .attempt failure =>
      if o.finished then (o, [])
      else
        match failure with
        | some message => ({ o with finished := true }, [.connectFailed message])
        | none => ({ finished := true, conn := some {} }, [.connected])
  | .conn e =>
      match o.conn with
      | none => (o, [])
      | some c => ({ o with conn := some (c.step e).1 }, (c.step e).2.filterMap Call.ofEffect)
  | .heartbeat aborted => (o, if aborted then [] else [.heartbeat])

/-! ## The session object -/

/-- A `ClientSession` over all its runs. -/
structure ClientRuns where
  session : ClientSession
  /-- How often the session has been started. -/
  run : Nat := 0
  objects : Nat → RunObjects := fun _ => {}
  /-- `connection_`, by the run that the connection belongs to. -/
  connection : Option Nat := none
  /-- A wait on `heartbeat_` is outstanding. -/
  waiting : Bool := false
  queue : List Handler := []
  /-- A call of `stop` waits for the `BYE` to drain. -/
  inStop : Bool := false

inductive ClientRunEvent where
  /-- `start`, or `startViaRelay`. -/
  | start (params : ClientSessionParams) (relay : Bool)
  /-- `stop` up to the point where it waits. -/
  | beginStop
  /-- The rest of `stop`. -/
  | endStop
  | sendAppMessage (type : UInt16) (payload : Bytes)
  /-- An operation of the connect attempt of a run is complete. -/
  | attemptEnds (run : Nat) (failure : Option Bytes)
  /-- The outstanding `async_read` of a connection is complete. -/
  | readEnds (run : Nat) (ec : ErrorCode) (buf : Bytes)
  /-- The outstanding `async_write` of a connection is complete. -/
  | writeEnds (run : Nat) (ec : ErrorCode)
  /-- The wait on `heartbeat_` expires. -/
  | expire
  /-- The loop takes the next handler. -/
  | runHandler (now later : Int)
deriving DecidableEq, Repr

/-- A posted call on the connection, for what the session asks of it. -/
def connEvent : ClientEffect → Option ConnEvent
  | .send type payload => some (.send type 0 payload)
  | .sendAndClose type payload => some (.sendAndClose type payload)
  | .close => some .close
  | _ => none

/-- The status a new run begins with; `startViaRelay` keeps the byte counts. -/
def startedStatus (status : ClientStatus) (relay : Bool) : ClientStatus :=
  { status with
    state := .Connecting
    hostName := []
    gameName := []
    lastError := []
    rttMs := 0
    bytesIn := if relay then status.bytesIn else 0
    bytesOut := if relay then status.bytesOut else 0 }

namespace ClientRuns

/-- `asio::post`, or an operation that completes. -/
def post (s : ClientRuns) (h : Handler) : ClientRuns := { s with queue := s.queue ++ [h] }

/-- What the connection is asked for is posted on its executor, which is the same loop. -/
def connPosts (s : ClientRuns) (out : List ClientEffect) : List Handler :=
  match s.connection with
  | none => []
  | some r => (out.filterMap connEvent).map (fun e => ⟨r, .conn e⟩)

/-- A call on the session, with what it posts. -/
def enter (s : ClientRuns) (e : ClientEvent) : ClientRuns × List ClientEffect :=
  let (session, out) := s.session.handle e
  let tasks := session.tasks.map (fun task => ⟨s.run, .task task⟩)
  ({ s with
      session := { session with tasks := [] }
      connection := if session.connection then s.connection else none
      queue := s.queue ++ (tasks ++ s.connPosts out) },
    out)

/-- The outstanding wait on `heartbeat_` ends with `operation_aborted`. -/
def cancelWait (s : ClientRuns) : ClientRuns :=
  if s.waiting then { s with waiting := false }.post ⟨s.run, .heartbeat true⟩ else s

/-- `heartbeat_->expires_after` and `async_wait`. -/
def arm (s : ClientRuns) : ClientRuns := { s.cancelWait with waiting := true }

/-- `startHeartbeat`: the timer is armed again unless the session stops or has just ended. -/
def startHeartbeat (s : ClientRuns) (now later : Int) : ClientRuns × List ClientEffect :=
  let (t, out) := s.enter (.heartbeat now later)
  (if t.session.stopping || !t.session.ioRunning then t else t.arm, out)

/-- `connection_->isOpen()` -/
def isOpen (s : ClientRuns) (r : Nat) : Bool := (s.objects r).conn.any (fun c => !c.closed)

/-- One of the lambdas of `sendAppMessage` and `stop`. -/
def runTask (s : ClientRuns) (task : ClientTask) : ClientRuns × List ClientEffect :=
  match s.connection with
  | none => (s, [])
  | some r =>
      let out := if task = .bye ∧ s.isOpen r = false then [] else s.session.runTask task
      ({ s with queue := s.queue ++ s.connPosts out }, out)

section Handlers

variable (lost : ErrorCode → Option Bytes) (now later : Int) (run : Nat)

/-- A call of a handler of `run`. `lost` is the text of an error that is not a clean end. -/
def call (s : ClientRuns) : Call → ClientRuns × List ClientEffect
  | .connected =>
      -- the connection starts reading before the hello is sent
      ({ s with connection := some run }.post ⟨run, .conn .start⟩).enter (.connected now)
  | .connectFailed message => s.enter (.connectFailed message)
  | .frame type payload => s.enter (.frame type payload now later)
  | .closed ec => s.enter (.closed (lost ec))
  | .heartbeat => s.startHeartbeat now later
  | .task task => s.runTask task

def callAll : ClientRuns → List Call → ClientRuns × List ClientEffect
  | s, [] => (s, [])
  | s, c :: cs =>
      let (s, out) := s.call lost now later run c
      let (s, rest) := callAll s cs
      (s, out ++ rest)

end Handlers

/-- The handler the loop takes next. -/
def next (s : ClientRuns) : Option Handler := if s.session.ioRunning then s.queue.head? else none

/-- The state in which the loop has taken a handler and run it on the objects of its run. -/
def taken (s : ClientRuns) (h : Handler) : ClientRuns :=
  { s with
    queue := s.queue.tail
    objects := Function.update s.objects h.run ((s.objects h.run).exec h.work).1 }

/-- What the handler calls on the session. -/
def calls (s : ClientRuns) (h : Handler) : List Call := ((s.objects h.run).exec h.work).2

/-- `joinNetworkThread`. Only the timer is destroyed with its pointer: the attempt and the
    connection are shared with the handlers of what they have outstanding. -/
def join (s : ClientRuns) : ClientRuns :=
  { s.cancelWait with
    session := { s.session with ioRunning := false, connection := false, joined := true }
    connection := none }

/-- `start` and `startViaRelay`, and what the new thread does before it enters the loop. -/
def start (s : ClientRuns) (params : ClientSessionParams) (relay : Bool) :
    ClientRuns × List ClientEffect :=
  if s.inStop then (s, [])
  else if s.session.running then (s.join, [])
  else
    ({ s.join with
        session :=
          { s.join.session with
            params := params
            status := startedStatus s.session.status relay
            running := true
            stopping := false
            ioRunning := true
            joined := false }
        run := s.run + 1
        objects := Function.update s.objects (s.run + 1) { finished := false }
        waiting := true },
      [.onState .Connecting])

/-- `stop` up to the wait; a session that has ended is only reaped. -/
def beginStop (s : ClientRuns) : ClientRuns × List ClientEffect :=
  if s.inStop then (s, [])
  else if s.session.running then
    let (t, out) := s.enter .beginStop
    ({ t with inStop := true }, out)
  else (s.join, [])

/-- The rest of `stop`. -/
def endStop (s : ClientRuns) : ClientRuns × List ClientEffect :=
  if !s.inStop then (s, [])
  else
    ({ s.join with
        session := s.join.session.withStatus { s.session.status with state := .Disconnected }
        inStop := false },
      [.onDisconnected (ascii "Disconnected")])

/-- An outstanding read can end so: without an error only while the socket is open, with as many
    bytes as were asked for. -/
def canRead (s : ClientRuns) (run : Nat) (ec : ErrorCode) (buf : Bytes) : Bool :=
  (s.objects run).conn.any (fun c =>
    c.reading.any (fun r => ec ≠ .success ∨ c.closed = false ∧ buf.length = r.size)) &&
  s.queue.all (fun h => !(h.work.isRead && h.run = run))

/-- An outstanding write can end so. -/
def canWrite (s : ClientRuns) (run : Nat) (ec : ErrorCode) : Bool :=
  (s.objects run).conn.any (fun c => c.writing ∧ (ec ≠ .success ∨ c.closed = false)) &&
  s.queue.all (fun h => !(h.work.isWrite && h.run = run))

/-- One event. -/
def handle (lost : ErrorCode → Option Bytes) (s : ClientRuns) (e : ClientRunEvent) :
    ClientRuns × List ClientEffect :=
  match e with
  | .start params relay => s.start params relay
  | .beginStop => s.beginStop
  | .endStop => s.endStop
  | .sendAppMessage type payload => s.enter (.sendAppMessage type payload)
  | .attemptEnds run failure =>
      if 0 < run ∧ run ≤ s.run then (s.post ⟨run, .attempt failure⟩, []) else (s, [])
  | .readEnds run ec buf =>
      if run ≤ s.run ∧ s.canRead run ec buf then (s.post ⟨run, .conn (.readDone ec buf)⟩, [])
      else (s, [])
  | .writeEnds run ec =>
      if run ≤ s.run ∧ s.canWrite run ec then (s.post ⟨run, .conn (.writeDone ec)⟩, []) else (s, [])
  | .expire =>
      if s.waiting then ({ s with waiting := false }.post ⟨s.run, .heartbeat false⟩, [])
      else (s, [])
  | .runHandler now later =>
      match s.next with
      | none => (s, [])
      | some h => (s.taken h).callAll lost now later h.run (s.calls h)

/-- The state after an event. -/
def step (lost : ErrorCode → Option Bytes) (s : ClientRuns) (e : ClientRunEvent) : ClientRuns :=
  (s.handle lost e).1

/-- A session that was never started. -/
def created (appHandler : Bool) : ClientRuns :=
  { session :=
      { params := {}
        appHandler := appHandler
        status := {}
        running := false
        ioRunning := false
        joined := true } }

/-! ## What an earlier run may leave behind -/

end ClientRuns

/-- The completed read, of these bytes, hands up a frame: it is the body of one, or a header that
    announces an empty one. -/
def handsUp (c : TcpConnection) (buf : Bytes) : Bool :=
  match c.reading with
  | none => false
  | some .header => (parseFrameHeader buf).any (fun h => h.payloadSize = 0)
  | some (.body _ _ _ _) => true

/-- The attempt has come to its end, and so has the connection if it made one. -/
def RunObjects.isDone (o : RunObjects) : Bool := o.finished && o.conn.all TcpConnection.closed

/-- A handler that calls nothing on the session once the objects of its run are done. Posted tasks
    count as such: they look for the connection first. -/
def Work.isInert (o : RunObjects) : Work → Bool
  | .conn (.readDone .success buf) => o.conn.all (fun c => !handsUp c buf)
  | .heartbeat aborted => aborted
  | _ => true

namespace ClientRuns

/-- Everything started so far is done, and no handler in the queue calls anything on the session:
    the waits that are over were aborted, the completed reads hand no frame up. -/
def isSettled (s : ClientRuns) : Bool :=
  (List.range (s.run + 1)).all (fun r => (s.objects r).isDone) &&
  s.queue.all (fun h => h.work.isInert (s.objects h.run))

/-- The event starts a new run. -/
def restarts (s : ClientRuns) : ClientRunEvent → Bool
  | .start _ _ => !s.inStop && !s.session.running
  | _ => false

/-- A handler of an earlier run has no effect on the run that is on: no function of the session is
    called, whatever members it has stay, and what it queues is nothing. -/
structure Unaffected (s : ClientRuns) (h : Handler) (r : ClientRuns × List ClientEffect) :
    Prop where
  session : r.1.session = s.session
  connection : r.1.connection = s.connection
  objects : r.1.objects s.run = s.objects s.run
  timer : r.1.waiting = s.waiting
  queue : r.1.queue = s.queue.tail
  silent : r.2 = []
  calls : ∀ c ∈ s.calls h, ∃ task, c = .task task

end ClientRuns

end RemotePlay.Client
