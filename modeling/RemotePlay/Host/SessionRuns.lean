import RemotePlay.Host.Reports
import RemotePlay.Lib.Runs

set_option autoImplicit false

/-! # A host session that is started again (`host/HostSession.cpp`)

`stop` posts its cleanup and stops the loop right away. What the loop has not executed by then stays
in the queue of the `io_context`, which a later `start` runs again, with another `TcpServer` in
`server_` and with the same housekeeping timer.

Everything that is posted is in one queue here, numbered with the run it was posted in. What the
network delivers happens at any time while the loop runs, as in `HostEvent`. -/

namespace RemotePlay.Host

/-- What a handler in the queue does. -/
inductive HostWork where
  | task (task : HostTask)
  /-- `TcpServer::stop`: closes the acceptor, through the pointer to the server. -/
  | closeAcceptor
  /-- `TcpConnection::close`, for the connection of a client. -/
  | closeConn (clientId : UInt32)
  /-- The wait on `housekeeper_` is over. -/
  | housekeeping (aborted : Bool)
deriving DecidableEq, Repr

structure HostHandler where
  run : Nat
  work : HostWork
deriving DecidableEq, Repr

/-- `TcpServer`, with the run that has made it. -/
structure Listener where
  run : Nat
  stopped : Bool := false
  listening : Bool := true
deriving DecidableEq, Repr

/-- A `HostSession` over all its runs. -/
structure HostRuns where
  session : HostSession
  /-- How often the session has been started. -/
  run : Nat := 0
  /-- `server_` -/
  server : Option Listener := none
  /-- A wait on `housekeeper_` is outstanding. -/
  waiting : Bool := false
  queue : List HostHandler := []
  /-- A handler has used the pointer to a server that was destroyed. -/
  dangling : Bool := false

inductive HostRunEvent where
  /-- `start`; `bound` says whether a port could be bound. -/
  | start (params : HostSessionParams) (sessionCode : Bytes) (bound : Bool)
  /-- A public method other than `start` and `stop`, or a handler of the network's. -/
  | session (e : HostEvent)
  /-- `stop` up to the call of `io_.stop()`. -/
  | beginStop
  /-- The loop has stopped, and `stop` does the rest. -/
  | endStop
  /-- The wait on `housekeeper_` expires. -/
  | expire
  /-- The loop takes the next handler; `isOpen` is for a connection that the handler closes. -/
  | runHandler (now : Int) (isOpen : Bool)
deriving DecidableEq, Repr

namespace HostRuns

/-- `asio::post`, or an operation that completes. -/
def post (s : HostRuns) (h : HostHandler) : HostRuns := { s with queue := s.queue ++ [h] }

/-- `TcpServer::stop` of `server_`. -/
def stopServer (s : HostRuns) : HostRuns :=
  match s.server with
  | none => s
  | some l =>
      if l.stopped then s
      else { s with server := some { l with stopped := true } }.post ⟨l.run, .closeAcceptor⟩

/-- An effect of the session on its server or on a connection. -/
def perform (s : HostRuns) : HostEffect → HostRuns
  | .stopListening => s.stopServer
  | .close clientId => s.post ⟨s.run, .closeConn clientId⟩
  | _ => s

/-- A call on the session, with what it posts. -/
def enter (s : HostRuns) (e : HostEvent) : HostRuns × List HostEffect :=
  let (session, out) := s.session.handle e
  let tasks := session.tasks.map (fun task => ⟨s.run, .task task⟩)
  (out.foldl perform { s with session := { session with tasks := [] }, queue := s.queue ++ tasks },
    out)

/-- `housekeeper_.cancel()` -/
def cancelWait (s : HostRuns) : HostRuns :=
  if s.waiting then { s with waiting := false }.post ⟨s.run, .housekeeping true⟩ else s

/-- `housekeeper_.expires_after` and `async_wait`. -/
def arm (s : HostRuns) : HostRuns := { s.cancelWait with waiting := true }

/-- The session with a task in hand. -/
def withTask (s : HostRuns) (task : HostTask) : HostRuns :=
  { s with session := { s.session with tasks := [task] } }

/-- One posted task. That of `stop` cancels the timer before it turns to the server. -/
def runTask (s : HostRuns) (task : HostTask) (now : Int) : HostRuns × List HostEffect :=
  if task = .shutdown then (s.cancelWait.withTask task).enter (.runTask now)
  else (s.withTask task).enter (.runTask now)

/-- The acceptor of the server of `run` is closed. -/
def closeAcceptor (s : HostRuns) (run : Nat) : HostRuns :=
  match s.server with
  | none => { s with dangling := true }
  | some l =>
      if l.run = run then { s with server := some { l with listening := false } }
      else { s with dangling := true }

/-- The handler the loop takes next. -/
def next (s : HostRuns) : Option HostHandler := if s.session.running then s.queue.head? else none

/-- The loop has taken a handler. -/
def taken (s : HostRuns) : HostRuns := { s with queue := s.queue.tail }

/-- One handler. -/
def exec (s : HostRuns) (h : HostHandler) (now : Int) (isOpen : Bool) :
    HostRuns × List HostEffect :=
  match h.work with
  | .task task => s.runTask task now
  | .closeAcceptor => (s.closeAcceptor h.run, [])
  | .closeConn clientId => if isOpen then s.enter (.closed clientId) else (s, [])
  | .housekeeping aborted =>
      if aborted || s.session.stopping then (s, [])
      else
        let (s, out) := s.enter (.tick now)
        (s.arm, out)

/-- `start`. The table and the id counter are those of the object. -/
def start (s : HostRuns) (params : HostSessionParams) (sessionCode : Bytes) (bound : Bool) :
    HostRuns :=
  if s.session.running then s
  else
    let session :=
      { s.session with params := params, sessionCode := sessionCode, stopping := false }
    if !bound then { s with session := session }
    else
      { s.cancelWait with
        session := { session with running := true }
        run := s.run + 1
        server := some { run := s.run + 1 }
        waiting := true }

/-- `stop` up to the point where it stops the loop. -/
def beginStop (s : HostRuns) : HostRuns × List HostEffect :=
  if s.session.running then s.enter .beginStop else (s, [])

/-- The rest of `stop`. The destructor of the server stops it once more. -/
def endStop (s : HostRuns) : HostRuns × List HostEffect :=
  if s.session.running && s.session.stopping then
    let (s, out) := s.enter .endStop
    ({ s.stopServer with server := none }, out)
  else (s, [])

/-- One event. -/
def handle (s : HostRuns) (e : HostRunEvent) : HostRuns × List HostEffect :=
  match e with
  | .start params sessionCode bound => (s.start params sessionCode bound, [])
  | .session (.runTask _) => (s, [])
  | .session (.tick _) => (s, [])
  | .session .beginStop => (s, [])
  | .session .endStop => (s, [])
  | .session e => s.enter e
  | .beginStop => s.beginStop
  | .endStop => s.endStop
  | .expire =>
      if s.waiting then ({ s with waiting := false }.post ⟨s.run, .housekeeping false⟩, [])
      else (s, [])
  | .runHandler now isOpen =>
      match s.next with
      | none => (s, [])
      | some h => s.taken.exec h now isOpen

/-- The state after an event. -/
def step (s : HostRuns) (e : HostRunEvent) : HostRuns := (s.handle e).1

/-- A session that was never started. -/
def created (appHandler : Bool) : HostRuns :=
  { session := { params := {}, sessionCode := [], appHandler := appHandler, running := false } }

end HostRuns

/-! ## What `stop` may leave behind -/

/-- What `stop` queues, itself or by its task and the destructor of the server. -/
def HostWork.byStop : HostWork → Bool
  | .task posted => posted = .shutdown
  | .closeAcceptor => true
  | .closeConn _ => true
  | .housekeeping aborted => aborted

namespace HostRuns

/-- The task of `stop` and the acceptor's close are not in the queue. -/
def isStopped (s : HostRuns) : Bool :=
  s.queue.all (fun h => h.work ≠ .task .shutdown ∧ h.work ≠ .closeAcceptor)

/-- The event starts a new run. -/
def restarts (s : HostRuns) : HostRunEvent → Bool
  | .start _ _ bound => bound && !s.session.running
  | _ => false

/-- The event gives the next id to a new connection. -/
def assigns (s : HostRuns) : HostRunEvent → Bool
  | .session e => s.session.assigns e
  | .runHandler now _ =>
      match s.next with
      | some ⟨_, .task task⟩ => (s.withTask task).session.assigns (.runTask now)
      | _ => false
  | _ => false

/-- The close of an earlier run's connection under the next id is still in the queue. -/
def idPending (s : HostRuns) : Bool :=
  s.queue.any (fun h => h.work = .closeConn s.session.nextClientId ∧ h.run < s.run)

/-- A handler has no effect on the run that is on: its server, its timer, its clients and what else
    the session knows stay, nothing is queued or reported, and no destroyed server is touched. -/
structure Unaffected (s : HostRuns) (r : HostRuns × List HostEffect) : Prop where
  session : r.1.session = s.session
  server : r.1.server = s.server
  timer : r.1.waiting = s.waiting
  queue : r.1.queue = s.queue.tail
  sound : r.1.dangling = s.dangling
  silent : r.2 = []

end HostRuns

end RemotePlay.Host
