import RemotePlay.Lib.Bytes
import RemotePlay.Server.Registry

set_option autoImplicit false

/-! # The TCP relay (`server/signaling-server/server.py`, `handle_relay_tcp`)

One coroutine serves each relay connection. It can be suspended at an `await` and nowhere else, so
an event here takes one coroutine from the `await` at which it stands to the next one: the phase of
a connection is that position, with the local variables that are still needed. The environment
decides what arrives, how much `read` returns and which calls raise.

A write to a connection that has been closed is dropped, as the transport does. -/

namespace RemotePlay.Server

/-- A relay connection; the coroutine that serves it has the same name. -/
abbrev RelayId := Nat

/-- A reference to an entry of `PAIRS`. -/
abbrev PairRef := Nat

/-- The two valid roles. -/
inductive Side where
  | host
  | client
deriving DecidableEq, Repr

def Side.opposite : Side → Side
  | host => client
  | client => host

@[simp] theorem Side.opposite_opposite (side : Side) : side.opposite.opposite = side := by
  cases side
  · rfl
  · rfl

theorem Side.opposite_ne (side : Side) : side.opposite ≠ side := by
  cases side
  · decide
  · decide

/-- What stands in the `role` field of a handshake. -/
inductive RoleField where
  | side (side : Side)
  /-- The string `"ready"`, which is also a key of an entry. -/
  | ready
  /-- Any other value that can be a key and is true in a condition. -/
  | key
  /-- No value, or one that is false in a condition. -/
  | falsy
  | unhashable
deriving DecidableEq, Repr

/-- An entry of `PAIRS`, without the members that nothing reads. -/
structure Pair where
  host : Option RelayId := none
  client : Option RelayId := none
  /-- Whether the event is set. -/
  isSet : Bool := false
  /-- Whether `"ready"` still names the event. -/
  hasReady : Bool := true
deriving DecidableEq, Repr

namespace Pair

def get (p : Pair) : Side → Option RelayId
  | .host => p.host
  | .client => p.client

def put (p : Pair) (side : Side) (v : Option RelayId) : Pair :=
  match side with
  | .host => { p with host := v }
  | .client => { p with client := v }

def full (p : Pair) : Bool := p.host.isSome && p.client.isSome

def vacant (p : Pair) : Bool := p.host.isNone && p.client.isNone

@[simp] theorem get_put_self (p : Pair) (side : Side) (v : Option RelayId) :
    (p.put side v).get side = v := by
  cases side
  · rfl
  · rfl

theorem get_put_of_ne (p : Pair) {side side' : Side} (h : side' ≠ side) (v : Option RelayId) :
    (p.put side v).get side' = p.get side' := by
  cases side
  · cases side'
    · exact absurd rfl h
    · rfl
  · cases side'
    · rfl
    · exact absurd rfl h

end Pair

/-- The first line of a relay connection. -/
inductive Handshake where
  /-- A relay handshake; a token that is not a string is `none`. -/
  | relay (token : Option String) (role : RoleField)
  /-- A JSON object of another type, or no line at all. -/
  | other
  /-- Waiting for the line or reading it raises: a timeout, no JSON, a token that is no key. -/
  | failure
deriving DecidableEq, Repr

/-- What the relay writes to a connection. -/
inductive RelayOut where
  | accepted
  | rejected (reason : String)
  | paired
  | data (bytes : Bytes)
deriving DecidableEq, Repr

/-- The `await` at which a coroutine stands. -/
inductive RelayPhase where
  | idle
  | handshake
  | rejecting
  | accepting (p : PairRef) (side : Side)
  | waiting (p : PairRef) (side : Side)
  | pairing (other : RelayId)
  | reading (other : RelayId)
  | forwarding (other : RelayId)
  | closing
  | finished
deriving DecidableEq, Repr

/-- A relay connection and the local variables of its coroutine. -/
structure RelayConn where
  phase : RelayPhase := .idle
  token : Option String := none
  role : RoleField := .falsy
  /-- The entry into which the coroutine has put itself, and under which role. -/
  seat : Option (PairRef × Side) := none
  /-- The bytes that have come in after the handshake line, and how many `read` has returned. -/
  stream : Bytes := []
  readPos : Nat := 0
  eof : Bool := false
  out : List RelayOut := []
  closed : Bool := false
deriving DecidableEq, Repr

/-- `writer.write`. -/
def RelayConn.write (c : RelayConn) (x : RelayOut) : RelayConn :=
  if c.closed then c else { c with out := c.out ++ [x] }

/-- `PAIRS`, with the entries made so far and the relay connections. -/
structure TcpRelay where
  table : Dict String PairRef := {}
  pairs : PairRef → Pair := fun _ => {}
  allocated : PairRef := 0
  conns : RelayId → RelayConn := fun _ => {}

instance : Inhabited TcpRelay := ⟨{}⟩

/-- What happens to the relay. -/
inductive RelayEvent where
  | connect (r : RelayId)
  | handshake (r : RelayId) (line : Handshake)
  | receive (r : RelayId) (bytes : Bytes)
  | hangup (r : RelayId)
  /-- `read` returns `n` bytes. -/
  | read (r : RelayId) (n : Nat)
  | readFails (r : RelayId)
  /-- Any other `await` returns, or raises. -/
  | resume (r : RelayId) (ok : Bool)
deriving DecidableEq, Repr

/-- The connection that the event is about. -/
def RelayEvent.conn : RelayEvent → RelayId
  | connect r => r
  | handshake r _ => r
  | receive r _ => r
  | hangup r => r
  | read r _ => r
  | readFails r => r
  | resume r _ => r

namespace TcpRelay

def modifyConn (t : TcpRelay) (r : RelayId) (f : RelayConn → RelayConn) : TcpRelay :=
  { t with conns := Function.update t.conns r (f (t.conns r)) }

def modifyPair (t : TcpRelay) (p : PairRef) (f : Pair → Pair) : TcpRelay :=
  { t with pairs := Function.update t.pairs p (f (t.pairs p)) }

def goto (t : TcpRelay) (r : RelayId) (phase : RelayPhase) : TcpRelay :=
  t.modifyConn r (fun c => { c with phase := phase })

def write (t : TcpRelay) (r : RelayId) (x : RelayOut) : TcpRelay := t.modifyConn r (·.write x)

/-- `writer.close`. -/
def close (t : TcpRelay) (r : RelayId) : TcpRelay :=
  t.modifyConn r (fun c => { c with closed := true })

/-- The first half of the last `finally`. -/
def finish (t : TcpRelay) (r : RelayId) : TcpRelay := (t.close r).goto r .closing

/-- The `finally` of the pipe and what follows it. -/
def unpipe (t : TcpRelay) (r other : RelayId) : TcpRelay := (t.close other).finish r

/-- `register_pair`. -/
def registerPair (t : TcpRelay) (token : String) : TcpRelay :=
  { t with
    table := t.table.assign token t.allocated
    pairs := Function.update t.pairs t.allocated {}
    allocated := t.allocated + 1 }

/-- The second half of the last `finally`, for a string `token` and a `role` that is a key. -/
def vacate (t : TcpRelay) (token : String) (f : Pair → Pair) : TcpRelay :=
  match t.table.get? token with
  | none => t
  | some p =>
      let t := t.modifyPair p f
      if (t.pairs p).vacant then { t with table := t.table.pop token } else t

/-- The second half of the last `finally`. -/
def cleanup (t : TcpRelay) (token : Option String) (role : RoleField) : TcpRelay :=
  match token with
  | none => t
  | some token =>
      if token = "" then t
      else
        match role with
        | .side side => t.vacate token (·.put side none)
        | .ready => t.vacate token (fun p => { p with hasReady := false })
        | .key => t.vacate token id
        | .falsy => t
        | .unhashable => t

/-- What follows the event's `wait`. -/
def pairUp (t : TcpRelay) (r : RelayId) (p : PairRef) (side : Side) : TcpRelay :=
  match (t.pairs p).get side.opposite with
  | none => t.finish r
  | some other => (t.write r .paired).goto r (.pairing other)

/-- `pair[role] = (reader, writer)`; the coroutine is on its way to the event's `wait`. -/
def sit (t : TcpRelay) (r : RelayId) (p : PairRef) (side : Side) : TcpRelay :=
  (t.modifyPair p (·.put side (some r))).modifyConn r
    (fun c => { c with seat := some (p, side), phase := .waiting p side })

/-- `pair["ready"].set()`, if both sides are there. -/
def setReady (t : TcpRelay) (p : PairRef) : TcpRelay :=
  if (t.pairs p).full then t.modifyPair p (fun q => { q with isSet := true }) else t

/-- What follows `relay_accepted`. The event's `wait` does not suspend the coroutine if the event is
    set, and `"ready"` may name no event any more. -/
def join (t : TcpRelay) (r : RelayId) (p : PairRef) (side : Side) : TcpRelay :=
  let t := t.sit r p side
  if (t.pairs p).hasReady then
    let t := t.setReady p
    if (t.pairs p).isSet then t.pairUp r p side else t
  else t.finish r

def reject (t : TcpRelay) (r : RelayId) (reason : String) : TcpRelay :=
  (t.write r (.rejected reason)).goto r .rejecting

/-- The handshake with a relay message. -/
def onRelay (t : TcpRelay) (r : RelayId) (token : Option String) (role : RoleField) : TcpRelay :=
  let t := t.modifyConn r (fun c => { c with token := token, role := role })
  match token.bind t.table.get?, role with
  | some p, .side side => (t.write r .accepted).goto r (.accepting p side)
  | _, _ => t.reject r "unknown token"

/-- `read` returns `n` bytes: at most 65536 of those that are there, and none only at the end. -/
def forward (t : TcpRelay) (r other : RelayId) (n : Nat) : TcpRelay :=
  let c := t.conns r
  let available := c.stream.drop c.readPos
  if n = 0 then
    if c.eof ∧ available = [] then t.unpipe r other else t
  else if n ≤ 65536 ∧ n ≤ available.length then
    ((t.write other (.data (available.take n))).modifyConn r
      (fun c => { c with readPos := c.readPos + n })).goto r (.forwarding other)
  else t

/-- An `await` other than those of the handshake and of `read`. -/
def resume (t : TcpRelay) (r : RelayId) (ok : Bool) : TcpRelay :=
  let c := t.conns r
  match c.phase with
  | .rejecting => t.finish r
  | .accepting p side => if ok then t.join r p side else t.finish r
  | .waiting p side => if (t.pairs p).isSet then t.pairUp r p side else t
  | .pairing other => if ok then t.goto r (.reading other) else t.finish r
  | .forwarding other => if ok then t.goto r (.reading other) else t.unpipe r other
  | .closing => (t.cleanup c.token c.role).goto r .finished
  | _ => t

/-- One event. One that cannot happen where its coroutine stands changes nothing. -/
def step (t : TcpRelay) (e : RelayEvent) : TcpRelay :=
  match e with
  | .connect r => if (t.conns r).phase = .idle then t.goto r .handshake else t
  | .handshake r line =>
      if (t.conns r).phase = .handshake then
        match line with
        | .relay token role => t.onRelay r token role
        | .other => t.reject r "expected relay handshake"
        | .failure => t.finish r
      else t
  | .receive r bytes =>
      if (t.conns r).phase = .idle ∨ (t.conns r).closed ∨ (t.conns r).eof then t
      else t.modifyConn r (fun c => { c with stream := c.stream ++ bytes })
  | .hangup r => t.modifyConn r (fun c => { c with eof := true })
  | .read r n =>
      match (t.conns r).phase with
      | .reading other => t.forward r other n
      | _ => t
  | .readFails r =>
      match (t.conns r).phase with
      | .reading other => t.unpipe r other
      | _ => t
  | .resume r ok => t.resume r ok

end TcpRelay

end RemotePlay.Server
