import RemotePlay.Lib.ExactReads
import RemotePlay.Networking.Packet

set_option autoImplicit false

/-! # Connections of the control channel (`networking/TcpTransport.cpp`)

`TcpConnection` reads frames in two steps, ten header bytes and then the payload they announce, and
writes its outbox one frame at a time. The public methods post to the executor, so an event here is
a posted call or the handler of a completed operation, run on the one network thread; what the
connection asks of the socket and the calls to the handlers of `setHandlers` are its effects. -/

namespace RemotePlay.Net

/-- `std::error_code`; `success` is the default-constructed one. -/
inductive ErrorCode where
  | success
  | invalidArgument
  | timedOut
  | connectionRefused
  | other (value : Nat)
deriving DecidableEq, Repr

/-- The outstanding `async_read`, with what its handler captured. The body is read only if it is
    not empty. -/
inductive Reading where
  | header
  | body (type : UInt16) (flags : UInt8) (payloadSize : UInt32) (h : payloadSize ≠ 0)
deriving DecidableEq, Repr

/-- The bytes `async_read` was asked for. -/
def Reading.size : Reading → Nat
  | header => kFrameHeaderSize
  | body _ _ payloadSize _ => payloadSize.toNat

theorem Reading.size_pos (r : Reading) : 0 < r.size := by
  cases r with
  | header => decide
  | body type flags payloadSize h =>
      have hne : payloadSize.toNat ≠ 0 := fun h0 => h (UInt32.toNat_inj.1 h0)
      exact Nat.pos_of_ne_zero hne

/-- `TcpConnection`. -/
structure TcpConnection where
  reading : Option Reading := none
  outbox : List Bytes := []
  writing : Bool := false
  closeAfterWrite : Bool := false
  closed : Bool := false
deriving DecidableEq, Repr

inductive ConnEvent where
  | start
  | send (type : UInt16) (flags : UInt8) (payload : Bytes)
  | sendAndClose (type : UInt16) (payload : Bytes)
  | close
  /-- The outstanding `async_read` completes; without an error, `buf` is as long as asked for. -/
  | readDone (ec : ErrorCode) (buf : Bytes)
  /-- The outstanding `async_write` completes. -/
  | writeDone (ec : ErrorCode)
deriving DecidableEq, Repr

inductive ConnEffect where
  | onFrame (type : UInt16) (flags : UInt8) (payload : Bytes)
  | onClose (ec : ErrorCode)
  | asyncWrite (frame : Bytes)
deriving DecidableEq, Repr

namespace TcpConnection

/-- `TcpConnection::shutdown`. -/
def shutdown (ec : ErrorCode) (c : TcpConnection) : TcpConnection × List ConnEffect :=
  if c.closed then (c, []) else ({ c with closed := true, outbox := [] }, [.onClose ec])

/-- `TcpConnection::readHeader`. -/
def readHeader (c : TcpConnection) : TcpConnection :=
  { c with reading := some .header }

/-- What follows a frame that was handed up: the next header, unless the connection is closed. -/
def readNext (c : TcpConnection) : TcpConnection :=
  if c.closed then { c with reading := none } else c.readHeader

/-- `TcpConnection::readBody`. -/
def readBody (type : UInt16) (flags : UInt8) (payloadSize : UInt32) (c : TcpConnection) :
    TcpConnection × List ConnEffect :=
  if h : payloadSize = 0 then (c.readNext, [.onFrame type flags []])
  else ({ c with reading := some (.body type flags payloadSize h) }, [])

/-- The handler of `readHeader`. -/
def headerDone (ec : ErrorCode) (buf : Bytes) (c : TcpConnection) :
    TcpConnection × List ConnEffect :=
  if ec ≠ .success then c.shutdown ec
  else
    match parseFrameHeader buf with
    | none => c.shutdown .invalidArgument
    | some h => c.readBody h.type h.flags h.payloadSize

/-- The handler of `readBody`. -/
def bodyDone (type : UInt16) (flags : UInt8) (ec : ErrorCode) (buf : Bytes) (c : TcpConnection) :
    TcpConnection × List ConnEffect :=
  if ec ≠ .success then c.shutdown ec
  else (c.readNext, [.onFrame type flags buf])

/-- `TcpConnection::pumpWrite`: at most one write is outstanding. -/
def pumpWrite (c : TcpConnection) : TcpConnection × List ConnEffect :=
  match c.outbox with
  | [] => (c, [])
  | frame :: _ =>
      if c.writing || c.closed then (c, [])
      else ({ c with writing := true }, [.asyncWrite frame])

/-- The handler of `pumpWrite`. -/
def writeDone (ec : ErrorCode) (c : TcpConnection) : TcpConnection × List ConnEffect :=
  let c := { c with writing := false }
  if ec ≠ .success then c.shutdown ec
  else
    let c := { c with outbox := c.outbox.tail }
    if c.closeAfterWrite && c.outbox.isEmpty then c.shutdown .success else c.pumpWrite

def step (c : TcpConnection) : ConnEvent → TcpConnection × List ConnEffect
  | .start => if c.closed then (c, []) else (c.readHeader, [])
  | .send type flags payload =>
      if c.closed then (c, [])
      else { c with outbox := c.outbox ++ [makeFrame type flags payload] }.pumpWrite
  | .sendAndClose type payload =>
      if c.closed then (c, [])
      else
        { c with
          outbox := c.outbox ++ [makeFrame type 0 payload], closeAfterWrite := true }.pumpWrite
  | .close => c.shutdown .success
  | .readDone ec buf =>
      -- A read that completed before the socket was closed still has its handler run: nothing here
      -- looks at `closed` first.
      match c.reading with
      | none => (c, [])
      | some .header => { c with reading := none }.headerDone ec buf
      | some (.body type flags _ _) => { c with reading := none }.bodyDone type flags ec buf
  | .writeDone ec => if c.writing then c.writeDone ec else (c, [])

/-- A connection as its owner uses it: made from a socket, and started. -/
def started : TcpConnection := (step {} .start).1

/-! ## The socket's side -/

/-- Reading from the peer's byte stream: an open connection takes exactly the bytes it asked for, a
    closed one takes none. -/
def reader : ExactReader TcpConnection UInt8 ConnEffect where
  need c := if c.closed then none else c.reading.map Reading.size
  next c bs := c.step (.readDone .success bs)
  need_pos := by
    intro c n h
    split at h
    · cases h
    · next =>
        obtain ⟨r, -, rfl⟩ := Option.map_eq_some_iff.1 h
        exact r.size_pos

end TcpConnection

end RemotePlay.Net
