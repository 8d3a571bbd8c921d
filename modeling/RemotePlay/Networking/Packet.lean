import RemotePlay.Common.Types

set_option autoImplicit false

/-! # Control-channel framing (`networking/Packet.cpp`)

Frames on the TCP control channel and the byte-level primitives of the protocol layer. `ByteWriter`
only ever appends, so each of its methods is the byte string it appends. `ByteReader` keeps the
whole buffer with a position and a failure mark: once a read does not fit, every further read
returns zero values. -/

namespace RemotePlay.Net

def kFrameMagic : UInt16 := 0x5250
def kFrameVersion : UInt8 := 1
def kFrameHeaderSize : Nat := 10
def kMaxControlPayload : UInt32 := 64 * 1024

/-- `FrameHeader`. -/
structure FrameHeader where
  magic : UInt16 := 0
  version : UInt8 := 0
  type : UInt16 := 0
  flags : UInt8 := 0
  payloadSize : UInt32 := 0
deriving DecidableEq, Repr

/-- `FrameHeader::valid`. -/
def FrameHeader.valid (h : FrameHeader) : Bool :=
  h.magic == kFrameMagic && h.version == kFrameVersion &&
    decide (h.payloadSize ≤ kMaxControlPayload)

/-- `makeFrame`: the size field is the length as a `uint32_t`, and that many bytes are copied. -/
def makeFrame (type : UInt16) (flags : UInt8) (payload : Bytes) : Bytes :=
  let payloadSize := UInt32.ofNat payload.length
  leBytes 2 kFrameMagic.toNat ++ [kFrameVersion] ++ leBytes 2 type.toNat ++ [flags] ++
    leBytes 4 payloadSize.toNat ++ payload.take payloadSize.toNat

/-- `parseFrameHeader`. -/
def parseFrameHeader (data : Bytes) : Option FrameHeader :=
  if data.length < kFrameHeaderSize then none
  else
    let h : FrameHeader :=
      { magic := UInt16.ofNat (leVal (data.take 2))
        version := (data.drop 2).headD 0
        type := UInt16.ofNat (leVal ((data.drop 3).take 2))
        flags := (data.drop 5).headD 0
        payloadSize := UInt32.ofNat (leVal ((data.drop 6).take 4)) }
    if h.valid then some h else none

/-! ## Writing -/

namespace ByteWriter

def u8 (v : UInt8) : Bytes := [v]
def u16 (v : UInt16) : Bytes := leBytes 2 v.toNat
def u32 (v : UInt32) : Bytes := leBytes 4 v.toNat
def u64 (v : UInt64) : Bytes := leBytes 8 v.toNat
def boolean (v : Bool) : Bytes := [if v then 1 else 0]
def bytes (data : Bytes) : Bytes := data

/-- `ByteWriter::str`: length-prefixed, cut to the protocol cap of 1024 bytes. -/
def str (s : Bytes) : Bytes :=
  let n := if 1024 < s.length then 1024 else s.length
  u16 (UInt16.ofNat n) ++ s.take n

end ByteWriter

/-! ## Reading -/

/-- `ByteReader`. -/
structure ByteReader where
  data : Bytes
  pos : Nat := 0
  ok : Bool := true
deriving DecidableEq, Repr

namespace ByteReader

def remaining (r : ByteReader) : Nat := r.data.length - r.pos

/-- The reader after a read that does not fit. -/
def fail (r : ByteReader) : ByteReader := { r with ok := false }

/-- The bounds check that every read starts with. -/
def fits (r : ByteReader) (size : Nat) : Bool := r.ok && decide (r.pos + size ≤ r.data.length)

/-- The next `size` bytes, if they fit. -/
def take (r : ByteReader) (size : Nat) : Option (Bytes × ByteReader) :=
  if r.fits size then
    some ((r.data.drop r.pos).take size, { r with pos := r.pos + size })
  else none

/-- The common shape of `u8`, `u16`, `u32` and `u64`: a little-endian word of `size` bytes. -/
def word (r : ByteReader) (size : Nat) : Nat × ByteReader :=
  match r.take size with
  | some (bs, r) => (leVal bs, r)
  | none => (0, r.fail)

def u8 (r : ByteReader) : UInt8 × ByteReader := (r.word 1).map UInt8.ofNat id
def u16 (r : ByteReader) : UInt16 × ByteReader := (r.word 2).map UInt16.ofNat id
def u32 (r : ByteReader) : UInt32 × ByteReader := (r.word 4).map UInt32.ofNat id
def u64 (r : ByteReader) : UInt64 × ByteReader := (r.word 8).map UInt64.ofNat id

def boolean (r : ByteReader) : Bool × ByteReader := r.u8.map (fun v => v != 0) id

/-- `ByteReader::bytes` into a buffer that holds `size` zeros. -/
def bytes (r : ByteReader) (size : Nat) : Bytes × ByteReader :=
  match r.take size with
  | some (bs, r) => (bs, r)
  | none => (List.replicate size 0, r.fail)

/-- `ByteReader::str`. -/
def str (r : ByteReader) : Bytes × ByteReader :=
  let (n, r) := r.u16
  match r.take n.toNat with
  | some (bs, r) => (bs, r)
  | none => ([], r.fail)

end ByteReader

end RemotePlay.Net
