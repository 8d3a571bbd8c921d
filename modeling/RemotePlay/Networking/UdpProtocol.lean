import Std.Data.TreeMap
import RemotePlay.Common.Types

set_option autoImplicit false

/-! # The UDP media protocol (`networking/UdpProtocol.cpp`)

Pure logic without sockets: the datagram header codec, per-type sequence tracking, fragment
reassembly and the jitter buffer. Out-parameters become results, `std::map` is a `Std.TreeMap` whose
keys are enumerated in ascending order, counters wrap at 64 bits.

`FragmentReassembler.feed` has two places where the C++ leaves defined behaviour: it may write
through a reference to a buffer it has just evicted, and its `memcpy` takes the length from the
header. Both are outcomes of the model (`FeedFault`), not excluded inputs. -/

namespace RemotePlay.Net

/-! ## Header -/

/-- `UdpType`, an `enum class : uint8_t`. -/
structure UdpType where
  code : UInt8
deriving DecidableEq, Repr

namespace UdpType

def Video : UdpType := ⟨0⟩
def Audio : UdpType := ⟨1⟩
def Input : UdpType := ⟨2⟩
def Control : UdpType := ⟨3⟩
def Ping : UdpType := ⟨4⟩
def Pong : UdpType := ⟨5⟩
def KeyframeRequest : UdpType := ⟨6⟩
def StreamStart : UdpType := ⟨7⟩
def StreamStop : UdpType := ⟨8⟩

end UdpType

namespace UdpFlag

def Fragment : UInt8 := 0x01
def Keyframe : UInt8 := 0x02
def Encrypted : UInt8 := 0x04

end UdpFlag

def kUdpMagic : UInt16 := 0x5252
def kUdpVersion : UInt8 := 0x01

/-- The sum the source writes; its comment says 30. -/
def kUdpHeaderSize : Nat := 2 + 1 + 1 + 1 + 4 + 8 + 2 + 2 + 8 + 2

def kMaxUdpPayload : Nat := 1100
def kMaxFragments : UInt16 := 1024

/-- `UdpHeader` with its default initialisers. -/
structure UdpHeader where
  magic : UInt16 := kUdpMagic
  version : UInt8 := kUdpVersion
  type : UInt8 := 0
  flags : UInt8 := 0
  sessionId : UInt32 := 0
  sequence : UInt64 := 0
  fragmentIndex : UInt16 := 0
  fragmentCount : UInt16 := 1
  timestampNs : UInt64 := 0
  payloadSize : UInt16 := 0
deriving DecidableEq, Repr

/-- A flag bit test, `h.flags & static_cast<uint8_t>(flag)`. -/
def UdpHeader.hasFlag (h : UdpHeader) (flag : UInt8) : Bool := h.flags &&& flag != 0

/-- `encodeUdpHeader`: the bytes it writes at offsets 0 to 30. -/
def encodeUdpHeader (h : UdpHeader) : Bytes :=
  leBytes 2 h.magic.toNat ++ [h.version, h.type, h.flags] ++ leBytes 4 h.sessionId.toNat ++
    leBytes 8 h.sequence.toNat ++ leBytes 2 h.fragmentIndex.toNat ++
    leBytes 2 h.fragmentCount.toNat ++ leBytes 8 h.timestampNs.toNat ++
    leBytes 2 h.payloadSize.toNat

def getU8 (buf : Bytes) (off : Nat) : UInt8 := (buf.drop off).headD 0
def getU16 (buf : Bytes) (off : Nat) : UInt16 := UInt16.ofNat (leVal ((buf.drop off).take 2))
def getU32 (buf : Bytes) (off : Nat) : UInt32 := UInt32.ofNat (leVal ((buf.drop off).take 4))
def getU64 (buf : Bytes) (off : Nat) : UInt64 := UInt64.ofNat (leVal ((buf.drop off).take 8))

/-- The fields `decodeUdpHeader` reads after the type check. -/
def readUdpFields (buf : Bytes) (out : UdpHeader) : UdpHeader :=
  { out with
    flags := getU8 buf 4
    sessionId := getU32 buf 5
    sequence := getU64 buf 9
    fragmentIndex := getU16 buf 17
    fragmentCount := getU16 buf 19
    timestampNs := getU64 buf 21
    payloadSize := getU16 buf 29 }

/-- `decodeUdpHeader`: whether the datagram is accepted, and what `out` holds afterwards. A rejected
    datagram leaves `out` filled up to the check that failed. -/
def decodeUdpHeader (buf : Bytes) (out : UdpHeader) : Bool × UdpHeader :=
  if buf.length < kUdpHeaderSize then (false, out)
  else
    let out := { out with magic := getU16 buf 0 }
    if out.magic ≠ kUdpMagic then (false, out)
    else
      let out := { out with version := getU8 buf 2 }
      if out.version ≠ kUdpVersion then (false, out)
      else
        let out := { out with type := getU8 buf 3 }
        if 8 < out.type then (false, out)
        else
          let out := readUdpFields buf out
          if buf.length < kUdpHeaderSize + out.payloadSize.toNat then (false, out)
          else if out.fragmentCount = 0 ∨ kMaxFragments < out.fragmentCount then (false, out)
          else if out.fragmentCount ≤ out.fragmentIndex then (false, out)
          else (true, out)

/-- `fragmentCountFor`: the sum is a 64-bit `size_t`, and the cast to `uint16_t` keeps the low
    sixteen bits. -/
def fragmentCountFor (size : Nat) : UInt16 :=
  if size = 0 then 1
  else
    let n := UInt16.ofNat ((size + kMaxUdpPayload - 1) % 2 ^ 64 / kMaxUdpPayload)
    if n < 1 then 1 else n

/-- `AssembledFrame`. -/
structure AssembledFrame where
  type : UdpType := .Video
  sessionId : UInt32 := 0
  sequence : UInt64 := 0
  timestampNs : UInt64 := 0
  keyframe : Bool := false
  data : Bytes := []
deriving DecidableEq, Repr

/-! ## Sequence tracking -/

def kLateWindow : UInt64 := 64

/-- `SequenceTracker`. -/
structure SequenceTracker where
  highest : UInt64 := 0
  initialized : Bool := false
  duplicates : UInt64 := 0
  lost : UInt64 := 0
  late : UInt64 := 0
  received : UInt64 := 0
  seenWindow : Vector UInt64 64 := Vector.replicate 64 0
  seenMask : UInt64 := 0
deriving DecidableEq, Repr

def SequenceTracker.slot (seq : UInt64) : Fin 64 := ⟨seq.toNat % 64, Nat.mod_lt _ (by decide)⟩

/-- `seenWindow_[slot] = seq; seenMask_ |= 1 << slot`. -/
def SequenceTracker.markSeen (t : SequenceTracker) (seq : UInt64) : SequenceTracker :=
  { t with
    seenWindow := t.seenWindow.set (SequenceTracker.slot seq) seq
    seenMask := t.seenMask ||| ((1 : UInt64) <<< (seq % 64)) }

/-- `SequenceTracker::track`; the result is an `int64_t`. -/
def SequenceTracker.track (t : SequenceTracker) (seq : UInt64) : Int64 × SequenceTracker :=
  let t := { t with received := t.received + 1 }
  if !t.initialized then
    (0, { t with initialized := true, highest := seq }.markSeen seq)
  else if t.highest < seq then
    let gap := seq - t.highest
    let t := if 1 < gap then { t with lost := t.lost + (gap - 1) } else t
    (gap.toInt64, { t with highest := seq }.markSeen seq)
  else if seq + kLateWindow < t.highest then (-1, { t with late := t.late + 1 })
  else if (t.seenMask >>> (seq % 64)) &&& 1 ≠ 0 ∧
      t.seenWindow[SequenceTracker.slot seq] = seq then
    (1, { t with duplicates := t.duplicates + 1 })
  else
    let t := t.markSeen seq
    (0, { t with late := t.late + 1 })

/-! ## Reassembly -/

/-- `FragmentReassembler::FrameBuf`; `haveBits` is the source's `have`. -/
structure FrameBuf where
  data : Bytes := []
  haveBits : List Bool := []
  received : UInt16 := 0
  fragmentCount : UInt16 := 0
  totalSize : Nat := 0
  timestampNs : UInt64 := 0
  keyframe : Bool := false
deriving DecidableEq, Repr

/-- Where `feed` leaves defined behaviour. -/
inductive FeedFault where
  /-- `frames_.erase(frames_.begin())` removed the buffer that `fb` refers to. -/
  | danglingBuffer
  /-- `memcpy` past the end of `fb.data`. -/
  | bufferOverrun
deriving DecidableEq, Repr

def kMaxInFlight : Nat := 96

/-- `FragmentReassembler`. -/
structure FragmentReassembler where
  type : UdpType
  frames : Std.TreeMap UInt64 FrameBuf := {}
  highestStarted : UInt64 := 0
  initialized : Bool := false
  droppedIncomplete : UInt64 := 0
  completed : UInt64 := 0

/-- "Track started sequences for GC." -/
def FragmentReassembler.noteStarted (r : FragmentReassembler) (h : UdpHeader) :
    FragmentReassembler :=
  { r with
    highestStarted := if !r.initialized ∨ r.highestStarted < h.sequence then h.sequence
      else r.highestStarted
    initialized := true }

/-- The buffer as `feed` sets it up for a sequence it has not seen. -/
def FrameBuf.fresh (h : UdpHeader) : FrameBuf :=
  { fragmentCount := h.fragmentCount
    haveBits := List.replicate h.fragmentCount.toNat false
    data := List.replicate (h.fragmentCount.toNat * kMaxUdpPayload) 0
    timestampNs := h.timestampNs
    keyframe := h.hasFlag UdpFlag.Keyframe }

/-- "Too many in flight: drop oldest", on the map that already holds the default buffer which
    `frames_[h.sequence]` inserted. -/
def FragmentReassembler.dropOldest (r : FragmentReassembler) (seq : UInt64) :
    Except FeedFault FragmentReassembler :=
  if kMaxInFlight < r.frames.size then
    match r.frames.keys.head? with
    | none => .ok r
    | some oldest =>
        -- `fb` is a reference into the map and is written through after the `erase`
        if oldest = seq then .error .danglingBuffer
        else .ok { r with
          frames := r.frames.erase oldest
          droppedIncomplete := r.droppedIncomplete + 1 }
  else .ok r

/-- The reference `fb = frames_[h.sequence]`, set up when it is new; `none` when its fragment count
    differs from the header's. -/
def FragmentReassembler.bufferFor (r : FragmentReassembler) (h : UdpHeader) :
    Except FeedFault (Option FrameBuf × FragmentReassembler) :=
  let fb := r.frames.getD h.sequence {}
  let r := { r with frames := r.frames.insertIfNew h.sequence {} }
  if fb.fragmentCount = 0 then
    match r.dropOldest h.sequence with
    | .error e => .error e
    | .ok r =>
        let fb := FrameBuf.fresh h
        .ok (some fb, { r with frames := r.frames.insert h.sequence fb })
  else if fb.fragmentCount ≠ h.fragmentCount then .ok (none, r)
  else .ok (some fb, r)

/-- The byte range of the frame buffer that `feed`'s `memcpy` writes: offset and length. -/
def UdpHeader.copyRange (h : UdpHeader) : Nat × Nat :=
  (h.fragmentIndex.toNat * kMaxUdpPayload, h.payloadSize.toNat)

/-- The fragment is not one the buffer takes: its index is out of range or already there. -/
def FrameBuf.refuses (fb : FrameBuf) (h : UdpHeader) : Bool :=
  decide (fb.fragmentCount ≤ h.fragmentIndex) || fb.haveBits.getD h.fragmentIndex.toNat false

/-- Copy one fragment into its place and do the bookkeeping. -/
def FrameBuf.store (fb : FrameBuf) (h : UdpHeader) (payload : Bytes) : FrameBuf :=
  { fb with
    data := overwrite fb.data h.copyRange.1 (payload.take h.copyRange.2)
    haveBits := fb.haveBits.set h.fragmentIndex.toNat true
    received := fb.received + 1
    totalSize :=
      if h.fragmentIndex.toNat + 1 = h.fragmentCount.toNat then
        (h.fragmentCount.toNat - 1) * kMaxUdpPayload + h.payloadSize.toNat
      else fb.totalSize }

/-- The frame a completed buffer yields. -/
def FrameBuf.assembled (fb : FrameBuf) (h : UdpHeader) : AssembledFrame :=
  { type := ⟨h.type⟩
    sessionId := h.sessionId
    sequence := h.sequence
    timestampNs := fb.timestampNs
    keyframe := fb.keyframe
    data := fb.data.take fb.totalSize }

/-- The unfragmented frame, which completes at once. -/
def UdpHeader.unfragmented (h : UdpHeader) (payload : Bytes) : AssembledFrame :=
  { type := ⟨h.type⟩
    sessionId := h.sessionId
    sequence := h.sequence
    timestampNs := h.timestampNs
    keyframe := h.hasFlag UdpFlag.Keyframe
    data := payload.take h.payloadSize.toNat }

/-- What `feed` does with the buffer after the copy: hand the frame out, drop it, or keep it. -/
def FragmentReassembler.settle (r : FragmentReassembler) (h : UdpHeader) (fb : FrameBuf) :
    Option AssembledFrame × FragmentReassembler :=
  if fb.received = fb.fragmentCount then
    if fb.totalSize = 0 ∨ fb.data.length < fb.totalSize then
      (none, { r with
        frames := r.frames.erase h.sequence
        droppedIncomplete := r.droppedIncomplete + 1 })
    else
      (some (fb.assembled h), { r with
        frames := r.frames.erase h.sequence
        completed := r.completed + 1 })
  else (none, { r with frames := r.frames.insert h.sequence fb })

/-- `FragmentReassembler::feed`: the completed frame, if any, and the new state. `payload` is what
    the pointer argument points at; callers pass at least `h.payloadSize` bytes. -/
def FragmentReassembler.feed (r : FragmentReassembler) (h : UdpHeader) (payload : Bytes) :
    Except FeedFault (Option AssembledFrame × FragmentReassembler) :=
  if h.fragmentCount = 1 then
    .ok (some (h.unfragmented payload), { r with completed := r.completed + 1 })
  else
    match (r.noteStarted h).bufferFor h with
    | .error e => .error e
    | .ok (none, r) => .ok (none, r)
    | .ok (some fb, r) =>
        if fb.refuses h then .ok (none, r)
        -- the source copies without this comparison
        else if fb.data.length < h.copyRange.1 + h.copyRange.2 then .error .bufferOverrun
        else .ok (r.settle h (fb.store h payload))

/-- The loop of `gc` over the buffers in ascending order. -/
def FragmentReassembler.gcLoop : FragmentReassembler → List UInt64 → FragmentReassembler
  | r, [] => r
  | r, lowest :: rest =>
      -- a 64-bit sum, which wraps for the last 64 sequence numbers
      if lowest + 64 < r.highestStarted then
        FragmentReassembler.gcLoop
          { r with
            frames := r.frames.erase lowest
            droppedIncomplete := r.droppedIncomplete + 1 } rest
      else r

/-- `FragmentReassembler::gc`. -/
def FragmentReassembler.gc (r : FragmentReassembler) : FragmentReassembler :=
  r.gcLoop r.frames.keys

/-- `FragmentReassembler::reset`. -/
def FragmentReassembler.reset (r : FragmentReassembler) : FragmentReassembler :=
  { r with frames := {}, highestStarted := 0, initialized := false }

/-! ## Jitter buffer -/

/-- `JitterBuffer::Entry`. -/
structure JitterBuffer.Entry where
  frame : AssembledFrame
  arriveNs : UInt64 := 0
deriving DecidableEq, Repr

def kHighWatermark : Nat := 8

/-- `JitterBuffer`. -/
structure JitterBuffer where
  queue : List JitterBuffer.Entry := []
  targetMs : UInt32 := 30
  reordered : UInt64 := 0
  overflowDropped : UInt64 := 0
  lastPoppedSequence : UInt64 := 0
  initialized : Bool := false
deriving DecidableEq, Repr

/-- `while (queue_.size() >= kHighWatermark * 2)`: drop the oldest entries. -/
def JitterBuffer.dropBacklog (b : JitterBuffer) : JitterBuffer :=
  let excess := b.queue.length + 1 - kHighWatermark * 2
  { b with
    queue := b.queue.drop excess
    overflowDropped := b.overflowDropped + UInt64.ofNat excess }

/-- The swaps after `push_back`, on the queue read from its back: the new entry moves towards the
    front past every larger sequence and stops at the first that is not larger. -/
def JitterBuffer.sinkIn (e : JitterBuffer.Entry) : List JitterBuffer.Entry → List JitterBuffer.Entry
  | [] => [e]
  | x :: xs =>
      if e.frame.sequence < x.frame.sequence then x :: JitterBuffer.sinkIn e xs else e :: x :: xs

/-- `JitterBuffer::push`. -/
def JitterBuffer.push (b : JitterBuffer) (frame : AssembledFrame) (nowNs : UInt64) : JitterBuffer :=
  if b.initialized ∧ frame.sequence ≤ b.lastPoppedSequence ∧ 0 < b.lastPoppedSequence then
    { b with reordered := b.reordered + 1 }
  else
    let b := b.dropBacklog
    { b with queue := (JitterBuffer.sinkIn ⟨frame, nowNs⟩ b.queue.reverse).reverse }

/-- Whether `pop` takes the front entry; `size` is the queue's current length. -/
def JitterBuffer.ready (b : JitterBuffer) (front : JitterBuffer.Entry) (size : Nat)
    (nowNs : UInt64) : Bool :=
  let waited := if front.arriveNs < nowNs then nowNs - front.arriveNs else 0
  let waitedEnough := b.targetMs.toUInt64 * 1000000 ≤ waited
  let overflow := kHighWatermark < size
  let gapAhead := b.initialized ∧ b.lastPoppedSequence + 1 < front.frame.sequence
  -- the last comparison is nanoseconds against milliseconds, as in the source
  waitedEnough ∨ overflow ∨ (gapAhead ∧ b.targetMs.toUInt64 / 2 ≤ waited)

/-- The loop of `pop` over the queue. -/
def JitterBuffer.popLoop (b : JitterBuffer) (nowNs : UInt64) :
    List JitterBuffer.Entry → List AssembledFrame × JitterBuffer
  | [] => ([], { b with queue := [] })
  | front :: rest =>
      if b.ready front (rest.length + 1) nowNs then
        let (out, b') := JitterBuffer.popLoop
          { b with lastPoppedSequence := front.frame.sequence, initialized := true } nowNs rest
        (front.frame :: out, b')
      else ([], { b with queue := front :: rest })

/-- `JitterBuffer::pop`: the frames appended to `out`, and the new state. -/
def JitterBuffer.pop (b : JitterBuffer) (nowNs : UInt64) : List AssembledFrame × JitterBuffer :=
  b.popLoop nowNs b.queue

/-- `JitterBuffer::reset`. -/
def JitterBuffer.reset (b : JitterBuffer) : JitterBuffer :=
  { b with
    queue := []
    reordered := 0
    overflowDropped := 0
    lastPoppedSequence := 0
    initialized := false }

end RemotePlay.Net
