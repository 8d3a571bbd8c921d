import RemotePlay.Networking.PayloadExtent
import RemotePlay.Lib.Script

set_option autoImplicit false

/-! # Decoding hostile input

The readers of `networking/Protocol.cpp` as scripts of calls to a `ByteReader`, run against two
readers. One is `ByteReader` as modelled before, which takes bytes off a list. The other loads every
byte from an index of its own, which nothing but the bounds check of the source keeps inside the
buffer, and adds positions in a `size_t`. They agree on every buffer of up to 65536 bytes, so every
index that the decoder loads from is known, whatever is in the buffer (`decode_in_bounds`). -/

namespace RemotePlay.Net

/-! ## Loads -/

namespace ByteReader

/-- `pos_ + size > size_`, in a `size_t`. -/
def exceeds (r : ByteReader) (size : Nat) : Bool :=
  decide (r.data.length < (r.pos + size) % 2 ^ 64)

/-- The indices that a read of so many bytes loads from. -/
def loads (r : ByteReader) (size : Nat) : List Nat :=
  if !r.ok || r.exceeds size then [] else List.range' r.pos size

/-- The bytes at these indices, and the reader after them. -/
def load (r : ByteReader) (size : Nat) : Option (Bytes × ByteReader) :=
  if !r.ok || r.exceeds size then none
  else some ((r.loads size).map (fun i => r.data.getD i 0),
    { r with pos := (r.pos + size) % 2 ^ 64 })

end ByteReader

/-! ## Calls of a reader -/

/-- A call of a `ByteReader`; `boolean` is one of `u8`. -/
inductive ReadOp where
  | u8
  | u16
  | u32
  | u64
  | bytes (size : Nat)
  | str
deriving DecidableEq, Repr

namespace ReadOp

/-- What the call returns; `bytes` fills a buffer of zeros. -/
abbrev Result : ReadOp → Type
  | .u8 => UInt8
  | .u16 => UInt16
  | .u32 => UInt32
  | .u64 => UInt64
  | .bytes _ => Bytes
  | .str => Bytes

/-- `bytes` is only asked for fields of a fixed size, the longest of which has 64 bytes. -/
def Short (op : ReadOp) : Prop := ∀ size, op = .bytes size → size ≤ 64

/-- Zero, or nothing. -/
def blank : (op : ReadOp) → op.Result
  | .u8 => 0
  | .u16 => 0
  | .u32 => 0
  | .u64 => 0
  | .bytes size => List.replicate size 0
  | .str => []

section Via

variable (get : ByteReader → Nat → Option (Bytes × ByteReader))

/-- What a read does with the bytes it gets. -/
def fetch {α : Type} (size : Nat) (value : Bytes → α) (default : α) (r : ByteReader) :
    α × ByteReader :=
  match get r size with
  | some (bs, r) => (value bs, r)
  | none => (default, r.fail)

/-- A call, for a reader that gets its bytes like this. -/
def via : (op : ReadOp) → ByteReader → op.Result × ByteReader
  | .u8, r => (fetch get 1 leVal 0 r).map UInt8.ofNat id
  | .u16, r => (fetch get 2 leVal 0 r).map UInt16.ofNat id
  | .u32, r => (fetch get 4 leVal 0 r).map UInt32.ofNat id
  | .u64, r => (fetch get 8 leVal 0 r).map UInt64.ofNat id
  | .bytes size, r => fetch get size id (List.replicate size 0) r
  | .str, r =>
      let (n, r) := (fetch get 2 leVal 0 r).map UInt16.ofNat id
      fetch get n.toNat id [] r

end Via

/-- The call of a reader that takes its bytes off the list. -/
def read : (op : ReadOp) → ByteReader → op.Result × ByteReader := via ByteReader.take

/-- The call of a reader that loads them one by one. -/
def perform : (op : ReadOp) → ByteReader → op.Result × ByteReader := via ByteReader.load

/-- The indices that the call loads from; `str` loads its length first. -/
def loads : ReadOp → ByteReader → List Nat
  | .u8, r => r.loads 1
  | .u16, r => r.loads 2
  | .u32, r => r.loads 4
  | .u64, r => r.loads 8
  | .bytes size, r => r.loads size
  | .str, r => r.loads 2 ++ (perform .u16 r).2.loads (perform .u16 r).1.toNat

end ReadOp

/-! ## Loads that fit -/

theorem map_getD_range' {α : Type} (l : List α) (d : α) {start n : Nat} (h : start + n ≤ l.length) :
    (List.range' start n).map (fun i => l.getD i d) = (l.drop start).take n := by
  apply List.ext_getElem
  · rw [List.length_map, List.length_range', List.length_take, List.length_drop]
    omega
  · intro i hi _
    rw [List.length_map, List.length_range'] at hi
    simp only [List.getElem_map, List.getElem_range', Nat.one_mul, List.getElem_take,
      List.getElem_drop]
    rw [List.getD_eq_getElem?_getD, List.getElem?_eq_getElem (by omega), Option.getD_some]

namespace ByteReader

/-- A reader of this buffer that is not past its end. -/
structure Over (b : Bytes) (r : ByteReader) : Prop where
  data : r.data = b
  pos : r.pos ≤ b.length

theorem Over.fail {b : Bytes} {r : ByteReader} (hr : r.Over b) : r.fail.Over b := ⟨hr.data, hr.pos⟩

section Over

variable {b : Bytes} (hb : b.length ≤ 65536) {r : ByteReader} (hr : r.Over b)
include hr

theorem within_of_fits {size : Nat} (hfits : r.fits size = true) :
    r.ok = true ∧ r.pos + size ≤ b.length := by
  rw [fits, Bool.and_eq_true, decide_eq_true_eq, hr.data] at hfits
  exact hfits

include hb

/-- No position overflows, so the check is the one it should be. -/
theorem check_eq {size : Nat} (hsize : size ≤ 65536) :
    (!r.ok || r.exceeds size) = !r.fits size := by
  have hsmall : (r.pos + size) % 2 ^ 64 = r.pos + size := by
    have := hr.pos
    exact Nat.mod_eq_of_lt (by omega)
  simp only [exceeds, hsmall, fits, Bool.not_and, ← decide_not, Nat.not_le]

theorem loads_lt {size : Nat} (hsize : size ≤ 65536) : ∀ i ∈ r.loads size, i < b.length := by
  intro i hi
  rw [loads, check_eq hb hr hsize] at hi
  cases hfits : r.fits size with
  | false => simp [hfits] at hi
  | true =>
      have := (within_of_fits hr hfits).2
      simp only [hfits, Bool.not_true, Bool.false_eq_true, if_false, List.mem_range'_1] at hi
      omega

theorem load_eq_take {size : Nat} (hsize : size ≤ 65536) : r.load size = r.take size := by
  rw [load, loads, check_eq hb hr hsize, take]
  cases hfits : r.fits size with
  | false => rfl
  | true =>
      have hwithin := (within_of_fits hr hfits).2
      have hsmall : (r.pos + size) % 2 ^ 64 = r.pos + size := Nat.mod_eq_of_lt (by omega)
      rw [← hr.data] at hwithin
      simp only [Bool.not_true, Bool.false_eq_true, if_false, if_true]
      rw [map_getD_range' _ _ hwithin, hsmall]

theorem over_of_load {size : Nat} (hsize : size ≤ 65536) {bs : Bytes} {r' : ByteReader}
    (h : r.load size = some (bs, r')) : r'.Over b := by
  rw [load_eq_take hb hr hsize, take] at h
  split at h
  · next hfits =>
      obtain ⟨-, rfl⟩ := Prod.mk.inj (Option.some.inj h)
      exact ⟨hr.data, (within_of_fits hr hfits).2⟩
  · cases h

end Over

/-- After a failure nothing is loaded. -/
theorem load_of_failed {r : ByteReader} (hfailed : r.ok = false) (size : Nat) :
    r.load size = none := by
  rw [load, hfailed]
  rfl

theorem fail_of_failed {r : ByteReader} (hfailed : r.ok = false) : r.fail = r := by
  rw [fail, ← hfailed]

end ByteReader

/-! ## Calls -/

namespace ReadOp

theorem Short.le {size : Nat} (h : (ReadOp.bytes size).Short) : size ≤ 65536 :=
  Nat.le_trans (h size rfl) (by decide)

/-- After a failure a call returns zero or nothing and leaves the reader as it is. -/
theorem perform_of_failed (op : ReadOp) {r : ByteReader} (hfailed : r.ok = false) :
    op.perform r = (op.blank, r) := by
  have hfetch {α : Type} (size : Nat) (value : Bytes → α) (default : α) :
      fetch ByteReader.load size value default r = (default, r) := by
    rw [fetch, ByteReader.load_of_failed hfailed, ByteReader.fail_of_failed hfailed]
  cases op
  all_goals
    simp only [perform, via, hfetch, Prod.map, id]
    rfl

section Over

variable {b : Bytes} (hb : b.length ≤ 65536) {r : ByteReader} (hr : r.Over b)
include hb hr

theorem fetch_load {α : Type} {size : Nat} (hsize : size ≤ 65536) (value : Bytes → α)
    (default : α) :
    fetch ByteReader.load size value default r = fetch ByteReader.take size value default r ∧
      (fetch ByteReader.load size value default r).2.Over b := by
  have htake := ByteReader.load_eq_take hb hr hsize
  refine ⟨by rw [fetch, fetch, htake], ?_⟩
  unfold fetch
  split
  · next hload => exact ByteReader.over_of_load hb hr hsize hload
  · exact hr.fail

/-- **One call.** On a buffer of up to 65536 bytes it loads what the reader of lists takes, from
    indices below the length of the buffer. -/
theorem perform_spec {op : ReadOp} (hop : op.Short) :
    op.perform r = op.read r ∧ (op.perform r).2.Over b ∧ ∀ i ∈ op.loads r, i < b.length := by
  -- the words; a string reads its length like a `u16`
  have hword (size : Nat) (hsize : size ≤ 65536) {α : Type} (value : Nat → α) :
      (fetch ByteReader.load size leVal 0 r).map value id
          = (fetch ByteReader.take size leVal 0 r).map value id ∧
        ((fetch ByteReader.load size leVal 0 r).map value id).2.Over b ∧
        ∀ i ∈ r.loads size, i < b.length := by
    obtain ⟨heq, hover⟩ := fetch_load hb hr hsize leVal 0
    exact ⟨congrArg (Prod.map value id) heq, hover, ByteReader.loads_lt hb hr hsize⟩
  cases op with
  | u8 => exact hword 1 (by decide) UInt8.ofNat
  | u16 => exact hword 2 (by decide) UInt16.ofNat
  | u32 => exact hword 4 (by decide) UInt32.ofNat
  | u64 => exact hword 8 (by decide) UInt64.ofNat
  | bytes size =>
      obtain ⟨heq, hover⟩ := fetch_load hb hr hop.le id (List.replicate size 0)
      exact ⟨heq, hover, ByteReader.loads_lt hb hr hop.le⟩
  | str =>
      obtain ⟨hlength, hmid, hfirst⟩ := hword 2 (by decide) UInt16.ofNat
      have hsize : (perform .u16 r).1.toNat ≤ 65536 :=
        Nat.le_of_lt (UInt16.toNat_lt (perform .u16 r).1)
      obtain ⟨heq, hover⟩ := fetch_load hb hmid hsize id []
      refine ⟨?_, hover, ?_⟩
      · have hread : read .str r = fetch ByteReader.take (read .u16 r).1.toNat id [] (read .u16 r).2 :=
          rfl
        rw [hread, ← show perform .u16 r = read .u16 r from hlength]
        exact heq
      · intro i hi
        rcases List.mem_append.1 hi with hi | hi
        · exact hfirst i hi
        · exact ByteReader.loads_lt hb hmid hsize i hi

end Over

end ReadOp

end RemotePlay.Net

namespace RemotePlay.Proto

open Net (ByteReader ReadOp)

/-! ## The readers -/

/-- A function that reads from a `ByteReader`. -/
abbrev Reads (α : Type) := Script ReadOp.Result α

namespace Reads

def u8 : Reads UInt8 := Script.perform ReadOp.u8
def u16 : Reads UInt16 := Script.perform ReadOp.u16
def u32 : Reads UInt32 := Script.perform ReadOp.u32
def u64 : Reads UInt64 := Script.perform ReadOp.u64
def boolean : Reads Bool := do return (← u8) != 0
def bytes (size : Nat) : Reads Bytes := Script.perform (ReadOp.bytes size)
def str : Reads Bytes := Script.perform ReadOp.str

/-- A `uint8_t` that is below another one does not wrap when it is counted up. -/
theorem toNat_add_one_of_lt {i n : UInt8} (h : i < n) : (i + 1).toNat = i.toNat + 1 := by
  rw [UInt8.lt_iff_toNat_lt] at h
  have := n.toNat_lt
  rw [UInt8.toNat_add, show (1 : UInt8).toNat = 1 from rfl]
  omega

/-- The loop of `readVideoCodecList` from `i` on, with the counter in a `uint8_t`. -/
def codecs (n i : UInt8) : Reads (List VideoCodec) :=
  if i < n then do
    let c ← u8
    let cs ← codecs n (i + 1)
    return ⟨c⟩ :: cs
  else return []
termination_by n.toNat - i.toNat
decreasing_by
  next h =>
    have := toNat_add_one_of_lt h
    rw [UInt8.lt_iff_toNat_lt] at h
    omega

/-- `readVideoCodecList`. -/
def videoCodecList : Reads (List VideoCodec) := do
  let n ← u8
  codecs n 0

/-- The reads of `readMsg`, up to its last line. -/
def fields (type : Id) : Reads Body :=
  match type with
  | .ClientHello => do
      let clientName ← str
      let sessionCode ← str
      let appVersion ← str
      return .clientHello { clientName, sessionCode, appVersion }
  | .HostReject => do
      let reasonCode ← u16
      let reasonText ← str
      return .hostReject { reasonCode, reasonText }
  | .HostApproved => return .hostApproved
  | .HostCapabilities => do
      let hostName ← str
      let gameName ← str
      let captureMode ← u8
      let width ← u16
      let height ← u16
      let fps ← u8
      let bitrateKbps ← u32
      let offeredCodecs ← videoCodecList
      return .hostCapabilities
        { hostName, gameName, captureMode, width, height, fps, bitrateKbps, offeredCodecs }
  | .ClientCapabilities => do
      let supportedCodecs ← videoCodecList
      return .clientCapabilities { supportedCodecs }
  | .NegotiationResult => do
      let accepted ← boolean
      let codec ← u8
      let width ← u16
      let height ← u16
      let fps ← u8
      let bitrateKbps ← u32
      let note ← str
      return .negotiationResult { accepted, codec, width, height, fps, bitrateKbps, note }
  | .Ping => do
      let epochMs ← u64
      return .ping { epochMs }
  | .Pong => do
      let echoEpochMs ← u64
      return .pong { echoEpochMs }
  | .InputPermission => do
      let controller ← boolean
      let keyboard ← boolean
      let mouse ← boolean
      let vibration ← boolean
      return .inputPermission { controller, keyboard, mouse, vibration }
  | .Kick => do
      let reason ← str
      return .kick { reason }
  | .Bye => do
      let reason ← str
      return .bye { reason }
  | .StreamStart => do
      let udpPort ← u16
      let sessionId ← u32
      let playerIndex ← u8
      let codec ← u8
      let width ← u16
      let height ← u16
      let fps ← u8
      let bitrateKbps ← u32
      return .streamStart
        { udpPort, sessionId, playerIndex, codec, width, height, fps, bitrateKbps }
  | .StreamStop => do
      let reason ← str
      return .streamStop { reason }
  | .KeyframeRequest => return .keyframeRequest
  | .KeyExchange => do
      let publicKey ← bytes 64
      let salt ← bytes 16
      return .keyExchange { publicKey, salt }
  | .SessionKeyReady => return .sessionKeyReady

end Reads

/-- `decodeMessage` over a reader that loads its bytes one by one. -/
def decodeByLoads (rawType : UInt16) (data : Bytes) : Option Envelope :=
  match Id.ofRaw rawType with
  | none => none
  | some type =>
      let (body, r) := (Reads.fields type).run ReadOp.perform { data := data }
      (if type ∈ exactIds then whenDone r body else whenOk r body).map
        (fun body => { type := type, body := body })

/-- The calls that `decodeMessage` makes, each with the reader that it is made on. -/
def decodeCalls (rawType : UInt16) (data : Bytes) : List (ByteReader × ReadOp) :=
  match Id.ofRaw rawType with
  | none => []
  | some type =>
      history (Script.after ReadOp.perform) { data := data }
        ((Reads.fields type).ops ReadOp.perform { data := data })

/-! ## The scripts -/

namespace Reads

theorem run_codecs (n i : UInt8) (r : ByteReader) :
    (codecs n i).run ReadOp.read r = readCodecs (n.toNat - i.toNat) r := by
  induction i using codecs.induct n generalizing r with
  | case1 i h ih =>
      have hcount : n.toNat - i.toNat = n.toNat - (i + 1).toNat + 1 := by
        have := toNat_add_one_of_lt h
        rw [UInt8.lt_iff_toNat_lt] at h
        omega
      rw [codecs, if_pos h, hcount]
      simp only [Script.run_bind, Script.run_pure, ih]
      rfl
  | case2 i h =>
      have hcount : n.toNat - i.toNat = 0 := by
        rw [UInt8.lt_iff_toNat_lt] at h
        omega
      rw [codecs, if_neg h, hcount]
      rfl

theorem run_videoCodecList (r : ByteReader) :
    videoCodecList.run ReadOp.read r = readVideoCodecList r := by
  rw [videoCodecList, Script.run_bind, run_codecs]
  rfl

/-- Over the reader that takes its bytes off the list, the script is the reader. -/
theorem run_fields (type : Id) (r : ByteReader) :
    (fields type).run ReadOp.read r = readFields type r := by
  cases type with
  | HostCapabilities =>
      simp only [fields, Script.run_bind, run_videoCodecList]
      rfl
  | ClientCapabilities =>
      simp only [fields, Script.run_bind, run_videoCodecList]
      rfl
  | _ => rfl

theorem within_u8 : u8.Within ReadOp.Short 1 := Script.within_perform nofun

theorem within_u16 : u16.Within ReadOp.Short 1 := Script.within_perform nofun

theorem within_u32 : u32.Within ReadOp.Short 1 := Script.within_perform nofun

theorem within_u64 : u64.Within ReadOp.Short 1 := Script.within_perform nofun

theorem within_boolean : boolean.Within ReadOp.Short 1 := within_u8.bind (fun v => .done (v != 0) 0)

theorem within_bytes {size : Nat} (h : size ≤ 64) : (bytes size).Within ReadOp.Short 1 := by
  refine Script.within_perform ?_
  rintro _ ⟨⟩
  exact h

theorem within_str : str.Within ReadOp.Short 1 := Script.within_perform nofun

theorem within_codecs (n i : UInt8) : (codecs n i).Within ReadOp.Short (n.toNat - i.toNat) := by
  induction i using codecs.induct n with
  | case1 i h ih =>
      have hcount : n.toNat - i.toNat = 1 + (n.toNat - (i + 1).toNat + 0) := by
        have := toNat_add_one_of_lt h
        rw [UInt8.lt_iff_toNat_lt] at h
        omega
      rw [codecs, if_pos h, hcount]
      exact within_u8.bind (fun c => ih.bind (fun cs => .done (⟨c⟩ :: cs) 0))
  | case2 i h =>
      rw [codecs, if_neg h]
      exact .done [] _

theorem within_videoCodecList : videoCodecList.Within ReadOp.Short (1 + 255) := by
  refine within_u8.bind (fun n => (within_codecs n 0).mono ?_)
  have := n.toNat_lt
  omega

/-- The capabilities of a host take the most calls, with a list of 255 codecs. -/
theorem within_fields (type : Id) : (fields type).Within ReadOp.Short 263 := by
  cases type with
  | ClientHello =>
      exact .mono (within_str.bind fun _ => within_str.bind fun _ => within_str.bind fun _ =>
        .done _ 0) (by decide)
  | HostReject =>
      exact .mono (within_u16.bind fun _ => within_str.bind fun _ => .done _ 0) (by decide)
  | HostApproved => exact .done _ _
  | HostCapabilities =>
      exact .mono (within_str.bind fun _ => within_str.bind fun _ => within_u8.bind fun _ =>
        within_u16.bind fun _ => within_u16.bind fun _ => within_u8.bind fun _ =>
        within_u32.bind fun _ => within_videoCodecList.bind fun _ => .done _ 0) (by decide)
  | ClientCapabilities =>
      exact .mono (within_videoCodecList.bind fun _ => .done _ 0) (by decide)
  | NegotiationResult =>
      exact .mono (within_boolean.bind fun _ => within_u8.bind fun _ => within_u16.bind fun _ =>
        within_u16.bind fun _ => within_u8.bind fun _ => within_u32.bind fun _ =>
        within_str.bind fun _ => .done _ 0) (by decide)
  | Ping => exact .mono (within_u64.bind fun _ => .done _ 0) (by decide)
  | Pong => exact .mono (within_u64.bind fun _ => .done _ 0) (by decide)
  | InputPermission =>
      exact .mono (within_boolean.bind fun _ => within_boolean.bind fun _ =>
        within_boolean.bind fun _ => within_boolean.bind fun _ => .done _ 0) (by decide)
  | Kick => exact .mono (within_str.bind fun _ => .done _ 0) (by decide)
  | Bye => exact .mono (within_str.bind fun _ => .done _ 0) (by decide)
  | StreamStart =>
      exact .mono (within_u16.bind fun _ => within_u32.bind fun _ => within_u8.bind fun _ =>
        within_u8.bind fun _ => within_u16.bind fun _ => within_u16.bind fun _ =>
        within_u8.bind fun _ => within_u32.bind fun _ => .done _ 0) (by decide)
  | StreamStop => exact .mono (within_str.bind fun _ => .done _ 0) (by decide)
  | KeyframeRequest => exact .done _ _
  | KeyExchange =>
      exact .mono ((within_bytes (by decide)).bind fun _ => (within_bytes (by decide)).bind fun _ =>
        .done _ 0) (by decide)
  | SessionKeyReady => exact .done _ _

end Reads

/-! ## Decoding -/

theorem after_failed (r : ByteReader) (op : ReadOp) (hfailed : r.ok = false) :
    (Script.after ReadOp.perform r op).ok = false := by
  rw [Script.after, op.perform_of_failed hfailed]
  exact hfailed

theorem decodeByLoads_eq {b : Bytes} (hb : b.length ≤ 65536) (rawType : UInt16) :
    decodeByLoads rawType b = decodeMessage rawType b := by
  unfold decodeByLoads decodeMessage
  cases Id.ofRaw rawType with
  | none => rfl
  | some type =>
      have hrun := (Reads.within_fields type).run_congr (ByteReader.Over b)
        (fun op r hop hr => ⟨(ReadOp.perform_spec hb hr hop).1, (ReadOp.perform_spec hb hr hop).2.1⟩)
        (s := { data := b }) ⟨rfl, Nat.zero_le _⟩
      dsimp only
      rw [hrun, Reads.run_fields, readMsg_eq]

/-- Every call is one of the readers', on a reader of the payload that is not past its end. -/
theorem over_of_mem_decodeCalls {b : Bytes} (hb : b.length ≤ 65536) {rawType : UInt16}
    {p : ByteReader × ReadOp} (hp : p ∈ decodeCalls rawType b) : p.1.Over b ∧ p.2.Short := by
  unfold decodeCalls at hp
  split at hp
  · cases hp
  · next type _ =>
      have hshort : ∀ q ∈ history (Script.after ReadOp.perform) { data := b }
          ((Reads.fields type).ops ReadOp.perform { data := b }), q.2.Short := by
        intro q hq
        have hop := List.mem_map_of_mem (f := Prod.snd) hq
        rw [history_map_snd] at hop
        exact ((Reads.within_fields type).ops ReadOp.perform _).2 _ hop
      have hover := history_invariant (Script.after ReadOp.perform) (ByteReader.Over b)
        (fun _ op => op.Short) (fun r op hr hop => (ReadOp.perform_spec hb hr hop).2.1)
        { data := b } _ ⟨rfl, Nat.zero_le _⟩ hshort
      exact ⟨hover p hp, hshort p hp⟩

/-- A payload with a read that fails is not a message. -/
theorem decodeByLoads_of_failed {b : Bytes} {rawType : UInt16} {p : ByteReader × ReadOp}
    (hp : p ∈ decodeCalls rawType b) (hfailed : (p.2.perform p.1).2.ok = false) :
    decodeByLoads rawType b = none := by
  unfold decodeCalls at hp
  unfold decodeByLoads
  cases hid : Id.ofRaw rawType with
  | none => rfl
  | some type =>
      rw [hid] at hp
      have hend := runFrom_of_mem_history (Script.after ReadOp.perform) (fun r => r.ok = false)
        after_failed _ _ hp hfailed
      rw [← Script.run_snd] at hend
      dsimp only
      rw [whenDone, whenOk, hend]
      simp

theorem length_decodeCalls_le (rawType : UInt16) (b : Bytes) :
    (decodeCalls rawType b).length ≤ 263 := by
  unfold decodeCalls
  split
  · exact Nat.zero_le 263
  · next type _ =>
      rw [← List.length_map Prod.snd, history_map_snd]
      exact ((Reads.within_fields type).ops ReadOp.perform _).1

/-- A read that fails is the last one that returns anything or moves. -/
theorem pairwise_decodeCalls (rawType : UInt16) (b : Bytes) :
    (decodeCalls rawType b).Pairwise (fun p q =>
      (p.2.perform p.1).2.ok = false → q.2.perform q.1 = (q.2.blank, q.1)) := by
  unfold decodeCalls
  split
  · exact List.Pairwise.nil
  · refine (history_pairwise (Script.after ReadOp.perform) (fun r => r.ok = false) after_failed _
      _).imp ?_
    intro p q hlater hfailed
    exact q.2.perform_of_failed (hlater hfailed)

/-- **Decoding hostile input.** For every type and every payload of up to 65536 bytes, the decoder
    ends after at most 263 calls, and loading byte by byte it finds the message that `decodeMessage`
    finds. Each call loads from indices below the length of the payload and leaves the position
    within it; after one that fails every other returns zero or nothing and moves nothing, and there
    is no message. -/
theorem decode_in_bounds (rawType : UInt16) (b : Bytes) (hb : b.length ≤ 65536) :
    decodeByLoads rawType b = decodeMessage rawType b ∧
      (decodeCalls rawType b).length ≤ 263 ∧
      (∀ p ∈ decodeCalls rawType b,
        (∀ i ∈ p.2.loads p.1, i < b.length) ∧ (p.2.perform p.1).2.pos ≤ b.length) ∧
      (decodeCalls rawType b).Pairwise (fun p q =>
        (p.2.perform p.1).2.ok = false → q.2.perform q.1 = (q.2.blank, q.1)) ∧
      ((∃ p ∈ decodeCalls rawType b, (p.2.perform p.1).2.ok = false) →
        decodeMessage rawType b = none) := by
  refine ⟨decodeByLoads_eq hb rawType, length_decodeCalls_le rawType b, ?_,
    pairwise_decodeCalls rawType b, ?_⟩
  · intro p hp
    obtain ⟨hover, hshort⟩ := over_of_mem_decodeCalls hb hp
    obtain ⟨-, hafter, hloads⟩ := ReadOp.perform_spec hb hover hshort
    exact ⟨hloads, hafter.pos⟩
  · rintro ⟨p, hp, hfailed⟩
    rw [← decodeByLoads_eq hb rawType]
    exact decodeByLoads_of_failed hp hfailed

/-- A list of codecs that says it has seven and ends after two. -/
def truncatedCodecs : Bytes := [7, 0, 1]

theorem decode_in_bounds_truncated :
    decodeByLoads 5 truncatedCodecs = decodeMessage 5 truncatedCodecs ∧
      (decodeCalls 5 truncatedCodecs).length ≤ 263 ∧
      (∀ p ∈ decodeCalls 5 truncatedCodecs,
        (∀ i ∈ p.2.loads p.1, i < truncatedCodecs.length) ∧
          (p.2.perform p.1).2.pos ≤ truncatedCodecs.length) ∧
      (decodeCalls 5 truncatedCodecs).Pairwise (fun p q =>
        (p.2.perform p.1).2.ok = false → q.2.perform q.1 = (q.2.blank, q.1)) ∧
      ((∃ p ∈ decodeCalls 5 truncatedCodecs, (p.2.perform p.1).2.ok = false) →
        decodeMessage 5 truncatedCodecs = none) :=
  decode_in_bounds 5 truncatedCodecs (by decide)

end RemotePlay.Proto
