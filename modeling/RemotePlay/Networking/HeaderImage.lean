import RemotePlay.Networking.HeaderCodec

set_option autoImplicit false

/-! # The image of a header

`encodeUdpHeader` writes eleven fields at offsets worked out by hand, and `decodeUdpHeader` reads
them at the same ones, checking as it goes. `writeUdpHeader` is the encoder store by store, into a
buffer that holds anything; `decodeInBounds` is the decoder with every load checked against the end
of the datagram. The stores neither overlap nor leave a gap (`writeUdpHeader_eq`), no load leaves
the datagram (`decodeInBounds_eq`), and what is accepted is the image of what was read. -/

namespace RemotePlay.Net

/-! ## The encoder, store by store -/

def putU8 (buf : Bytes) (off : Nat) (v : UInt8) : Bytes := overwrite buf off [v]
def putU16 (buf : Bytes) (off : Nat) (v : UInt16) : Bytes := overwrite buf off (leBytes 2 v.toNat)
def putU32 (buf : Bytes) (off : Nat) (v : UInt32) : Bytes := overwrite buf off (leBytes 4 v.toNat)
def putU64 (buf : Bytes) (off : Nat) (v : UInt64) : Bytes := overwrite buf off (leBytes 8 v.toNat)

/-- `encodeUdpHeader` on a buffer. -/
def writeUdpHeader (buf : Bytes) (h : UdpHeader) : Bytes :=
  let buf := putU16 buf 0 h.magic
  let buf := putU8 buf 2 h.version
  let buf := putU8 buf 3 h.type
  let buf := putU8 buf 4 h.flags
  let buf := putU32 buf 5 h.sessionId
  let buf := putU64 buf 9 h.sequence
  let buf := putU16 buf 17 h.fragmentIndex
  let buf := putU16 buf 19 h.fragmentCount
  let buf := putU64 buf 21 h.timestampNs
  putU16 buf 29 h.payloadSize

/-- A store right behind what has been written so far. -/
theorem overwrite_next (done src : Bytes) {tail : Bytes} {off : Nat} (h : done.length = off) :
    overwrite (done ++ tail) off src = done ++ src ++ tail.drop src.length := by
  rw [overwrite, ← h, List.take_left, List.drop_length_add_append]

/-- The stores line up: the buffer holds the encoded header and then what it held before. -/
theorem writeUdpHeader_eq (buf : Bytes) (h : UdpHeader) :
    writeUdpHeader buf h = encodeUdpHeader h ++ buf.drop kUdpHeaderSize := by
  have hfirst : writeUdpHeader buf h = writeUdpHeader ([] ++ buf) h := rfl
  rw [hfirst]
  unfold writeUdpHeader putU8 putU16 putU32 putU64
  dsimp only
  rw [overwrite_next [] (leBytes 2 h.magic.toNat) (by rfl), overwrite_next _ [h.version] (by simp),
    overwrite_next _ [h.type] (by simp), overwrite_next _ [h.flags] (by simp),
    overwrite_next _ (leBytes 4 h.sessionId.toNat) (by simp),
    overwrite_next _ (leBytes 8 h.sequence.toNat) (by simp),
    overwrite_next _ (leBytes 2 h.fragmentIndex.toNat) (by simp),
    overwrite_next _ (leBytes 2 h.fragmentCount.toNat) (by simp),
    overwrite_next _ (leBytes 8 h.timestampNs.toNat) (by simp),
    overwrite_next _ (leBytes 2 h.payloadSize.toNat) (by simp)]
  simp only [List.drop_drop, length_leBytes, List.length_singleton, encodeUdpHeader,
    kUdpHeaderSize, List.append_assoc, List.nil_append, List.cons_append]

/-! ## The decoder, load by load -/

/-- A load of `width` bytes that must not leave the datagram. -/
def loadAt {α : Type} (get : Bytes → Nat → α) (width : Nat) (buf : Bytes) (off : Nat) : Option α :=
  if off + width ≤ buf.length then some (get buf off) else none

/-- `decodeUdpHeader`; no result is a load from outside of the datagram. -/
def decodeInBounds (buf : Bytes) (out : UdpHeader) : Option (Bool × UdpHeader) :=
  if buf.length < kUdpHeaderSize then some (false, out)
  else do
    let magic ← loadAt getU16 2 buf 0
    let out := { out with magic := magic }
    if out.magic ≠ kUdpMagic then some (false, out)
    else do
      let version ← loadAt getU8 1 buf 2
      let out := { out with version := version }
      if out.version ≠ kUdpVersion then some (false, out)
      else do
        let type ← loadAt getU8 1 buf 3
        let out := { out with type := type }
        if 8 < out.type then some (false, out)
        else do
          let flags ← loadAt getU8 1 buf 4
          let sessionId ← loadAt getU32 4 buf 5
          let sequence ← loadAt getU64 8 buf 9
          let fragmentIndex ← loadAt getU16 2 buf 17
          let fragmentCount ← loadAt getU16 2 buf 19
          let timestampNs ← loadAt getU64 8 buf 21
          let payloadSize ← loadAt getU16 2 buf 29
          let out := { out with
            flags := flags
            sessionId := sessionId
            sequence := sequence
            fragmentIndex := fragmentIndex
            fragmentCount := fragmentCount
            timestampNs := timestampNs
            payloadSize := payloadSize }
          if buf.length < kUdpHeaderSize + out.payloadSize.toNat then some (false, out)
          else if out.fragmentCount = 0 ∨ kMaxFragments < out.fragmentCount then some (false, out)
          else if out.fragmentCount ≤ out.fragmentIndex then some (false, out)
          else some (true, out)

theorem loadAt_eq {α : Type} (get : Bytes → Nat → α) {width : Nat} {buf : Bytes} {off : Nat}
    (h : off + width ≤ buf.length) : loadAt get width buf off = some (get buf off) := if_pos h

theorem decodeInBounds_eq (buf : Bytes) (out : UdpHeader) :
    decodeInBounds buf out = some (decodeUdpHeader buf out) := by
  unfold decodeInBounds decodeUdpHeader
  split
  · rfl
  next hlen =>
  have hlen := Nat.not_lt.1 hlen
  unfold kUdpHeaderSize at hlen
  rw [loadAt_eq getU16 (by omega), loadAt_eq getU8 (by omega), loadAt_eq getU8 (by omega),
    loadAt_eq getU8 (by omega), loadAt_eq getU32 (by omega), loadAt_eq getU64 (by omega),
    loadAt_eq getU16 (by omega), loadAt_eq getU16 (by omega), loadAt_eq getU64 (by omega),
    loadAt_eq getU16 (by omega)]
  simp only [Option.bind_eq_bind, Option.bind_some, readUdpFields, ← apply_ite some]
  rfl

/-! ## What is accepted -/

/-- The bytes of a field that lies within the datagram are its value's. -/
theorem leBytes_field {buf : Bytes} {off n : Nat} (h : off + n ≤ buf.length) :
    leBytes n (leVal ((buf.drop off).take n)) = (buf.drop off).take n := by
  have hlen : ((buf.drop off).take n).length = n := by
    rw [List.length_take, List.length_drop]
    omega
  have hbytes := leBytes_leVal ((buf.drop off).take n)
  rwa [hlen] at hbytes

theorem leVal_field_lt (buf : Bytes) (off n : Nat) : leVal ((buf.drop off).take n) < 256 ^ n := by
  refine (leVal_lt _).trans_le (Nat.pow_le_pow_right (by decide) ?_)
  rw [List.length_take]
  exact Nat.min_le_left _ _

theorem leBytes_getU16 {buf : Bytes} {off : Nat} (h : off + 2 ≤ buf.length) :
    leBytes 2 (getU16 buf off).toNat = (buf.drop off).take 2 := by
  rw [getU16, UInt16.toNat_ofNat_of_lt' (leVal_field_lt buf off 2), leBytes_field h]

theorem leBytes_getU32 {buf : Bytes} {off : Nat} (h : off + 4 ≤ buf.length) :
    leBytes 4 (getU32 buf off).toNat = (buf.drop off).take 4 := by
  rw [getU32, UInt32.toNat_ofNat_of_lt' (leVal_field_lt buf off 4), leBytes_field h]

theorem leBytes_getU64 {buf : Bytes} {off : Nat} (h : off + 8 ≤ buf.length) :
    leBytes 8 (getU64 buf off).toNat = (buf.drop off).take 8 := by
  rw [getU64, UInt64.toNat_ofNat_of_lt' (leVal_field_lt buf off 8), leBytes_field h]

theorem singleton_getU8 {buf : Bytes} {off : Nat} (h : off + 1 ≤ buf.length) :
    [getU8 buf off] = (buf.drop off).take 1 := by
  have hne : buf.drop off ≠ [] := by
    intro hnil
    rw [List.drop_eq_nil_iff] at hnil
    omega
  obtain ⟨b, rest, hrest⟩ := List.exists_cons_of_ne_nil hne
  rw [getU8, hrest]
  rfl

/-- The header whose fields are read out of 31 bytes has these bytes as its image. -/
theorem encodeUdpHeader_readUdpFields {buf : Bytes} (hlen : kUdpHeaderSize ≤ buf.length)
    (out : UdpHeader) :
    encodeUdpHeader (readUdpFields buf
      { out with magic := getU16 buf 0, version := getU8 buf 2, type := getU8 buf 3 })
        = buf.take kUdpHeaderSize := by
  unfold kUdpHeaderSize at hlen
  have hsplit : ∀ k n, buf.take (k + n) = buf.take k ++ (buf.drop k).take n := fun k n =>
    List.take_add
  have hbytes : ∀ a b c : UInt8, [a, b, c] = [a] ++ [b] ++ [c] := fun _ _ _ => rfl
  rw [encodeUdpHeader, hbytes]
  simp only [readUdpFields]
  rw [leBytes_getU16 (by omega), singleton_getU8 (by omega), singleton_getU8 (by omega),
    singleton_getU8 (by omega), leBytes_getU32 (by omega), leBytes_getU64 (by omega),
    leBytes_getU16 (by omega), leBytes_getU16 (by omega), leBytes_getU64 (by omega),
    leBytes_getU16 (by omega), kUdpHeaderSize]
  simp only [hsplit, List.append_assoc]
  rfl

/-- An accepted header is the one that was read, and begins as every sender's does. -/
theorem fields_of_decode {buf : Bytes} {out h : UdpHeader}
    (hdec : decodeUdpHeader buf out = (true, h)) :
    h.Framed ∧ h = readUdpFields buf
      { out with magic := getU16 buf 0, version := getU8 buf 2, type := getU8 buf 3 } := by
  unfold decodeUdpHeader at hdec
  dsimp only at hdec
  split at hdec
  · exact absurd hdec (by simp)
  split at hdec
  · exact absurd hdec (by simp)
  next hmagic =>
  split at hdec
  · exact absurd hdec (by simp)
  next hversion =>
  split at hdec
  · exact absurd hdec (by simp)
  next htype =>
  split at hdec
  · exact absurd hdec (by simp)
  split at hdec
  · exact absurd hdec (by simp)
  split at hdec
  · exact absurd hdec (by simp)
  · obtain rfl := (Prod.mk.inj hdec).2
    exact ⟨⟨not_not.1 hmagic, not_not.1 hversion, UInt8.not_lt.1 htype⟩, rfl⟩

/-- The header is one of this protocol and fits a datagram of `n` bytes. -/
def UdpHeader.Fits (h : UdpHeader) (n : Nat) : Prop :=
  h.Framed ∧ (1 ≤ h.fragmentCount ∧ h.fragmentCount ≤ 1024 ∧ h.fragmentIndex < h.fragmentCount) ∧
    31 + h.payloadSize.toNat ≤ n

theorem UdpHeader.fits_iff (h : UdpHeader) (n : Nat) :
    h.Fits n ↔ h.Framed ∧ kUdpHeaderSize ≤ n ∧ h.Consistent (n - kUdpHeaderSize) := by
  have hpos : 1 ≤ h.fragmentCount ↔ h.fragmentCount ≠ 0 := UInt16.pos_iff_ne_zero
  have hmax : h.fragmentCount ≤ 1024 ↔ h.fragmentCount ≤ kMaxFragments := Iff.rfl
  unfold UdpHeader.Fits UdpHeader.Consistent kUdpHeaderSize
  rw [hpos, hmax]
  constructor
  · rintro ⟨hframed, ⟨hzero, hcount, hindex⟩, hsize⟩
    exact ⟨hframed, by omega, by omega, hzero, hcount, hindex⟩
  · rintro ⟨hframed, hlen, hsize, hzero, hcount, hindex⟩
    exact ⟨hframed, ⟨hzero, hcount, hindex⟩, by omega⟩

theorem decodeUdpHeader_write {buf : Bytes} {h : UdpHeader} (hfits : h.Fits buf.length)
    (out : UdpHeader) : decodeUdpHeader (writeUdpHeader buf h) out = (true, h) := by
  obtain ⟨hframed, -, hcons⟩ := (h.fits_iff buf.length).1 hfits
  rw [writeUdpHeader_eq, decodeUdpHeader_encode h out _ hframed, List.length_drop,
    decide_eq_true hcons]

theorem fits_of_decode {buf : Bytes} {out h : UdpHeader}
    (hdec : decodeUdpHeader buf out = (true, h)) :
    h.Fits buf.length ∧ encodeUdpHeader h = buf.take kUdpHeaderSize := by
  obtain ⟨hframed, hfields⟩ := fields_of_decode hdec
  obtain ⟨hlen, hcons⟩ := consistent_of_decode hdec
  refine ⟨(h.fits_iff buf.length).2 ⟨hframed, hlen, hcons⟩, ?_⟩
  rw [hfields]
  exact encodeUdpHeader_readUdpFields hlen out

/-- **The header codec.** A header that fits is read back as it was written, into a buffer with any
    contents; the image of an accepted header is the first 31 bytes of the datagram, and writing it
    touches nothing else; and the decoder, which never loads from outside of the datagram, accepts
    exactly the datagrams that begin with the image of a header that fits. -/
theorem udp_header_codec :
    (∀ (buf : Bytes) (h out : UdpHeader), h.Fits buf.length →
      decodeInBounds (writeUdpHeader buf h) out = some (true, h)) ∧
    (∀ (buf : Bytes) (h out : UdpHeader), decodeInBounds buf out = some (true, h) →
      ∀ buf' : Bytes, 31 ≤ buf'.length → (writeUdpHeader buf' h).take 31 = buf.take 31 ∧
        (writeUdpHeader buf' h).drop 31 = buf'.drop 31) ∧
    ∀ (buf : Bytes) (out : UdpHeader), ∃ accepted h, decodeInBounds buf out = some (accepted, h) ∧
      (accepted = true ↔ ∃ g : UdpHeader, g.Fits buf.length ∧ buf.take 31 = encodeUdpHeader g) := by
  refine ⟨?_, ?_, ?_⟩
  · intro buf h out hfits
    rw [decodeInBounds_eq, decodeUdpHeader_write hfits]
  · intro buf h out hdec buf' hlen
    rw [decodeInBounds_eq, Option.some.injEq] at hdec
    obtain ⟨-, himage⟩ := fits_of_decode hdec
    have hsize : (encodeUdpHeader h).length = 31 := length_encodeUdpHeader h
    rw [writeUdpHeader_eq, himage]
    rw [himage] at hsize
    exact ⟨List.take_left' hsize, List.drop_left' hsize⟩
  · intro buf out
    refine ⟨(decodeUdpHeader buf out).1, (decodeUdpHeader buf out).2, decodeInBounds_eq buf out, ?_⟩
    constructor
    · intro hok
      obtain ⟨hfits, himage⟩ := fits_of_decode (h := (decodeUdpHeader buf out).2) (Prod.ext hok rfl)
      exact ⟨_, hfits, himage.symm⟩
    · rintro ⟨g, hfits, himage⟩
      have hbuf : buf = writeUdpHeader buf g := by
        rw [writeUdpHeader_eq, ← himage]
        exact (List.take_append_drop 31 buf).symm
      have hdec := decodeUdpHeader_write hfits out
      rw [← hbuf] at hdec
      rw [hdec]

end RemotePlay.Net
