import RemotePlay.Networking.UdpProtocol

set_option autoImplicit false

/-! # The datagram header codec

`decodeUdpHeader` undoes `encodeUdpHeader`: on the image of a header with the protocol's magic,
version and a known type, followed by any bytes, it reads the header back, and it accepts exactly
the headers that are `Consistent` with the number of bytes that follow. -/

namespace RemotePlay.Net

theorem length_encodeUdpHeader (h : UdpHeader) : (encodeUdpHeader h).length = kUdpHeaderSize := by
  simp [encodeUdpHeader, kUdpHeaderSize]

/-- The checks `decodeUdpHeader` makes on the counts, for a datagram with `n` bytes after the
    header. -/
def UdpHeader.Consistent (h : UdpHeader) (n : Nat) : Prop :=
  h.payloadSize.toNat ≤ n ∧ h.fragmentCount ≠ 0 ∧ h.fragmentCount ≤ kMaxFragments ∧
    h.fragmentIndex < h.fragmentCount

instance (h : UdpHeader) (n : Nat) : Decidable (h.Consistent n) :=
  inferInstanceAs (Decidable (_ ∧ _ ∧ _ ∧ _))

/-- The fields every sender of this code base sets alike. -/
def UdpHeader.Framed (h : UdpHeader) : Prop :=
  h.magic = kUdpMagic ∧ h.version = kUdpVersion ∧ h.type ≤ 8

instance (h : UdpHeader) : Decidable h.Framed := inferInstanceAs (Decidable (_ ∧ _ ∧ _))

/-! ## Reading the fields back -/

section Fields

variable (h : UdpHeader) (rest : Bytes)

theorem getU16_encode_magic : getU16 (encodeUdpHeader h ++ rest) 0 = h.magic := by
  have hbytes : ((encodeUdpHeader h ++ rest).drop 0).take 2 = leBytes 2 h.magic.toNat := rfl
  rw [getU16, hbytes, u16_leBytes]

theorem getU8_encode_version : getU8 (encodeUdpHeader h ++ rest) 2 = h.version := rfl

theorem getU8_encode_type : getU8 (encodeUdpHeader h ++ rest) 3 = h.type := rfl

theorem getU8_encode_flags : getU8 (encodeUdpHeader h ++ rest) 4 = h.flags := rfl

theorem getU32_encode_sessionId : getU32 (encodeUdpHeader h ++ rest) 5 = h.sessionId := by
  have hbytes : ((encodeUdpHeader h ++ rest).drop 5).take 4 = leBytes 4 h.sessionId.toNat := rfl
  rw [getU32, hbytes, u32_leBytes]

theorem getU64_encode_sequence : getU64 (encodeUdpHeader h ++ rest) 9 = h.sequence := by
  have hbytes : ((encodeUdpHeader h ++ rest).drop 9).take 8 = leBytes 8 h.sequence.toNat := rfl
  rw [getU64, hbytes, u64_leBytes]

theorem getU16_encode_fragmentIndex :
    getU16 (encodeUdpHeader h ++ rest) 17 = h.fragmentIndex := by
  have hbytes :
      ((encodeUdpHeader h ++ rest).drop 17).take 2 = leBytes 2 h.fragmentIndex.toNat := rfl
  rw [getU16, hbytes, u16_leBytes]

theorem getU16_encode_fragmentCount :
    getU16 (encodeUdpHeader h ++ rest) 19 = h.fragmentCount := by
  have hbytes :
      ((encodeUdpHeader h ++ rest).drop 19).take 2 = leBytes 2 h.fragmentCount.toNat := rfl
  rw [getU16, hbytes, u16_leBytes]

theorem getU64_encode_timestampNs : getU64 (encodeUdpHeader h ++ rest) 21 = h.timestampNs := by
  have hbytes : ((encodeUdpHeader h ++ rest).drop 21).take 8 = leBytes 8 h.timestampNs.toNat := rfl
  rw [getU64, hbytes, u64_leBytes]

theorem getU16_encode_payloadSize : getU16 (encodeUdpHeader h ++ rest) 29 = h.payloadSize := by
  have hbytes : ((encodeUdpHeader h ++ rest).drop 29).take 2 = leBytes 2 h.payloadSize.toNat := rfl
  rw [getU16, hbytes, u16_leBytes]

end Fields

/-- **The round trip**: an encoded header is read back as it was, and accepted exactly when its
    counts are consistent with the bytes that follow. -/
theorem decodeUdpHeader_encode (h out : UdpHeader) (rest : Bytes) (hf : h.Framed) :
    decodeUdpHeader (encodeUdpHeader h ++ rest) out = (decide (h.Consistent rest.length), h) := by
  obtain ⟨hmagic, hversion, htype⟩ := hf
  have hlen : (encodeUdpHeader h ++ rest).length = kUdpHeaderSize + rest.length := by
    rw [List.length_append, length_encodeUdpHeader]
  have hread : readUdpFields (encodeUdpHeader h ++ rest)
      { out with magic := h.magic, version := h.version, type := h.type } = h := by
    rw [readUdpFields, getU8_encode_flags, getU32_encode_sessionId, getU64_encode_sequence,
      getU16_encode_fragmentIndex, getU16_encode_fragmentCount, getU64_encode_timestampNs,
      getU16_encode_payloadSize]
  unfold decodeUdpHeader
  rw [if_neg (by omega)]
  simp only [getU16_encode_magic, getU8_encode_version, getU8_encode_type]
  rw [if_neg (by simp [hmagic]), if_neg (by simp [hversion]), if_neg (UInt8.not_lt.2 htype), hread]
  by_cases hcons : h.Consistent rest.length
  · obtain ⟨hsize, hzero, hmax, hidx⟩ := hcons
    have hcons : h.Consistent rest.length := ⟨hsize, hzero, hmax, hidx⟩
    rw [if_neg (by omega), if_neg (by simp [hzero, UInt16.not_lt.2 hmax]),
      if_neg (UInt16.not_le.2 hidx)]
    simp [hcons]
  · rw [decide_eq_false hcons]
    split
    · rfl
    next hsize =>
    split
    · rfl
    next hcount =>
    split
    · rfl
    next hidx =>
    exfalso
    simp only [not_or, UInt16.not_lt] at hcount
    exact hcons ⟨by omega, hcount.1, hcount.2, UInt16.not_le.1 hidx⟩

/-- A header with the protocol's magic and version that is accepted is read back as it was. -/
theorem decodeUdpHeader_encode_of_true {h : UdpHeader} {rest : Bytes} (hmagic : h.magic = kUdpMagic)
    (hversion : h.version = kUdpVersion)
    (hok : (decodeUdpHeader (encodeUdpHeader h ++ rest) {}).1 = true) :
    decodeUdpHeader (encodeUdpHeader h ++ rest) {} = (true, h) := by
  by_cases htype : h.type ≤ 8
  · rw [decodeUdpHeader_encode h {} rest ⟨hmagic, hversion, htype⟩] at hok ⊢
    rw [Prod.mk.injEq]
    exact ⟨hok, rfl⟩
  · exfalso
    unfold decodeUdpHeader at hok
    simp only [getU16_encode_magic, getU8_encode_version, getU8_encode_type] at hok
    rw [if_neg (by rw [List.length_append, length_encodeUdpHeader]; omega),
      if_neg (by simp [hmagic]), if_neg (by simp [hversion]), if_pos (UInt8.not_le.1 htype)] at hok
    exact absurd hok (by simp)

/-- What an accepted datagram's header satisfies. -/
theorem consistent_of_decode {buf : Bytes} {out h : UdpHeader}
    (hdec : decodeUdpHeader buf out = (true, h)) :
    kUdpHeaderSize ≤ buf.length ∧ h.Consistent (buf.length - kUdpHeaderSize) := by
  unfold decodeUdpHeader at hdec
  dsimp only at hdec
  split at hdec
  · exact absurd hdec (by simp)
  next hlen =>
  split at hdec
  · exact absurd hdec (by simp)
  split at hdec
  · exact absurd hdec (by simp)
  split at hdec
  · exact absurd hdec (by simp)
  split at hdec
  · exact absurd hdec (by simp)
  next hsize =>
  split at hdec
  · exact absurd hdec (by simp)
  next hcount =>
  split at hdec
  · exact absurd hdec (by simp)
  next hidx =>
  obtain rfl := (Prod.mk.inj hdec).2
  simp only [not_or, UInt16.not_lt] at hcount
  exact ⟨by omega, by omega, hcount.1, hcount.2, UInt16.not_le.1 hidx⟩

end RemotePlay.Net
