import RemotePlay.Networking.HeaderCodec
import RemotePlay.Networking.UdpTransport

set_option autoImplicit false

/-! # Sealed datagrams on the wire

`postDatagram` seals the payload against the header as it stands, and rewrites the header
afterwards: the `Encrypted` flag and the sealed size go in. `handleDatagram` opens against the
header it received, which is the rewritten one. A sink that binds the header therefore rejects every
datagram that this transport puts on the wire. -/

namespace RemotePlay.Net

/-- What the transport needs of a sink: opening under the header that was sealed with returns the
    payload, and opening under any other header fails. The header is the first 30 bytes, as
    `UdpCrypto.h` has it. -/
structure UdpCryptoSink.Authenticating {σ : Type} (sink : UdpCryptoSink σ) : Prop where
  open_seal : ∀ s s' s'' header payload sealed, header.length = kUdpHeaderSize →
    sink.sealDatagram s header payload = (some sealed, s') →
    (sink.openDatagram s'' header sealed).1 = some payload
  header_bound : ∀ s s' s'' header header' payload sealed, header.length = kUdpHeaderSize →
    header'.length = kUdpHeaderSize →
    sink.sealDatagram s header payload = (some sealed, s') →
    header'.take 30 ≠ header.take 30 → (sink.openDatagram s'' header' sealed).1 = none

/-- The datagrams that `sendFrame` and `sendSmall` hand to `postDatagram`, as header and payload. -/
inductive BuiltBySender (type : UdpType) (sessionId : UInt32) : UdpHeader × Bytes → Prop where
  | frame (seq : UInt64) (keyframe : Bool) (data : Bytes) (ts : UInt64) (fr : UdpHeader × Bytes)
      (h : fr ∈ UdpTransport.frameFragments type sessionId seq keyframe data ts) :
      BuiltBySender type sessionId fr
  | small (seq now : UInt64) (data : Bytes) :
      BuiltBySender type sessionId
        (UdpTransport.smallHeader type sessionId seq now (data.take kMaxUdpPayload).length,
          data.take kMaxUdpPayload)

/-- No sender sets the `Encrypted` flag, and the rest of the frame of the header is the
    protocol's. -/
theorem BuiltBySender.header {type : UdpType} {sessionId : UInt32} {fr : UdpHeader × Bytes}
    (hb : BuiltBySender type sessionId fr) (htype : type.code ≤ 8) :
    fr.1.Framed ∧ fr.1.sessionId = sessionId ∧ fr.1.flags &&& UdpFlag.Encrypted = 0 := by
  cases hb with
  | frame seq keyframe data ts fr h =>
      obtain ⟨fi, -, rfl⟩ := List.mem_map.1 h
      refine ⟨⟨rfl, rfl, htype⟩, rfl, ?_⟩
      simp only [UdpTransport.fragmentAt]
      split
      · split
        · rfl
        · rfl
      · split
        · rfl
        · rfl
  | small seq now data => exact ⟨⟨rfl, rfl, htype⟩, rfl, UInt8.zero_and⟩

/-- The header in front of the sealed payload, for a datagram made of a header and a payload. -/
theorem sealedHeader_encode (h : UdpHeader) (payload out : Bytes) (hf : h.Framed) :
    UdpTransport.sealedHeader (encodeUdpHeader h ++ payload) out
      = { h with
          flags := h.flags ||| UdpFlag.Encrypted
          payloadSize := UInt16.ofNat out.length } := by
  rw [UdpTransport.sealedHeader, decodeUdpHeader_encode h {} payload hf]

/-- Two headers with different flags differ within their first 30 bytes. -/
theorem encode_take_ne_of_flags {h h' : UdpHeader} (hne : h.flags ≠ h'.flags) :
    (encodeUdpHeader h).take 30 ≠ (encodeUdpHeader h').take 30 := by
  intro heq
  have hbyte : ∀ g : UdpHeader, ((encodeUdpHeader g).take 30)[4]? = some g.flags := fun _ => rfl
  have := hbyte h
  rw [heq, hbyte h'] at this
  exact hne (Option.some.inj this).symm

theorem or_encrypted_and (flags : UInt8) :
    (flags ||| UdpFlag.Encrypted) &&& UdpFlag.Encrypted = UdpFlag.Encrypted := by
  apply UInt8.toBitVec_inj.1
  ext i hi
  simp only [UInt8.toBitVec_and, UInt8.toBitVec_or, BitVec.getElem_and, BitVec.getElem_or]
  cases UdpFlag.Encrypted.toBitVec[i]
  · simp
  · simp

theorem or_encrypted_ne (flags : UInt8) (h : flags &&& UdpFlag.Encrypted = 0) :
    flags ||| UdpFlag.Encrypted ≠ flags := by
  intro heq
  rw [← heq, or_encrypted_and] at h
  exact absurd h (by decide)

section Wire

variable {σ : Type} {sink : UdpCryptoSink σ} {t : UdpTransport σ}

/-- What a posted datagram puts on the wire when there is a sink: a rewritten header and the sealed
    payload, within what UDP carries. -/
theorem runTask_datagram_sent {s : σ} {dg d : Bytes} {fails : Bool} {now : UInt64} {ep : Endpoint}
    (hsink : t.secure = some s)
    (h : (t.runTask sink (.datagram dg) fails now).2 = [.sent ep d]) :
    ∃ out s', sink.sealDatagram s (dg.take kUdpHeaderSize) (dg.drop kUdpHeaderSize)
        = (some out, s') ∧
      d = encodeUdpHeader (UdpTransport.sealedHeader dg out) ++ out ∧ d.length ≤ kMaxDatagram := by
  simp only [UdpTransport.runTask, UdpTransport.wireBytes, hsink] at h
  split at h
  · exact absurd h (by simp)
  next bytes t1 hwire =>
  split at hwire
  · exact absurd hwire (by simp)
  obtain ⟨hbytes, -⟩ := Prod.mk.inj hwire
  obtain ⟨out, hout, hbytes⟩ := Option.map_eq_some_iff.1 hbytes
  unfold UdpTransport.sendTo at h
  split at h
  · exact absurd h (by simp)
  next hsend =>
  simp only [List.cons.injEq, UdpEffect.sent.injEq, and_true] at h
  obtain ⟨-, rfl⟩ := h
  exact ⟨out, _, Prod.ext hout rfl, hbytes.symm, by simp at hsend; omega⟩

/-- A datagram whose header does not decode is counted and dropped. -/
theorem UdpTransport.authenticate_of_malformed {buf : Bytes} {now : UInt64}
    (hdec : (decodeUdpHeader buf {}).1 = false) :
    t.authenticate sink buf now = (none, (t.countReceived buf.length).countMalformed) := by
  unfold UdpTransport.authenticate
  split
  · rfl
  · next h heq => exact absurd hdec (by simp [heq])

/-- A datagram that the sink rejects is counted and dropped, after its arrival time was stored. -/
theorem UdpTransport.authenticate_of_open_none {buf : Bytes} {h : UdpHeader} {s : σ} {now : UInt64}
    (hdec : decodeUdpHeader buf {} = (true, h))
    (hsess : t.sessionId = 0 ∨ h.sessionId = t.sessionId)
    (henc : h.hasFlag UdpFlag.Encrypted = true) (hsec : t.secure = some s)
    (hopen : (sink.openDatagram s (buf.take kUdpHeaderSize)
      ((buf.drop kUdpHeaderSize).take h.payloadSize.toNat)).1 = none) :
    t.authenticate sink buf now = (none, (((t.countReceived buf.length).noteRx now).setSecure
      (sink.openDatagram s (buf.take kUdpHeaderSize)
        ((buf.drop kUdpHeaderSize).take h.payloadSize.toNat)).2).countAuthDrop) := by
  have hsess' : ¬ ((t.countReceived buf.length).sessionId ≠ 0 ∧
      h.sessionId ≠ (t.countReceived buf.length).sessionId) := by
    rintro ⟨h0, hne⟩
    exact hsess.elim h0 hne
  have hsec' : ((t.countReceived buf.length).noteRx now).secure = some s := hsec
  unfold UdpTransport.authenticate
  simp only [hdec, if_neg hsess', henc, if_true, hsec', hopen]

/-- The receiver processes the datagram as it was sent: no auth drop, and a header and payload equal
    to the original ones. -/
def UdpTransport.Delivers (sink : UdpCryptoSink σ) (t : UdpTransport σ) (d : Bytes) (now : UInt64)
    (h : UdpHeader) (payload : Bytes) : Prop :=
  ∃ h' t', t.authenticate sink d now = (some (h', payload), t') ∧
    t'.stats.authDrops = t.stats.authDrops ∧ h'.type = h.type ∧ h'.sequence = h.sequence ∧
    h'.fragmentIndex = h.fragmentIndex ∧ h'.fragmentCount = h.fragmentCount ∧
    h'.timestampNs = h.timestampNs ∧
    h'.hasFlag UdpFlag.Keyframe = h.hasFlag UdpFlag.Keyframe ∧ h'.payloadSize = h.payloadSize

/-- **No sealed datagram survives the transport.** Whatever `sendFrame` or `sendSmall` built and
    `postDatagram` put on the wire, the other side's `handleDatagram` processes nothing of it, and
    counts an auth drop whenever it accepts the header. -/
theorem sealed_datagram_never_delivered {s s' : σ} {t' : UdpTransport σ}
    (hauth : sink.Authenticating) (type : UdpType) (htype : type.code ≤ 8)
    (hsend : t.secure = some s) (hrecv : t'.secure = some s') (hsess : t'.sessionId = t.sessionId)
    (h : UdpHeader) (payload : Bytes) (hb : BuiltBySender type t.sessionId (h, payload))
    (fails : Bool) (now : UInt64) (ep source : Endpoint) (clk : Nat → UInt64) (d : Bytes)
    (hwire : (t.runTask sink (.datagram (encodeUdpHeader h ++ payload)) fails now).2
      = [.sent ep d]) :
    ¬ t'.Delivers sink d (clk 0) h payload ∧
      ∃ t'', t'.handleDatagram sink d source clk = .ok (t'', []) ∧
        ((decodeUdpHeader d {}).1 = true → t''.stats.authDrops = t'.stats.authDrops + 1) := by
  obtain ⟨hframed, hsid, hflag⟩ := hb.header htype
  obtain ⟨out, s1, hseal, rfl, hlen⟩ := runTask_datagram_sent hsend hwire
  rw [sealedHeader_encode h payload out hframed] at hlen ⊢
  set hs : UdpHeader := { h with
    flags := h.flags ||| UdpFlag.Encrypted
    payloadSize := UInt16.ofNat out.length } with hhs
  have htake : ∀ (g : UdpHeader) (rest : Bytes),
      (encodeUdpHeader g ++ rest).take kUdpHeaderSize = encodeUdpHeader g := fun g rest =>
    List.take_left' (length_encodeUdpHeader g)
  have hdrop : ∀ (g : UdpHeader) (rest : Bytes),
      (encodeUdpHeader g ++ rest).drop kUdpHeaderSize = rest := fun g rest =>
    List.drop_left' (length_encodeUdpHeader g)
  rw [htake, hdrop] at hseal
  -- the size field holds the sealed length, since UDP carries no more than 65507 bytes
  have hsize : hs.payloadSize.toNat = out.length := by
    rw [List.length_append, length_encodeUdpHeader] at hlen
    simp only [kMaxDatagram] at hlen
    simp only [hhs, UInt16.toNat_ofNat']
    omega
  -- the flag that was set after sealing is enough for `open` to see another header
  have hopen : (sink.openDatagram s' (encodeUdpHeader hs) out).1 = none := by
    refine hauth.header_bound s s1 s' (encodeUdpHeader h) _ payload out
      (length_encodeUdpHeader h) (length_encodeUdpHeader hs) hseal ?_
    exact encode_take_ne_of_flags (or_encrypted_ne h.flags hflag)
  have henc : hs.hasFlag UdpFlag.Encrypted = true := by
    simp only [UdpHeader.hasFlag, hhs, or_encrypted_and]
    decide
  have hdec : decodeUdpHeader (encodeUdpHeader hs ++ out) {}
      = (decide (hs.Consistent out.length), hs) := decodeUdpHeader_encode hs {} out hframed
  have hresult : ∃ t'', t'.authenticate sink (encodeUdpHeader hs ++ out) (clk 0) = (none, t'') ∧
      ((decodeUdpHeader (encodeUdpHeader hs ++ out) {}).1 = true →
        t''.stats.authDrops = t'.stats.authDrops + 1) := by
    by_cases hcons : hs.Consistent out.length
    · rw [decide_eq_true hcons] at hdec
      rw [UdpTransport.authenticate_of_open_none hdec (Or.inr (hsid.trans hsess.symm)) henc hrecv
        (by rw [htake, hdrop, hsize, List.take_length]; exact hopen)]
      exact ⟨_, rfl, fun _ => rfl⟩
    · -- the sealed size no longer fits the header's own checks: dropped even before the sink
      rw [decide_eq_false hcons] at hdec
      rw [UdpTransport.authenticate_of_malformed (by rw [hdec])]
      exact ⟨_, rfl, fun htrue => absurd htrue (by simp [hdec])⟩
  obtain ⟨t'', hnone, hdrops⟩ := hresult
  refine ⟨?_, t'', ?_, hdrops⟩
  · rintro ⟨h', t1, hdel, -⟩
    exact absurd (hnone.symm.trans hdel) (by simp)
  · simp only [UdpTransport.handleDatagram, hnone]

end Wire

/-! ## A sink that authenticates -/

/-- The header travels inside the sealed bytes and is compared on opening: the least a sink has to
    do. -/
def headerTagSink : UdpCryptoSink Unit where
  sealDatagram := fun _ header payload => (some (header.take 30 ++ payload), ())
  openDatagram := fun _ header sealed =>
    (if sealed.take 30 = header.take 30 then some (sealed.drop 30) else none, ())
  active := fun _ => true

theorem headerTagSink_authenticating : headerTagSink.Authenticating := by
  have htake : ∀ (header payload : Bytes), header.length = kUdpHeaderSize →
      (header.take 30 ++ payload).take 30 = header.take 30 ∧
        (header.take 30 ++ payload).drop 30 = payload := fun header payload hlen => by
    have hlen30 : (header.take 30).length = 30 := by
      rw [List.length_take, hlen]
      rfl
    exact ⟨List.take_left' hlen30, List.drop_left' hlen30⟩
  constructor
  · intro s s' s'' header payload sealed hlen hseal
    obtain rfl := Option.some.inj (Prod.mk.inj hseal).1
    obtain ⟨h1, h2⟩ := htake header payload hlen
    simp only [headerTagSink, h1, h2, if_true]
  · intro s s' s'' header header' payload sealed hlen hlen' hseal hne
    obtain rfl := Option.some.inj (Prod.mk.inj hseal).1
    simp only [headerTagSink, (htake header payload hlen).1, if_neg (Ne.symm hne)]

/-- A bound transport with a peer and an established sink. -/
def securedTransport : UdpTransport Unit :=
  { running := true, socket := true, havePeer := true, sessionId := 7, secure := some () }

/-- The first ping of `securedTransport`, as `sendSmall` builds it. -/
def pingHeader : UdpHeader := UdpTransport.smallHeader .Ping 7 0 1000 12

/-- What `securedTransport` puts on the wire for its ping. -/
def sealedPing : Bytes :=
  encodeUdpHeader { pingHeader with flags := 4, payloadSize := 42 } ++
    ((encodeUdpHeader pingHeader).take 30 ++ List.replicate 12 0)

theorem sealed_ping_never_delivered :
    ¬ securedTransport.Delivers headerTagSink sealedPing 0 pingHeader (List.replicate 12 0) ∧
      ∃ t'', securedTransport.handleDatagram headerTagSink sealedPing ⟨[10, 0, 0, 2], 5000⟩
          (fun _ => 0) = .ok (t'', []) ∧
        ((decodeUdpHeader sealedPing {}).1 = true →
          t''.stats.authDrops = securedTransport.stats.authDrops + 1) :=
  @sealed_datagram_never_delivered Unit headerTagSink securedTransport () () securedTransport
    headerTagSink_authenticating .Ping (by decide) rfl rfl rfl pingHeader
    (List.replicate 12 0) (BuiltBySender.small 0 1000 (List.replicate 12 0)) false 0 ⟨[], 0⟩
    ⟨[10, 0, 0, 2], 5000⟩ (fun _ => 0) sealedPing (by decide +kernel)

/-- The ping `securedTransport` sends is an auth drop at its peer. -/
theorem sealed_ping_auth_drop :
    (securedTransport.runTask headerTagSink
        (.datagram (encodeUdpHeader pingHeader ++ List.replicate 12 0)) false 0).2
      = [.sent ⟨[], 0⟩ sealedPing] ∧
    (securedTransport.authenticate headerTagSink sealedPing 0).1 = none ∧
      (securedTransport.authenticate headerTagSink sealedPing 0).2.stats.authDrops = 1 := by
  refine ⟨?_, ?_, ?_⟩
  · decide +kernel
  · decide +kernel
  · decide +kernel

end RemotePlay.Net
