import RemotePlay.Networking.HeaderCodec
import RemotePlay.Security.NonceUse

set_option autoImplicit false

/-! # How much of the header is authenticated

`SecureChannel` binds the datagram header as associated data, and passes a length of 30 for it.
`kUdpHeaderSize` adds up to 31, so the last byte that `encodeUdpHeader` writes, the high byte of
`payloadSize`, is outside of what the tag covers. The AEAD is taken to be ideal: under a key it
accepts a tuple of nonce, ciphertext, tag and associated data only if an encryption under that key
produced it. -/

namespace RemotePlay.Crypto

/-! ## An ideal AEAD -/

/-- One of the logged calls returned this ciphertext and tag for this nonce and associated data. -/
def Cng.Produced (c : Cng) (log : List EncryptCall) (key nonce aad ct tag : Bytes) : Prop :=
  ∃ call ∈ log, call.key = key ∧ call.nonce = nonce ∧ call.aad = aad ∧
    c.aesGcmEncrypt call.key call.nonce call.plaintext call.aad = some (ct, tag)

/-- The AEAD under one key, against the log of the encryptions made with it. -/
structure Cng.IdealAead (c : Cng) (key : Bytes) (log : List EncryptCall) : Prop where
  decrypts_own : c.DecryptsOwn
  only_produced : ∀ nonce ct aad tag, (c.aesGcmDecrypt key nonce ct aad tag).isSome →
    c.Produced log key nonce aad ct tag
  /-- A ciphertext with its tag comes from one nonce and one associated data. -/
  fresh : ∀ nonce nonce' aad aad' ct tag, c.Produced log key nonce aad ct tag →
    c.Produced log key nonce' aad' ct tag → nonce = nonce' ∧ aad = aad'

/-! ## What `open` reads of the header -/

theorem SecureChannel.open_header_congr (c : Cng) (ch : SecureChannel) {header header' : Bytes}
    (sealed : Bytes) (h : header'.take 30 = header.take 30) :
    ch.open c header' sealed = ch.open c header sealed := by
  have hdecrypt : ch.decryptSealed c header' sealed = ch.decryptSealed c header sealed := by
    rw [SecureChannel.decryptSealed, SecureChannel.decryptSealed, h]
  rw [SecureChannel.open, SecureChannel.open, hdecrypt]

/-- The call behind a successful `seal`. -/
theorem SecureChannel.encryptCall_of_seal {c : Cng} {ch : SecureChannel}
    {header payload s : Bytes} (h : (ch.seal c header payload).1 = some s) :
    ch.encryptCall (.sealing header payload) = some {
      key := ch.sendKey
      nonce := ch.nonceFor ch.sendCounter
      plaintext := leBytes 8 ch.sendCounter.toNat ++ payload
      aad := header.take 30 } := by
  rw [SecureChannel.seal_fst_eq] at h
  obtain ⟨call, hcall, -⟩ := Option.bind_eq_some_iff.1 h
  rw [hcall]
  simp only [SecureChannel.encryptCall] at hcall
  split at hcall
  · exact absurd hcall (by simp)
  split at hcall
  · exact absurd hcall (by simp)
  · exact hcall.symm

/-- **What `open` accepts under an ideal AEAD.** Of all headers put in front of bytes that the peer
    sealed, those are rejected that differ within the first 30 bytes; the others fare as the
    original one does. -/
theorem SecureChannel.open_modified_iff {c : Cng} {sender receiver : SecureChannel}
    (hkey : receiver.recvKey = sender.sendKey) (hsalt : receiver.nonceSalt = sender.nonceSalt)
    (hact : receiver.active = true) {header payload s : Bytes} {log : List EncryptCall}
    (hideal : c.IdealAead sender.sendKey log)
    (hlog : ∀ call, sender.encryptCall (.sealing header payload) = some call → call ∈ log)
    (hseal : (sender.seal c header payload).1 = some s) (modified : Bytes) :
    (receiver.open c modified s).1 = none ↔
      modified.take 30 ≠ header.take 30 ∨ ¬ sender.CounterInClear c header payload ∨
        receiver.replayed sender.sendCounter = true := by
  have hcall := hlog _ (SecureChannel.encryptCall_of_seal hseal)
  obtain ⟨ct, tag, henc, hs⟩ := SecureChannel.seal_eq_some hseal
  have hproduced : c.Produced log sender.sendKey (sender.nonceFor sender.sendCounter)
      (header.take 30) ct tag := ⟨_, hcall, rfl, rfl, rfl, henc⟩
  have hopens := (SecureChannel.open_sealed_iff hideal.decrypts_own hkey hsalt hact hseal).1
  -- a ciphertext the log holds under one nonce and header does not verify under others
  have hbound : ∀ header' out, (receiver.open c header' s).1 = some out →
      header'.take 30 = header.take 30 ∧ sender.CounterInClear c header payload ∧
        receiver.replayed sender.sendCounter = false := by
    intro header' out hout
    obtain ⟨-, hfresh, pt, ⟨hlen, hpt, -, -⟩, -⟩ :=
      (receiver.open_eq_some_iff c header' s out).1 hout
    have htag := c.tag_length _ _ _ _ _ _ henc
    have hctLen : (ct ++ tag).length - kGcmTagBytes = ct.length := by
      rw [List.length_append, htag, Nat.add_sub_cancel]
    rw [SecureChannel.decryptSealed, hs, hctLen, List.take_left, List.drop_left, hkey] at hpt
    obtain ⟨hnonce, haad⟩ := hideal.fresh _ _ _ _ _ _
      (hideal.only_produced _ _ _ _ (Option.isSome_of_eq_some hpt)) hproduced
    rw [SecureChannel.nonceFor, hsalt] at hnonce
    have hwire := (sender.nonceFor_inj _ _).1 hnonce
    rw [hs, List.length_append, htag] at hlen
    rw [hs, hwire] at hfresh
    exact ⟨haad, (SecureChannel.counterInClear_iff henc).2 ⟨by omega, hwire⟩, hfresh⟩
  constructor
  · intro hnone
    by_contra hno
    rw [not_or, not_or, not_not, not_not, Bool.not_eq_true] at hno
    rw [SecureChannel.open_header_congr c receiver s hno.1, hopens hno.2] at hnone
    exact absurd hnone (by simp)
  · intro hbad
    cases hout : (receiver.open c modified s).1 with
    | none => rfl
    | some out =>
        obtain ⟨hsame, hclear, hfresh⟩ := hbound modified out hout
        rcases hbad with hbad | hbad | hbad
        · exact absurd hsame hbad
        · exact absurd hclear hbad
        · exact absurd (hfresh.symm.trans hbad) (by decide)

theorem take_ne_iff (n : Nat) (a b : Bytes) : a.take n ≠ b.take n ↔ ∃ i < n, a[i]? ≠ b[i]? := by
  rw [ne_eq, List.ext_getElem?_iff, not_forall]
  simp only [List.getElem?_take]
  constructor
  · rintro ⟨i, hi⟩
    by_cases hlt : i < n
    · rw [if_pos hlt, if_pos hlt] at hi
      exact ⟨i, hlt, hi⟩
    · rw [if_neg hlt, if_neg hlt] at hi
      exact absurd rfl hi
  · rintro ⟨i, hlt, hi⟩
    exact ⟨i, by rwa [if_pos hlt, if_pos hlt]⟩

/-- **When a modified header is rejected.** Two channels finished with matching inputs and opposite
    roles and are used in any way; one of the sender's calls seals a payload under an encoded
    header, and the AEAD is ideal with respect to everything sent under that key. Opening these
    bytes behind another header fails exactly when one of the first 30 bytes was changed, or when
    the datagram is not acceptable in the first place: `open` does not find the counter in front of
    the ciphertext, or has seen it. A change of the 31st byte alone is not noticed. -/
theorem open_modified_header_fails_iff (c : Cng) (a₀ b₀ a b : SecureChannel)
    (keysA keysB : EcdhKeyPair) (saltA saltB code : Bytes) (aIsHost : Bool)
    (hagree : c.ecdhP256 keysA keysB.publicKey = c.ecdhP256 keysB keysA.publicKey)
    (hA : a₀.finish c keysA saltA keysB.publicKey saltB code aIsHost = (true, a))
    (hB : b₀.finish c keysB saltB keysA.publicKey saltA code (!aIsHost) = (true, b))
    (before after opsB : List ChannelOp) (h : Net.UdpHeader) (payload s modified : Bytes)
    (hideal : c.IdealAead a.sendKey
      (a.encryptCalls c (before ++ .sealing (Net.encodeUdpHeader h) payload :: after)))
    (hseal : ((runFrom (SecureChannel.apply c) a before).seal c (Net.encodeUdpHeader h) payload).1
      = some s) :
    let sender := runFrom (SecureChannel.apply c) a before
    let receiver := runFrom (SecureChannel.apply c) b opsB
    (receiver.open c modified s).1 = none ↔
      (∃ i < 30, modified[i]? ≠ (Net.encodeUdpHeader h)[i]?) ∨
        ¬ sender.CounterInClear c (Net.encodeUdpHeader h) payload ∨
          receiver.replayed sender.sendCounter = true := by
  intro sender receiver
  obtain ⟨hkey, hsalt, hact⟩ := SecureChannel.finished_pair hagree hA hB before opsB
  have hsend : sender.sendKey = a.sendKey := (a.run_sameKeys c before).2.1
  rw [← take_ne_iff]
  rw [← hsend] at hideal
  refine SecureChannel.open_modified_iff hkey hsalt hact hideal ?_ hseal modified
  intro call hcall
  exact List.mem_filterMap.2
    ⟨(sender, _), (mem_history_iff _ _ _ _ _).2 ⟨before, after, rfl, rfl⟩, hcall⟩

/-! ## A recorded datagram -/

/-- A record of one encryption is an ideal AEAD for the log that holds it. -/
theorem CngRecord.replay_idealAead {r : CngRecord} {g : GcmCall} (hgcm : r.gcm = [g])
    {log : List EncryptCall} (key : Bytes)
    (hlog : { key := g.key, nonce := g.nonce, plaintext := g.plaintext, aad := g.aad } ∈ log) :
    r.replay.IdealAead key log := by
  have hmatch : ∀ key' nonce pt aad out, r.replay.aesGcmEncrypt key' nonce pt aad = some out →
      nonce = g.nonce ∧ aad = g.aad := by
    intro key' nonce pt aad out henc
    simp only [CngRecord.replay, hgcm, List.find?_singleton] at henc
    split at henc
    · next hg =>
        simp only [decide_eq_true_eq] at hg
        exact ⟨hg.2.1.symm, hg.2.2.2.symm⟩
    · exact absurd henc (by simp)
  refine ⟨CngRecord.replay_decryptsOwn hgcm, ?_, ?_⟩
  · intro nonce ct aad tag hsome
    simp only [CngRecord.replay, hgcm, List.find?_singleton] at hsome
    split at hsome
    · next hg =>
        simp only [decide_eq_true_eq] at hg
        obtain ⟨rfl, rfl, rfl, rfl, rfl⟩ := hg
        refine ⟨_, hlog, rfl, rfl, rfl, ?_⟩
        simp [CngRecord.replay, hgcm]
    · exact absurd hsome (by simp)
  · rintro nonce nonce' aad aad' ct tag ⟨call, -, -, rfl, rfl, henc⟩ ⟨call', -, -, rfl, rfl, henc'⟩
    obtain ⟨hn, ha⟩ := hmatch _ _ _ _ _ henc
    obtain ⟨hn', ha'⟩ := hmatch _ _ _ _ _ henc'
    exact ⟨hn.trans hn'.symm, ha.trans ha'.symm⟩

namespace Session

/-- The first datagram's header as the transport encodes it. -/
def udpHeader : Net.UdpHeader := { sessionId := 7, timestampNs := 1000, payloadSize := 5 }

/-- The header with the high byte of `payloadSize` changed from 0 to 1. -/
def resized : Bytes := (Net.encodeUdpHeader udpHeader).set 30 1

end Session

theorem open_modified_header_fails_iff_recorded :
    ((Session.client Session.code).open Session.record.replay Session.resized
        Session.sealedFrame).1 = none ↔
      (∃ i < 30, Session.resized[i]? ≠ (Net.encodeUdpHeader Session.udpHeader)[i]?) ∨
        ¬ Session.host.CounterInClear Session.record.replay
            (Net.encodeUdpHeader Session.udpHeader) Session.payload ∨
          (Session.client Session.code).replayed Session.host.sendCounter = true :=
  open_modified_header_fails_iff Session.record.replay {} {} Session.host
    (Session.client Session.code) Session.hostKeys Session.clientKeys Session.hostSalt
    Session.clientSalt Session.code true (by decide +kernel) (Prod.ext (by decide +kernel) rfl)
    (Prod.ext (by decide +kernel) rfl) [] [] [] Session.udpHeader Session.payload
    Session.sealedFrame Session.resized
    (CngRecord.replay_idealAead rfl _ (by decide +kernel)) (by decide +kernel)

/-- Under an ideal AEAD the client opens a datagram whose header was changed on the way. -/
theorem changed_payload_size_accepted :
    Session.clearRecord.replay.IdealAead Session.host.sendKey
        (Session.host.encryptCalls Session.clearRecord.replay
          [.sealing (Net.encodeUdpHeader Session.udpHeader) Session.payload]) ∧
      Session.host.KeysMatch (Session.client Session.code) ∧
      (Session.host.seal Session.clearRecord.replay (Net.encodeUdpHeader Session.udpHeader)
        Session.payload).1 = some (Session.clearSeal.ciphertext ++ Session.clearSeal.tag) ∧
      Session.resized.length = Net.kUdpHeaderSize ∧
      Session.resized ≠ Net.encodeUdpHeader Session.udpHeader ∧
      ((Session.client Session.code).open Session.clearRecord.replay Session.resized
        (Session.clearSeal.ciphertext ++ Session.clearSeal.tag)).1 = some Session.payload := by
  refine ⟨CngRecord.replay_idealAead rfl _ (by decide +kernel), ⟨?_, ?_, ?_⟩, ?_, ?_, ?_, ?_⟩
  · decide +kernel
  · decide +kernel
  · decide +kernel
  · decide +kernel
  · decide +kernel
  · decide +kernel
  · decide +kernel

end RemotePlay.Crypto
