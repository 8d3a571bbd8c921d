import RemotePlay.Security.ReplayWindow

set_option autoImplicit false

/-! # Sealing and opening between two peers

`seal` puts the counter inside the plaintext; `open` reads it off the first eight bytes of what it
receives, which are ciphertext. The two meet only where the cipher leaves those eight bytes as they
were: `open_seal_iff` says so for every pair of channels that share a key schedule, in every state
they can reach. -/

namespace RemotePlay.Crypto

/-! ## Channels in use -/

/-- A call on a channel. -/
inductive ChannelOp where
  | sealing (header payload : Bytes)
  | opening (header sealed : Bytes)
deriving DecidableEq, Repr

def SecureChannel.apply (c : Cng) (ch : SecureChannel) : ChannelOp → SecureChannel
  | .sealing header payload => (ch.seal c header payload).2
  | .opening header sealed => (ch.open c header sealed).2

/-- The keys a channel works with. -/
def SecureChannel.SameKeys (ch ch' : SecureChannel) : Prop :=
  ch'.active = ch.active ∧ ch'.sendKey = ch.sendKey ∧ ch'.recvKey = ch.recvKey ∧
    ch'.nonceSalt = ch.nonceSalt

theorem SecureChannel.seal_sameKeys (c : Cng) (ch : SecureChannel) (header payload : Bytes) :
    ch.SameKeys (ch.seal c header payload).2 := by
  unfold SecureChannel.seal
  dsimp only
  split
  · exact ⟨rfl, rfl, rfl, rfl⟩
  split
  · exact ⟨rfl, rfl, rfl, rfl⟩
  split
  · exact ⟨rfl, rfl, rfl, rfl⟩
  · exact ⟨rfl, rfl, rfl, rfl⟩

theorem SecureChannel.run_sameKeys (c : Cng) (ch : SecureChannel) (ops : List ChannelOp) :
    ch.SameKeys (runFrom (SecureChannel.apply c) ch ops) := by
  refine runFrom_preserved (SecureChannel.apply c) (fun t => ch.SameKeys t) ?_ ch ops
    ⟨rfl, rfl, rfl, rfl⟩
  rintro t op ⟨hact, hsend, hrecv, hsalt⟩
  cases op with
  | sealing header payload =>
      obtain ⟨h1, h2, h3, h4⟩ := t.seal_sameKeys c header payload
      exact ⟨h1.trans hact, h2.trans hsend, h3.trans hrecv, h4.trans hsalt⟩
  | opening header sealed =>
      obtain ⟨h1, h2, h3, h4⟩ := t.open_keys c header sealed
      exact ⟨h1.trans hact, h3.trans hsend, h2.trans hrecv, h4.trans hsalt⟩

/-! ## What the AEAD is assumed to do -/

/-- Decryption undoes encryption. -/
def Cng.DecryptsOwn (c : Cng) : Prop :=
  ∀ key nonce pt aad ct tag, c.aesGcmEncrypt key nonce pt aad = some (ct, tag) →
    c.aesGcmDecrypt key nonce ct aad tag = some pt

/-- A ciphertext does not verify under another nonce. -/
def Cng.NonceBound (c : Cng) : Prop :=
  ∀ key nonce pt aad ct tag, c.aesGcmEncrypt key nonce pt aad = some (ct, tag) →
    ∀ nonce', nonce' ≠ nonce → c.aesGcmDecrypt key nonce' ct aad tag = none

/-- A successful `seal`: the ciphertext and tag it concatenates. -/
theorem SecureChannel.seal_eq_some {c : Cng} {ch : SecureChannel} {header payload s : Bytes}
    (h : (ch.seal c header payload).1 = some s) :
    ∃ ct tag, c.aesGcmEncrypt ch.sendKey (ch.nonceFor ch.sendCounter)
        (leBytes 8 ch.sendCounter.toNat ++ payload) (header.take 30) = some (ct, tag) ∧
      s = ct ++ tag := by
  unfold SecureChannel.seal at h
  dsimp only at h
  split at h
  · exact absurd h (by simp)
  split at h
  · exact absurd h (by simp)
  split at h
  · exact absurd h (by simp)
  · next ct tag henc => exact ⟨ct, tag, henc, (Option.some.inj h).symm⟩

theorem wireCounter_leBytes (counter : UInt64) (rest : Bytes) :
    SecureChannel.wireCounter (leBytes 8 counter.toNat ++ rest) = counter := by
  rw [SecureChannel.wireCounter, List.take_left' (length_leBytes 8 _), u64_leBytes]

/-- Eight bytes are the image of the counter they denote. -/
theorem take_eq_leBytes_of_wireCounter {bytes : Bytes} (hlen : 8 ≤ bytes.length) {counter : UInt64}
    (h : SecureChannel.wireCounter bytes = counter) :
    bytes.take 8 = leBytes 8 counter.toNat := by
  have htake : (bytes.take 8).length = 8 := by
    rw [List.length_take]
    omega
  have hlt := leVal_lt (bytes.take 8)
  rw [htake] at hlt
  rw [← h, SecureChannel.wireCounter, UInt64.toNat_ofNat_of_lt' hlt]
  have himage := leBytes_leVal (bytes.take 8)
  rw [htake] at himage
  exact himage.symm

/-- The cipher leaves the eight counter bytes at the front of the ciphertext as they were. -/
def SecureChannel.CounterInClear (c : Cng) (sender : SecureChannel) (header payload : Bytes) :
    Prop :=
  ∀ ct tag, c.aesGcmEncrypt sender.sendKey (sender.nonceFor sender.sendCounter)
      (leBytes 8 sender.sendCounter.toNat ++ payload) (header.take 30) = some (ct, tag) →
    ct.take 8 = leBytes 8 sender.sendCounter.toNat

/-- A counter left in clear is the one `open` reads in front, and the other way round: encryption
    is a function, so the condition is about the one ciphertext. -/
theorem SecureChannel.counterInClear_iff {c : Cng} {sender : SecureChannel}
    {header payload ct tag : Bytes}
    (henc : c.aesGcmEncrypt sender.sendKey (sender.nonceFor sender.sendCounter)
      (leBytes 8 sender.sendCounter.toNat ++ payload) (header.take 30) = some (ct, tag)) :
    sender.CounterInClear c header payload ↔
      8 ≤ ct.length ∧ SecureChannel.wireCounter (ct ++ tag) = sender.sendCounter := by
  constructor
  · intro hclear
    have htake := hclear ct tag henc
    have hlen : 8 ≤ ct.length := by
      have := congrArg List.length htake
      rw [length_leBytes, List.length_take] at this
      omega
    refine ⟨hlen, ?_⟩
    rw [SecureChannel.wireCounter, List.take_append_of_le_length hlen, htake, u64_leBytes]
  · rintro ⟨hlen, hwire⟩ ct' tag' henc'
    obtain ⟨rfl, -⟩ := Prod.mk.inj (Option.some.inj (henc.symm.trans henc'))
    rw [← List.take_append_of_le_length hlen]
    exact take_eq_leBytes_of_wireCounter (by rw [List.length_append]; omega) hwire

/-- Opening what the peer sealed, once the two channels are known to share their keys. -/
theorem SecureChannel.open_sealed_iff {c : Cng} (hdec : c.DecryptsOwn)
    {sender receiver : SecureChannel} (hkey : receiver.recvKey = sender.sendKey)
    (hsalt : receiver.nonceSalt = sender.nonceSalt) (hact : receiver.active = true)
    {header payload s : Bytes} (hseal : (sender.seal c header payload).1 = some s) :
    (sender.CounterInClear c header payload ∧ receiver.replayed sender.sendCounter = false →
      (receiver.open c header s).1 = some payload) ∧
    (c.NonceBound → (receiver.open c header s).1 = some payload →
      sender.CounterInClear c header payload ∧
        receiver.replayed sender.sendCounter = false) := by
  obtain ⟨ct, tag, henc, rfl⟩ := SecureChannel.seal_eq_some hseal
  have htag := c.tag_length _ _ _ _ _ _ henc
  have hctLen : (ct ++ tag).length - kGcmTagBytes = ct.length := by
    rw [List.length_append, htag, Nat.add_sub_cancel]
  have hnonce : ∀ n, receiver.nonceFor n = sender.nonceFor n := fun n => by
    rw [SecureChannel.nonceFor, SecureChannel.nonceFor, hsalt]
  have hopen : receiver.decryptSealed c header (ct ++ tag)
      = c.aesGcmDecrypt sender.sendKey
          (sender.nonceFor (SecureChannel.wireCounter (ct ++ tag))) ct (header.take 30) tag := by
    rw [SecureChannel.decryptSealed, hctLen, List.take_left, List.drop_left, hkey, hnonce]
  rw [SecureChannel.counterInClear_iff henc]
  constructor
  · rintro ⟨⟨hlen, hwire⟩, hfresh⟩
    rw [SecureChannel.open_eq_some_iff]
    refine ⟨hact, by rw [hwire]; exact hfresh, leBytes 8 sender.sendCounter.toNat ++ payload,
      ⟨?_, ?_, ?_, ?_⟩, ?_⟩
    · rw [List.length_append, htag]
      omega
    · rw [hopen, hwire]
      exact hdec _ _ _ _ _ _ henc
    · rw [List.length_append, length_leBytes]
      omega
    · rw [wireCounter_leBytes, hwire]
    · rw [List.drop_left' (length_leBytes 8 _)]
  · intro hbound hout
    obtain ⟨-, hfresh, pt, ⟨hlen, hpt, -, -⟩, -⟩ := (receiver.open_eq_some_iff c header _ _).1 hout
    rw [List.length_append, htag] at hlen
    -- under any other counter the nonce differs and decryption fails
    have hwire : SecureChannel.wireCounter (ct ++ tag) = sender.sendCounter := by
      by_contra hne
      have hnonce' : sender.nonceFor (SecureChannel.wireCounter (ct ++ tag))
          ≠ sender.nonceFor sender.sendCounter := by
        intro heq
        have himage := List.append_cancel_left heq
        apply hne
        rw [← u64_leBytes (SecureChannel.wireCounter (ct ++ tag)), himage, u64_leBytes]
      rw [hopen, hbound _ _ _ _ _ _ henc _ hnonce'] at hpt
      exact absurd hpt (by simp)
    exact ⟨⟨by omega, hwire⟩, by rw [← hwire]; exact hfresh⟩

/-- Two channels that finished with matching inputs and opposite roles share the keys of one
    direction, however they were used since. -/
theorem SecureChannel.finished_pair {c : Cng} {a₀ b₀ a b : SecureChannel}
    {keysA keysB : EcdhKeyPair} {saltA saltB code : Bytes} {aIsHost : Bool}
    (hagree : c.ecdhP256 keysA keysB.publicKey = c.ecdhP256 keysB keysA.publicKey)
    (hA : a₀.finish c keysA saltA keysB.publicKey saltB code aIsHost = (true, a))
    (hB : b₀.finish c keysB saltB keysA.publicKey saltA code (!aIsHost) = (true, b))
    (opsA opsB : List ChannelOp) :
    let sender := runFrom (SecureChannel.apply c) a opsA
    let receiver := runFrom (SecureChannel.apply c) b opsB
    receiver.recvKey = sender.sendKey ∧ receiver.nonceSalt = sender.nonceSalt ∧
      receiver.active = true := by
  intro sender receiver
  obtain ⟨-, hsendA, -, hsaltA⟩ := a.run_sameKeys c opsA
  obtain ⟨hactB, -, hrecvB, hsaltB⟩ := b.run_sameKeys c opsB
  obtain ⟨-, -, shared₁, hs₁, rfl⟩ := SecureChannel.finish_eq_true hA
  obtain ⟨-, -, shared₂, hs₂, rfl⟩ := SecureChannel.finish_eq_true hB
  obtain rfl := Option.some.inj (hs₁.symm.trans (hagree.trans hs₂))
  have hokm := SecureChannel.keyMaterial_comm c shared₁ code saltB saltA
  refine ⟨?_, ?_, hactB⟩
  · -- opposite roles: one side's receive key is the other's send key
    show (runFrom (SecureChannel.apply c) _ opsB).recvKey = _
    rw [hrecvB, hsendA, hokm]
    cases aIsHost
    · rfl
    · rfl
  · show (runFrom (SecureChannel.apply c) _ opsB).nonceSalt = _
    rw [hsaltB, hsaltA, hokm]
    rfl

/-- **When `open` undoes `seal`.** Two channels finished with matching inputs and opposite roles and
    were used in any way since. Opening what the peer sealed returns the payload when the cipher
    left the counter in clear and the receive window admits it, and, as GCM binds the nonce, only
    then. -/
theorem open_seal_iff (c : Cng) (hdec : c.DecryptsOwn) (a₀ b₀ a b : SecureChannel)
    (keysA keysB : EcdhKeyPair) (saltA saltB code : Bytes) (aIsHost : Bool)
    (hagree : c.ecdhP256 keysA keysB.publicKey = c.ecdhP256 keysB keysA.publicKey)
    (hA : a₀.finish c keysA saltA keysB.publicKey saltB code aIsHost = (true, a))
    (hB : b₀.finish c keysB saltB keysA.publicKey saltA code (!aIsHost) = (true, b))
    (opsA opsB : List ChannelOp) (header payload s : Bytes) (_hheader : header.length = 30)
    (_hpayload : payload.length ≤ 64 * 1024)
    (hseal : ((runFrom (SecureChannel.apply c) a opsA).seal c header payload).1 = some s) :
    let sender := runFrom (SecureChannel.apply c) a opsA
    let receiver := runFrom (SecureChannel.apply c) b opsB
    (sender.CounterInClear c header payload ∧ receiver.replayed sender.sendCounter = false →
      (receiver.open c header s).1 = some payload) ∧
    (c.NonceBound → (receiver.open c header s).1 = some payload →
      sender.CounterInClear c header payload ∧
        receiver.replayed sender.sendCounter = false) := by
  intro sender receiver
  obtain ⟨hkey, hsalt, hact⟩ := SecureChannel.finished_pair hagree hA hB opsA opsB
  exact SecureChannel.open_sealed_iff hdec hkey hsalt hact hseal

/-! ## A recorded datagram -/

theorem CngRecord.replay_decryptsOwn {r : CngRecord} {g : GcmCall} (hgcm : r.gcm = [g]) :
    r.replay.DecryptsOwn := by
  intro key nonce pt aad ct tag henc
  simp only [CngRecord.replay, hgcm, List.find?_singleton] at henc ⊢
  split at henc
  · next h =>
      simp only [decide_eq_true_eq] at h
      obtain ⟨rfl, rfl, rfl, rfl⟩ := h
      obtain ⟨rfl, rfl⟩ := Prod.mk.inj (Option.some.inj henc)
      simp
  · exact absurd henc (by simp)

theorem open_seal_iff_first_datagram :
    (Session.host.CounterInClear Session.clearRecord.replay Session.header Session.payload ∧
        (Session.client Session.code).replayed Session.host.sendCounter = false →
      ((Session.client Session.code).open Session.clearRecord.replay Session.header
        Session.clearFrame).1 = some Session.payload) ∧
    (Session.clearRecord.replay.NonceBound →
      ((Session.client Session.code).open Session.clearRecord.replay Session.header
        Session.clearFrame).1 = some Session.payload →
      Session.host.CounterInClear Session.clearRecord.replay Session.header Session.payload ∧
        (Session.client Session.code).replayed Session.host.sendCounter = false) :=
  open_seal_iff Session.clearRecord.replay (CngRecord.replay_decryptsOwn rfl) {} {} Session.host
    (Session.client Session.code) Session.hostKeys Session.clientKeys Session.hostSalt
    Session.clientSalt Session.code true (by decide +kernel) (Prod.ext (by decide +kernel) rfl)
    (Prod.ext (by decide +kernel) rfl) [] [] Session.header Session.payload Session.clearFrame
    (by decide +kernel) (by decide +kernel) (by decide +kernel)

/-- The cipher of that record does leave the counter in clear, and the client opens the datagram. -/
example : ((Session.client Session.code).open Session.clearRecord.replay Session.header
    Session.clearFrame).1 = some Session.payload := by
  decide +kernel

/-- The client, with the right code and nothing received before, fails to open the first datagram
    that the host seals. -/
theorem first_sealed_datagram_not_opened :
    Session.record.replay.DecryptsOwn ∧
      Session.host.KeysMatch (Session.client Session.code) ∧
      (Session.host.seal Session.record.replay Session.header Session.payload).1
        = some Session.sealedFrame ∧
      ((Session.client Session.code).open Session.record.replay Session.header
        Session.sealedFrame).1 = none := by
  refine ⟨CngRecord.replay_decryptsOwn rfl, ⟨?_, ?_, ?_⟩, ?_, ?_⟩
  · decide +kernel
  · decide +kernel
  · decide +kernel
  · decide +kernel
  · decide +kernel

end RemotePlay.Crypto
