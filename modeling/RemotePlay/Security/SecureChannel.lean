import RemotePlay.Security.Crypto

set_option autoImplicit false

/-! # The secure channel (`security/SecureChannel.cpp`)

One `SecureChannel` holds the keys of a media session, the send counter and the receive window. The
functions return the new channel beside their result; a C++ `bool` with an out-parameter is an
`Option`. The atomics are 64-bit counters and wrap.

`seal` encrypts `counter ‖ payload` and emits `ciphertext ‖ tag`; `open` takes the counter from the
first eight bytes of what it receives. -/

namespace RemotePlay.Crypto

def kOkmLen : Nat := 68

/-- The HKDF info string of `finish`. -/
def kSessionInfo : Bytes := ascii "RemotePlay session v1"

/-- `SecureChannel`'s data members, with their default initialisers. -/
structure SecureChannel where
  active : Bool := false
  sendKey : Bytes := List.replicate 32 0
  recvKey : Bytes := List.replicate 32 0
  nonceSalt : Bytes := List.replicate 4 0
  sendCounter : UInt64 := 1
  recvHighest : UInt64 := 0
  recvInit : Bool := false
  recvWindow : Vector UInt64 64 := Vector.replicate 64 0
  sealed : UInt64 := 0
  opened : UInt64 := 0
  authFailures : UInt64 := 0
  replaysRejected : UInt64 := 0
deriving DecidableEq, Repr

/-! ## Key schedule -/

/-- The two salts in canonical (sorted) order, so that both sides derive identical bytes. -/
def SecureChannel.sortedSalts (a b : Bytes) : Bytes := if a ≤ b then a ++ b else b ++ a

/-- The key material both keys and the nonce salt are cut from. -/
def SecureChannel.keyMaterial (c : Cng) (shared sessionCode ourSalt peerSalt : Bytes) : Bytes :=
  hkdfSha256 c shared (sessionCode ++ SecureChannel.sortedSalts ourSalt peerSalt) kSessionInfo
    kOkmLen

/-- The channel `finish` leaves behind once the key material `okm` is known. -/
def SecureChannel.install (ch : SecureChannel) (okm : Bytes) (weAreHost : Bool) : SecureChannel :=
  let hostKey := okm.take 32
  let clientKey := (okm.drop 32).take 32
  { ch with
    nonceSalt := (okm.drop 64).take 4
    sendKey := if weAreHost then hostKey else clientKey
    recvKey := if weAreHost then clientKey else hostKey
    recvHighest := 0
    recvInit := false
    recvWindow := Vector.replicate 64 0
    sendCounter := 1
    active := true }

/-- `SecureChannel::finish`. -/
def SecureChannel.finish (c : Cng) (ch : SecureChannel) (ourKeyPair : EcdhKeyPair)
    (ourSalt peerPublicKey peerSalt sessionCode : Bytes) (weAreHost : Bool) :
    Bool × SecureChannel :=
  let ch := { ch with active := false }
  if peerPublicKey.length ≠ kEcdhPubBytes ∨ ourSalt.length ≠ 16 ∨ peerSalt.length ≠ 16 then
    (false, ch)
  else
    match c.ecdhP256 ourKeyPair peerPublicKey with
    | none => (false, ch)
    | some shared =>
        if shared.length ≠ 32 then (false, ch)
        else
          let okm := SecureChannel.keyMaterial c shared sessionCode ourSalt peerSalt
          if okm.length ≠ kOkmLen then (false, ch)
          else (true, ch.install okm weAreHost)

/-- **What a successful `finish` means**: the checks passed, key agreement gave 32 bytes, and the
    channel was set up from the derived key material. -/
theorem SecureChannel.finish_eq_true {c : Cng} {ch ch' : SecureChannel} {kp : EcdhKeyPair}
    {ourSalt peerPublicKey peerSalt sessionCode : Bytes} {weAreHost : Bool}
    (h : ch.finish c kp ourSalt peerPublicKey peerSalt sessionCode weAreHost = (true, ch')) :
    ourSalt.length = 16 ∧ peerSalt.length = 16 ∧
      ∃ shared, c.ecdhP256 kp peerPublicKey = some shared ∧
        ch' = ch.install (SecureChannel.keyMaterial c shared sessionCode ourSalt peerSalt)
          weAreHost := by
  unfold SecureChannel.finish at h
  dsimp only at h
  split at h
  · exact absurd h (by simp)
  next hsizes =>
  split at h
  · exact absurd h (by simp)
  next shared hshared =>
  split at h
  · exact absurd h (by simp)
  split at h
  · exact absurd h (by simp)
  simp only [not_or, not_not] at hsizes
  exact ⟨hsizes.2.1, hsizes.2.2, shared, hshared, (Prod.mk.inj h).2.symm⟩

/-- `finish` succeeds once the sizes are right and key agreement gives its 32 bytes. -/
theorem SecureChannel.finish_fst {c : Cng} (ch : SecureChannel) {kp : EcdhKeyPair}
    {ourSalt peerPublicKey peerSalt shared : Bytes} (hpub : peerPublicKey.length = kEcdhPubBytes)
    (hours : ourSalt.length = 16) (hpeer : peerSalt.length = 16)
    (hecdh : c.ecdhP256 kp peerPublicKey = some shared) (hshared : shared.length = 32)
    (sessionCode : Bytes) (weAreHost : Bool) :
    (ch.finish c kp ourSalt peerPublicKey peerSalt sessionCode weAreHost).1 = true := by
  have hokm : (SecureChannel.keyMaterial c shared sessionCode ourSalt peerSalt).length = kOkmLen :=
    length_hkdfSha256 _ _ _ _ _ (by decide) (by decide)
  simp [SecureChannel.finish, hpub, hours, hpeer, hecdh, hshared, hokm]

/-! ## Sealing -/

/-- `nonceSalt ‖ counter`. -/
def SecureChannel.nonceFor (ch : SecureChannel) (counter : UInt64) : Bytes :=
  ch.nonceSalt ++ leBytes 8 counter.toNat

/-- `SecureChannel::seal`. -/
def SecureChannel.seal (c : Cng) (ch : SecureChannel) (header payload : Bytes) :
    Option Bytes × SecureChannel :=
  if !ch.active ∨ payload.length > 64 * 1024 then (none, ch)
  else
    let counter := ch.sendCounter
    let ch := { ch with sendCounter := counter + 1 }
    -- never reuse: the counter has come around
    if counter = 0 then (none, ch)
    else
      let pt := leBytes 8 counter.toNat ++ payload
      match c.aesGcmEncrypt ch.sendKey (ch.nonceFor counter) pt (header.take 30) with
      | none => (none, ch)
      | some (ct, tag) => (some (ct ++ tag), { ch with sealed := ch.sealed + 1 })

/-! ## Opening -/

theorem SecureChannel.slot_lt (counter : UInt64) : counter.toNat % 64 < 64 :=
  Nat.mod_lt _ (by decide)

/-- The window slot of a counter. -/
def SecureChannel.slot (counter : UInt64) : Fin 64 := ⟨counter.toNat % 64, slot_lt counter⟩

/-- The replay check made before decryption: `true` rejects the counter. -/
def SecureChannel.replayed (ch : SecureChannel) (counter : UInt64) : Bool :=
  if ch.recvInit then
    if counter ≤ ch.recvHighest then
      let back := ch.recvHighest - counter
      if 64 ≤ back then true else ch.recvWindow[SecureChannel.slot counter] == counter
    else false
  else false

/-- "Mark seen": raise the highest counter and record this one in its slot. -/
def SecureChannel.markSeen (ch : SecureChannel) (counter : UInt64) : SecureChannel :=
  { ch with
    recvInit := true
    recvHighest :=
      if !ch.recvInit then counter
      else if ch.recvHighest < counter then counter else ch.recvHighest
    recvWindow := ch.recvWindow.set (SecureChannel.slot counter) counter }

/-- The eight-byte counter at the front of a byte string, as `open` reads it off the sealed payload
    and again off the decrypted one. -/
def SecureChannel.wireCounter (bytes : Bytes) : UInt64 := UInt64.ofNat (leVal (bytes.take 8))

/-- Decryption as `open` runs it: ciphertext and tag are the sealed bytes without and of the last
    sixteen, the nonce is built from the counter just read. -/
def SecureChannel.decryptSealed (c : Cng) (ch : SecureChannel) (header sealed : Bytes) :
    Option Bytes :=
  let ctLen := sealed.length - kGcmTagBytes
  c.aesGcmDecrypt ch.recvKey (ch.nonceFor (SecureChannel.wireCounter sealed)) (sealed.take ctLen)
    (header.take 30) (sealed.drop ctLen)

/-- `SecureChannel::open`. -/
def SecureChannel.open (c : Cng) (ch : SecureChannel) (header sealed : Bytes) :
    Option Bytes × SecureChannel :=
  let failed := { ch with authFailures := ch.authFailures + 1 }
  if !ch.active ∨ sealed.length < 8 + kGcmTagBytes then (none, failed)
  else if ch.replayed (SecureChannel.wireCounter sealed) then
    (none, { ch with replaysRejected := ch.replaysRejected + 1 })
  else
    match ch.decryptSealed c header sealed with
    | none => (none, failed)
    | some pt =>
        if pt.length < 8 then (none, failed)
        else if SecureChannel.wireCounter pt ≠ SecureChannel.wireCounter sealed then (none, failed)
        else
          let ch := ch.markSeen (SecureChannel.wireCounter sealed)
          (some (pt.drop 8), { ch with opened := ch.opened + 1 })

end RemotePlay.Crypto
