import RemotePlay.Common.Types

set_option autoImplicit false

/-! # Crypto primitives (`security/Crypto.cpp`)

The primitives themselves are Windows CNG calls. `Cng` is what the code sees of them: functions from
and to byte strings, with the lengths that the C++ types (`std::array<uint8_t, 32>`,
`std::array<uint8_t, 16>`) fix. Nothing else is assumed here; a result that needs more of a
primitive (decryption inverts encryption, key agreement is symmetric) says so in its hypotheses.

`hkdfSha256` is the repository's own code and is embedded as written. -/

namespace RemotePlay.Crypto

def kGcmTagBytes : Nat := 16

def kEcdhPubBytes : Nat := 64

/-- `EcdhKeyPair`: the 64 raw public bytes and the opaque private blob. -/
structure EcdhKeyPair where
  publicKey : Bytes
  privateKey : Bytes
deriving DecidableEq, Repr

/-- The platform's primitives, as `Crypto.cpp` wraps them. -/
structure Cng where
  /-- `hmacSha256(key, data)`. -/
  hmacSha256 : Bytes → Bytes → Bytes
  hmac_length : ∀ key data, (hmacSha256 key data).length = 32
  /-- `ecdhP256(ours, peerPublic)`. -/
  ecdhP256 : EcdhKeyPair → Bytes → Option Bytes
  /-- `aesGcmEncrypt(key, nonce, plaintext, aad)`: ciphertext and tag, or failure. -/
  aesGcmEncrypt : Bytes → Bytes → Bytes → Bytes → Option (Bytes × Bytes)
  tag_length : ∀ key nonce pt aad ct tag,
    aesGcmEncrypt key nonce pt aad = some (ct, tag) → tag.length = kGcmTagBytes
  /-- `aesGcmDecrypt(key, nonce, ciphertext, aad, tag)`. -/
  aesGcmDecrypt : Bytes → Bytes → Bytes → Bytes → Bytes → Option Bytes

/-- The expand loop of `hkdfSha256`: `t` is the previous block (empty before the first), `counter`
    the block number. Every pass appends at least one byte, so `outLen` passes are always enough and
    `fuel` never runs out (`length_hkdfExpand`). -/
def hkdfExpand (hmac : Bytes → Bytes → Bytes) (prk info : Bytes) (outLen : Nat) :
    (fuel : Nat) → (counter : UInt8) → (t out : Bytes) → Bytes
  | 0, _, _, out => out
  | fuel + 1, counter, t, out =>
      if out.length < outLen then
        let t' := hmac prk (t ++ info ++ [counter])
        let take := min 32 (outLen - out.length)
        hkdfExpand hmac prk info outLen fuel (counter + 1) t' (out ++ t'.take take)
      else out

/-- `hkdfSha256(ikm, salt, info, outLen)`. -/
def hkdfSha256 (c : Cng) (ikm salt info : Bytes) (outLen : Nat) : Bytes :=
  if outLen = 0 ∨ outLen > 255 * 32 then []
  else
    let prk := c.hmacSha256 salt ikm
    hkdfExpand c.hmacSha256 prk info outLen outLen 1 [] []

/-- The expand loop returns exactly the bytes asked for. -/
theorem length_hkdfExpand (c : Cng) (prk info : Bytes) (outLen : Nat) :
    ∀ (fuel : Nat) (counter : UInt8) (t out : Bytes), out.length ≤ outLen →
      outLen ≤ out.length + fuel →
      (hkdfExpand c.hmacSha256 prk info outLen fuel counter t out).length = outLen := by
  intro fuel
  induction fuel with
  | zero =>
      intro counter t out hle hfuel
      rw [hkdfExpand]
      omega
  | succ fuel ih =>
      intro counter t out hle hfuel
      rw [hkdfExpand]
      split
      · next hlt =>
          have htake : ((c.hmacSha256 prk (t ++ info ++ [counter])).take
              (min 32 (outLen - out.length))).length = min 32 (outLen - out.length) := by
            rw [List.length_take, c.hmac_length]
            omega
          apply ih
          · rw [List.length_append, htake]
            omega
          · rw [List.length_append, htake]
            omega
      · omega

theorem length_hkdfSha256 (c : Cng) (ikm salt info : Bytes) (outLen : Nat) (h0 : outLen ≠ 0)
    (hmax : outLen ≤ 255 * 32) : (hkdfSha256 c ikm salt info outLen).length = outLen := by
  rw [hkdfSha256, if_neg (by omega)]
  exact length_hkdfExpand c _ info outLen outLen 1 [] [] (Nat.zero_le _) (by simp)

/-! ## Recorded primitives

A `Cng` that answers from a list of recorded calls, for evaluating the code on a concrete
session. -/

/-- `n` bytes written as one hexadecimal literal, most significant first. -/
def hexBytes (n v : Nat) : Bytes := (leBytes n v).reverse

/-- A recorded `aesGcmEncrypt` call. -/
structure GcmCall where
  key : Bytes
  nonce : Bytes
  plaintext : Bytes
  aad : Bytes
  ciphertext : Bytes
  tag : Bytes
deriving DecidableEq, Repr

/-- Recorded calls of the primitives. -/
structure CngRecord where
  hmac : List ((Bytes × Bytes) × Bytes) := []
  ecdh : List ((EcdhKeyPair × Bytes) × Bytes) := []
  gcm : List GcmCall := []

/-- Exactly `n` bytes of `bs`. -/
def fitTo (n : Nat) (bs : Bytes) : Bytes := (bs ++ List.replicate n 0).take n

theorem length_fitTo (n : Nat) (bs : Bytes) : (fitTo n bs).length = n := by
  simp [fitTo]

/-- The primitives that a record describes; decryption succeeds on recorded ciphertexts only. -/
def CngRecord.replay (r : CngRecord) : Cng where
  hmacSha256 := fun key data => fitTo 32 ((r.hmac.lookup (key, data)).getD [])
  hmac_length := fun _ _ => length_fitTo 32 _
  ecdhP256 := fun ours peerPublic => r.ecdh.lookup (ours, peerPublic)
  aesGcmEncrypt := fun key nonce pt aad =>
    (r.gcm.find? (fun g => g.key = key ∧ g.nonce = nonce ∧ g.plaintext = pt ∧ g.aad = aad)).map
      (fun g => (g.ciphertext, fitTo kGcmTagBytes g.tag))
  tag_length := by
    intro key nonce pt aad ct tag h
    obtain ⟨g, -, hg⟩ := Option.map_eq_some_iff.1 h
    rw [← (Prod.mk.inj hg).2]
    exact length_fitTo _ _
  aesGcmDecrypt := fun key nonce ct aad tag =>
    (r.gcm.find? (fun g => g.key = key ∧ g.nonce = nonce ∧ g.ciphertext = ct ∧ g.aad = aad ∧
      fitTo kGcmTagBytes g.tag = tag)).map GcmCall.plaintext

end RemotePlay.Crypto
