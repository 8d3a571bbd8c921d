import RemotePlay.Security.SecureChannel
import RemotePlay.Security.SessionCodes

set_option autoImplicit false

/-! # The key schedule of two peers

Both sides derive their keys from the shared secret, the session code and the two salts. The salts
are put in one order, so the only input the two sides can disagree on is the code: the host uses the
code it generated, the client the string the user typed. Equal codes give matching keys; different
codes give different key material, unless HMAC collides, even when `verifySessionCode` accepts the
typed one.
-/

namespace RemotePlay.Crypto

/-! ## Canonical salts -/

theorem SecureChannel.sortedSalts_comm (a b : Bytes) :
    SecureChannel.sortedSalts a b = SecureChannel.sortedSalts b a := by
  unfold SecureChannel.sortedSalts
  by_cases hab : a ≤ b
  · by_cases hba : b ≤ a
    · rw [if_pos hab, if_pos hba, List.le_antisymm hab hba]
    · rw [if_pos hab, if_neg hba]
  · have hba : b ≤ a := (List.le_total a b).resolve_left hab
    rw [if_neg hab, if_pos hba]

theorem SecureChannel.keyMaterial_comm (c : Cng) (shared sessionCode ourSalt peerSalt : Bytes) :
    SecureChannel.keyMaterial c shared sessionCode ourSalt peerSalt
      = SecureChannel.keyMaterial c shared sessionCode peerSalt ourSalt := by
  rw [SecureChannel.keyMaterial, SecureChannel.sortedSalts_comm, ← SecureChannel.keyMaterial]

/-! ## The first block of the key material -/

/-- The expand loop only appends. -/
theorem prefix_hkdfExpand (hmac : Bytes → Bytes → Bytes) (prk info : Bytes) (outLen fuel : Nat)
    (counter : UInt8) (t out : Bytes) :
    out <+: hkdfExpand hmac prk info outLen fuel counter t out := by
  induction fuel generalizing counter t out with
  | zero => exact List.prefix_rfl
  | succ fuel ih =>
      rw [hkdfExpand]
      split
      · exact (List.prefix_append _ _).trans (ih _ _ _)
      · exact List.prefix_rfl

/-- The first 32 bytes of the key material are the first HMAC block of the expansion. -/
theorem take_hkdfSha256 (c : Cng) (ikm salt info : Bytes) (outLen : Nat) (h32 : 32 ≤ outLen)
    (hmax : outLen ≤ 255 * 32) :
    (hkdfSha256 c ikm salt info outLen).take 32
      = c.hmacSha256 (c.hmacSha256 salt ikm) (info ++ [1]) := by
  obtain ⟨fuel, rfl⟩ : ∃ fuel, outLen = fuel + 1 := ⟨outLen - 1, by omega⟩
  rw [hkdfSha256, if_neg (by omega), hkdfExpand, if_pos (by simp), List.nil_append]
  have hlen := c.hmac_length (c.hmacSha256 salt ikm) (info ++ [1])
  have hmin : min 32 (fuel + 1 - ([] : Bytes).length) = 32 := by
    rw [List.length_nil]
    omega
  dsimp only
  rw [hmin, ← hlen, List.take_length, List.nil_append]
  obtain ⟨rest, hrest⟩ :=
    prefix_hkdfExpand c.hmacSha256 (c.hmacSha256 salt ikm) info (fuel + 1) fuel (1 + 1)
      (c.hmacSha256 (c.hmacSha256 salt ikm) (info ++ [1]))
      (c.hmacSha256 (c.hmacSha256 salt ikm) (info ++ [1]))
  rw [← hrest, List.take_left]

/-! ## Matching keys -/

/-- What the two ends of a channel need to have in common. -/
def SecureChannel.KeysMatch (host client : SecureChannel) : Prop :=
  host.sendKey = client.recvKey ∧ host.recvKey = client.sendKey ∧ host.nonceSalt = client.nonceSalt

/-- Opposite roles over one key material match. -/
theorem SecureChannel.keysMatch_install (host client : SecureChannel) (okm : Bytes) :
    (host.install okm true).KeysMatch (client.install okm false) := ⟨rfl, rfl, rfl⟩

/-- Matching keys start with the same block. -/
theorem SecureChannel.take_eq_of_keysMatch {host client : SecureChannel} {okm okm' : Bytes}
    (h : (host.install okm true).KeysMatch (client.install okm' false)) :
    okm.take 32 = okm'.take 32 := h.1

/-- HMAC-SHA-256 tells the two codes apart: the extract step maps their salts to different keys, and
    the first expand block of different keys differs. -/
def HmacSeparates (c : Cng) (shared salts code code' : Bytes) : Prop :=
  (c.hmacSha256 (code ++ salts) shared = c.hmacSha256 (code' ++ salts) shared →
    code ++ salts = code' ++ salts) ∧
  (c.hmacSha256 (c.hmacSha256 (code ++ salts) shared) (kSessionInfo ++ [1])
      = c.hmacSha256 (c.hmacSha256 (code' ++ salts) shared) (kSessionInfo ++ [1]) →
    c.hmacSha256 (code ++ salts) shared = c.hmacSha256 (code' ++ salts) shared)

/-- **Keys of an accepted code.** The host finishes with the code it generated, the client with the
    string `p` that the user typed and the host accepted. The keys match when `p` is that code byte
    for byte, and only then, unless HMAC-SHA-256 collides on the two. -/
theorem accepted_code_keys_match_iff (c : Cng) (rnd : Nat → UInt32) (p shared : Bytes)
    (_hverify : Security.verifySessionCode p (Security.generateSessionCode rnd) = true)
    (host₀ host client₀ client : SecureChannel) (hostKeys clientKeys : EcdhKeyPair)
    (hostSalt clientSalt : Bytes)
    (hshared : c.ecdhP256 hostKeys clientKeys.publicKey = some shared)
    (hsymm : c.ecdhP256 clientKeys hostKeys.publicKey
      = c.ecdhP256 hostKeys clientKeys.publicKey)
    (hhost : host₀.finish c hostKeys hostSalt clientKeys.publicKey clientSalt
      (Security.generateSessionCode rnd) true = (true, host))
    (hclient : client₀.finish c clientKeys clientSalt hostKeys.publicKey hostSalt p false
      = (true, client)) :
    (p = Security.generateSessionCode rnd → host.KeysMatch client) ∧
      (HmacSeparates c shared (SecureChannel.sortedSalts hostSalt clientSalt)
          (Security.generateSessionCode rnd) p →
        host.KeysMatch client → p = Security.generateSessionCode rnd) := by
  obtain ⟨-, -, shared₁, hs₁, rfl⟩ := SecureChannel.finish_eq_true hhost
  obtain ⟨-, -, shared₂, hs₂, rfl⟩ := SecureChannel.finish_eq_true hclient
  obtain rfl := Option.some.inj (hshared.symm.trans hs₁)
  obtain rfl := Option.some.inj (hs₁.symm.trans (hsymm.symm.trans hs₂))
  rw [SecureChannel.keyMaterial_comm c shared p clientSalt hostSalt]
  constructor
  · rintro rfl
    exact SecureChannel.keysMatch_install _ _ _
  · -- the send key of the host is the first expand block, which depends on the code's bytes
    rintro ⟨hextract, hexpand⟩ hmatch
    have hblock := SecureChannel.take_eq_of_keysMatch hmatch
    rw [SecureChannel.keyMaterial, SecureChannel.keyMaterial,
      take_hkdfSha256 _ _ _ _ _ (by decide) (by decide),
      take_hkdfSha256 _ _ _ _ _ (by decide) (by decide)] at hblock
    exact (List.append_cancel_right (hextract (hexpand hblock))).symm

/-! ## A recorded session

P-256 key pairs, salts, HMAC-SHA-256 outputs and the host's first AES-256-GCM call of one session
with the code `57EA-6A6Q`, whose user typed it without the dash. -/

namespace Session

def hostPublic : Bytes :=
  hexBytes 32 0x9f09a753445fbecf8c3aedae8af273da708730295686b2277afb2de46f91bb56 ++
    hexBytes 32 0x1561992706c6556e520a252bd6bb1c4a499e3da6104f7757da65d80dd7e798e3

def clientPublic : Bytes :=
  hexBytes 32 0x15724f41496dc0db024de6a12dca68c6bda8bd9763af107dfd4c79d46669e729 ++
    hexBytes 32 0x990a78af33b0f5026906e494078133f043f05d4dbc1c8d246262b6a491d45dd8

def hostKeys : EcdhKeyPair where
  publicKey := hostPublic
  privateKey := ascii "ECK2" ++ leBytes 4 32 ++ hostPublic ++
    hexBytes 32 0xcfe9c173758eb7c3bf6b4b0431c17eb63e883b2c4adb98f8d8d1b1df30cc0ee9

def clientKeys : EcdhKeyPair where
  publicKey := clientPublic
  privateKey := ascii "ECK2" ++ leBytes 4 32 ++ clientPublic ++
    hexBytes 32 0x7224e0b2248b3e16b1a3e8bbe56c47eb08b960277edaaa375c1d1a744b966850

def hostSalt : Bytes := hexBytes 16 0xf1eb4601740d627ab0d59836105a4a91

def clientSalt : Bytes := hexBytes 16 0x405e8e3836b70ae503a20386b5cd68e1

def shared : Bytes := hexBytes 32 0xc5f82c2d50df35b8ee22cc2f70c723c181d8059b3cdc8e6c43c0ceb0aad6e5f2

/-- The code the host shows, and the readings of the generator that produce it. -/
def code : Bytes := ascii "57EA-6A6Q"

def readings (i : Nat) : UInt32 := if i = 0 then 0x00041D1B else 0x0E1C001C

/-- What the user types. -/
def typed : Bytes := ascii "57EA6A6Q"

/-- The HMAC calls of one derivation: the extract key and its output, then the three blocks. -/
def hmacCalls (code prk t1 t2 t3 : Bytes) : List ((Bytes × Bytes) × Bytes) :=
  [((code ++ clientSalt ++ hostSalt, shared), prk),
   ((prk, kSessionInfo ++ [1]), t1),
   ((prk, t1 ++ kSessionInfo ++ [2]), t2),
   ((prk, t2 ++ kSessionInfo ++ [3]), t3)]

/-- The header and payload of the first datagram the host seals. -/
def header : Bytes := hexBytes 30 0x525201000007000000000000000000000000000100e80300000000000005

def payload : Bytes := ascii "frame"

def firstSeal : GcmCall where
  key := hexBytes 32 0x9ab6309c1bd3724a90737232b4bfffd2ecf4d613c54d5d249d0ffd90e36e42be
  nonce := hexBytes 4 0x106661fb ++ leBytes 8 1
  plaintext := leBytes 8 1 ++ payload
  aad := header
  ciphertext := hexBytes 13 0xfd5983ecfc96f2ce0709b15d72
  tag := hexBytes 16 0x90e9a37b2c90f38f8129f7534d78fc6a

/-- The host's first sealed datagram. -/
def sealedFrame : Bytes := firstSeal.ciphertext ++ firstSeal.tag

def record : CngRecord where
  hmac :=
    hmacCalls code
      (hexBytes 32 0x75645e76669235b22f1d67fccc69576304dbbc913f1a7f1d84698a1c35b76f03)
      (hexBytes 32 0x9ab6309c1bd3724a90737232b4bfffd2ecf4d613c54d5d249d0ffd90e36e42be)
      (hexBytes 32 0x3b4b929a750ab244f465335ddcc374257c3a803d0cbaa5a8d7450d2810486143)
      (hexBytes 32 0x106661fb5f318655be50a1482c58ac1ee5475e9702d94dc9b77a0356b9445c0f) ++
    hmacCalls typed
      (hexBytes 32 0x52c380d6b3b661cf4727c56a724eb4d79c3b2fa2906a058897f6a5397a2730c3)
      (hexBytes 32 0xb0beb27f3bf9561528602d179ec41ccfbccddb3c3bbffeacd21d4bef7ac5dfab)
      (hexBytes 32 0x19dbe57ad7c94b98f0cacd65b9dbec893e91b26b8f29868a2baa08cd03f8670d)
      (hexBytes 32 0x18c2279d1cc412977a9ba2ac2860006442224ac212ff18c708abd37790869bb4)
  ecdh := [((hostKeys, clientPublic), shared), ((clientKeys, hostPublic), shared)]
  gcm := [firstSeal]

/-- The first datagram under a keystream that begins with eight zero bytes. -/
def clearSeal : GcmCall :=
  { firstSeal with ciphertext := leBytes 8 1 ++ hexBytes 5 0x0709b15d72 }

def clearFrame : Bytes := clearSeal.ciphertext ++ clearSeal.tag

/-- The session with a cipher that leaves the counter of this datagram in clear. -/
def clearRecord : CngRecord := { record with gcm := [clearSeal] }

/-- The host's channel after key exchange. -/
def host : SecureChannel :=
  (SecureChannel.finish record.replay {} hostKeys hostSalt clientPublic clientSalt code true).2

/-- The client's channel after key exchange with the code `p`. -/
def client (p : Bytes) : SecureChannel :=
  (SecureChannel.finish record.replay {} clientKeys clientSalt hostPublic hostSalt p false).2

end Session

theorem accepted_code_keys_match_iff_typed :
    (Session.typed = Security.generateSessionCode Session.readings →
      Session.host.KeysMatch (Session.client Session.typed)) ∧
    (HmacSeparates Session.record.replay Session.shared
        (SecureChannel.sortedSalts Session.hostSalt Session.clientSalt)
        (Security.generateSessionCode Session.readings) Session.typed →
      Session.host.KeysMatch (Session.client Session.typed) →
        Session.typed = Security.generateSessionCode Session.readings) :=
  accepted_code_keys_match_iff Session.record.replay Session.readings Session.typed Session.shared
    (by decide +kernel) {} Session.host {} (Session.client Session.typed) Session.hostKeys
    Session.clientKeys Session.hostSalt Session.clientSalt (by decide +kernel) (by decide +kernel)
    (Prod.ext (by decide +kernel) rfl) (Prod.ext (by decide +kernel) rfl)

/-- The host accepts the code without its dash, both sides finish, and their keys differ. -/
theorem accepted_code_without_dash_keys_differ :
    Security.generateSessionCode Session.readings = Session.code ∧
      Security.verifySessionCode Session.typed Session.code = true ∧
      (SecureChannel.finish Session.record.replay {} Session.hostKeys Session.hostSalt
        Session.clientPublic Session.clientSalt Session.code true).1 = true ∧
      (SecureChannel.finish Session.record.replay {} Session.clientKeys Session.clientSalt
        Session.hostPublic Session.hostSalt Session.typed false).1 = true ∧
      ¬ Session.host.KeysMatch (Session.client Session.typed) := by
  refine ⟨by decide +kernel, by decide +kernel, by decide +kernel, by decide +kernel, ?_⟩
  intro hmatch
  exact absurd hmatch.1 (by decide +kernel)

end RemotePlay.Crypto
