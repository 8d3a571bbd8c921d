import RemotePlay.Security.KeySchedule

set_option autoImplicit false

/-! # Two ends of one key exchange

An `Exchange` is what the two parties bring to it: a key pair and a salt each, of the sizes that
`generateEcdhP256` and `randomBytes(16)` produce, and one session code. Each end calls `finish` with
its own half and what it received of the other half; the calls work on different channels, so their
order does not matter. -/

namespace RemotePlay.Crypto

/-- The halves of the host and of the client. -/
structure Exchange where
  hostKeys : EcdhKeyPair
  clientKeys : EcdhKeyPair
  hostSalt : Bytes
  clientSalt : Bytes
  sessionCode : Bytes
  hostKeys_size : hostKeys.publicKey.length = kEcdhPubBytes
  clientKeys_size : clientKeys.publicKey.length = kEcdhPubBytes
  hostSalt_size : hostSalt.length = 16
  clientSalt_size : clientSalt.length = 16

/-- Which end of the channel. -/
inductive Role where
  | host
  | client
deriving DecidableEq, Repr

/-- The channels of the two ends, each with the result of its last `finish`. -/
structure Ends where
  host : Bool × SecureChannel
  client : Bool × SecureChannel
deriving DecidableEq, Repr

namespace Exchange

/-- One end's call of `finish`. -/
def finish (c : Cng) (x : Exchange) (ends : Ends) (role : Role) : Ends :=
  match role with
  | .host =>
      { ends with
        host := ends.host.2.finish c x.hostKeys x.hostSalt x.clientKeys.publicKey x.clientSalt
          x.sessionCode true }
  | .client =>
      { ends with
        client := ends.client.2.finish c x.clientKeys x.clientSalt x.hostKeys.publicKey x.hostSalt
          x.sessionCode false }

/-- Key agreement gives both ends the same 32 bytes. -/
def Agrees (c : Cng) (x : Exchange) (shared : Bytes) : Prop :=
  c.ecdhP256 x.hostKeys x.clientKeys.publicKey = some shared ∧
    c.ecdhP256 x.clientKeys x.hostKeys.publicKey = some shared ∧ shared.length = 32

end Exchange

/-- A channel no datagram has gone through: active, at its first counter, with an empty window. -/
def SecureChannel.Fresh (ch : SecureChannel) : Prop :=
  ch.active = true ∧ ch.sendCounter = 1 ∧ ch.recvInit = false ∧ ch.recvHighest = 0 ∧
    ch.recvWindow = Vector.replicate 64 0

theorem SecureChannel.fresh_install (ch : SecureChannel) (okm : Bytes) (weAreHost : Bool) :
    (ch.install okm weAreHost).Fresh := ⟨rfl, rfl, rfl, rfl, rfl⟩

/-- A call of `finish` that succeeds leaves a fresh channel, whatever the channel was before. -/
theorem SecureChannel.finish_eq_install {c : Cng} (ch : SecureChannel) {kp : EcdhKeyPair}
    {ourSalt peerPublicKey peerSalt shared : Bytes} (hpub : peerPublicKey.length = kEcdhPubBytes)
    (hours : ourSalt.length = 16) (hpeer : peerSalt.length = 16)
    (hecdh : c.ecdhP256 kp peerPublicKey = some shared) (hshared : shared.length = 32)
    (sessionCode : Bytes) (weAreHost : Bool) :
    ch.finish c kp ourSalt peerPublicKey peerSalt sessionCode weAreHost
      = (true, ch.install (SecureChannel.keyMaterial c shared sessionCode ourSalt peerSalt)
          weAreHost) := by
  have hok := ch.finish_fst hpub hours hpeer hecdh hshared sessionCode weAreHost
  obtain ⟨-, -, shared', hshared', hinstall⟩ := SecureChannel.finish_eq_true (Prod.ext hok rfl)
  obtain rfl := Option.some.inj (hecdh.symm.trans hshared')
  exact Prod.ext hok hinstall

namespace Exchange

/-- **Symmetric key schedule.** Whatever the two channels were before, both calls of `finish`
    succeed in either order and leave the same two ends: active and fresh, with the host's keys
    mirrored in the client's and one nonce salt. -/
theorem finish_symmetric (c : Cng) (x : Exchange) (shared : Bytes) (h : x.Agrees c shared)
    (ends : Ends) :
    ∃ host client,
      x.finish c (x.finish c ends .host) .client = ⟨(true, host), (true, client)⟩ ∧
      x.finish c (x.finish c ends .client) .host = ⟨(true, host), (true, client)⟩ ∧
      host.Fresh ∧ client.Fresh ∧ host.sendKey = client.recvKey ∧ host.recvKey = client.sendKey ∧
      host.nonceSalt = client.nonceSalt := by
  obtain ⟨hhost, hclient, hlen⟩ := h
  have hostFinish := ends.host.2.finish_eq_install x.clientKeys_size x.hostSalt_size
    x.clientSalt_size hhost hlen x.sessionCode true
  have clientFinish := ends.client.2.finish_eq_install x.hostKeys_size x.clientSalt_size
    x.hostSalt_size hclient hlen x.sessionCode false
  -- both ends sort the two salts, so they expand the same bytes
  rw [SecureChannel.keyMaterial_comm c shared x.sessionCode x.clientSalt x.hostSalt] at clientFinish
  set okm := SecureChannel.keyMaterial c shared x.sessionCode x.hostSalt x.clientSalt
  refine ⟨ends.host.2.install okm true, ends.client.2.install okm false, ?_, ?_,
    SecureChannel.fresh_install _ _ _, SecureChannel.fresh_install _ _ _,
    SecureChannel.keysMatch_install _ _ _⟩
  · simp only [finish, hostFinish, clientFinish]
  · simp only [finish, hostFinish, clientFinish]

/-- The recorded session, with the code typed as shown. -/
def recorded : Exchange where
  hostKeys := Session.hostKeys
  clientKeys := Session.clientKeys
  hostSalt := Session.hostSalt
  clientSalt := Session.clientSalt
  sessionCode := Session.code
  hostKeys_size := by decide +kernel
  clientKeys_size := by decide +kernel
  hostSalt_size := by decide +kernel
  clientSalt_size := by decide +kernel

theorem finish_symmetric_recorded :
    recorded.Agrees Session.record.replay Session.shared ∧
      ∃ host client,
        recorded.finish Session.record.replay
            (recorded.finish Session.record.replay ⟨(false, {}), (false, {})⟩ .host) .client
          = ⟨(true, host), (true, client)⟩ ∧
        host.sendKey = client.recvKey := by
  have hagrees : recorded.Agrees Session.record.replay Session.shared :=
    ⟨by decide +kernel, by decide +kernel, by decide +kernel⟩
  obtain ⟨host, client, hends, -, -, -, hkeys, -⟩ :=
    finish_symmetric Session.record.replay recorded Session.shared hagrees
      ⟨(false, {}), (false, {})⟩
  exact ⟨hagrees, host, client, hends, hkeys⟩

end Exchange

end RemotePlay.Crypto
