import RemotePlay.Security.SealOpen

set_option autoImplicit false

/-! # The nonces a channel encrypts with

GCM allows a nonce once for each key. The nonce is the salt and the send counter, a 64-bit atomic:
`seal` refuses the value 0 ("never reuse"), but the counter has moved past it by then, so the call
after the refused one encrypts under counter 1 again. Every `seal` whose payload passes the size
check takes a counter, also when the encryption then fails. -/

namespace RemotePlay.Crypto

/-! ## Calls of `aesGcmEncrypt` -/

/-- The arguments of one call of `aesGcmEncrypt`. -/
structure EncryptCall where
  key : Bytes
  nonce : Bytes
  plaintext : Bytes
  aad : Bytes
deriving DecidableEq, Repr

/-- A `seal` that gets past its first check, and so takes a counter value. -/
def ChannelOp.takesCounter : ChannelOp → Bool
  | .sealing _ payload => payload.length ≤ 64 * 1024
  | .opening _ _ => false

/-- The call of `aesGcmEncrypt` that an operation makes in a state. -/
def SecureChannel.encryptCall (ch : SecureChannel) : ChannelOp → Option EncryptCall
  | .sealing header payload =>
      if !ch.active ∨ payload.length > 64 * 1024 then none
      else if ch.sendCounter = 0 then none
      else some {
        key := ch.sendKey
        nonce := ch.nonceFor ch.sendCounter
        plaintext := leBytes 8 ch.sendCounter.toNat ++ payload
        aad := header.take 30 }
  | .opening _ _ => none

/-- `encryptCall` is the call `seal` makes: without one `seal` fails, with one its output is what
    that call returns. -/
theorem SecureChannel.seal_fst_eq (c : Cng) (ch : SecureChannel) (header payload : Bytes) :
    (ch.seal c header payload).1 =
      (ch.encryptCall (.sealing header payload)).bind fun call =>
        (c.aesGcmEncrypt call.key call.nonce call.plaintext call.aad).map fun out =>
          out.1 ++ out.2 := by
  unfold SecureChannel.seal SecureChannel.encryptCall
  dsimp only
  split
  · rfl
  split
  · rfl
  rw [Option.bind_some]
  split
  · next hnone => exact (congrArg (Option.map fun out => out.1 ++ out.2) hnone).symm
  · next ct tag hsome => exact (congrArg (Option.map fun out => out.1 ++ out.2) hsome).symm

/-- The calls of a run, in order. -/
def SecureChannel.encryptCalls (c : Cng) (ch : SecureChannel) (ops : List ChannelOp) :
    List EncryptCall :=
  (history (SecureChannel.apply c) ch ops).filterMap fun p => p.1.encryptCall p.2

/-- No two calls encrypt under one key with one nonce. -/
def NoNonceReuse (calls : List EncryptCall) : Prop :=
  calls.Pairwise fun a b => a.key = b.key → a.nonce ≠ b.nonce

/-! ## The counter along a run -/

/-- The number of counter values a run takes. -/
def countersTaken (ops : List ChannelOp) : Nat := (ops.filter ChannelOp.takesCounter).length

theorem countersTaken_concat (ops : List ChannelOp) (op : ChannelOp) :
    countersTaken (ops ++ [op]) = countersTaken ops + if op.takesCounter then 1 else 0 := by
  rw [countersTaken, countersTaken, List.filter_append, List.length_append, List.filter_singleton]
  cases op.takesCounter
  · rfl
  · rfl

/-- One operation moves the counter exactly when it takes a value, whatever encryption does. -/
theorem SecureChannel.apply_sendCounter (c : Cng) {ch : SecureChannel} (hact : ch.active = true)
    (op : ChannelOp) :
    (ch.apply c op).sendCounter =
      if op.takesCounter then ch.sendCounter + 1 else ch.sendCounter := by
  cases op with
  | sealing header payload =>
      show (ch.seal c header payload).2.sendCounter = _
      by_cases hlen : payload.length ≤ 64 * 1024
      · have htakes : (ChannelOp.sealing header payload).takesCounter = true := decide_eq_true hlen
        have hguard : ¬ ((!ch.active) = true ∨ payload.length > 64 * 1024) := by
          rw [hact]
          rintro (h | h)
          · exact absurd h (by decide)
          · omega
        rw [if_pos htakes, SecureChannel.seal, if_neg hguard]
        dsimp only
        split
        · rfl
        split
        · rfl
        · rfl
      · have htakes : ¬ (ChannelOp.sealing header payload).takesCounter = true := by
          simpa [ChannelOp.takesCounter] using hlen
        rw [if_neg htakes, SecureChannel.seal, if_pos (Or.inr (by omega))]
  | opening header sealed =>
      show (ch.open c header sealed).2.sendCounter = ch.sendCounter
      unfold SecureChannel.open
      dsimp only
      repeat' split
      all_goals rfl

/-- The counter of a channel that has taken `n` values since it was set up. -/
def counterAfter (n : Nat) : UInt64 := UInt64.ofNat (1 + n)

theorem counterAfter_succ (n : Nat) : counterAfter n + 1 = counterAfter (n + 1) := by
  rw [counterAfter, counterAfter, ← Nat.add_assoc, UInt64.ofNat_add (1 + n) 1]
  rfl

theorem counterAfter_eq_iff (m n : Nat) :
    counterAfter m = counterAfter n ↔ m % 2 ^ 64 = n % 2 ^ 64 := by
  rw [← UInt64.toNat_inj, counterAfter, counterAfter, UInt64.toNat_ofNat', UInt64.toNat_ofNat']
  omega

theorem SecureChannel.run_sendCounter (c : Cng) {ch : SecureChannel} (hact : ch.active = true)
    (hfresh : ch.sendCounter = 1) (ops : List ChannelOp) :
    (runFrom (SecureChannel.apply c) ch ops).sendCounter = counterAfter (countersTaken ops) := by
  induction ops using List.reverseRecOn with
  | nil => exact hfresh
  | append_singleton ops op ih =>
      have hactRun : (runFrom (SecureChannel.apply c) ch ops).active = true :=
        (ch.run_sameKeys c ops).1.trans hact
      rw [runFrom_concat, SecureChannel.apply_sendCounter c hactRun, ih, countersTaken_concat]
      cases op.takesCounter
      · rfl
      · exact counterAfter_succ _

/-! ## The nonces of a run -/

/-- The values taken that `seal` goes on to encrypt with: all but the one it refuses. -/
def usedCounters (n : Nat) : List Nat := (List.range n).filter fun i => counterAfter i ≠ 0

theorem usedCounters_succ (n : Nat) :
    usedCounters (n + 1) = usedCounters n ++ if counterAfter n = 0 then [] else [n] := by
  rw [usedCounters, usedCounters, List.range_succ, List.filter_append, List.filter_singleton]
  by_cases h : counterAfter n = 0
  · simp [h]
  · simp [h]

/-- The key and the nonce of the call an operation makes. -/
theorem SecureChannel.encryptCall_map {ch : SecureChannel} (hact : ch.active = true)
    (op : ChannelOp) :
    (ch.encryptCall op).map (fun call => (call.key, call.nonce)) =
      if op.takesCounter ∧ ch.sendCounter ≠ 0 then
        some (ch.sendKey, ch.nonceFor ch.sendCounter)
      else none := by
  cases op with
  | opening header sealed => rfl
  | sealing header payload =>
      simp only [SecureChannel.encryptCall, ChannelOp.takesCounter, hact, decide_eq_true_eq]
      by_cases hlen : payload.length ≤ 64 * 1024
      · by_cases hzero : ch.sendCounter = 0
        · simp [hzero]
        · simp [hzero, hlen, Nat.not_lt.2 hlen]
      · simp [hlen, Nat.lt_of_not_le hlen]

/-- The key and the nonce of each call of a run: the `i`-th counter value taken gives the nonce of
    counter `1 + i`, reduced to 64 bits. -/
theorem SecureChannel.encryptCalls_map (c : Cng) {ch : SecureChannel} (hact : ch.active = true)
    (hfresh : ch.sendCounter = 1) (ops : List ChannelOp) :
    (ch.encryptCalls c ops).map (fun call => (call.key, call.nonce)) =
      (usedCounters (countersTaken ops)).map fun i =>
        (ch.sendKey, ch.nonceFor (counterAfter i)) := by
  rw [SecureChannel.encryptCalls, List.map_filterMap]
  induction ops using List.reverseRecOn with
  | nil => rfl
  | append_singleton ops op ih =>
      obtain ⟨hactRun, hkey, -, hsalt⟩ := ch.run_sameKeys c ops
      have hcounter := SecureChannel.run_sendCounter c hact hfresh ops
      have hnonce : (runFrom (SecureChannel.apply c) ch ops).nonceFor
          (counterAfter (countersTaken ops)) = ch.nonceFor (counterAfter (countersTaken ops)) := by
        rw [SecureChannel.nonceFor, SecureChannel.nonceFor, hsalt]
      rw [history_concat, List.filterMap_append, ih, countersTaken_concat, List.filterMap_cons,
        SecureChannel.encryptCall_map (hactRun.trans hact), hkey, hcounter, hnonce,
        List.filterMap_nil]
      cases htakes : op.takesCounter with
      | false => simp
      | true =>
          simp only [true_and, if_true, usedCounters_succ, List.map_append]
          by_cases hzero : counterAfter (countersTaken ops) = 0
          · simp [hzero]
          · simp [hzero]

theorem SecureChannel.nonceFor_inj (ch : SecureChannel) (m n : UInt64) :
    ch.nonceFor m = ch.nonceFor n ↔ m = n := by
  constructor
  · intro h
    have himage := List.append_cancel_left h
    rw [← u64_leBytes m, himage, u64_leBytes]
  · intro h
    rw [h]

/-- Fewer than a full turn of values are all different; one more brings the first one back. -/
theorem usedCounters_distinct_iff (ch : SecureChannel) (n : Nat) :
    ((usedCounters n).map fun i => ch.nonceFor (counterAfter i)).Nodup ↔ n ≤ 2 ^ 64 := by
  have hnodup : (usedCounters n).Nodup := List.nodup_range.filter _
  rw [List.nodup_map_iff_inj_on hnodup]
  constructor
  · intro hinj
    by_contra hmany
    have hfirst : (0 : Nat) ∈ usedCounters n := by
      rw [usedCounters, List.mem_filter, List.mem_range]
      exact ⟨by omega, by decide⟩
    have hagain : 2 ^ 64 ∈ usedCounters n := by
      rw [usedCounters, List.mem_filter, List.mem_range]
      exact ⟨by omega, by decide⟩
    have hsame : counterAfter 0 = counterAfter (2 ^ 64) := (counterAfter_eq_iff _ _).2 (by decide)
    exact absurd (hinj 0 hfirst (2 ^ 64) hagain (by rw [hsame])) (by decide)
  · intro hfew i hi j hj hij
    rw [SecureChannel.nonceFor_inj, counterAfter_eq_iff] at hij
    have hin := List.mem_range.1 (List.mem_of_mem_filter hi)
    have hjn := List.mem_range.1 (List.mem_of_mem_filter hj)
    rwa [Nat.mod_eq_of_lt (by omega), Nat.mod_eq_of_lt (by omega)] at hij

/-- Reuse is a matter of how many counter values are taken. -/
theorem SecureChannel.noNonceReuse_iff (c : Cng) {ch : SecureChannel} (hact : ch.active = true)
    (hfresh : ch.sendCounter = 1) (ops : List ChannelOp) :
    NoNonceReuse (ch.encryptCalls c ops) ↔ countersTaken ops ≤ 2 ^ 64 := by
  rw [← usedCounters_distinct_iff ch, List.Nodup, List.pairwise_map, NoNonceReuse]
  have hcalls := SecureChannel.encryptCalls_map c hact hfresh ops
  calc (ch.encryptCalls c ops).Pairwise (fun a b => a.key = b.key → a.nonce ≠ b.nonce)
      ↔ ((ch.encryptCalls c ops).map fun call => (call.key, call.nonce)).Pairwise
          (fun a b => a.1 = b.1 → a.2 ≠ b.2) := by rw [List.pairwise_map]
    _ ↔ (usedCounters (countersTaken ops)).Pairwise
          (fun i j => ch.nonceFor (counterAfter i) ≠ ch.nonceFor (counterAfter j)) := by
        rw [hcalls, List.pairwise_map]
        simp

/-- A finished channel is active and starts at counter 1. -/
theorem SecureChannel.finish_fresh {c : Cng} {ch₀ ch : SecureChannel} {keys : EcdhKeyPair}
    {ourSalt peerPublicKey peerSalt code : Bytes} {weAreHost : Bool}
    (h : ch₀.finish c keys ourSalt peerPublicKey peerSalt code weAreHost = (true, ch)) :
    ch.active = true ∧ ch.sendCounter = 1 := by
  obtain ⟨-, -, shared, -, rfl⟩ := SecureChannel.finish_eq_true h
  exact ⟨rfl, rfl⟩

/-- **When a channel reuses a nonce.** After a successful `finish`, for every cipher, every sequence
    of calls and every outcome of the encryptions among them: no two encryptions share key and nonce
    exactly as long as at most `2 ^ 64` calls of `seal` came with a payload within the size limit.
    Beyond that the counter has passed its guard and starts again at 1. -/
theorem seal_never_reuses_nonce_iff (c : Cng) (ch₀ ch : SecureChannel) (keys : EcdhKeyPair)
    (ourSalt peerPublicKey peerSalt code : Bytes) (weAreHost : Bool)
    (hfinish : ch₀.finish c keys ourSalt peerPublicKey peerSalt code weAreHost = (true, ch))
    (ops : List ChannelOp) :
    NoNonceReuse (ch.encryptCalls c ops) ↔ countersTaken ops ≤ 2 ^ 64 := by
  obtain ⟨hact, hfresh⟩ := SecureChannel.finish_fresh hfinish
  exact SecureChannel.noNonceReuse_iff c hact hfresh ops

theorem session_finish : SecureChannel.finish Session.record.replay {} Session.hostKeys
    Session.hostSalt Session.clientPublic Session.clientSalt Session.code true
      = (true, Session.host) :=
  Prod.ext (by decide +kernel) rfl

theorem seal_never_reuses_nonce_iff_session :
    NoNonceReuse (Session.host.encryptCalls Session.record.replay
        [.sealing Session.header Session.payload, .opening Session.header Session.payload,
          .sealing Session.header Session.payload]) ↔
      countersTaken [.sealing Session.header Session.payload,
        .opening Session.header Session.payload, .sealing Session.header Session.payload]
          ≤ 2 ^ 64 :=
  seal_never_reuses_nonce_iff Session.record.replay {} Session.host Session.hostKeys
    Session.hostSalt Session.clientPublic Session.clientSalt Session.code true session_finish
    [.sealing Session.header Session.payload, .opening Session.header Session.payload,
      .sealing Session.header Session.payload]

/-- A host that seals `2 ^ 64 + 1` datagrams uses one nonce twice. -/
theorem nonce_reused_after_wrap :
    SecureChannel.finish Session.record.replay {} Session.hostKeys Session.hostSalt
        Session.clientPublic Session.clientSalt Session.code true = (true, Session.host) ∧
      ¬ NoNonceReuse (Session.host.encryptCalls Session.record.replay
        (List.replicate (2 ^ 64 + 1) (.sealing Session.header Session.payload))) := by
  refine ⟨session_finish, ?_⟩
  intro hnone
  obtain ⟨hact, hfresh⟩ := SecureChannel.finish_fresh session_finish
  have hfew := (SecureChannel.noNonceReuse_iff Session.record.replay hact hfresh _).1 hnone
  have htakes : (ChannelOp.sealing Session.header Session.payload).takesCounter = true := by
    decide +kernel
  rw [countersTaken, List.filter_replicate_of_pos htakes, List.length_replicate] at hfew
  exact absurd hfew (by decide)

end RemotePlay.Crypto
