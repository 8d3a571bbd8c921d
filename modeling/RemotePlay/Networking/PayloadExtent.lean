import RemotePlay.Networking.ProtocolCodec

set_option autoImplicit false

/-! # Where a payload ends

A reader never looks past what it has consumed, so a message that was read from a payload is read
from every longer payload too. Whether the longer payload is accepted is up to the last line of each
`readMsg`: eight of them ask for `remaining() == 0`, the other eight only for `ok()`. -/

namespace RemotePlay.Net.ByteReader

/-! ## Reads look at what they consume -/

/-- The same reader over data that goes on. -/
def extend (r : ByteReader) (ext : Bytes) : ByteReader := { r with data := r.data ++ ext }

/-- A read that succeeds only from a good reader, stays within the data and does the same when the
    data goes on. -/
structure Local {α : Type} (f : ByteReader → α × ByteReader) : Prop where
  ok_of_ok : ∀ r, (f r).2.ok = true → r.ok = true
  pos_le : ∀ r, (f r).2.ok = true → r.pos ≤ r.data.length → (f r).2.pos ≤ (f r).2.data.length
  extend : ∀ r ext, (f r).2.ok = true → f (r.extend ext) = ((f r).1, (f r).2.extend ext)

section Local

variable {α β : Type}

theorem Local.pure (a : α) : Local (fun r => (a, r)) :=
  ⟨fun _ h => h, fun _ _ h => h, fun _ _ _ => rfl⟩

/-- Reads compose. -/
theorem Local.bind {f : ByteReader → α × ByteReader} {g : α → ByteReader → β × ByteReader}
    (hf : Local f) (hg : ∀ a, Local (g a)) : Local (fun r => g (f r).1 (f r).2) := by
  constructor
  · intro r h
    exact hf.ok_of_ok r ((hg _).ok_of_ok _ h)
  · intro r h hpos
    exact (hg _).pos_le _ h (hf.pos_le r ((hg _).ok_of_ok _ h) hpos)
  · intro r ext h
    have hmid := (hg _).ok_of_ok _ h
    rw [hf.extend r ext hmid]
    exact (hg _).extend _ ext h

theorem Local.map {f : ByteReader → α × ByteReader} (hf : Local f) (g : α → β) :
    Local (fun r => (f r).map g id) :=
  hf.bind (fun a => Local.pure (g a))

theorem take_extend {r r' : ByteReader} {size : Nat} {bs : Bytes} (h : r.take size = some (bs, r'))
    (ext : Bytes) : (r.extend ext).take size = some (bs, r'.extend ext) := by
  unfold take at h ⊢
  split at h
  · next hfits =>
      obtain ⟨rfl, rfl⟩ := Prod.mk.inj (Option.some.inj h)
      simp only [fits, Bool.and_eq_true, decide_eq_true_eq] at hfits
      have hlonger : (r.extend ext).fits size = true := by
        simp only [fits, extend, Bool.and_eq_true, decide_eq_true_eq, List.length_append]
        exact ⟨hfits.1, by omega⟩
      rw [if_pos hlonger]
      simp only [extend, Option.some.injEq, Prod.mk.injEq, and_true]
      rw [List.drop_append_of_le_length (by omega), List.take_append_of_le_length]
      rw [List.length_drop]
      omega
  · exact absurd h (by simp)

theorem ok_of_take {r r' : ByteReader} {size : Nat} {bs : Bytes} (h : r.take size = some (bs, r')) :
    r.ok = true ∧ r'.pos ≤ r'.data.length := by
  unfold take at h
  split at h
  · next hfits =>
      obtain ⟨rfl, rfl⟩ := Prod.mk.inj (Option.some.inj h)
      simpa only [fits, Bool.and_eq_true, decide_eq_true_eq] using hfits
  · exact absurd h (by simp)

/-- The shape of every read: what `take` returns, or a failed reader. -/
theorem local_take (size : Nat) (value : Bytes → α) (default : α) :
    Local (fun r => match r.take size with
      | some (bs, r) => (value bs, r)
      | none => (default, r.fail)) := by
  constructor
  · intro r h
    split at h
    · next hsome => exact (ok_of_take hsome).1
    · exact absurd h (by simp [fail])
  · intro r h _
    split at h
    · next hsome => exact (ok_of_take hsome).2
    · exact absurd h (by simp [fail])
  · intro r ext h
    split at h
    · next bs r' hsome => rw [take_extend hsome ext]
    · exact absurd h (by simp [fail])

theorem local_word (size : Nat) : Local (fun r => r.word size) := local_take size leVal 0

theorem local_u8 : Local u8 := (local_word 1).map UInt8.ofNat

theorem local_u16 : Local u16 := (local_word 2).map UInt16.ofNat

theorem local_u32 : Local u32 := (local_word 4).map UInt32.ofNat

theorem local_u64 : Local u64 := (local_word 8).map UInt64.ofNat

theorem local_boolean : Local boolean := local_u8.map (fun v => v != 0)

theorem local_bytes (size : Nat) : Local (fun r => r.bytes size) :=
  local_take size id (List.replicate size 0)

theorem local_str : Local str := local_u16.bind (fun n => local_take n.toNat id [])

end Local

end RemotePlay.Net.ByteReader

namespace RemotePlay.Proto

open Net (ByteReader)
open Net.ByteReader

theorem local_readCodecs (n : Nat) : Local (readCodecs n) := by
  induction n with
  | zero => exact Local.pure []
  | succ n ih =>
      exact local_u8.bind (fun c => ih.bind (fun cs => Local.pure (VideoCodec.mk c :: cs)))

theorem local_readVideoCodecList : Local readVideoCodecList :=
  local_u8.bind (fun n => local_readCodecs n.toNat)

/-! ## The reads of a message and its last check -/

/-- The reads of `readMsg`, up to its last line. -/
def readFields (type : Id) (r : ByteReader) : Body × ByteReader :=
  match type with
  | .ClientHello =>
      let (clientName, r) := r.str
      let (sessionCode, r) := r.str
      let (appVersion, r) := r.str
      (.clientHello { clientName, sessionCode, appVersion }, r)
  | .HostReject =>
      let (reasonCode, r) := r.u16
      let (reasonText, r) := r.str
      (.hostReject { reasonCode, reasonText }, r)
  | .HostApproved => (.hostApproved, r)
  | .HostCapabilities =>
      let (hostName, r) := r.str
      let (gameName, r) := r.str
      let (captureMode, r) := r.u8
      let (width, r) := r.u16
      let (height, r) := r.u16
      let (fps, r) := r.u8
      let (bitrateKbps, r) := r.u32
      let (offeredCodecs, r) := readVideoCodecList r
      (.hostCapabilities
        { hostName, gameName, captureMode, width, height, fps, bitrateKbps, offeredCodecs }, r)
  | .ClientCapabilities =>
      let (supportedCodecs, r) := readVideoCodecList r
      (.clientCapabilities { supportedCodecs }, r)
  | .NegotiationResult =>
      let (accepted, r) := r.boolean
      let (codec, r) := r.u8
      let (width, r) := r.u16
      let (height, r) := r.u16
      let (fps, r) := r.u8
      let (bitrateKbps, r) := r.u32
      let (note, r) := r.str
      (.negotiationResult { accepted, codec, width, height, fps, bitrateKbps, note }, r)
  | .Ping =>
      let (epochMs, r) := r.u64
      (.ping { epochMs }, r)
  | .Pong =>
      let (echoEpochMs, r) := r.u64
      (.pong { echoEpochMs }, r)
  | .InputPermission =>
      let (controller, r) := r.boolean
      let (keyboard, r) := r.boolean
      let (mouse, r) := r.boolean
      let (vibration, r) := r.boolean
      (.inputPermission { controller, keyboard, mouse, vibration }, r)
  | .Kick =>
      let (reason, r) := r.str
      (.kick { reason }, r)
  | .Bye =>
      let (reason, r) := r.str
      (.bye { reason }, r)
  | .StreamStart =>
      let (udpPort, r) := r.u16
      let (sessionId, r) := r.u32
      let (playerIndex, r) := r.u8
      let (codec, r) := r.u8
      let (width, r) := r.u16
      let (height, r) := r.u16
      let (fps, r) := r.u8
      let (bitrateKbps, r) := r.u32
      (.streamStart { udpPort, sessionId, playerIndex, codec, width, height, fps, bitrateKbps }, r)
  | .StreamStop =>
      let (reason, r) := r.str
      (.streamStop { reason }, r)
  | .KeyframeRequest => (.keyframeRequest, r)
  | .KeyExchange =>
      let (publicKey, r) := r.bytes 64
      let (salt, r) := r.bytes 16
      (.keyExchange { publicKey, salt }, r)
  | .SessionKeyReady => (.sessionKeyReady, r)

theorem local_readFields (type : Id) : Local (readFields type) := by
  cases type with
  | ClientHello =>
      exact local_str.bind fun clientName => local_str.bind fun sessionCode =>
        local_str.bind fun appVersion =>
        .pure (Body.clientHello { clientName, sessionCode, appVersion })
  | HostReject =>
      exact local_u16.bind fun reasonCode => local_str.bind fun reasonText =>
        .pure (Body.hostReject { reasonCode, reasonText })
  | HostApproved => exact .pure Body.hostApproved
  | HostCapabilities =>
      exact local_str.bind fun hostName => local_str.bind fun gameName =>
        local_u8.bind fun captureMode => local_u16.bind fun width => local_u16.bind fun height =>
        local_u8.bind fun fps => local_u32.bind fun bitrateKbps =>
        local_readVideoCodecList.bind fun offeredCodecs => .pure (Body.hostCapabilities
          { hostName, gameName, captureMode, width, height, fps, bitrateKbps, offeredCodecs })
  | ClientCapabilities =>
      exact local_readVideoCodecList.bind fun supportedCodecs =>
        .pure (Body.clientCapabilities { supportedCodecs })
  | NegotiationResult =>
      exact local_boolean.bind fun accepted => local_u8.bind fun codec =>
        local_u16.bind fun width => local_u16.bind fun height => local_u8.bind fun fps =>
        local_u32.bind fun bitrateKbps => local_str.bind fun note => .pure (Body.negotiationResult
          { accepted, codec, width, height, fps, bitrateKbps, note })
  | Ping => exact local_u64.bind fun epochMs => .pure (Body.ping { epochMs })
  | Pong => exact local_u64.bind fun echoEpochMs => .pure (Body.pong { echoEpochMs })
  | InputPermission =>
      exact local_boolean.bind fun controller => local_boolean.bind fun keyboard =>
        local_boolean.bind fun mouse => local_boolean.bind fun vibration =>
        .pure (Body.inputPermission { controller, keyboard, mouse, vibration })
  | Kick => exact local_str.bind fun reason => .pure (Body.kick { reason })
  | Bye => exact local_str.bind fun reason => .pure (Body.bye { reason })
  | StreamStart =>
      exact local_u16.bind fun udpPort => local_u32.bind fun sessionId =>
        local_u8.bind fun playerIndex => local_u8.bind fun codec => local_u16.bind fun width =>
        local_u16.bind fun height => local_u8.bind fun fps => local_u32.bind fun bitrateKbps =>
        .pure (Body.streamStart
          { udpPort, sessionId, playerIndex, codec, width, height, fps, bitrateKbps })
  | StreamStop => exact local_str.bind fun reason => .pure (Body.streamStop { reason })
  | KeyframeRequest => exact .pure Body.keyframeRequest
  | KeyExchange =>
      exact (local_bytes 64).bind fun publicKey => (local_bytes 16).bind fun salt =>
        .pure (Body.keyExchange { publicKey, salt })
  | SessionKeyReady => exact .pure Body.sessionKeyReady

/-- The types whose reader asks for `remaining() == 0`. -/
def exactIds : List Id :=
  [.HostApproved, .Ping, .Pong, .InputPermission, .StreamStart, .KeyframeRequest, .KeyExchange,
    .SessionKeyReady]

theorem readMsg_eq (type : Id) (r : ByteReader) :
    readMsg type r
      = if type ∈ exactIds then whenDone (readFields type r).2 (readFields type r).1
        else whenOk (readFields type r).2 (readFields type r).1 := by
  cases type <;> rfl

/-! ## Accepted payloads -/

/-- `decodeMessage` accepts the payload for this type. -/
def Accepted (type : Id) (b : Bytes) : Prop := (decodeMessage type.code b).isSome

instance (type : Id) (b : Bytes) : Decidable (Accepted type b) :=
  inferInstanceAs (Decidable ((decodeMessage type.code b).isSome = true))

/-- The payload was consumed to its last byte, and no other accepted payload of the type begins it
    or is begun by it. -/
def DecodesFully (type : Id) (b : Bytes) : Prop :=
  (readFields type { data := b }).2.remaining = 0 ∧
    ∀ b', Accepted type b' → (b' <+: b ∨ b <+: b') → b' = b

theorem accepted_iff (type : Id) (b : Bytes) :
    Accepted type b ↔ (readFields type { data := b }).2.ok = true ∧
      (type ∈ exactIds → (readFields type { data := b }).2.remaining = 0) := by
  have hdec : Accepted type b ↔ (readMsg type { data := b }).isSome = true := by
    rw [Accepted, decodeMessage, Id.ofRaw_code, Option.isSome_map]
  rw [hdec, readMsg_eq]
  by_cases hexact : type ∈ exactIds
  · rw [if_pos hexact, whenDone]
    simp only [hexact, forall_const]
    split
    · next h => simpa using h
    · next h => simpa using h
  · rw [if_neg hexact, whenOk]
    simp only [hexact, false_implies, and_true]
    split
    · next h => simpa using h
    · next h => simpa using h

/-- A message read from a payload is read from every longer one. -/
theorem readFields_append {type : Id} {b : Bytes} (h : (readFields type { data := b }).2.ok = true)
    (ext : Bytes) :
    readFields type { data := b ++ ext }
      = ((readFields type { data := b }).1, (readFields type { data := b }).2.extend ext) :=
  (local_readFields type).extend { data := b } ext h

/-- A reader that checks for the end accepts no proper extension. -/
theorem append_eq_nil_of_accepted {type : Id} {b ext : Bytes} (hexact : type ∈ exactIds)
    (h : Accepted type b) (hlonger : Accepted type (b ++ ext)) : ext = [] := by
  obtain ⟨hok, -⟩ := (accepted_iff type b).1 h
  have hlongerEnd := ((accepted_iff type (b ++ ext)).1 hlonger).2 hexact
  have hwithin := (local_readFields type).pos_le { data := b } hok (Nat.zero_le _)
  rw [readFields_append hok] at hlongerEnd
  simp only [remaining, extend, List.length_append] at hlongerEnd
  exact List.length_eq_zero_iff.1 (by omega)

/-- **Where an accepted payload ends.** It is consumed to its last byte and isolated from every
    other accepted payload of its type exactly for the types whose reader checks for the end. -/
theorem decodes_fully_iff (type : Id) (b : Bytes) (h : Accepted type b) :
    DecodesFully type b ↔ type ∈ exactIds := by
  obtain ⟨hok, hend⟩ := (accepted_iff type b).1 h
  constructor
  · -- without the check one more byte is accepted as well
    rintro ⟨-, hisolated⟩
    by_contra hexact
    have hlonger : Accepted type (b ++ [0]) := by
      rw [accepted_iff, readFields_append hok]
      exact ⟨hok, fun hc => absurd hc hexact⟩
    have heq := hisolated (b ++ [0]) hlonger (Or.inr (List.prefix_append b [0]))
    simp at heq
  · intro hexact
    refine ⟨hend hexact, ?_⟩
    rintro b' hb' (⟨ext, rfl⟩ | ⟨ext, rfl⟩)
    · rw [append_eq_nil_of_accepted hexact hb' h, List.append_nil]
    · rw [append_eq_nil_of_accepted hexact h hb', List.append_nil]

theorem decodes_fully_iff_ping : DecodesFully .Ping (leBytes 8 42) ↔ Id.Ping ∈ exactIds :=
  decodes_fully_iff .Ping (leBytes 8 42) (by decide)

/-- A goodbye with a byte too many is accepted, and the byte is left over. -/
theorem trailing_byte_accepted :
    Accepted .Bye [0, 0] ∧ Accepted .Bye [0, 0, 7] ∧
      (readFields .Bye { data := [0, 0, 7] }).2.remaining = 1 ∧
      ¬ ∀ type b, Accepted type b → DecodesFully type b := by
  refine ⟨by decide, by decide, by decide, ?_⟩
  intro hall
  exact absurd (hall .Bye [0, 0, 7] (by decide)).1 (by decide)

end RemotePlay.Proto
