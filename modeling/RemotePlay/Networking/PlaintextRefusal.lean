import RemotePlay.Networking.HeaderCodec
import RemotePlay.Networking.RejectedDatagrams
import RemotePlay.Security.SealOpen

set_option autoImplicit false

/-! # Plaintext on a media transport

`handleDatagram` lets a datagram without the `Encrypted` flag in exactly when `secure_` is null or
its sink is not active. No event of the transport changes that: handlers only replace the sink's
state by what `seal` and `open` leave behind. So a streamer's transport refuses plaintext for its
whole life if and only if it was given an active channel. -/

namespace RemotePlay.Net

/-- Sealing and opening do not end a session. -/
structure UdpCryptoSink.KeepsActive {σ : Type} (sink : UdpCryptoSink σ) : Prop where
  seal_active : ∀ s header payload,
    sink.active (sink.sealDatagram s header payload).2 = sink.active s
  open_active : ∀ s header sealed,
    sink.active (sink.openDatagram s header sealed).2 = sink.active s

section Secured

variable {σ : Type} {sink : UdpCryptoSink σ}

/-! ## Handlers that leave the sink alone -/

theorem sendFrame_secure (t : UdpTransport σ) (type : UdpType) (keyframe : Bool) (data : Bytes)
    (ts : UInt64) : (t.sendFrame type keyframe data ts).secure = t.secure := by
  unfold UdpTransport.sendFrame
  split
  · rfl
  · dsimp only
    rw [UdpTransport.foldl_post]
    rfl

theorem sendTo_secure (t : UdpTransport σ) (target : Endpoint) (bytes : Bytes) (fails : Bool) :
    (t.sendTo target bytes fails).1.secure = t.secure := by
  unfold UdpTransport.sendTo
  split
  · rfl
  · rfl

theorem isSecure_of_secure_eq {t t' : UdpTransport σ} (h : t'.secure = t.secure) :
    t'.isSecure sink = t.isSecure sink := by
  rw [UdpTransport.isSecure, UdpTransport.isSecure, h]

/-! ## Every event keeps a transport secure -/

theorem wireBytes_isSecure (hk : sink.KeepsActive) (t : UdpTransport σ) (dg : Bytes) :
    (t.wireBytes sink dg).2.isSecure sink = t.isSecure sink := by
  unfold UdpTransport.wireBytes
  split
  · rfl
  split
  · rfl
  next s hs =>
  simp only [UdpTransport.isSecure, UdpTransport.setSecure, hs, Option.any_some, hk.seal_active]

theorem authenticate_isSecure (hk : sink.KeepsActive) (t : UdpTransport σ) (buf : Bytes)
    (now : UInt64) : (t.authenticate sink buf now).2.isSecure sink = t.isSecure sink := by
  unfold UdpTransport.authenticate
  dsimp only
  split
  · rfl
  next h _ =>
  split
  · rfl
  split
  · split
    · rfl
    next s hs =>
    have hopen : (((t.countReceived buf.length).noteRx now).setSecure (sink.openDatagram s
        (buf.take kUdpHeaderSize)
        ((buf.drop kUdpHeaderSize).take h.payloadSize.toNat)).2).isSecure sink
          = t.isSecure sink := by
      have hs' : t.secure = some s := hs
      simp only [UdpTransport.isSecure, UdpTransport.setSecure, hs', Option.any_some,
        hk.open_active]
    split
    · exact hopen
    · exact hopen
  · split
    · rfl
    · rfl

theorem runTask_isSecure (hk : sink.KeepsActive) (t : UdpTransport σ) (task : UdpTask)
    (fails : Bool) (now : UInt64) :
    (t.runTask sink task fails now).1.isSecure sink = t.isSecure sink := by
  cases task with
  | datagram dg =>
      have hwire := wireBytes_isSecure hk t dg
      simp only [UdpTransport.runTask]
      rcases hr : t.wireBytes sink dg with ⟨o, t1⟩
      rw [hr] at hwire
      cases o with
      | none => exact hwire
      | some bytes => exact (isSecure_of_secure_eq (sendTo_secure t1 _ _ _)).trans hwire
  | relayBind target pkt =>
      simp only [UdpTransport.runTask]
      split
      · rfl
      split
      · rfl
      · rfl
  | punch target dg => exact isSecure_of_secure_eq (sendTo_secure t target dg fails)
  | requestKeyframe =>
      exact isSecure_of_secure_eq (secure_of_frame (fun t => t.requestKeyframe now)
        (fun t secure stats => sendSmall_withStats t secure stats _ _ now) t)
  | close => rfl

theorem handleDatagram_isSecure (hk : sink.KeepsActive) {t : UdpTransport σ} {buf : Bytes}
    {source : Endpoint} {clk : Nat → UInt64} {p : UdpTransport σ × List UdpEffect}
    (h : t.handleDatagram sink buf source clk = .ok p) :
    p.1.isSecure sink = t.isSecure sink := by
  have hauth := authenticate_isSecure hk t buf (clk 0)
  unfold UdpTransport.handleDatagram at h
  rcases hr : t.authenticate sink buf (clk 0) with ⟨o, t1⟩
  rw [hr] at h hauth
  cases o with
  | none =>
      obtain rfl := Except.ok.inj h
      exact hauth
  | some hp =>
      obtain ⟨hd, payload⟩ := hp
      have hlearn : (t1.learnPeer sink hd source).isSecure sink = t1.isSecure sink :=
        isSecure_of_secure_eq (learnPeer_secure t1 hd source)
      dsimp only at h
      split at h
      · obtain rfl := Except.ok.inj h
        exact hlearn.trans hauth
      · exact (isSecure_of_secure_eq (dispatch_secure h)).trans (hlearn.trans hauth)

/-- **No event ends a transport's security.** -/
theorem handle_isSecure (hk : sink.KeepsActive) {t : UdpTransport σ} {e : UdpEvent}
    {p : UdpTransport σ × List UdpEffect} (h : t.handle sink e = .ok p) :
    p.1.isSecure sink = t.isSecure sink := by
  cases e with
  | datagram buf source clk => exact handleDatagram_isSecure hk h
  | runPosted fails now =>
      simp only [UdpTransport.handle] at h
      split at h
      · obtain rfl := Except.ok.inj h
        rfl
      · obtain rfl := Except.ok.inj h
        exact runTask_isSecure hk _ _ fails now
  | sendFrame type keyframe data ts =>
      obtain rfl := Except.ok.inj h
      exact isSecure_of_secure_eq (sendFrame_secure t type keyframe data ts)
  | pingTimer clk =>
      obtain rfl := Except.ok.inj h
      exact isSecure_of_secure_eq (secure_of_frame (fun t => t.pingTimerFires clk)
        (fun t secure stats => pingTimerFires_withStats t secure stats clk) t)
  | sendSmall type data now =>
      obtain rfl := Except.ok.inj h
      exact isSecure_of_secure_eq (secure_of_frame (fun t => t.sendSmall type data now)
        (fun t secure stats => sendSmall_withStats t secure stats type data now) t)
  | sendRelayBind token =>
      obtain rfl := Except.ok.inj h
      exact isSecure_of_secure_eq (secure_of_frame (fun t => t.sendRelayBind token)
        (fun t secure stats => sendRelayBind_withStats t secure stats token) t)
  | sendPunch target =>
      obtain rfl := Except.ok.inj h
      exact isSecure_of_secure_eq (secure_of_frame (fun t => t.sendPunch target)
        (fun t secure stats => sendPunch_withStats t secure stats target) t)
  | startPings ms clk =>
      obtain rfl := Except.ok.inj h
      exact isSecure_of_secure_eq (secure_of_frame (fun t => t.startPings ms clk)
        (fun t secure stats => startPings_withStats t secure stats ms clk) t)
  | stop =>
      obtain rfl := Except.ok.inj h
      exact isSecure_of_secure_eq (secure_of_frame (fun t => t.stop)
        (fun t secure stats => ite_withStats rfl rfl) t)
  | setSessionId id | setPeer ep | lockToRemote ep | setRelayFallback ep | pollVideo now
  | pollAudio now | stopPings | setVideoJitterTargetMs ms | setAudioJitterTargetMs ms
  | setAutoKeyframeRequest enabled | setDropUnknownRemote drop | resetStats =>
      obtain rfl := Except.ok.inj h
      rfl

/-! ## The life of a media transport -/

/-- What happens to a streamer's transport and to the channel it shares with the client's other
    streamers. -/
inductive MediaEvent where
  | own (e : UdpEvent)
  | sealedElsewhere (header payload : Bytes)
  | openedElsewhere (header sealed : Bytes)

/-- The sink's state was moved by another holder. -/
def UdpTransport.mapSecure (t : UdpTransport σ) (f : σ → σ) : UdpTransport σ :=
  { t with secure := t.secure.map f }

/-- One step of a media transport; a fault ends the run. -/
def mediaStep (sink : UdpCryptoSink σ) (s : Except FeedFault (UdpTransport σ)) :
    MediaEvent → Except FeedFault (UdpTransport σ)
  | .own e => UdpTransport.step sink s e
  | .sealedElsewhere header payload =>
      s.map (fun t => t.mapSecure (fun ch => (sink.sealDatagram ch header payload).2))
  | .openedElsewhere header sealed =>
      s.map (fun t => t.mapSecure (fun ch => (sink.openDatagram ch header sealed).2))

/-- The transport as a streamer's `start` leaves it: the sink is installed before `bind`. -/
def boundTransport (sessionId : UInt32) (secure : Option σ) : UdpTransport σ :=
  { running := true, socket := true, sessionId := sessionId, secure := secure }

/-- A fault, or a transport whose security is `b`. -/
def SecureIs (sink : UdpCryptoSink σ) (b : Bool) : Except FeedFault (UdpTransport σ) → Prop
  | .ok t => t.isSecure sink = b
  | .error _ => True

theorem isSecure_mapSecure (t : UdpTransport σ) {f : σ → σ}
    (hf : ∀ s, sink.active (f s) = sink.active s) :
    (t.mapSecure f).isSecure sink = t.isSecure sink := by
  simp only [UdpTransport.isSecure, UdpTransport.mapSecure]
  cases t.secure with
  | none => rfl
  | some s => exact hf s

theorem mediaStep_secureIs (hk : sink.KeepsActive) {b : Bool}
    {s : Except FeedFault (UdpTransport σ)} (h : SecureIs sink b s) (e : MediaEvent) :
    SecureIs sink b (mediaStep sink s e) := by
  cases s with
  | error err => cases e <;> exact trivial
  | ok t =>
      have ht : t.isSecure sink = b := h
      cases e with
      | own e =>
          simp only [mediaStep, UdpTransport.step, Except.bind]
          cases hr : t.handle sink e with
          | error err => exact trivial
          | ok p => exact (handle_isSecure hk hr).trans ht
      | sealedElsewhere header payload =>
          exact (isSecure_mapSecure t (fun s => hk.seal_active s header payload)).trans ht
      | openedElsewhere header sealed =>
          exact (isSecure_mapSecure t (fun s => hk.open_active s header sealed)).trans ht

/-- In every state of its life the transport lets no datagram in that carries a well-formed header
    without the `Encrypted` flag. -/
def RefusesPlaintext (sink : UdpCryptoSink σ) (t₀ : UdpTransport σ) : Prop :=
  ∀ (es : List MediaEvent) (t : UdpTransport σ),
    runFrom (mediaStep sink) (.ok t₀) es = .ok t →
    ∀ (buf : Bytes) (now : UInt64),
      (decodeUdpHeader buf {}).2.hasFlag UdpFlag.Encrypted = false →
      (t.authenticate sink buf now).1 = none

theorem authenticate_plaintext_of_secure {t : UdpTransport σ} (hs : t.isSecure sink = true)
    (buf : Bytes) (now : UInt64)
    (hplain : (decodeUdpHeader buf {}).2.hasFlag UdpFlag.Encrypted = false) :
    (t.authenticate sink buf now).1 = none := by
  have hs' : ((t.countReceived buf.length).noteRx now).isSecure sink = true := hs
  unfold UdpTransport.authenticate
  dsimp only
  split
  · rfl
  next h hdec =>
  rw [hdec] at hplain
  split
  · rfl
  split
  · next henc => exact absurd henc (by simp [hplain])
  -- the last test is decided by `hs'`
  · rfl

/-- The header of an empty input datagram in the clear. -/
def plainHeader (sessionId : UInt32) : UdpHeader :=
  { type := UdpType.Input.code, sessionId := sessionId }

theorem decode_plainHeader (sessionId : UInt32) :
    decodeUdpHeader (encodeUdpHeader (plainHeader sessionId)) {}
      = (true, plainHeader sessionId) := by
  have hdec := decodeUdpHeader_encode (plainHeader sessionId) {} [] ⟨rfl, rfl, by
    show UdpType.Input.code ≤ 8
    decide⟩
  rw [List.append_nil] at hdec
  rw [hdec]
  rfl

theorem authenticate_plaintext_of_not_secure {t : UdpTransport σ} (hs : t.isSecure sink = false)
    (now : UInt64) :
    (t.authenticate sink (encodeUdpHeader (plainHeader t.sessionId)) now).1.isSome = true := by
  set buf := encodeUdpHeader (plainHeader t.sessionId) with hbuf
  have hs' : ((t.countReceived buf.length).noteRx now).isSecure sink = false := hs
  unfold UdpTransport.authenticate
  rw [hbuf, decode_plainHeader, ← hbuf]
  dsimp only
  rw [if_neg (fun h => h.2 rfl), if_neg (by simp [UdpHeader.hasFlag, plainHeader]),
    if_neg (by simp [hs'])]
  rfl

/-- **What refuses plaintext.** A media transport refuses plaintext throughout its life exactly when
    it was bound with an active sink. -/
theorem refusesPlaintext_iff (hk : sink.KeepsActive) (sessionId : UInt32) (secure : Option σ) :
    RefusesPlaintext sink (boundTransport sessionId secure) ↔ secure.any sink.active = true := by
  constructor
  · -- an inactive sink lets a plaintext input datagram in right after `bind`
    intro h
    by_contra hinactive
    have hs : (boundTransport sessionId secure).isSecure sink = false :=
      Bool.eq_false_iff.2 hinactive
    have hsome := authenticate_plaintext_of_not_secure hs 0
    have hnone := h [] (boundTransport sessionId secure) rfl
      (encodeUdpHeader (plainHeader sessionId)) 0 (by
        rw [decode_plainHeader]
        simp [UdpHeader.hasFlag, plainHeader])
    rw [show (boundTransport sessionId secure).sessionId = sessionId from rfl, hnone] at hsome
    exact absurd hsome (by simp)
  · intro hactive es t ht buf now hplain
    have hrun : SecureIs sink true
        (runFrom (mediaStep sink) (.ok (boundTransport sessionId secure)) es) :=
      runFrom_preserved (mediaStep sink) (SecureIs sink true)
        (fun s e hs => mediaStep_secureIs hk hs e) _ es hactive
    rw [ht] at hrun
    exact authenticate_plaintext_of_secure hrun buf now hplain

end Secured

open RemotePlay.Crypto in
theorem secureChannelSink_keepsActive (c : Cng) : (secureChannelSink c).KeepsActive where
  seal_active := fun ch header payload => (ch.seal_sameKeys c header payload).1
  open_active := fun ch header sealed => (ch.open_keys c header sealed).1

end RemotePlay.Net
