import RemotePlay.Lib.Runs
import RemotePlay.Networking.UdpTransport
import RemotePlay.Security.ReplayWindow

set_option autoImplicit false

/-! # Datagrams that fail authentication

Two transports are `Alike` when they differ in statistics only: the transport's counters, and
whatever the sink counts about itself. Every event keeps this (`Alike.handle`), because no handler
reads a counter. What a rejected datagram leaves behind beyond statistics is one field,
`lastRxAbsNs_`, which is written before the sink is asked; `sendPingOnce` reads it. -/

namespace RemotePlay.Net

/-! ## Sinks that count -/

/-- `q` forgets a sink's statistics: no result depends on them, and a rejected datagram changes
    nothing else. -/
structure UdpCryptoSink.StatsOnly {σ : Type} (sink : UdpCryptoSink σ) (q : σ → σ) : Prop where
  active_eq : ∀ s s', q s = q s' → sink.active s = sink.active s'
  seal_eq : ∀ s s' h p, q s = q s' → (sink.sealDatagram s h p).1 = (sink.sealDatagram s' h p).1 ∧
    q (sink.sealDatagram s h p).2 = q (sink.sealDatagram s' h p).2
  open_eq : ∀ s s' h p, q s = q s' → (sink.openDatagram s h p).1 = (sink.openDatagram s' h p).1 ∧
    q (sink.openDatagram s h p).2 = q (sink.openDatagram s' h p).2
  open_none : ∀ s h p, (sink.openDatagram s h p).1 = none → q (sink.openDatagram s h p).2 = q s

/-! ## Transports that differ in statistics only -/

section Alike

variable {σ : Type} {sink : UdpCryptoSink σ} {q : σ → σ}

/-- The transport with other statistics and another state of its sink. -/
def UdpTransport.withStats (t : UdpTransport σ) (secure : Option σ) (stats : UdpStats) :
    UdpTransport σ := { t with secure := secure, stats := stats }

theorem UdpTransport.withStats_self (t : UdpTransport σ) : t.withStats t.secure t.stats = t := rfl

/-- `t'` is `t` up to statistics. -/
def UdpTransport.Alike (q : σ → σ) (t t' : UdpTransport σ) : Prop :=
  ∃ secure stats, t' = t.withStats secure stats ∧ secure.map q = t.secure.map q

theorem UdpTransport.Alike.count {t t' : UdpTransport σ} (h : t.Alike q t')
    (f f' : UdpStats → UdpStats) : (t.count f).Alike q (t'.count f') := by
  obtain ⟨secure, stats, rfl, hsec⟩ := h
  exact ⟨secure, f' stats, rfl, hsec⟩

theorem UdpTransport.Alike.countSendError {t t' : UdpTransport σ} (h : t.Alike q t') :
    t.countSendError.Alike q t'.countSendError := h.count _ _

theorem UdpTransport.Alike.countSent {t t' : UdpTransport σ} (h : t.Alike q t') (size : Nat) :
    (t.countSent size).Alike q (t'.countSent size) := h.count _ _

theorem UdpTransport.Alike.countReceived {t t' : UdpTransport σ} (h : t.Alike q t') (size : Nat) :
    (t.countReceived size).Alike q (t'.countReceived size) := h.count _ _

theorem UdpTransport.Alike.countMalformed {t t' : UdpTransport σ} (h : t.Alike q t') :
    t.countMalformed.Alike q t'.countMalformed := h.count _ _

theorem UdpTransport.Alike.countWrongSession {t t' : UdpTransport σ} (h : t.Alike q t') :
    t.countWrongSession.Alike q t'.countWrongSession := h.count _ _

theorem UdpTransport.Alike.countAuthDrop {t t' : UdpTransport σ} (h : t.Alike q t') :
    t.countAuthDrop.Alike q t'.countAuthDrop := h.count _ _

theorem UdpTransport.Alike.isSecure_eq (hq : sink.StatsOnly q) {t t' : UdpTransport σ}
    (h : t.Alike q t') : t'.isSecure sink = t.isSecure sink := by
  obtain ⟨secure, stats, rfl, hsec⟩ := h
  simp only [UdpTransport.isSecure, UdpTransport.withStats]
  cases hs : t.secure with
  | none =>
      rw [hs] at hsec
      rw [Option.map_eq_none_iff.1 hsec]
  | some s =>
      rw [hs] at hsec
      obtain ⟨s', rfl, hss⟩ := Option.map_eq_some_iff.1 hsec
      exact hq.active_eq s' s hss

/-! ## Handlers that neither read nor write statistics -/

section Frame

variable (t : UdpTransport σ) (secure : Option σ) (stats : UdpStats)

variable {t secure stats} in
/-- A branch whose condition reads no statistics. -/
theorem ite_withStats {c : Prop} [Decidable c] {a b a' b' : UdpTransport σ}
    (ha : a' = a.withStats secure stats) (hb : b' = b.withStats secure stats) :
    (if c then a' else b') = (if c then a else b).withStats secure stats := by
  rw [ha, hb]
  exact (apply_ite (fun u : UdpTransport σ => u.withStats secure stats) c a b).symm

theorem sendSmall_withStats (type : UdpType) (data : Bytes) (now : UInt64) :
    (t.withStats secure stats).sendSmall type data now
      = (t.sendSmall type data now).withStats secure stats := ite_withStats rfl rfl

theorem sendRelayBind_withStats (token : Bytes) :
    (t.withStats secure stats).sendRelayBind token
      = (t.sendRelayBind token).withStats secure stats := ite_withStats rfl rfl

theorem sendPunch_withStats (target : Endpoint) :
    (t.withStats secure stats).sendPunch target = (t.sendPunch target).withStats secure stats :=
  ite_withStats rfl rfl

theorem noteArrival_withStats (now : UInt64) :
    (t.withStats secure stats).noteArrival now = (t.noteArrival now).withStats secure stats := rfl

theorem handlePong_withStats (payload : Bytes) (now now' : UInt64) :
    (t.withStats secure stats).handlePong payload now now'
      = (t.handlePong payload now now').withStats secure stats :=
  ite_withStats (ite_withStats rfl rfl) rfl

theorem noteVideoGap_withStats (gap : Int64) (now : UInt64) :
    (t.withStats secure stats).noteVideoGap gap now
      = (t.noteVideoGap gap now).withStats secure stats :=
  ite_withStats (ite_withStats rfl rfl) rfl

theorem handleMediaComplete_withStats (frame : AssembledFrame) (now : UInt64) :
    (t.withStats secure stats).handleMediaComplete frame now
      = ((t.handleMediaComplete frame now).1.withStats secure stats,
          (t.handleMediaComplete frame now).2) := by
  simp only [UdpTransport.handleMediaComplete, UdpTransport.withStats]
  split
  · rfl
  split
  · rfl
  split
  · rfl
  · rfl

theorem reassemble_withStats (h : UdpHeader) (payload : Bytes) (now : UInt64) :
    (t.withStats secure stats).reassemble h payload now
      = (t.reassemble h payload now).map (fun p => (p.1, p.2.withStats secure stats)) := by
  unfold UdpTransport.reassemble
  dsimp only
  split
  · show Except.map _ (t.videoReassembly.feed h payload) = _
    cases t.videoReassembly.feed h payload with
    | error e => rfl
    | ok fed =>
        exact congrArg (fun u => Except.ok (fed.1, u)) (noteVideoGap_withStats
          { t with
            videoSeq := (t.videoSeq.track h.sequence).2
            videoReassembly := fed.2.gc } secure stats (t.videoSeq.track h.sequence).1 now)
  split
  · show Except.map _ (t.audioReassembly.feed h payload) = _
    cases t.audioReassembly.feed h payload with
    | error e => rfl
    | ok fed => rfl
  split
  · show Except.map _ (t.inputReassembly.feed h payload) = _
    cases t.inputReassembly.feed h payload with
    | error e => rfl
    | ok fed => rfl
  · rfl

theorem dispatch_withStats (h : UdpHeader) (payload : Bytes) (clk : Nat → UInt64) :
    (t.withStats secure stats).dispatch h payload clk
      = (t.dispatch h payload clk).map (fun p => (p.1.withStats secure stats, p.2)) := by
  simp only [UdpTransport.dispatch, noteArrival_withStats]
  split
  · simp only [sendSmall_withStats, Except.map]
  split
  · simp only [handlePong_withStats, Except.map]
  split
  · rfl
  · rw [reassemble_withStats]
    cases (t.noteArrival (clk 1)).reassemble h (payload.take h.payloadSize.toNat) (clk 2) with
    | error e => rfl
    | ok p =>
        obtain ⟨frame, t1⟩ := p
        cases frame with
        | none => rfl
        | some frame => simp only [Except.map, handleMediaComplete_withStats]

theorem dispatch_secure {t : UdpTransport σ} {h : UdpHeader} {payload : Bytes} {clk : Nat → UInt64}
    {p : UdpTransport σ × List UdpEffect} (hd : t.dispatch h payload clk = .ok p) :
    p.1.secure = t.secure := by
  have hself := dispatch_withStats t t.secure t.stats h payload clk
  rw [t.withStats_self, hd] at hself
  exact congrArg (fun p : UdpTransport σ × List UdpEffect => p.1.secure) (Except.ok.inj hself)

theorem fallsBack_withStats (now : UInt64) :
    (t.withStats secure stats).fallsBack now = t.fallsBack now := rfl

theorem returnToRelay_withStats (now : UInt64) :
    (t.withStats secure stats).returnToRelay now
      = (t.returnToRelay now).withStats secure stats := by
  unfold UdpTransport.returnToRelay
  rw [fallsBack_withStats]
  cases t.fallsBack now with
  | none => rfl
  | some relay => rfl

theorem sendPingOnce_withStats (clk : Nat → UInt64) :
    (t.withStats secure stats).sendPingOnce clk
      = (t.sendPingOnce clk).withStats secure stats := by
  unfold UdpTransport.sendPingOnce
  by_cases h : t.running = true
  · rw [if_neg (by simpa [UdpTransport.withStats] using h), if_neg (by simpa using h)]
    dsimp only
    rw [returnToRelay_withStats]
    exact congrArg UdpTransport.armPingTimer
      (sendSmall_withStats (t.returnToRelay (clk 0)).countPing secure stats .Ping _ (clk 2))
  · rw [if_pos (by simpa [UdpTransport.withStats] using h), if_pos (by simpa using h)]

end Frame

/-! ## Every event keeps transports alike -/

/-- A handler that neither reads nor writes statistics leaves the sink alone. -/
theorem secure_of_frame (f : UdpTransport σ → UdpTransport σ)
    (hf : ∀ t secure stats, f (t.withStats secure stats) = (f t).withStats secure stats)
    (t : UdpTransport σ) : (f t).secure = t.secure := by
  have hself := hf t t.secure t.stats
  rw [t.withStats_self] at hself
  rw [hself]
  rfl

/-- A handler that neither reads nor writes statistics keeps transports alike. -/
theorem UdpTransport.Alike.frame {t t' : UdpTransport σ} (h : t.Alike q t')
    (f : UdpTransport σ → UdpTransport σ)
    (hf : ∀ t secure stats, f (t.withStats secure stats) = (f t).withStats secure stats) :
    (f t).Alike q (f t') := by
  obtain ⟨secure, stats, rfl, hsec⟩ := h
  exact ⟨secure, stats, hf t secure stats, by rw [secure_of_frame f hf t, hsec]⟩

theorem sendFrame_alike {t t' : UdpTransport σ} (h : t.Alike q t') (type : UdpType)
    (keyframe : Bool) (data : Bytes) (ts : UInt64) :
    (t.sendFrame type keyframe data ts).Alike q (t'.sendFrame type keyframe data ts) := by
  obtain ⟨secure, stats, rfl, hsec⟩ := h
  unfold UdpTransport.sendFrame
  by_cases hready : (!t.running) = true ∨ (!t.socket) = true ∨ (!t.havePeer) = true
  · rw [if_pos hready]
    exact (if_pos (c := (!t.running) = true ∨ (!t.socket) = true ∨ (!t.havePeer) = true) hready)
      ▸ ⟨secure, stats, rfl, hsec⟩
  · rw [if_neg hready]
    dsimp only
    rw [UdpTransport.foldl_post]
    exact (if_neg (c := (!t.running) = true ∨ (!t.socket) = true ∨ (!t.havePeer) = true) hready)
      ▸ ⟨secure, { stats with sentFrames := stats.sentFrames + 1 },
        UdpTransport.foldl_post _ _, hsec⟩

/-- The sinks of alike transports answer alike. -/
theorem UdpTransport.Alike.secure_cases {t t' : UdpTransport σ} (h : t.Alike q t') :
    (t.secure = none ∧ t'.secure = none) ∨
      ∃ s s', t.secure = some s ∧ t'.secure = some s' ∧ q s = q s' := by
  obtain ⟨secure, stats, rfl, hsec⟩ := h
  cases hs : t.secure with
  | none =>
      rw [hs] at hsec
      exact Or.inl ⟨rfl, Option.map_eq_none_iff.1 hsec⟩
  | some s =>
      rw [hs] at hsec
      obtain ⟨s', rfl, hss⟩ := Option.map_eq_some_iff.1 hsec
      exact Or.inr ⟨s, s', rfl, rfl, hss.symm⟩

/-- Alike transports stay alike when each stores the new state of its sink. -/
theorem UdpTransport.Alike.setSecure {t t' : UdpTransport σ} (h : t.Alike q t') {s s' : σ}
    (hs : q s = q s') :
    (t.setSecure s).Alike q (t'.setSecure s') := by
  obtain ⟨secure, stats, rfl, -⟩ := h
  exact ⟨some s', stats, rfl, congrArg some hs.symm⟩

theorem wireBytes_alike (hq : sink.StatsOnly q) {t t' : UdpTransport σ} (h : t.Alike q t')
    (dg : Bytes) :
    (t.wireBytes sink dg).1 = (t'.wireBytes sink dg).1 ∧
      (t.wireBytes sink dg).2.Alike q (t'.wireBytes sink dg).2 := by
  have hfields : t'.socket = t.socket ∧ t'.havePeer = t.havePeer := by
    obtain ⟨secure, stats, rfl, -⟩ := h
    exact ⟨rfl, rfl⟩
  unfold UdpTransport.wireBytes
  rw [hfields.1, hfields.2]
  split
  · exact ⟨rfl, h⟩
  rcases h.secure_cases with ⟨hs, hs'⟩ | ⟨s, s', hs, hs', hss⟩
  · rw [hs, hs']
    exact ⟨rfl, h⟩
  · rw [hs, hs']
    obtain ⟨hout, hstate⟩ := hq.seal_eq s s' (dg.take kUdpHeaderSize) (dg.drop kUdpHeaderSize) hss
    dsimp only
    rw [hout]
    exact ⟨rfl, h.setSecure hstate⟩

theorem UdpTransport.Alike.noteRx {t t' : UdpTransport σ} (h : t.Alike q t') (now : UInt64) :
    (t.noteRx now).Alike q (t'.noteRx now) := by
  obtain ⟨secure, stats, rfl, hsec⟩ := h
  exact ⟨secure, stats, rfl, hsec⟩

theorem authenticate_alike (hq : sink.StatsOnly q) {t t' : UdpTransport σ} (h : t.Alike q t')
    (buf : Bytes) (now : UInt64) :
    (t.authenticate sink buf now).1 = (t'.authenticate sink buf now).1 ∧
      (t.authenticate sink buf now).2.Alike q (t'.authenticate sink buf now).2 := by
  have hrecv := h.countReceived buf.length
  have hrx := hrecv.noteRx now
  have hid : (t'.countReceived buf.length).sessionId = (t.countReceived buf.length).sessionId := by
    obtain ⟨secure, stats, rfl, -⟩ := h
    rfl
  unfold UdpTransport.authenticate
  rcases decodeUdpHeader buf {} with ⟨ok, hd⟩
  cases ok with
  | false => exact ⟨rfl, hrecv.countMalformed⟩
  | true =>
      dsimp only
      rw [hid]
      split
      · exact ⟨rfl, hrecv.countWrongSession⟩
      split
      · rcases hrx.secure_cases with ⟨hs, hs'⟩ | ⟨s, s', hs, hs', hss⟩
        · rw [hs, hs']
          exact ⟨rfl, hrx.countAuthDrop⟩
        · rw [hs, hs']
          obtain ⟨hout, hstate⟩ := hq.open_eq s s' (buf.take kUdpHeaderSize)
            ((buf.drop kUdpHeaderSize).take hd.payloadSize.toNat) hss
          dsimp only
          rw [hout]
          split
          · exact ⟨rfl, (hrx.setSecure hstate).countAuthDrop⟩
          · exact ⟨rfl, hrx.setSecure hstate⟩
      · rw [hrx.isSecure_eq hq]
        split
        · exact ⟨rfl, hrx.countAuthDrop⟩
        · exact ⟨rfl, hrx⟩

theorem learnPeer_secure (t : UdpTransport σ) (h : UdpHeader) (source : Endpoint) :
    (t.learnPeer sink h source).secure = t.secure := by
  unfold UdpTransport.learnPeer
  split
  · rfl
  split
  · split
    · rfl
    · rfl
  · rfl

theorem learnPeer_alike (hq : sink.StatsOnly q) {t t' : UdpTransport σ} (h : t.Alike q t')
    (hd : UdpHeader) (source : Endpoint) :
    (t.learnPeer sink hd source).Alike q (t'.learnPeer sink hd source) := by
  have hsecure := h.isSecure_eq hq
  obtain ⟨secure, stats, rfl, hsec⟩ := h
  have hlearn : (t.withStats secure stats).learnPeer sink hd source
      = (t.learnPeer sink hd source).withStats secure stats := by
    unfold UdpTransport.learnPeer
    rw [hsecure]
    exact ite_withStats rfl (ite_withStats (ite_withStats rfl rfl) rfl)
  refine ⟨secure, stats, hlearn, ?_⟩
  rw [hsec, learnPeer_secure]

/-- Two outcomes of one event: the same fault, or alike transports and the same effects. -/
def SameOutcome (q : σ → σ) :
    Except FeedFault (UdpTransport σ × List UdpEffect) →
    Except FeedFault (UdpTransport σ × List UdpEffect) → Prop
  | .ok p, .ok p' => p.1.Alike q p'.1 ∧ p.2 = p'.2
  | .error e, .error e' => e = e'
  | _, _ => False

theorem handleDatagram_alike (hq : sink.StatsOnly q) {t t' : UdpTransport σ} (h : t.Alike q t')
    (buf : Bytes) (source : Endpoint) (clk : Nat → UInt64) :
    SameOutcome q (t.handleDatagram sink buf source clk)
      (t'.handleDatagram sink buf source clk) := by
  obtain ⟨hout, hauth⟩ := authenticate_alike hq h buf (clk 0)
  unfold UdpTransport.handleDatagram
  rcases hr : t.authenticate sink buf (clk 0) with ⟨o, t1⟩
  rcases hr' : t'.authenticate sink buf (clk 0) with ⟨o', t1'⟩
  rw [hr, hr'] at hout hauth
  obtain rfl : o = o' := hout
  cases o with
  | none => exact ⟨hauth, rfl⟩
  | some p =>
      obtain ⟨hd, payload⟩ := p
      -- past authentication nothing looks at statistics or at the sink
      have hlearn := learnPeer_alike hq hauth hd source
      dsimp only at hlearn ⊢
      obtain ⟨secure, stats, heq, hsec⟩ := hlearn
      have hdrops : (t1'.learnPeer sink hd source).dropsSource source
          = (t1.learnPeer sink hd source).dropsSource source := by
        rw [heq]
        rfl
      rw [hdrops]
      split
      · exact ⟨⟨secure, stats, heq, hsec⟩, rfl⟩
      · rw [heq, dispatch_withStats]
        cases hdisp : (t1.learnPeer sink hd source).dispatch hd payload clk with
        | error e => rfl
        | ok p =>
            refine ⟨⟨secure, stats, rfl, ?_⟩, rfl⟩
            rw [hsec, dispatch_secure hdisp]

theorem sendTo_alike {t t' : UdpTransport σ} (h : t.Alike q t') (target : Endpoint) (bytes : Bytes)
    (fails : Bool) :
    (t.sendTo target bytes fails).1.Alike q (t'.sendTo target bytes fails).1 ∧
      (t.sendTo target bytes fails).2 = (t'.sendTo target bytes fails).2 := by
  unfold UdpTransport.sendTo
  split
  · exact ⟨h.countSendError, rfl⟩
  · exact ⟨h.countSent _, rfl⟩

theorem runTask_alike (hq : sink.StatsOnly q) {t t' : UdpTransport σ} (h : t.Alike q t')
    (task : UdpTask) (fails : Bool) (now : UInt64) :
    (t.runTask sink task fails now).1.Alike q (t'.runTask sink task fails now).1 ∧
      (t.runTask sink task fails now).2 = (t'.runTask sink task fails now).2 := by
  cases task with
  | datagram dg =>
      obtain ⟨hout, hwire⟩ := wireBytes_alike hq h dg
      simp only [UdpTransport.runTask]
      rcases hr : t.wireBytes sink dg with ⟨o, t1⟩
      rcases hr' : t'.wireBytes sink dg with ⟨o', t1'⟩
      rw [hr, hr'] at hout hwire
      obtain rfl : o = o' := hout
      cases o with
      | none => exact ⟨hwire, rfl⟩
      | some bytes =>
          dsimp only at hwire ⊢
          have hpeer : t1'.peer = t1.peer := by
            obtain ⟨secure, stats, rfl, -⟩ := hwire
            rfl
          rw [hpeer]
          exact sendTo_alike hwire _ _ _
  | relayBind target pkt =>
      have hsocket : t'.socket = t.socket := by
        obtain ⟨secure, stats, rfl, -⟩ := h
        rfl
      simp only [UdpTransport.runTask, hsocket]
      split
      · exact ⟨h, rfl⟩
      split
      · exact ⟨h.countSendError, rfl⟩
      · exact ⟨h, rfl⟩
  | punch target dg => exact sendTo_alike h target dg fails
  | requestKeyframe =>
      exact ⟨h.frame (fun t => t.requestKeyframe now)
        (fun t secure stats => sendSmall_withStats t secure stats _ _ now), rfl⟩
  | close =>
      exact ⟨h.frame (fun t => { t with pingTimer := false }) (fun t secure stats => rfl), rfl⟩

theorem pingTimerFires_withStats (t : UdpTransport σ) (secure : Option σ) (stats : UdpStats)
    (clk : Nat → UInt64) :
    (t.withStats secure stats).pingTimerFires clk
      = (t.pingTimerFires clk).withStats secure stats :=
  ite_withStats rfl (ite_withStats rfl
    (sendPingOnce_withStats { t with pingTimer := false } secure stats clk))

theorem startPings_withStats (t : UdpTransport σ) (secure : Option σ) (stats : UdpStats)
    (ms : UInt32) (clk : Nat → UInt64) :
    (t.withStats secure stats).startPings ms clk
      = (t.startPings ms clk).withStats secure stats :=
  ite_withStats rfl (sendPingOnce_withStats { t with pingIntervalMs := ms } secure stats clk)

/-- **No event reads a statistics counter**: alike transports do the same and stay alike. -/
theorem handle_alike (hq : sink.StatsOnly q) {t t' : UdpTransport σ} (h : t.Alike q t')
    (e : UdpEvent) : SameOutcome q (t.handle sink e) (t'.handle sink e) := by
  cases e with
  | datagram buf source clk => exact handleDatagram_alike hq h buf source clk
  | runPosted fails now =>
      have hposted : t'.posted = t.posted := by
        obtain ⟨secure, stats, rfl, -⟩ := h
        rfl
      simp only [UdpTransport.handle, hposted]
      cases t.posted with
      | nil => exact ⟨h, rfl⟩
      | cons task rest =>
          exact runTask_alike hq (h.frame (fun t => { t with posted := rest })
            (fun t secure stats => rfl)) task fails now
  | pingTimer clk =>
      exact ⟨h.frame (fun t => t.pingTimerFires clk)
        (fun t secure stats => pingTimerFires_withStats t secure stats clk), rfl⟩
  | setSessionId id =>
      exact ⟨h.frame (fun t => { t with sessionId := id }) (fun t secure stats => rfl), rfl⟩
  | setPeer ep => exact ⟨h.frame (fun t => t.setPeer ep) (fun t secure stats => rfl), rfl⟩
  | lockToRemote ep =>
      exact ⟨h.frame (fun t => { t with lockedRemote := some ep })
        (fun t secure stats => rfl), rfl⟩
  | setRelayFallback ep =>
      exact ⟨h.frame (fun t => { t with relayFallback := some ep })
        (fun t secure stats => rfl), rfl⟩
  | sendFrame type keyframe data ts => exact ⟨sendFrame_alike h type keyframe data ts, rfl⟩
  | sendSmall type data now =>
      exact ⟨h.frame (fun t => t.sendSmall type data now)
        (fun t secure stats => sendSmall_withStats t secure stats type data now), rfl⟩
  | sendRelayBind token =>
      exact ⟨h.frame (fun t => t.sendRelayBind token)
        (fun t secure stats => sendRelayBind_withStats t secure stats token), rfl⟩
  | sendPunch target =>
      exact ⟨h.frame (fun t => t.sendPunch target)
        (fun t secure stats => sendPunch_withStats t secure stats target), rfl⟩
  | pollVideo now =>
      exact ⟨h.frame (fun t => { t with videoJitter := (t.videoJitter.pop now).2 })
        (fun t secure stats => rfl), rfl⟩
  | pollAudio now =>
      exact ⟨h.frame (fun t => { t with audioJitter := (t.audioJitter.pop now).2 })
        (fun t secure stats => rfl), rfl⟩
  | startPings ms clk =>
      exact ⟨h.frame (fun t => t.startPings ms clk)
        (fun t secure stats => startPings_withStats t secure stats ms clk), rfl⟩
  | stopPings =>
      exact ⟨h.frame (fun t => { t with pingIntervalMs := 0 }) (fun t secure stats => rfl), rfl⟩
  | setVideoJitterTargetMs ms =>
      exact ⟨h.frame (fun t => { t with videoJitterTargetMs := ms })
        (fun t secure stats => rfl), rfl⟩
  | setAudioJitterTargetMs ms =>
      exact ⟨h.frame (fun t => { t with audioJitterTargetMs := ms })
        (fun t secure stats => rfl), rfl⟩
  | setAutoKeyframeRequest enabled =>
      exact ⟨h.frame (fun t => { t with autoKeyframeRequest := enabled })
        (fun t secure stats => rfl), rfl⟩
  | setDropUnknownRemote drop =>
      exact ⟨h.frame (fun t => { t with dropUnknownRemote := drop })
        (fun t secure stats => rfl), rfl⟩
  | resetStats =>
      obtain ⟨secure, stats, rfl, hsec⟩ := h
      exact ⟨⟨secure, { authDrops := stats.authDrops }, rfl, hsec⟩, rfl⟩
  | stop =>
      exact ⟨h.frame (fun t => t.stop) (fun t secure stats => ite_withStats rfl rfl), rfl⟩

/-! ## Later decisions -/

/-- Two states of a run: the same fault, or alike transports. -/
def SameState (q : σ → σ) :
    Except FeedFault (UdpTransport σ) → Except FeedFault (UdpTransport σ) → Prop
  | .ok t, .ok t' => t.Alike q t'
  | .error e, .error e' => e = e'
  | _, _ => False

/-- What `sendPingOnce` decides about the relay at an event, if the event runs it. -/
def UdpTransport.pingDecision (t : UdpTransport σ) : UdpEvent → Option (Option Endpoint)
  | .pingTimer clk =>
      if t.pingTimer ∧ t.running ∧ t.pingIntervalMs ≠ 0 then some (t.fallsBack (clk 0)) else none
  | .startPings _ clk => if t.running then some (t.fallsBack (clk 0)) else none
  | _ => none

/-- The relay decisions along a run, in order. -/
def fallbackDecisions (sink : UdpCryptoSink σ) (s : Except FeedFault (UdpTransport σ))
    (es : List UdpEvent) : List (Option Endpoint) :=
  (history (UdpTransport.step sink) s es).filterMap (fun p => match p.1 with
    | .ok t => t.pingDecision p.2
    | .error _ => none)

theorem step_sameState (hq : sink.StatsOnly q) {s s' : Except FeedFault (UdpTransport σ)}
    (h : SameState q s s') (e : UdpEvent) :
    SameState q (UdpTransport.step sink s e) (UdpTransport.step sink s' e) := by
  cases s with
  | error err =>
      cases s' with
      | error err' => exact h
      | ok t' => exact h.elim
  | ok t =>
      cases s' with
      | error err' => exact h.elim
      | ok t' =>
          have hsame := handle_alike hq (show t.Alike q t' from h) e
          simp only [UdpTransport.step, Except.bind]
          cases hr : t.handle sink e with
          | error err =>
              rw [hr] at hsame
              cases hr' : t'.handle sink e with
              | error err' =>
                  rw [hr'] at hsame
                  exact hsame
              | ok p' =>
                  rw [hr'] at hsame
                  exact hsame.elim
          | ok p =>
              rw [hr] at hsame
              cases hr' : t'.handle sink e with
              | error err' =>
                  rw [hr'] at hsame
                  exact hsame.elim
              | ok p' =>
                  rw [hr'] at hsame
                  exact hsame.1

theorem pingDecision_alike {t t' : UdpTransport σ} (h : t.Alike q t') (e : UdpEvent) :
    t'.pingDecision e = t.pingDecision e := by
  obtain ⟨secure, stats, rfl, -⟩ := h
  cases e <;> rfl

/-- Runs from alike transports decide alike. -/
theorem fallbackDecisions_eq (hq : sink.StatsOnly q) {s s' : Except FeedFault (UdpTransport σ)}
    (h : SameState q s s') (es : List UdpEvent) :
    fallbackDecisions sink s' es = fallbackDecisions sink s es := by
  induction es generalizing s s' with
  | nil => rfl
  | cons e es ih =>
      have hrest := ih (step_sameState hq h e)
      simp only [fallbackDecisions, history_cons, List.filterMap_cons] at hrest ⊢
      rw [hrest]
      cases s with
      | error err =>
          cases s' with
          | error err' => rfl
          | ok t' => exact h.elim
      | ok t =>
          cases s' with
          | error err' => exact h.elim
          | ok t' =>
              dsimp only
              rw [pingDecision_alike (show t.Alike q t' from h) e]

/-! ## What a rejected datagram does -/

/-- The datagram is dropped before its arrival time is stored: it is malformed or of another
    session. -/
def UdpTransport.DropsEarly (t : UdpTransport σ) (buf : Bytes) : Prop :=
  (decodeUdpHeader buf {}).1 = false ∨
    (t.sessionId ≠ 0 ∧ (decodeUdpHeader buf {}).2.sessionId ≠ t.sessionId)

/-- A rejected datagram is counted; beyond that it stores its arrival time, unless it is dropped
    early, and lets the sink count. -/
theorem authenticate_none_cases (hq : sink.StatsOnly q) {t : UdpTransport σ} {buf : Bytes}
    {now : UInt64} (hrej : (t.authenticate sink buf now).1 = none) :
    (t.DropsEarly buf ∧ t.Alike q (t.authenticate sink buf now).2) ∨
      (¬ t.DropsEarly buf ∧ (t.noteRx now).Alike q (t.authenticate sink buf now).2) := by
  have hrecv : t.Alike q (t.countReceived buf.length) := ⟨t.secure, _, rfl, rfl⟩
  have hrx := hrecv.noteRx now
  have hcount : ∀ {u v : UdpTransport σ}, u.Alike q v → u.Alike q v.countAuthDrop := by
    rintro u v ⟨secure, stats, rfl, hsec⟩
    exact ⟨secure, _, rfl, hsec⟩
  revert hrej
  unfold UdpTransport.authenticate UdpTransport.DropsEarly
  rcases decodeUdpHeader buf {} with ⟨ok, hd⟩
  cases ok with
  | false => exact fun _ => Or.inl ⟨Or.inl rfl, t.secure, _, rfl, rfl⟩
  | true =>
      dsimp only
      intro hrej
      split
      · next hsess => exact Or.inl ⟨Or.inr hsess, t.secure, _, rfl, rfl⟩
      next hsess =>
      rw [if_neg hsess] at hrej
      -- from here on the arrival time is stored, whatever the sink says
      refine Or.inr ⟨fun hearly => hearly.elim (by simp) hsess, ?_⟩
      split
      · next henc =>
          rw [if_pos henc] at hrej
          cases hs : ((t.countReceived buf.length).noteRx now).secure with
          | none => exact hcount hrx
          | some s =>
              rw [hs] at hrej
              dsimp only at hrej ⊢
              cases ho : (sink.openDatagram s (buf.take kUdpHeaderSize)
                  ((buf.drop kUdpHeaderSize).take hd.payloadSize.toNat)).1 with
              | some clear =>
                  rw [ho] at hrej
                  exact absurd hrej (by simp)
              | none =>
                  -- a failed `open` moves the sink's counters only
                  refine hcount ⟨some _, _, rfl, ?_⟩
                  rw [Option.map_some, hq.open_none _ _ _ ho]
                  exact (congrArg (Option.map q) hs).symm
      · next henc =>
          rw [if_neg henc] at hrej
          split
          · exact hcount hrx
          · next hsec =>
              rw [if_neg hsec] at hrej
              exact absurd hrej (by simp)

end Alike

/-! ## The secure channel as a sink -/

open RemotePlay.Crypto in
/-- `SecureChannel` behind the `UdpCryptoSink` interface. -/
def secureChannelSink (c : Cng) : UdpCryptoSink SecureChannel where
  sealDatagram := fun ch header payload => ch.seal c header payload
  openDatagram := fun ch header sealed => ch.open c header sealed
  active := fun ch => ch.active

open RemotePlay.Crypto in
/-- A channel without its statistics. -/
def forgetCounts (ch : SecureChannel) : SecureChannel :=
  { ch with sealed := 0, opened := 0, authFailures := 0, replaysRejected := 0 }

open RemotePlay.Crypto in
theorem eq_of_forgetCounts_eq {ch ch' : SecureChannel} (h : forgetCounts ch = forgetCounts ch') :
    ∃ sealed opened authFailures replaysRejected, ch' = { ch with
      sealed := sealed
      opened := opened
      authFailures := authFailures
      replaysRejected := replaysRejected } := by
  obtain ⟨⟩ := ch
  obtain ⟨⟩ := ch'
  simp only [forgetCounts, SecureChannel.mk.injEq] at h
  obtain ⟨rfl, rfl, rfl, rfl, rfl, rfl, rfl, rfl, -⟩ := h
  exact ⟨_, _, _, _, rfl⟩

open RemotePlay.Crypto in
theorem forgetCounts_open_none {c : Cng} {ch : SecureChannel} {header sealed : Bytes}
    (h : (ch.open c header sealed).1 = none) :
    forgetCounts (ch.open c header sealed).2 = forgetCounts ch := by
  rcases ch.open_state_of_none c header sealed h with hs | hs
  · rw [hs]
    rfl
  · rw [hs]
    rfl

open RemotePlay.Crypto in
theorem secureChannelSink_statsOnly (c : Cng) :
    (secureChannelSink c).StatsOnly forgetCounts where
  active_eq := fun s s' h => by
    obtain ⟨_, _, _, _, rfl⟩ := eq_of_forgetCounts_eq h
    rfl
  seal_eq := fun s s' header payload h => by
    obtain ⟨_, _, _, _, rfl⟩ := eq_of_forgetCounts_eq h
    simp only [secureChannelSink, SecureChannel.seal, SecureChannel.nonceFor]
    split
    · exact ⟨rfl, rfl⟩
    split
    · exact ⟨rfl, rfl⟩
    split
    · exact ⟨rfl, rfl⟩
    · exact ⟨rfl, rfl⟩
  open_eq := fun s s' header sealed h => by
    have hout : (s.open c header sealed).1 = (s'.open c header sealed).1 := by
      obtain ⟨_, _, _, _, rfl⟩ := eq_of_forgetCounts_eq h
      ext out
      rw [s.open_eq_some_iff, SecureChannel.open_eq_some_iff]
      rfl
    refine ⟨hout, ?_⟩
    show forgetCounts (s.open c header sealed).2 = forgetCounts (s'.open c header sealed).2
    cases hopen : (s.open c header sealed).1 with
    | some out =>
        rw [s.open_state_of_some c header sealed (by simp [hopen]),
          s'.open_state_of_some c header sealed (by simp [← hout, hopen])]
        obtain ⟨_, _, _, _, rfl⟩ := eq_of_forgetCounts_eq h
        rfl
    | none =>
        rw [forgetCounts_open_none hopen, forgetCounts_open_none (hout.symm.trans hopen), h]
  open_none := fun s header sealed h => forgetCounts_open_none h

open RemotePlay.Crypto in
/-- **When a datagram that fails authentication has no effect.** On a transport with an active
    channel, a rejected datagram leaves everything but statistics as it was, in this and in every
    later state and relay decision, exactly when its header is malformed or of another session, or
    when its arrival time is the one already stored. -/
theorem rejected_datagram_inert_iff (c : Cng) (t : UdpTransport SecureChannel)
    (_hactive : t.isSecure (secureChannelSink c) = true) (buf : Bytes) (source : Endpoint)
    (clk : Nat → UInt64)
    (hrej : (t.authenticate (secureChannelSink c) buf (clk 0)).1 = none) :
    (∃ t', t.handleDatagram (secureChannelSink c) buf source clk = .ok (t', []) ∧
        t.Alike forgetCounts t' ∧
        ∀ es, SameState forgetCounts
            (runFrom (UdpTransport.step (secureChannelSink c)) (.ok t) es)
            (runFrom (UdpTransport.step (secureChannelSink c)) (.ok t') es) ∧
          fallbackDecisions (secureChannelSink c) (.ok t') es
            = fallbackDecisions (secureChannelSink c) (.ok t) es) ↔
      t.DropsEarly buf ∨ t.lastRxAbsNs = clk 0 := by
  have hq := secureChannelSink_statsOnly c
  set t' := (t.authenticate (secureChannelSink c) buf (clk 0)).2 with ht'
  have hhandle : t.handleDatagram (secureChannelSink c) buf source clk = .ok (t', []) := by
    unfold UdpTransport.handleDatagram
    rw [show t.authenticate (secureChannelSink c) buf (clk 0) = (none, t') from
      Prod.ext hrej rfl]
  have hlater : t.Alike forgetCounts t' → ∀ es, SameState forgetCounts
        (runFrom (UdpTransport.step (secureChannelSink c)) (.ok t) es)
        (runFrom (UdpTransport.step (secureChannelSink c)) (.ok t') es) ∧
      fallbackDecisions (secureChannelSink c) (.ok t') es
        = fallbackDecisions (secureChannelSink c) (.ok t) es := fun halike es =>
    ⟨runFrom_related _ (SameState forgetCounts) (fun s s' e h => step_sameState hq h e) _ _ es
      halike, fallbackDecisions_eq hq (show SameState forgetCounts (.ok t) (.ok t') from halike) es⟩
  have hcases := authenticate_none_cases hq hrej
  rw [← ht'] at hcases
  constructor
  · rintro ⟨t'', ht'', halike, -⟩
    obtain rfl : t'' = t' := (Prod.mk.inj (Except.ok.inj (ht''.symm.trans hhandle))).1
    rcases hcases with ⟨hearly, -⟩ | ⟨-, hrx⟩
    · exact Or.inl hearly
    · -- the arrival time is no statistic, so it must have been there already
      refine Or.inr ?_
      obtain ⟨_, _, heq, -⟩ := halike
      obtain ⟨_, _, heq', -⟩ := hrx
      exact congrArg UdpTransport.lastRxAbsNs (heq.symm.trans heq')
  · intro hcond
    have halike : t.Alike forgetCounts t' := by
      rcases hcases with ⟨-, halike⟩ | ⟨hlate, hrx⟩
      · exact halike
      rcases hcond with hearly | hsame
      · exact absurd hearly hlate
      · have hnote : t.noteRx (clk 0) = t := by
          rw [← hsame]
          rfl
        rwa [hnote] at hrx
    exact ⟨t', hhandle, halike, hlater halike⟩

/-! ## A forged datagram keeps a dead path alive -/

/-- A client on a direct path that was last heard at time 1, with a relay to fall back to. -/
def directTransport : UdpTransport Crypto.SecureChannel :=
  { running := true, socket := true, havePeer := true, sessionId := 7
    peer := ⟨[203, 0, 113, 9], 47000⟩
    relayFallback := some ⟨[198, 51, 100, 1], 3478⟩
    lastRxAbsNs := 1
    secure := some (Crypto.Session.client Crypto.Session.code) }

/-- 24 bytes that no one sealed, with the `Encrypted` flag and the right session id. -/
def forgedDatagram : Bytes :=
  encodeUdpHeader { flags := UdpFlag.Encrypted, sessionId := 7, payloadSize := 24 } ++
    List.replicate 24 0xAB

/-- The same bytes under another session id have no effect. -/
theorem rejected_datagram_inert_iff_wrong_session :
    ∃ t', { directTransport with sessionId := 8 }.handleDatagram
        (secureChannelSink Crypto.Session.record.replay) forgedDatagram ⟨[192, 0, 2, 66], 9⟩
        (fun _ => 6000000000) = .ok (t', []) ∧
      UdpTransport.Alike forgetCounts { directTransport with sessionId := 8 } t' := by
  obtain ⟨t', hhandle, halike, -⟩ := (rejected_datagram_inert_iff Crypto.Session.record.replay
    { directTransport with sessionId := 8 } (by decide +kernel) forgedDatagram ⟨[192, 0, 2, 66], 9⟩
    (fun _ => 6000000000) (by decide +kernel)).2 (Or.inl (Or.inr (by decide +kernel)))
  exact ⟨t', hhandle, halike⟩

/-- A forged datagram at 6 s is rejected, and yet the ping at 7 s stays on the silent direct path,
    where without it the transport returns to the relay. -/
theorem forged_datagram_prevents_fallback :
    let sink := secureChannelSink Crypto.Session.record.replay
    let later : List UdpEvent := [.startPings 1000 (fun _ => 7000000000)]
    directTransport.isSecure sink = true ∧
      (directTransport.authenticate sink forgedDatagram 6000000000).1 = none ∧
      fallbackDecisions sink (.ok directTransport) later = [some ⟨[198, 51, 100, 1], 3478⟩] ∧
      (directTransport.handleDatagram sink forgedDatagram ⟨[192, 0, 2, 66], 9⟩
        (fun _ => 6000000000)).map (fun p => fallbackDecisions sink (.ok p.1) later)
          = .ok [none] := by
  refine ⟨?_, ?_, ?_, ?_⟩
  · decide +kernel
  · decide +kernel
  · decide +kernel
  · decide +kernel

end RemotePlay.Net
