import RemotePlay.Lib.Faults
import RemotePlay.Networking.DeliveryOrder

set_option autoImplicit false

/-! # Where a transport sends to (`networking/UdpTransport.cpp`)

A transport moves its peer by itself: to the source of the first datagram that it accepts, to the source
of an authenticated one, and back to the relay. `vouches` says what makes an address one that it may
send to, and what is sent over a whole run goes to such addresses. -/

namespace RemotePlay.Net

/-- The address that a task has been posted for. -/
def UdpTask.target : UdpTask → Option Endpoint
  | .relayBind target _ | .punch target _ => some target
  | .datagram _ | .requestKeyframe | .close => none

/-- All addresses that a transport holds. -/
structure Addresses where
  havePeer : Bool
  peer : Endpoint
  relayFallback : Option Endpoint
  posted : List Endpoint

namespace UdpTransport

variable {σ : Type} (sink : UdpCryptoSink σ)

def addresses (t : UdpTransport σ) : Addresses where
  havePeer := t.havePeer
  peer := t.peer
  relayFallback := t.relayFallback
  posted := t.posted.filterMap UdpTask.target

/-- The state after an event. -/
def next (t : UdpTransport σ) (e : UdpEvent) : Except FeedFault (UdpTransport σ) :=
  (t.handle sink e).map Prod.fst

/-- What an event sends and hands out; nothing if it faults. -/
def outputs (t : UdpTransport σ) (e : UdpEvent) : List UdpEffect :=
  match t.handle sink e with
  | .ok (_, out) => out
  | .error _ => []

/-- A datagram that is let in moves the peer to its source, if there is no peer yet or the datagram is
    authenticated. -/
def learnsFrom (t : UdpTransport σ) (h : UdpHeader) : Bool :=
  !t.havePeer || (t.isSecure sink && h.hasFlag UdpFlag.Encrypted)

/-- The address that an event stands for: one that the owner names, or the source of a datagram that the
    peer is learned from. -/
def vouches (t : UdpTransport σ) (e : UdpEvent) : Option Endpoint :=
  match e with
  | .setPeer ep | .setRelayFallback ep | .sendPunch ep => some ep
  | .datagram buf source clk =>
      match t.authenticate sink buf (clk 0) with
      | (some (h, _), t) => if t.learnsFrom sink h then some source else none
      | (none, _) => none
  | _ => none

/-! ## What leaves the addresses alone -/

theorem addresses_post {t : UdpTransport σ} {task : UdpTask} (h : task.target = none) :
    (t.post task).addresses = t.addresses := by
  simp [addresses, post, h]

theorem addresses_sendSmall (t : UdpTransport σ) (type : UdpType) (data : Bytes) (now : UInt64) :
    (t.sendSmall type data now).addresses = t.addresses := by
  unfold sendSmall
  split
  · rfl
  · exact addresses_post rfl

theorem addresses_sendFrame (t : UdpTransport σ) (type : UdpType) (keyframe : Bool) (data : Bytes)
    (timestampNs : UInt64) : (t.sendFrame type keyframe data timestampNs).addresses = t.addresses := by
  unfold sendFrame
  split
  · rfl
  · dsimp only
    rw [foldl_post]
    simp [addresses, UdpTask.target, nextSeq, count, List.filterMap_append, List.filterMap_map,
      Function.comp_def]

theorem addresses_noteVideoGap (t : UdpTransport σ) (gap : Int64) (now : UInt64) :
    (t.noteVideoGap gap now).addresses = t.addresses := by
  unfold noteVideoGap
  split
  · split
    · exact addresses_post rfl
    · rfl
  · rfl

theorem addresses_handlePong (t : UdpTransport σ) (payload : Bytes) (now now' : UInt64) :
    (t.handlePong payload now now').addresses = t.addresses := by
  unfold handlePong
  split
  · dsimp only
    split <;> rfl
  · rfl

theorem addresses_handleMediaComplete (t : UdpTransport σ) (frame : AssembledFrame) (now : UInt64) :
    (t.handleMediaComplete frame now).1.addresses = t.addresses := by
  unfold handleMediaComplete
  split
  · rfl
  · split
    · rfl
    · split <;> rfl

/-- What the lanes leave alone, and asking for a keyframe, reassembly leaves alone. -/
theorem reassemble_keeps {t t' : UdpTransport σ} {h : UdpHeader} {payload : Bytes} {now : UInt64}
    {frame : Option AssembledFrame} (hok : t.reassemble h payload now = .ok (frame, t'))
    (P : UdpTransport σ → Prop)
    (hlanes : ∀ videoSeq videoReassembly audioSeq audioReassembly inputReassembly,
      P { t with
        videoSeq := videoSeq
        videoReassembly := videoReassembly
        audioSeq := audioSeq
        audioReassembly := audioReassembly
        inputReassembly := inputReassembly })
    (hgap : ∀ u gap, P u → P (u.noteVideoGap gap now)) : P t' := by
  unfold reassemble at hok
  dsimp only at hok
  split at hok
  · cases hfeed : t.videoReassembly.feed h payload with
    | error x => simp [hfeed, Except.map] at hok
    | ok fed =>
        simp only [hfeed, Except.map, Except.ok.injEq, Prod.mk.injEq] at hok
        obtain ⟨-, rfl⟩ := hok
        exact hgap _ _ (hlanes ..)
  · split at hok
    · cases hfeed : t.audioReassembly.feed h payload with
      | error x => simp [hfeed, Except.map] at hok
      | ok fed =>
          simp only [hfeed, Except.map, Except.ok.injEq, Prod.mk.injEq] at hok
          obtain ⟨-, rfl⟩ := hok
          exact hlanes ..
    · split at hok
      · cases hfeed : t.inputReassembly.feed h payload with
        | error x => simp [hfeed, Except.map] at hok
        | ok fed =>
            simp only [hfeed, Except.map, Except.ok.injEq, Prod.mk.injEq] at hok
            obtain ⟨-, rfl⟩ := hok
            exact hlanes ..
      · obtain ⟨-, rfl⟩ := Prod.mk.inj (Except.ok.inj hok)
        exact hlanes ..

theorem addresses_reassemble {t t' : UdpTransport σ} {h : UdpHeader} {payload : Bytes} {now : UInt64}
    {frame : Option AssembledFrame} (hok : t.reassemble h payload now = .ok (frame, t')) :
    t'.addresses = t.addresses :=
  reassemble_keeps hok (fun u => u.addresses = t.addresses) (fun _ _ _ _ _ => rfl)
    (fun u gap hu => (u.addresses_noteVideoGap gap now).trans hu)

/-- A datagram that was let in touches no address, and nothing is sent before the io thread gets to it. -/
theorem addresses_dispatch {t t' : UdpTransport σ} {h : UdpHeader} {payload : Bytes}
    {clk : Nat → UInt64} {out : List UdpEffect} (hok : t.dispatch h payload clk = .ok (t', out)) :
    t'.addresses = t.addresses ∧ ∀ target bytes, .sent target bytes ∉ out := by
  unfold dispatch at hok
  dsimp only at hok
  split at hok
  · obtain ⟨rfl, rfl⟩ := Prod.mk.inj (Except.ok.inj hok)
    exact ⟨addresses_sendSmall .., fun _ _ => List.not_mem_nil⟩
  · split at hok
    · obtain ⟨rfl, rfl⟩ := Prod.mk.inj (Except.ok.inj hok)
      exact ⟨addresses_handlePong .., fun _ _ => List.not_mem_nil⟩
    · split at hok
      · obtain ⟨rfl, rfl⟩ := Prod.mk.inj (Except.ok.inj hok)
        refine ⟨rfl, fun _ _ => ?_⟩
        split <;> simp
      · split at hok
        · cases hok
        · next hreassemble =>
            obtain ⟨rfl, rfl⟩ := Prod.mk.inj (Except.ok.inj hok)
            exact ⟨(addresses_reassemble hreassemble).trans rfl, fun _ _ => List.not_mem_nil⟩
        · next frame t₁ hreassemble =>
            have hframe := t₁.addresses_handleMediaComplete frame (clk 3)
            have hout : ∀ target bytes,
                .sent target bytes ∉ (t₁.handleMediaComplete frame (clk 3)).2 := by
              intro target bytes
              unfold handleMediaComplete
              split
              · split <;> simp
              · split
                · simp
                · split <;> simp
            obtain ⟨rfl, rfl⟩ := Prod.mk.inj (Except.ok.inj hok)
            exact ⟨hframe.trans ((addresses_reassemble hreassemble).trans rfl), hout⟩

end UdpTransport

/-! ## Addresses that are vouched for -/

/-- All addresses are in `V`, and there is a peer if there `had` been one. -/
structure Addresses.Within (V : Endpoint → Prop) (had : Bool) (a : Addresses) : Prop where
  still : had = true → a.havePeer = true
  peer : a.havePeer = true → V a.peer
  relay : ∀ ep, a.relayFallback = some ep → V ep
  posted : ∀ ep ∈ a.posted, V ep

theorem Addresses.Within.mono {V W : Endpoint → Prop} {had : Bool} {a : Addresses}
    (h : a.Within V had) (hVW : ∀ ep, V ep → W ep) : a.Within W had where
  still := h.still
  peer hpeer := hVW _ (h.peer hpeer)
  relay ep hep := hVW ep (h.relay ep hep)
  posted ep hep := hVW ep (h.posted ep hep)

namespace UdpTransport

variable {σ : Type} {sink : UdpCryptoSink σ} {V : Endpoint → Prop} {had : Bool}

theorem within_post {t : UdpTransport σ} {task : UdpTask} (h : t.addresses.Within V had)
    (htask : ∀ ep, task.target = some ep → V ep) : (t.post task).addresses.Within V had where
  still := h.still
  peer := h.peer
  relay := h.relay
  posted ep hep := by
    simp only [addresses, post, List.filterMap_append, List.mem_append, List.filterMap_cons,
      List.filterMap_nil] at hep
    rcases hep with hold | hnew
    · exact h.posted ep hold
    · cases htarget : task.target with
      | none => simp [htarget] at hnew
      | some ep' =>
          rw [htarget, List.mem_singleton] at hnew
          exact htask ep (htarget.trans (congrArg some hnew.symm))

theorem within_sendPingOnce {t : UdpTransport σ} (h : t.addresses.Within V had) (clk : Nat → UInt64) :
    (t.sendPingOnce clk).addresses.Within V had := by
  unfold sendPingOnce
  split
  · exact h
  · have hrelay : (t.returnToRelay (clk 0)).addresses.Within V had := by
      unfold returnToRelay fallsBack
      cases hfallback : t.relayFallback with
      | none => exact h
      | some relay =>
          dsimp only
          split
          · exact h
          · next hsome =>
              split at hsome
              · obtain rfl := Option.some.inj hsome
                exact ⟨h.still, fun _ => h.relay relay hfallback,
                  fun ep hep => h.relay ep (hfallback.trans hep), h.posted⟩
              · cases hsome
    have hping : ∀ u : UdpTransport σ, u.armPingTimer.addresses = u.addresses := fun _ => rfl
    dsimp only
    rw [hping, addresses_sendSmall]
    exact hrelay

theorem within_sendRelayBind {t : UdpTransport σ} (h : t.addresses.Within V had) (token : Bytes) :
    (t.sendRelayBind token).addresses.Within V had := by
  unfold sendRelayBind
  split
  · exact h
  · next hready =>
      rw [not_or, not_or, Bool.not_eq_true', Bool.not_eq_true', Bool.not_eq_true',
        Bool.not_eq_false, Bool.not_eq_false, Bool.not_eq_false] at hready
      refine within_post h fun ep hep => ?_
      obtain rfl := Option.some.inj hep
      exact h.peer hready.2.2

theorem within_sendPunch {t : UdpTransport σ} (h : t.addresses.Within V had) {target : Endpoint}
    (htarget : V target) : (t.sendPunch target).addresses.Within V had := by
  unfold sendPunch
  split
  · exact h
  · refine within_post h fun ep hep => ?_
    obtain rfl := Option.some.inj hep
    exact htarget

theorem wireBytes_spec (sink : UdpCryptoSink σ) (t : UdpTransport σ) (dg : Bytes) :
    (t.wireBytes sink dg).2.addresses = t.addresses ∧
      ((t.wireBytes sink dg).1.isSome = true → t.havePeer = true) := by
  unfold wireBytes
  split
  · exact ⟨rfl, nofun⟩
  · next hready =>
      rw [not_or, Bool.not_eq_true', Bool.not_eq_true', Bool.not_eq_false, Bool.not_eq_false] at hready
      split
      · exact ⟨rfl, fun _ => hready.2⟩
      · exact ⟨rfl, fun _ => hready.2⟩

theorem sendTo_spec (t : UdpTransport σ) (target : Endpoint) (bytes : Bytes) (fails : Bool) :
    (t.sendTo target bytes fails).1.addresses = t.addresses ∧
      ∀ target' bytes', .sent target' bytes' ∈ (t.sendTo target bytes fails).2 → target' = target := by
  unfold sendTo
  split
  · exact ⟨rfl, fun _ _ hmem => absurd hmem List.not_mem_nil⟩
  · refine ⟨rfl, fun target' bytes' hmem => ?_⟩
    exact (UdpEffect.sent.inj (List.mem_singleton.1 hmem)).1

/-- A posted task keeps the addresses, and what it sends goes to one of them. -/
theorem within_runTask (sink : UdpCryptoSink σ) {t : UdpTransport σ} (h : t.addresses.Within V had)
    (task : UdpTask) (htask : ∀ ep, task.target = some ep → V ep) (fails : Bool) (now : UInt64) :
    (t.runTask sink task fails now).1.addresses.Within V had ∧
      ∀ target bytes, .sent target bytes ∈ (t.runTask sink task fails now).2 → V target := by
  unfold runTask
  cases task with
  | datagram dg =>
      obtain ⟨haddresses, hpeer⟩ := t.wireBytes_spec sink dg
      dsimp only
      split
      · next hwire =>
          rw [hwire] at haddresses
          exact ⟨haddresses ▸ h, fun _ _ hmem => absurd hmem List.not_mem_nil⟩
      · next bytes t₁ hwire =>
          rw [hwire] at haddresses hpeer
          obtain ⟨hkept, hsent⟩ := t₁.sendTo_spec t₁.peer bytes fails
          have hpeer₁ : t₁.peer = t.peer := congrArg Addresses.peer haddresses
          refine ⟨hkept ▸ haddresses ▸ h, fun target bytes' hmem => ?_⟩
          rw [hsent target bytes' hmem, hpeer₁]
          exact h.peer (hpeer rfl)
  | relayBind target pkt =>
      dsimp only
      split
      · exact ⟨h, fun _ _ hmem => absurd hmem List.not_mem_nil⟩
      · split
        · exact ⟨h, fun _ _ hmem => absurd hmem List.not_mem_nil⟩
        · refine ⟨h, fun target' bytes hmem => ?_⟩
          rw [(UdpEffect.sent.inj (List.mem_singleton.1 hmem)).1]
          exact htask target rfl
  | punch target dg =>
      obtain ⟨hkept, hsent⟩ := t.sendTo_spec target dg fails
      refine ⟨hkept ▸ h, fun target' bytes hmem => ?_⟩
      rw [hsent target' bytes hmem]
      exact htask target rfl
  | requestKeyframe =>
      refine ⟨?_, fun _ _ hmem => absurd hmem List.not_mem_nil⟩
      dsimp only
      unfold requestKeyframe
      rw [addresses_sendSmall]
      exact h
  | close => exact ⟨h, fun _ _ hmem => absurd hmem List.not_mem_nil⟩

theorem addresses_authenticate (sink : UdpCryptoSink σ) (t : UdpTransport σ) (buf : Bytes)
    (now : UInt64) : (t.authenticate sink buf now).2.addresses = t.addresses :=
  authenticate_frame addresses sink t (fun _ _ => rfl) (fun _ _ => rfl) (fun _ _ => rfl) buf now

theorem within_learnPeer {t : UdpTransport σ} (h : t.addresses.Within V had) (hdr : UdpHeader)
    {source : Endpoint} (hsource : t.learnsFrom sink hdr = true → V source) :
    (t.learnPeer sink hdr source).addresses.Within V had := by
  unfold learnPeer
  split
  · next hnone =>
      exact ⟨fun _ => rfl, fun _ => hsource (by simp [learnsFrom, hnone]), h.relay, h.posted⟩
  · split
    · next hauth =>
        split
        · refine ⟨h.still, fun _ => hsource ?_, h.relay, h.posted⟩
          simp [learnsFrom, hauth.1, hauth.2]
        · exact h
    · exact h

theorem within_handleDatagram {t t' : UdpTransport σ} (h : t.addresses.Within V had) {buf : Bytes}
    {source : Endpoint} {clk : Nat → UInt64} {out : List UdpEffect}
    (hvouched : t.vouches sink (.datagram buf source clk) = some source → V source)
    (hok : t.handleDatagram sink buf source clk = .ok (t', out)) :
    t'.addresses.Within V had ∧ ∀ target bytes, .sent target bytes ∉ out := by
  have hkept := addresses_authenticate sink t buf (clk 0)
  unfold handleDatagram at hok
  unfold vouches at hvouched
  split at hok
  · next t₁ hauth =>
      obtain ⟨rfl, rfl⟩ := Prod.mk.inj (Except.ok.inj hok)
      rw [hauth] at hkept
      exact ⟨hkept ▸ h, fun _ _ => List.not_mem_nil⟩
  · next hdr payload t₁ hauth =>
      rw [hauth] at hkept
      simp only [hauth] at hvouched
      have hlearned : (t₁.learnPeer sink hdr source).addresses.Within V had :=
        within_learnPeer (hkept ▸ h) hdr (fun hlearns => hvouched (if_pos hlearns))
      dsimp only at hok
      split at hok
      · obtain ⟨rfl, rfl⟩ := Prod.mk.inj (Except.ok.inj hok)
        exact ⟨hlearned, fun _ _ => List.not_mem_nil⟩
      · obtain ⟨haddresses, hsent⟩ := addresses_dispatch hok
        exact ⟨haddresses ▸ hlearned, hsent⟩

theorem within_pingTimerFires {t : UdpTransport σ} (h : t.addresses.Within V had) (clk : Nat → UInt64) :
    (t.pingTimerFires clk).addresses.Within V had := by
  have hstopped : UdpTransport.addresses { t with pingTimer := false } = t.addresses := rfl
  unfold pingTimerFires
  split
  · exact h
  · dsimp only
    split
    · exact hstopped ▸ h
    · exact within_sendPingOnce (hstopped ▸ h) clk

theorem within_startPings {t : UdpTransport σ} (h : t.addresses.Within V had) (intervalMs : UInt32)
    (clk : Nat → UInt64) : (t.startPings intervalMs clk).addresses.Within V had := by
  have hset : UdpTransport.addresses { t with pingIntervalMs := intervalMs } = t.addresses := rfl
  unfold startPings
  split
  · exact h
  · exact within_sendPingOnce (hset ▸ h) clk

/-- The io thread takes its next task. -/
theorem within_runPosted {t t' : UdpTransport σ} {fails : Bool} {now : UInt64} {out : List UdpEffect}
    (h : t.addresses.Within V had) (hok : t.handle sink (.runPosted fails now) = .ok (t', out)) :
    t'.addresses.Within V had ∧ ∀ target bytes, .sent target bytes ∈ out → V target := by
  unfold handle at hok
  dsimp only at hok
  split at hok
  · obtain ⟨rfl, rfl⟩ := Prod.mk.inj (Except.ok.inj hok)
    exact ⟨h, fun _ _ hmem => absurd hmem List.not_mem_nil⟩
  · next task rest hposted =>
      have hmem : ∀ task' ∈ t.posted, ∀ ep, task'.target = some ep → V ep := fun task' hin ep hep =>
        h.posted ep (List.mem_filterMap.2 ⟨task', hin, hep⟩)
      have hrest : UdpTransport.addresses { t with posted := rest } |>.Within V had := by
        refine ⟨h.still, h.peer, h.relay, fun ep hep => ?_⟩
        obtain ⟨task', hin, htarget⟩ := List.mem_filterMap.1 hep
        exact hmem task' (hposted ▸ List.mem_cons_of_mem _ hin) ep htarget
      have hrun := within_runTask sink hrest task
        (hmem task (hposted ▸ List.mem_cons_self ..)) fails now
      rw [Except.ok.inj hok] at hrun
      exact hrun

/-- **One event.** What it sends goes to an address of the transport, and the addresses it leaves are
    old ones or the one that it vouches for. -/
theorem within_handle {t t' : UdpTransport σ} {e : UdpEvent} {out : List UdpEffect}
    (h : t.addresses.Within V had) (hvouched : ∀ ep, t.vouches sink e = some ep → V ep)
    (hok : t.handle sink e = .ok (t', out)) :
    t'.addresses.Within V had ∧ ∀ target bytes, .sent target bytes ∈ out → V target := by
  cases e with
  | datagram buf source clk =>
      obtain ⟨hwithin, hsent⟩ := within_handleDatagram h (hvouched source) hok
      exact ⟨hwithin, fun target bytes hmem => absurd hmem (hsent target bytes)⟩
  | runPosted fails now => exact within_runPosted h hok
  | pingTimer clk =>
      obtain ⟨rfl, rfl⟩ := Prod.mk.inj (Except.ok.inj hok)
      exact ⟨within_pingTimerFires h clk, fun _ _ hmem => absurd hmem List.not_mem_nil⟩
  | startPings intervalMs clk =>
      obtain ⟨rfl, rfl⟩ := Prod.mk.inj (Except.ok.inj hok)
      exact ⟨within_startPings h intervalMs clk, fun _ _ hmem => absurd hmem List.not_mem_nil⟩
  | sendFrame type keyframe data timestampNs =>
      obtain ⟨rfl, rfl⟩ := Prod.mk.inj (Except.ok.inj hok)
      refine ⟨?_, fun _ _ hmem => absurd hmem List.not_mem_nil⟩
      rw [addresses_sendFrame]
      exact h
  | sendSmall type data now =>
      obtain ⟨rfl, rfl⟩ := Prod.mk.inj (Except.ok.inj hok)
      refine ⟨?_, fun _ _ hmem => absurd hmem List.not_mem_nil⟩
      rw [addresses_sendSmall]
      exact h
  | sendRelayBind token =>
      obtain ⟨rfl, rfl⟩ := Prod.mk.inj (Except.ok.inj hok)
      exact ⟨within_sendRelayBind h token, fun _ _ hmem => absurd hmem List.not_mem_nil⟩
  | sendPunch target =>
      obtain ⟨rfl, rfl⟩ := Prod.mk.inj (Except.ok.inj hok)
      exact ⟨within_sendPunch h (hvouched target rfl), fun _ _ hmem => absurd hmem List.not_mem_nil⟩
  | setPeer ep =>
      obtain ⟨rfl, rfl⟩ := Prod.mk.inj (Except.ok.inj hok)
      exact ⟨⟨fun _ => rfl, fun _ => hvouched ep rfl, h.relay, h.posted⟩,
        fun _ _ hmem => absurd hmem List.not_mem_nil⟩
  | setRelayFallback ep =>
      obtain ⟨rfl, rfl⟩ := Prod.mk.inj (Except.ok.inj hok)
      refine ⟨⟨h.still, h.peer, fun ep' hep => ?_, h.posted⟩, fun _ _ hmem => absurd hmem List.not_mem_nil⟩
      exact hvouched ep' hep
  | stop =>
      obtain ⟨rfl, rfl⟩ := Prod.mk.inj (Except.ok.inj hok)
      refine ⟨?_, fun _ _ hmem => absurd hmem List.not_mem_nil⟩
      unfold stop
      split
      · exact within_post h (fun ep hep => by cases hep)
      · exact h
  | setSessionId | lockToRemote | pollVideo | pollAudio | stopPings | setVideoJitterTargetMs
  | setAudioJitterTargetMs | setAutoKeyframeRequest | setDropUnknownRemote | resetStats =>
      obtain ⟨rfl, rfl⟩ := Prod.mk.inj (Except.ok.inj hok)
      exact ⟨⟨h.still, h.peer, h.relay, h.posted⟩, fun _ _ hmem => absurd hmem List.not_mem_nil⟩

/-! ## Whole runs -/

/-- A socket that has just been bound. -/
def Unaddressed (t : UdpTransport σ) : Prop :=
  t.havePeer = false ∧ t.relayFallback = none ∧ t.posted = []

/-- A step that learns its peer from a datagram that is not authenticated. -/
def learnsBlindly (sink : UdpCryptoSink σ) (t : UdpTransport σ) (e : UdpEvent) : Bool :=
  match e with
  | .datagram buf _ clk =>
      match t.authenticate sink buf (clk 0) with
      | (some (h, _), t) => t.learnsFrom sink h && !(t.isSecure sink && h.hasFlag UdpFlag.Encrypted)
      | (none, _) => false
  | _ => false

/-- The payload of a datagram, as long as its header says. -/
def sealedPayload (buf : Bytes) : Bytes :=
  (buf.drop kUdpHeaderSize).take (decodeUdpHeader buf {}).2.payloadSize.toNat

/-- What is let in with the flag has been opened by the sink. -/
theorem authenticate_opened {t t' : UdpTransport σ} {buf payload : Bytes} {now : UInt64}
    {h : UdpHeader} (hok : t.authenticate sink buf now = (some (h, payload), t')) :
    (h.hasFlag UdpFlag.Encrypted = true → ∃ s, t.secure = some s ∧ t'.secure =
        some (sink.openDatagram s (buf.take kUdpHeaderSize) (sealedPayload buf)).2 ∧
        (sink.openDatagram s (buf.take kUdpHeaderSize) (sealedPayload buf)).1 = some payload) ∧
      (h.hasFlag UdpFlag.Encrypted = false → t.isSecure sink = false) := by
  unfold authenticate at hok
  dsimp only at hok
  split at hok
  · cases hok
  · next h₀ hdecode =>
      have hpayload : (buf.drop kUdpHeaderSize).take h₀.payloadSize.toNat = sealedPayload buf := by
        rw [sealedPayload, hdecode]
      rw [hpayload] at hok
      split at hok
      · cases hok
      · split at hok
        · next hflag =>
            split at hok
            · cases hok
            · next s hsecure =>
                split at hok
                · cases hok
                · next clear hopen =>
                    obtain ⟨hsome, rfl⟩ := Prod.mk.inj hok
                    obtain ⟨rfl, rfl⟩ := Prod.mk.inj (Option.some.inj hsome)
                    refine ⟨fun _ => ⟨s, hsecure, rfl, hopen⟩, fun hnot => ?_⟩
                    rw [show UdpHeader.hasFlag { h₀ with payloadSize := UInt16.ofNat clear.length }
                      UdpFlag.Encrypted = h₀.hasFlag UdpFlag.Encrypted from rfl, hflag] at hnot
                    cases hnot
        · next hflag =>
            split at hok
            · cases hok
            · next hplain =>
                obtain ⟨hsome, rfl⟩ := Prod.mk.inj hok
                obtain ⟨rfl, rfl⟩ := Prod.mk.inj (Option.some.inj hsome)
                exact ⟨fun htrue => absurd htrue hflag, fun _ => Bool.eq_false_iff.2 hplain⟩

/-- A transport that learns blindly has no peer before, and one after. -/
theorem havePeer_of_learnsBlindly {t t' : UdpTransport σ} {e : UdpEvent} {out : List UdpEffect}
    (hblind : t.learnsBlindly sink e = true) (hok : t.handle sink e = .ok (t', out)) :
    t.havePeer = false ∧ t'.havePeer = true := by
  cases e with
  | datagram buf source clk =>
      have hkept := congrArg Addresses.havePeer (addresses_authenticate sink t buf (clk 0))
      unfold learnsBlindly at hblind
      have hdatagram : t.handleDatagram sink buf source clk = .ok (t', out) := hok
      unfold handleDatagram at hdatagram
      cases hauth : t.authenticate sink buf (clk 0) with
      | mk accepted t₁ =>
          rw [hauth] at hkept
          simp only [hauth] at hblind hdatagram
          cases accepted with
          | none => cases hblind
          | some accepted =>
              obtain ⟨hdr, payload⟩ := accepted
              have hnone : t₁.havePeer = false := by
                simp only [learnsFrom, Bool.and_eq_true, Bool.or_eq_true, Bool.not_eq_true'] at hblind
                rcases hblind with ⟨hnone | hauthentic, hplain⟩
                · exact hnone
                · simp [hauthentic] at hplain
              have hlearned : (t₁.learnPeer sink hdr source).havePeer = true := by
                unfold learnPeer
                rw [hnone]
                rfl
              refine ⟨hkept.symm.trans hnone, ?_⟩
              dsimp only at hdatagram
              split at hdatagram
              · obtain ⟨rfl, rfl⟩ := Prod.mk.inj (Except.ok.inj hdatagram)
                exact hlearned
              · obtain ⟨haddresses, -⟩ := addresses_dispatch hdatagram
                exact (congrArg Addresses.havePeer haddresses).trans hlearned
  | runPosted | pingTimer | setSessionId | setPeer | lockToRemote | setRelayFallback | sendFrame
  | sendSmall | sendRelayBind | sendPunch | pollVideo | pollAudio | startPings | stopPings
  | setVideoJitterTargetMs | setAudioJitterTargetMs | setAutoKeyframeRequest | setDropUnknownRemote
  | resetStats | stop =>
      cases hblind

theorem next_ok {t t' : UdpTransport σ} {e : UdpEvent} (h : t.next sink e = .ok t') :
    t.handle sink e = .ok (t', t.outputs sink e) := by
  unfold next at h
  unfold outputs
  cases hok : t.handle sink e with
  | error x =>
      rw [hok] at h
      cases h
  | ok r =>
      rw [hok] at h
      obtain rfl := Except.ok.inj h
      rfl

/-- Only the io thread's tasks send. -/
theorem runPosted_of_sent {t : UdpTransport σ} {e : UdpEvent} {target : Endpoint} {bytes : Bytes}
    (hsent : .sent target bytes ∈ t.outputs sink e) :
    ∃ fails now t', e = .runPosted fails now ∧ t.handle sink e = .ok (t', t.outputs sink e) := by
  cases hok : t.handle sink e with
  | error x =>
      rw [outputs, hok] at hsent
      exact absurd hsent List.not_mem_nil
  | ok r =>
      obtain ⟨t', out⟩ := r
      have hout : t.outputs sink e = out := by
        rw [outputs, hok]
      rw [hout] at hsent ⊢
      cases e with
      | runPosted fails now => exact ⟨fails, now, t', rfl, rfl⟩
      | datagram buf source clk =>
          have hwithin : t.addresses.Within (fun _ => True) false :=
            ⟨nofun, fun _ => trivial, fun _ _ => trivial, fun _ _ => trivial⟩
          exact absurd hsent ((within_handleDatagram hwithin (fun _ => trivial) hok).2 target bytes)
      | pingTimer | setSessionId | setPeer | lockToRemote | setRelayFallback | sendFrame | sendSmall
      | sendRelayBind | sendPunch | pollVideo | pollAudio | startPings | stopPings
      | setVideoJitterTargetMs | setAudioJitterTargetMs | setAutoKeyframeRequest
      | setDropUnknownRemote | resetStats | stop =>
          obtain ⟨-, rfl⟩ := Prod.mk.inj (Except.ok.inj hok)
          exact absurd hsent List.not_mem_nil

/-- A source that is learned with the eyes open has had a datagram opened. -/
theorem opened_of_vouches {t : UdpTransport σ} {buf : Bytes} {source : Endpoint} {clk : Nat → UInt64}
    (hvouch : t.vouches sink (.datagram buf source clk) = some source)
    (hseen : t.learnsBlindly sink (.datagram buf source clk) = false) :
    ∃ s clear, t.secure = some s ∧
      (sink.openDatagram s (buf.take kUdpHeaderSize) (sealedPayload buf)).1 = some clear := by
  unfold vouches at hvouch
  unfold learnsBlindly at hseen
  cases hauth : t.authenticate sink buf (clk 0) with
  | mk accepted t₁ =>
      simp only [hauth] at hvouch hseen
      cases accepted with
      | none => cases hvouch
      | some accepted =>
          obtain ⟨hdr, payload⟩ := accepted
          dsimp only at hvouch hseen
          split at hvouch
          · next hlearns =>
              rw [hlearns, Bool.true_and, Bool.not_eq_false', Bool.and_eq_true] at hseen
              obtain ⟨s, hsecure, -, hopen⟩ := (authenticate_opened hauth).1 hseen.2
              exact ⟨s, payload, hsecure, hopen⟩
          · cases hvouch

/-- With an active sink nothing is learned blindly. -/
theorem not_learnsBlindly_of_secure {t : UdpTransport σ} (e : UdpEvent)
    (hkeeps : ∀ s header sealed', sink.active s = true →
      sink.active (sink.openDatagram s header sealed').2 = true)
    (hsecure : t.isSecure sink = true) : t.learnsBlindly sink e = false := by
  cases e with
  | datagram buf source clk =>
      unfold learnsBlindly
      cases hauth : t.authenticate sink buf (clk 0) with
      | mk accepted t₁ =>
          cases accepted with
          | none => simp only [hauth]
          | some accepted =>
              obtain ⟨hdr, payload⟩ := accepted
              obtain ⟨hopened, hplain⟩ := authenticate_opened hauth
              simp only [hauth]
              cases hflag : hdr.hasFlag UdpFlag.Encrypted with
              | false =>
                  rw [hplain hflag] at hsecure
                  cases hsecure
              | true =>
                  obtain ⟨s, hs, hs₁, -⟩ := hopened hflag
                  have hactive : sink.active s = true := by simpa [isSecure, hs] using hsecure
                  have hsecure₁ : t₁.isSecure sink = true := by
                    simpa [isSecure, hs₁] using hkeeps s _ (sealedPayload buf) hactive
                  simp [hsecure₁]
  | runPosted | pingTimer | setSessionId | setPeer | lockToRemote | setRelayFallback | sendFrame
  | sendSmall | sendRelayBind | sendPunch | pollVideo | pollAudio | startPings | stopPings
  | setVideoJitterTargetMs | setAudioJitterTargetMs | setAutoKeyframeRequest | setDropUnknownRemote
  | resetStats | stop =>
      rfl

section Runs

variable (sink) {t₀ t : UdpTransport σ} (hfresh : t₀.Unaddressed) (es : List UdpEvent)
  (hrun : runFrom (step sink) (.ok t₀) es = .ok t)

/-- The addresses that the steps of a run vouch for. -/
def Vouched (t₀ : UdpTransport σ) (es : List UdpEvent) (ep : Endpoint) : Prop :=
  ∃ p ∈ stepsOf (next sink) t₀ es, p.1.vouches sink p.2 = some ep

/-- How many of the steps of a run learn a peer blindly. -/
def blindSteps (t₀ : UdpTransport σ) (es : List UdpEvent) : Nat :=
  (stepsOf (next sink) t₀ es).countP (fun p => p.1.learnsBlindly sink p.2)

include hfresh hrun in
theorem within_run :
    t.addresses.Within (Vouched sink t₀ es) (0 < blindSteps sink t₀ es) ∧
      blindSteps sink t₀ es ≤ 1 := by
  refine runFrom_faulting_induction (next sink)
    (fun es t => t.addresses.Within (Vouched sink t₀ es) (0 < blindSteps sink t₀ es) ∧
      blindSteps sink t₀ es ≤ 1) ?_ ?_ es hrun
  · obtain ⟨hpeer, hrelay, hposted⟩ := hfresh
    refine ⟨⟨fun hblind => ?_, fun hsome => ?_, fun ep hep => ?_, fun ep hep => ?_⟩, Nat.zero_le _⟩
    · simp [blindSteps, stepsOf] at hblind
    · rw [show t₀.addresses.havePeer = t₀.havePeer from rfl, hpeer] at hsome
      cases hsome
    · rw [show t₀.addresses.relayFallback = t₀.relayFallback from rfl, hrelay] at hep
      cases hep
    · simp [addresses, hposted] at hep
  · rintro es t e t' hreach ⟨hwithin, hcount⟩ hnext
    have hhandle := next_ok hnext
    have hsteps := stepsOf_concat (next sink) hreach e
    have hmono : ∀ ep, Vouched sink t₀ es ep → Vouched sink t₀ (es ++ [e]) ep := by
      rintro ep ⟨p, hp, hvouch⟩
      exact ⟨p, hsteps ▸ List.mem_append_left _ hp, hvouch⟩
    obtain ⟨hnew, -⟩ := within_handle (hwithin.mono hmono)
      (fun ep hep => ⟨(t, e), hsteps ▸ List.mem_append_right _ (List.mem_singleton.2 rfl), hep⟩) hhandle
    have hblinds : blindSteps sink t₀ (es ++ [e]) =
        blindSteps sink t₀ es + if t.learnsBlindly sink e then 1 else 0 := by
      rw [blindSteps, hsteps, List.countP_append, List.countP_singleton]
      rfl
    cases hblind : t.learnsBlindly sink e with
    | false =>
        rw [hblind] at hblinds
        rw [hblinds]
        exact ⟨hnew, hcount⟩
    | true =>
        obtain ⟨hnone, hsome⟩ := havePeer_of_learnsBlindly hblind hhandle
        have hzero : blindSteps sink t₀ es = 0 := by
          by_contra hpos
          have hstill := hwithin.still (decide_eq_true (Nat.pos_of_ne_zero hpos))
          rw [show t.addresses.havePeer = t.havePeer from rfl, hnone] at hstill
          cases hstill
        rw [hblind, hzero] at hblinds
        rw [hblinds]
        exact ⟨⟨fun _ => hsome, hnew.peer, hnew.relay, hnew.posted⟩, Nat.le_refl _⟩

include hfresh hrun in
/-- **Where a transport sends to.** Every datagram goes to an address that its owner has named, or that the
    transport has learned its peer from. At most one of these was not authenticated, and none if the sink
    is active then; all the others are sources of datagrams that the sink has opened. -/
theorem sent_where_vouched :
    (∀ e target bytes, .sent target bytes ∈ t.outputs sink e → Vouched sink t₀ es target) ∧
      blindSteps sink t₀ es ≤ 1 ∧
      ((∀ s header sealed', sink.active s = true →
          sink.active (sink.openDatagram s header sealed').2 = true) →
        ∀ p ∈ stepsOf (next sink) t₀ es, p.1.isSecure sink = true →
          p.1.learnsBlindly sink p.2 = false) ∧
      ∀ p ∈ stepsOf (next sink) t₀ es, ∀ buf source clk, p.2 = .datagram buf source clk →
        p.1.vouches sink p.2 = some source → p.1.learnsBlindly sink p.2 = false →
        ∃ s clear, p.1.secure = some s ∧
          (sink.openDatagram s (buf.take kUdpHeaderSize) (sealedPayload buf)).1 = some clear := by
  obtain ⟨hwithin, hcount⟩ := within_run sink hfresh es hrun
  refine ⟨fun e target bytes hsent => ?_, hcount, fun hkeeps p _ hsecure => ?_, ?_⟩
  · obtain ⟨fails, now, t', rfl, hok⟩ := runPosted_of_sent hsent
    exact (within_runPosted hwithin hok).2 target bytes hsent
  · exact not_learnsBlindly_of_secure p.2 hkeeps hsecure
  · intro p hp buf source clk heq hvouch hseen
    rw [heq] at hvouch hseen
    exact opened_of_vouches hvouch hseen

end Runs

/-- A sink that takes a payload for sealed as it is. -/
def openSink : UdpCryptoSink Unit where
  sealDatagram _ _ payload := (some payload, ())
  openDatagram _ _ payload := (some payload, ())
  active _ := true

/-- A sealed datagram of one byte. -/
def sealedByte : Bytes :=
  encodeUdpHeader
    { type := UdpType.StreamStart.code
      flags := UdpFlag.Encrypted
      payloadSize := 1 } ++ [7]

/-- A transport that has just been bound, with a sink. -/
def boundTransport : UdpTransport Unit :=
  { running := true
    socket := true
    secure := some () }

/-- The sealed datagram comes in, and an answer is posted. -/
def sealedRun : List UdpEvent :=
  [.datagram sealedByte ⟨[127, 0, 0, 1], 5000⟩ (fun _ => 0), .sendSmall .StreamStart [1] 0]

theorem sent_where_vouched_sealed :
    ∃ t, runFrom (step openSink) (.ok boundTransport) sealedRun = .ok t ∧
      (∀ e target bytes, .sent target bytes ∈ t.outputs openSink e →
        Vouched openSink boundTransport sealedRun target) ∧
      blindSteps openSink boundTransport sealedRun ≤ 1 ∧
      ((∀ s header sealed', openSink.active s = true →
          openSink.active (openSink.openDatagram s header sealed').2 = true) →
        ∀ p ∈ stepsOf (next openSink) boundTransport sealedRun, p.1.isSecure openSink = true →
          p.1.learnsBlindly openSink p.2 = false) ∧
      ∀ p ∈ stepsOf (next openSink) boundTransport sealedRun, ∀ buf source clk,
        p.2 = .datagram buf source clk → p.1.vouches openSink p.2 = some source →
        p.1.learnsBlindly openSink p.2 = false →
        ∃ s clear, p.1.secure = some s ∧
          (openSink.openDatagram s (buf.take kUdpHeaderSize) (sealedPayload buf)).1 = some clear := by
  have hsafe : (runFrom (step openSink) (.ok boundTransport) sealedRun).isOk = true := by
    decide +kernel
  cases hrun : runFrom (step openSink) (.ok boundTransport) sealedRun with
  | error x =>
      rw [hrun] at hsafe
      cases hsafe
  | ok t => exact ⟨t, rfl, sent_where_vouched openSink ⟨rfl, rfl, rfl⟩ sealedRun hrun⟩

/-- The peer is learned there, from an opened datagram, and the answer goes to it. -/
example : ((runFrom (step openSink) (.ok boundTransport) sealedRun).toOption.map
    (fun t => (t.outputs openSink (.runPosted false 0)).length)) = some 1 := by
  decide +kernel

end UdpTransport

end RemotePlay.Net
