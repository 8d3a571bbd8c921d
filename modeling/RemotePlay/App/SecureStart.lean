import RemotePlay.App.ClientCoordinator
import RemotePlay.App.Invocations
import RemotePlay.Lib.Runs
import RemotePlay.Networking.PlaintextRefusal

set_option autoImplicit false

/-! # Starting media

Both coordinators create the channel before they know whether the key schedule succeeds, and keep it
when it does not. What a `SESSION_KEY_READY` (at the host) and a `STREAM_START` (at the client) look
at afterwards is not the channel's activity: the host asks for a channel, the client for nothing. -/

namespace RemotePlay.App

open Proto (Body decodeMessage)
open Crypto (Cng EcdhKeyPair SecureChannel)
open Net (RefusesPlaintext boundTransport secureChannelSink)

/-- `finish` leaves an active channel behind exactly when it succeeds. -/
theorem finish_active (c : Cng) (ch : SecureChannel) (kp : EcdhKeyPair)
    (ourSalt peerPublicKey peerSalt code : Bytes) (weAreHost : Bool) :
    (ch.finish c kp ourSalt peerPublicKey peerSalt code weAreHost).2.active
      = (ch.finish c kp ourSalt peerPublicKey peerSalt code weAreHost).1 := by
  unfold SecureChannel.finish
  dsimp only
  split
  · rfl
  split
  · rfl
  split
  · rfl
  split
  · rfl
  · rfl

/-- A streamer's channel is set and active, and the transport bound with it never lets plaintext
    in. -/
def Secured (c : Cng) (sessionId : UInt32) (channel : Option SecureChannel) : Prop :=
  (∃ ch, channel = some ch ∧ ch.active = true) ∧
    RefusesPlaintext (secureChannelSink c) (boundTransport sessionId channel)

theorem secured_iff (c : Cng) (sessionId : UInt32) (channel : Option SecureChannel) :
    Secured c sessionId channel ↔ channel.map SecureChannel.active = some true := by
  rw [Secured, Net.refusesPlaintext_iff (Net.secureChannelSink_keepsActive c)]
  cases channel with
  | none => simp
  | some ch => simp [secureChannelSink]

/-! ## The host -/

namespace HostCoordinator

/-- The result of the client's latest key exchange, since its stream was last ended. -/
def lastExchange (c : Cng) (id : UInt32) (steps : List (HostCoordinator × HostCoordinatorEvent)) :
    Option Bool :=
  lastOutcome (fun _ e => endsStream id e) (exchangeAt c id) steps

/-- Whether the client's channel is active, if it has one. -/
def channelActive (id : UInt32) (k : HostCoordinator) : Option Bool :=
  ((k.streams[id]?).bind ClientStream.channel).map SecureChannel.active

theorem channelActive_putStream (k : HostCoordinator) (id clientId : UInt32) (cs : ClientStream) :
    channelActive id (k.putStream clientId cs)
      = if clientId = id then cs.channel.map SecureChannel.active else channelActive id k := by
  simp only [channelActive, putStream, lookup_insert]
  split
  · rfl
  · rfl

theorem channelActive_eq_none {k : HostCoordinator} {id : UInt32} (h : k.streams[id]? = none) :
    channelActive id k = none := by
  rw [channelActive, h]
  rfl

/-- Storing a stream again with its channel. -/
theorem channelActive_putStream_same {k : HostCoordinator} {id : UInt32} {cs : ClientStream}
    (hcs : k.streams[id]? = some cs) (cs' : ClientStream) (hchannel : cs'.channel = cs.channel)
    (a : UInt32) : channelActive a (k.putStream id cs') = channelActive a k := by
  rw [channelActive_putStream]
  split
  · next heq => rw [← heq, channelActive, hcs, hchannel, Option.bind_some]
  · rfl

/-- What an invocation does to a client's channel: it goes with the stream, a key exchange leaves
    its result behind, and nothing else touches it. -/
theorem channelActive_step (c : Cng) (k : HostCoordinator) (e : HostCoordinatorEvent)
    (id : UInt32) :
    channelActive id (k.step c e)
      = if endsStream id e then none else (exchangeAt c id k e).or (channelActive id k) := by
  have h := handle_outcome c k e
  unfold step
  generalize k.handle c e = r at h
  cases h with
  | idle out hout hperms hends hexchange hstarted =>
      rw [hexchange, Option.none_or]
      split
      · next hend => exact channelActive_eq_none (hends id hend)
      · rfl
  | opened row keys salt kp out hout he hstate hnew =>
      subst he
      have hends : endsStream id (.clientUpdated row keys salt) = false := by
        simp [endsStream, hstate]
      rw [hends, exchangeAt_of_no_message rfl, Option.none_or, if_neg Bool.false_ne_true,
        channelActive_putStream]
      split
      · next heq => rw [← heq, channelActive_eq_none hnew, Option.map_none]
      · rfl
  | closed a cs more hmore hcs he =>
      rw [exchangeAt_of_no_message (messageOf_of_endsStream he), Option.none_or]
      simp only [channelActive, lookup_erase]
      by_cases heq : a = id
      · subst heq
        rw [if_pos rfl, if_pos he]
        rfl
      · rw [if_neg heq, if_neg fun h => heq (eq_of_endsStream he h).symm]
  | exchanged a cs ecdh m out hout hcs hecdh hready he =>
      rw [endsStream_of_messageOf he, if_neg Bool.false_ne_true, channelActive_putStream,
        exchangeAt, he]
      dsimp only
      split
      · next heq =>
          subst heq
          simp [hcs, hecdh, hready, finish_active]
      · rw [Option.none_or]
  | ready a cs hcs hchannel he =>
      rw [endsStream_of_messageOf he, if_neg Bool.false_ne_true, exchangeAt, he, Option.none_or]
      exact channelActive_putStream_same hcs
        { cs with keysReady := true, streamer := some k.streamers.length } rfl id
  | permitted a p cs hcs he =>
      subst he
      rfl
  | reset a cs hcs he =>
      rw [endsStream_of_resets he, exchangeAt_of_resets he, Option.none_or,
        if_neg Bool.false_ne_true]

theorem started_secured_iff (c : Cng) (k : HostCoordinator) (e : HostCoordinatorEvent) :
    (∀ st ∈ k.started e, Secured c st.udpSession st.channel) ↔
      ∀ id, messageOf e = some (id, .sessionKeyReady) → channelActive id k ≠ some false := by
  unfold started
  split
  · next clientId hmsg =>
      simp only [hmsg, Option.some.injEq, Prod.mk.injEq, and_true, forall_eq']
      cases hcs : k.streams[clientId]? with
      | none => simp [channelActive, hcs]
      | some cs =>
          cases hch : cs.channel with
          | none => simp [channelActive, hcs, hch]
          | some ch => simp [channelActive, hcs, hch, secured_iff]
  · next hother =>
      exact ⟨fun _ id hmsg => (hother id hmsg).elim, fun _ st hst => absurd hst (by simp)⟩

/-- No `SESSION_KEY_READY` is handled from a client whose latest key exchange failed. -/
def FailedExchangesEnd (c : Cng) (k₀ : HostCoordinator) (es : List HostCoordinatorEvent) : Prop :=
  ∀ pre e post id, es = pre ++ e :: post → messageOf e = some (id, .sessionKeyReady) →
    lastExchange c id (history (step c) k₀ pre) ≠ some false

/-- The host starts secured streamers only, exactly when failed exchanges end. -/
theorem streamers_secured_iff (c : Cng) (sessionCode : Bytes) (settings : StreamSettings)
    (es : List HostCoordinatorEvent) :
    (∀ st ∈ (runFrom (step c) { sessionCode, settings } es).streamers,
        Secured c st.udpSession st.channel) ↔
      FailedExchangesEnd c { sessionCode, settings } es := by
  -- the channel a client is found with is what its latest exchange left behind
  have hchannel : ∀ id pre, channelActive id (runFrom (step c) { sessionCode, settings } pre)
      = lastExchange c id (history (step c) { sessionCode, settings } pre) := fun id pre =>
    eq_lastOutcome (step c) (fun _ e => endsStream id e) (exchangeAt c id) (channelActive id)
      (fun k e => channelActive_step c k e id) _ (by simp [channelActive]) pre
  rw [forall_mem_log_iff (step c) streamers started (streamers_step c)
    (fun st => Secured c st.udpSession st.channel) _ rfl]
  simp only [started_secured_iff, Prod.forall, mem_history_iff]
  constructor
  · intro h pre e post id hes hmsg
    rw [← hchannel]
    exact h _ e ⟨pre, post, hes, rfl⟩ id hmsg
  · rintro h k e ⟨pre, post, hes, rfl⟩ id hmsg
    rw [hchannel]
    exact h pre e post id hes hmsg

end HostCoordinator

/-! ## The client -/

namespace ClientCoordinator

/-- The application message an invocation handles. -/
def messageOf : ClientCoordinatorEvent → Option Body
  | .appMessage type payload => (decodeMessage type payload).map Proto.Envelope.body
  | _ => none

/-- The invocation runs `stop`. -/
def stops (k : ClientCoordinator) : ClientCoordinatorEvent → Bool
  | .stop => true
  | .watchdog running => k.streamStartWatchdog && !(k.streamer.isSome && running)
  | _ => false

/-- The result of `finish`, if the invocation runs it. -/
def exchangeAt (c : Cng) (k : ClientCoordinator) (e : ClientCoordinatorEvent) : Option Bool :=
  match messageOf e with
  | some (.keyExchange m) =>
      k.ecdh.map (fun ecdh => (SecureChannel.finish c {} ecdh k.ourSalt m.publicKey m.salt
        k.sessionCode false).1)
  | _ => none

/-- The result of the latest key exchange, since the last `stop`. -/
def lastExchange (c : Cng) (steps : List (ClientCoordinator × ClientCoordinatorEvent)) :
    Option Bool :=
  lastOutcome stops (exchangeAt c) steps

/-- Whether the channel is active, if there is one. -/
def channelActive (k : ClientCoordinator) : Option Bool := k.channel.map SecureChannel.active

theorem channelActive_beginKeyExchange (k : ClientCoordinator) (connected : Bool)
    (keys : Option EcdhKeyPair) (salt : Bytes) :
    channelActive (k.beginKeyExchange connected keys salt).1 = channelActive k := by
  unfold beginKeyExchange
  split
  · rfl
  split
  · rfl
  · rfl

theorem channelActive_handleKeyExchange (c : Cng) (k : ClientCoordinator)
    (m : Proto.Msg.KeyExchange) :
    channelActive (k.handleKeyExchange c m).1
      = (k.ecdh.map (fun ecdh => (SecureChannel.finish c {} ecdh k.ourSalt m.publicKey m.salt
          k.sessionCode false).1)).or (channelActive k) := by
  unfold handleKeyExchange
  split
  · next hecdh => simp [hecdh]
  next ecdh hecdh =>
  have hfin := finish_active c {} ecdh k.ourSalt m.publicKey m.salt k.sessionCode false
  dsimp only
  rw [hecdh, Option.map_some, Option.some_or, ← hfin]
  split
  · rfl
  · rfl

theorem channelActive_startStream (k : ClientCoordinator) (udpPort : UInt16) (sessionId : UInt32) :
    channelActive (k.startStream udpPort sessionId).1 = channelActive k := by
  unfold startStream
  split
  · rfl
  · rfl

theorem channelActive_onStreamStartWatchdog (k : ClientCoordinator) (running : Bool) :
    channelActive (k.onStreamStartWatchdog running).1
      = if stops k (.watchdog running) then none else channelActive k := by
  unfold onStreamStartWatchdog stops
  cases k.streamStartWatchdog with
  | false => rfl
  | true =>
      simp only [Bool.not_true, Bool.false_eq_true, if_false, Bool.true_and]
      split
      · next hrun => simp [hrun, channelActive]
      · next hrun =>
          have hstop : (k.streamer.isSome && running) = false := by
            rwa [← Bool.not_eq_true, Bool.and_eq_true]
          rw [hstop]
          rfl

/-- What an invocation does to the channel. -/
theorem channelActive_step (c : Cng) (k : ClientCoordinator) (e : ClientCoordinatorEvent) :
    channelActive (k.step c e)
      = if stops k e then none else (exchangeAt c k e).or (channelActive k) := by
  cases e with
  | state state connected keys salt =>
      cases state with
      | Connected => exact channelActive_beginKeyExchange k connected keys salt
      | _ => rfl
  | appMessage type payload =>
      simp only [step, handle, handleAppMessage, stops, exchangeAt, messageOf, Bool.false_eq_true,
        if_false]
      cases decodeMessage type payload with
      | none => rfl
      | some env =>
          dsimp only [Option.map_some]
          cases env.body with
          | keyExchange m => exact channelActive_handleKeyExchange c k m
          | streamStart m => exact channelActive_startStream _ m.udpPort m.sessionId
          | _ => rfl
  | connectedToHost codec => rfl
  | streamResult ok err =>
      simp only [step, handle]
      split
      · rfl
      · rfl
  | watchdog running => exact channelActive_onStreamStartWatchdog k running
  | stop => rfl

/-- The streamers an invocation adds. -/
def started (k : ClientCoordinator) (e : ClientCoordinatorEvent) : List ClientStreamer :=
  match messageOf e with
  | some (.streamStart m) =>
      if k.streamer.isSome then []
      else
        [{ udpPort := m.udpPort
           udpSessionId := m.sessionId
           codec := ⟨m.codec⟩
           channel := k.channel }]
  | _ => []

theorem streamers_beginKeyExchange (k : ClientCoordinator) (connected : Bool)
    (keys : Option EcdhKeyPair) (salt : Bytes) :
    (k.beginKeyExchange connected keys salt).1.streamers = k.streamers := by
  unfold beginKeyExchange
  split
  · rfl
  split
  · rfl
  · rfl

theorem streamers_handleKeyExchange (c : Cng) (k : ClientCoordinator)
    (m : Proto.Msg.KeyExchange) : (k.handleKeyExchange c m).1.streamers = k.streamers := by
  unfold handleKeyExchange
  split
  · rfl
  dsimp only
  split
  · rfl
  · rfl

theorem streamers_onStreamStartWatchdog (k : ClientCoordinator) (running : Bool) :
    (k.onStreamStartWatchdog running).1.streamers = k.streamers := by
  unfold onStreamStartWatchdog
  split
  · rfl
  dsimp only
  split
  · rfl
  · rfl

theorem streamers_step (c : Cng) (k : ClientCoordinator) (e : ClientCoordinatorEvent) :
    (k.step c e).streamers = k.streamers ++ k.started e := by
  cases e with
  | state state connected keys salt =>
      cases state with
      | Connected =>
          exact (k.streamers_beginKeyExchange connected keys salt).trans (List.append_nil _).symm
      | _ => exact (List.append_nil _).symm
  | appMessage type payload =>
      simp only [step, handle, handleAppMessage, started, messageOf]
      cases decodeMessage type payload with
      | none => exact (List.append_nil _).symm
      | some env =>
          dsimp only [Option.map_some]
          cases env.body with
          | keyExchange m =>
              rw [List.append_nil]
              exact k.streamers_handleKeyExchange c m
          | streamStart m =>
              simp only [handleStreamStart, startStream]
              split
              · exact (List.append_nil _).symm
              · rfl
          | _ => exact (List.append_nil _).symm
  | connectedToHost codec => exact (List.append_nil _).symm
  | streamResult ok err =>
      simp only [step, handle, started, messageOf, List.append_nil]
      split
      · rfl
      · rfl
  | watchdog running =>
      exact (k.streamers_onStreamStartWatchdog running).trans (List.append_nil _).symm
  | stop => exact (List.append_nil _).symm

theorem started_secured_iff (c : Cng) (k : ClientCoordinator) (e : ClientCoordinatorEvent) :
    (∀ st ∈ k.started e, Secured c st.udpSessionId st.channel) ↔
      ∀ m, messageOf e = some (.streamStart m) → k.streamer = none →
        channelActive k = some true := by
  unfold started
  split
  · next m hmsg =>
      cases hst : k.streamer with
      | none => simp [hmsg, secured_iff, channelActive]
      | some index => simp
  · next hother =>
      exact ⟨fun _ m hmsg => (hother m hmsg).elim, fun _ st hst => absurd hst (by simp)⟩

/-- A `STREAM_START` that finds no streamer is handled only after a key exchange that succeeded. -/
def StreamsFollowExchanges (c : Cng) (k₀ : ClientCoordinator) (es : List ClientCoordinatorEvent) :
    Prop :=
  ∀ pre e post m, es = pre ++ e :: post → messageOf e = some (.streamStart m) →
    (runFrom (step c) k₀ pre).streamer = none →
    lastExchange c (history (step c) k₀ pre) = some true

/-- The client starts secured streamers only, exactly when streams follow successful exchanges. -/
theorem streamers_secured_iff (c : Cng) (sessionCode : Bytes) (es : List ClientCoordinatorEvent) :
    (∀ st ∈ (runFrom (step c) { sessionCode } es).streamers,
        Secured c st.udpSessionId st.channel) ↔
      StreamsFollowExchanges c { sessionCode } es := by
  have hchannel : ∀ pre, channelActive (runFrom (step c) { sessionCode } pre)
      = lastExchange c (history (step c) { sessionCode } pre) := fun pre =>
    eq_lastOutcome (step c) stops (exchangeAt c) channelActive (channelActive_step c) _ rfl pre
  rw [forall_mem_log_iff (step c) streamers started (streamers_step c)
    (fun st => Secured c st.udpSessionId st.channel) _ rfl]
  simp only [started_secured_iff, Prod.forall, mem_history_iff]
  constructor
  · intro h pre e post m hes hmsg hst
    rw [← hchannel]
    exact h _ e ⟨pre, post, hes, rfl⟩ m hmsg hst
  · rintro h k e ⟨pre, post, hes, rfl⟩ m hmsg hst
    rw [hchannel]
    exact h pre e post m hes hmsg hst

end ClientCoordinator

/-! ## Both sides -/

/-- **When media is secured.** For every order of invocations on either side and every outcome of
    the key schedule: all streamers of the host have an active channel and refuse plaintext exactly
    when no `SESSION_KEY_READY` is handled from a client whose latest exchange failed, and all
    streamers of the client do exactly when every `STREAM_START` that starts one comes after an
    exchange that succeeded. -/
theorem media_secured_iff (c : Cng) (sessionCode : Bytes) (settings : StreamSettings)
    (es : List HostCoordinatorEvent) (fs : List ClientCoordinatorEvent) :
    ((∀ st ∈ (runFrom (HostCoordinator.step c) { sessionCode, settings } es).streamers,
        Secured c st.udpSession st.channel) ↔
      HostCoordinator.FailedExchangesEnd c { sessionCode, settings } es) ∧
    ((∀ st ∈ (runFrom (ClientCoordinator.step c) { sessionCode } fs).streamers,
        Secured c st.udpSessionId st.channel) ↔
      ClientCoordinator.StreamsFollowExchanges c { sessionCode } fs) :=
  ⟨HostCoordinator.streamers_secured_iff c sessionCode settings es,
    ClientCoordinator.streamers_secured_iff c sessionCode fs⟩

/-- A client that answers the host's key exchange with a public key that is no point of the curve,
    and announces that its keys are ready all the same. -/
def refusedExchange : List HostCoordinatorEvent :=
  [.clientUpdated { id := 1, state := .Connected } (some Crypto.Session.hostKeys)
      Crypto.Session.hostSalt,
    .appMessage 1 Proto.Id.KeyExchange.code
      (HostCoordinator.keyExchangePayload (List.replicate 64 0) Crypto.Session.clientSalt),
    .appMessage 1 Proto.Id.SessionKeyReady.code []]

/-- A host that starts the stream without any key exchange. -/
def bareStreamStart : List ClientCoordinatorEvent :=
  [.appMessage Proto.Id.StreamStart.code (Proto.encodeMessage
    { type := .StreamStart, body := .streamStart { udpPort := 47000, sessionId := 7 } })]

/-- The host starts a streamer with a channel that failed, the client one without a channel, and
    both let plaintext in. -/
theorem media_started_in_the_clear :
    let c := Crypto.Session.record.replay
    (∃ st ∈ (runFrom (HostCoordinator.step c) { sessionCode := Crypto.Session.code }
        refusedExchange).streamers, st.channel.map SecureChannel.active = some false ∧
          ¬ RefusesPlaintext (secureChannelSink c) (boundTransport st.udpSession st.channel)) ∧
    ∃ st ∈ (runFrom (ClientCoordinator.step c) { sessionCode := Crypto.Session.code }
        bareStreamStart).streamers, st.channel = none ∧
          ¬ RefusesPlaintext (secureChannelSink c) (boundTransport st.udpSessionId st.channel) := by
  intro c
  have hhost : (runFrom (HostCoordinator.step c) { sessionCode := Crypto.Session.code }
      refusedExchange).streamers
        = [{ clientId := 1, playerIndex := 0
             udpSession := makeUdpSessionId Crypto.Session.code 1, channel := some {} }] := by
    decide +kernel
  have hclient : (runFrom (ClientCoordinator.step c) { sessionCode := Crypto.Session.code }
      bareStreamStart).streamers
        = [{ udpPort := 47000, udpSessionId := 7, codec := .H264, channel := none }] := by
    decide +kernel
  have hplain := Net.refusesPlaintext_iff (Net.secureChannelSink_keepsActive c)
  refine ⟨⟨_, by rw [hhost]; exact List.mem_singleton_self _, rfl, ?_⟩,
    ⟨_, by rw [hclient]; exact List.mem_singleton_self _, rfl, ?_⟩⟩
  · rw [hplain]
    simp [secureChannelSink]
  · rw [hplain]
    simp

end RemotePlay.App
