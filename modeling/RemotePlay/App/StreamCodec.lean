import RemotePlay.App.LivePermissions
import RemotePlay.Host.Isolation
import RemotePlay.Networking.ProtocolCodec

set_option autoImplicit false

/-! # The codec of a stream

The session negotiates a codec with each client; the coordinator starts the client's stream with the
codec of the launch settings. `Negotiates` is a step of the host that ends in an accepted
`NEGOTIATION_RESULT`. Every streamer belongs to a client for which such a step has been taken
(`Traced`), and its codec is the negotiated one exactly if the client supports the host's
preference. -/

namespace RemotePlay.App

open Proto (Body Envelope Id decodeMessage encodeMessage)
open Crypto (Cng EcdhKeyPair)
open Host (HostEffect HostEvent HostLaunchSettings HostSession Report reports)

/-! ## What the coordinator keeps -/

namespace HostCoordinator

/-- Streams are filed under their client. -/
def Filed (k : HostCoordinator) : Prop :=
  ∀ (id : UInt32) (cs : ClientStream), k.streams[id]? = some cs → cs.clientId = id

/-- `t` has the settings of `k`, and its streams are filed if those of `k` are. -/
structure Keeps (k t : HostCoordinator) : Prop where
  settings : t.settings = k.settings
  filed : k.Filed → t.Filed

section Keeps

variable {k : HostCoordinator}

theorem Keeps.refl (k : HostCoordinator) : Keeps k k := ⟨rfl, fun h => h⟩

theorem keeps_putStream (id : UInt32) (cs : ClientStream) (h : k.Filed → cs.clientId = id) :
    Keeps k (k.putStream id cs) := by
  refine ⟨rfl, ?_⟩
  intro hfiled a cs' hcs'
  rcases of_lookup_insert hcs' with ⟨rfl, rfl⟩ | ⟨-, hold⟩
  · exact h hfiled
  · exact hfiled a cs' hold

theorem step_keeps (c : Cng) (k : HostCoordinator) (e : HostCoordinatorEvent) :
    Keeps k (k.step c e) := by
  have h := handle_outcome c k e
  unfold step
  generalize k.handle c e = r at h
  cases h with
  | idle out hout hperms hends hexchange hstarted => exact .refl k
  | opened row keys salt kp out hout he hstate hnew => exact keeps_putStream row.id _ fun _ => rfl
  | closed id cs more hmore hcs he =>
      exact ⟨rfl, fun hfiled a cs' hcs' => hfiled a cs' (of_lookup_erase hcs').2⟩
  | exchanged id cs ecdh m out hout hcs hecdh hready he =>
      exact keeps_putStream id _ fun hfiled => hfiled id cs hcs
  | ready id cs hcs hchannel he =>
      -- the streamer list is filed under nothing
      have hput := keeps_putStream (k := k) id
        { cs with keysReady := true, streamer := some k.streamers.length }
        (fun hfiled => hfiled id cs hcs)
      exact ⟨hput.settings, hput.filed⟩
  | permitted id p cs hcs he => exact .refl k
  | reset id cs hcs he => exact .refl k

/-- A streamer is started for a client with a stream, with the settings as they are. -/
theorem of_mem_started {e : HostCoordinatorEvent} {st : HostStreamer} (h : st ∈ k.started e)
    (hfiled : k.Filed) : st.config = k.settings ∧ (k.seats st.clientId).isSome := by
  unfold started at h
  split at h
  · next id _ =>
      split at h
      · cases h
      next cs hcs =>
      split at h
      · cases h
      · rw [List.mem_singleton.1 h]
        refine ⟨rfl, ?_⟩
        dsimp only
        rw [hfiled id cs hcs, seats_of_stream hcs, Option.isSome_some]
  · cases h

end Keeps

end HostCoordinator

/-! ## Negotiations -/

namespace HostSystem

/-- The step is a capabilities frame of a client that is authenticating, and `codec` is the one the
    host picks from it. -/
def Negotiates (s : HostSystem) (e : HostSystemEvent) (id : UInt32)
    (caps : Proto.Msg.ClientCapabilities) (codec : VideoCodec) : Prop :=
  s.session.stateOf id = some .Authenticating ∧ s.session.running = true ∧
    s.session.stopping = false ∧
    HostSession.negotiated s.session.params caps = some codec ∧
    ∃ type payload now later env, e = .session (.frame id type payload now later) ∧
      decodeMessage type payload = some env ∧ env.body = .clientCapabilities caps

/-- The codec of a `NEGOTIATION_RESULT` that is sent to a client. -/
def resultSent : HostSystemEffect → Option (UInt32 × UInt8)
  | .session (.send clientId type payload) =>
      match (decodeMessage type payload).map Envelope.body with
      | some (.negotiationResult m) => some (clientId, m.codec)
      | _ => none
  | _ => none

/-- The codec of a `STREAM_START` that is sent to a client. -/
def startSent : HostSystemEffect → Option (UInt32 × UInt8)
  | .app (.sendAppMessage clientId type payload) =>
      match (decodeMessage type payload).map Envelope.body with
      | some (.streamStart m) => some (clientId, m.codec)
      | _ => none
  | _ => none

variable {c : Cng} {s : HostSystem} {e : HostSystemEvent}

theorem body_of_encodeMessage (e : Envelope) (htag : e.body.id = e.type)
    (hsized : e.body.Sized) :
    (decodeMessage e.type.code (encodeMessage e)).map Envelope.body = some e.body.capped := by
  rw [Proto.decodeMessage_encodeMessage e htag hsized]
  rfl

/-- The answer to acceptable capabilities: the result, the new state, the input permissions. -/
theorem handleClientCapabilities_accepted (h : HostSession) {id : UInt32} {rec : Host.ClientRecord}
    (caps : Proto.Msg.ClientCapabilities) {codec : VideoCodec} (hrec : h.clients[id]? = some rec)
    (hstate : rec.state = .Authenticating)
    (hcodec : HostSession.negotiated h.params caps = some codec) :
    ∃ row perms, (h.handleClientCapabilities id caps).2 =
      [.send id Id.NegotiationResult.code (encodeMessage
          { type := .NegotiationResult
            body := .negotiationResult (HostSession.negotiationResult h.params (some codec)) }),
        .onClientUpdated row,
        .send id Id.InputPermission.code (encodeMessage
          { type := .InputPermission, body := .inputPermission perms }),
        .onInputPermissions id rec.input] := by
  have hmem := mem_of_lookup h.clients hrec
  have hstored := lookup_insert h.clients id id { rec with state := .Connected }
  have hmem' := mem_of_lookup _ (hstored.trans (if_pos rfl))
  simp only [HostSession.handleClientCapabilities, hrec, hstate, hcodec, HostSession.sendTo, hmem,
    HostSession.setState, HostSession.pushInputPermissions, HostSession.withClients,
    HostSession.rebuildSnapshot, hstored, hmem', if_true, ne_eq, not_true, if_false]
  exact ⟨_, _, rfl⟩

/-- The host tells the client what it picked. -/
theorem Negotiates.resultSent {id : UInt32} {caps : Proto.Msg.ClientCapabilities}
    {codec : VideoCodec} (h : s.Negotiates e id caps codec) :
    (s.handle c e).2.filterMap resultSent = [(id, codec.code)] := by
  obtain ⟨hstate, hrun, hstop, hcodec, type, payload, now, later, env, rfl, hdec, hbody⟩ := h
  obtain ⟨rec, hrec, hauth⟩ := Option.map_eq_some_iff.1 hstate
  -- the activity time is stored before the message is looked at
  have hstored : (s.session.withClients
      (s.session.clients.insert id { rec with lastActivity := now })).clients[id]?
        = some { rec with lastActivity := now } := by
    rw [HostSession.withClients, lookup_insert, if_pos rfl]
  obtain ⟨row, perms, hout⟩ := handleClientCapabilities_accepted _ caps hstored hauth hcodec
  have hhandle : (s.session.handle (.frame id type payload now later)).2
      = ((s.session.withClients (s.session.clients.insert id { rec with lastActivity := now })
          ).handleClientCapabilities id caps).2 := by
    simp [HostSession.handle, HostSession.handleFrame, HostSession.dispatch, hrun, hstop,
      Proto.knownId_of_decodeMessage hdec, hrec, hdec, hbody]
  have hresult := body_of_encodeMessage
    { type := .NegotiationResult
      body := .negotiationResult (HostSession.negotiationResult s.session.params (some codec)) }
    rfl trivial
  have hperms := body_of_encodeMessage
    { type := .InputPermission, body := .inputPermission perms } rfl trivial
  have heffects : (s.handle c (.session (.frame id type payload now later))).2
      = ((s.session.handle (.frame id type payload now later)).2).map .session := rfl
  rw [heffects, hhandle, hout]
  simp only [List.map_cons, List.map_nil, List.filterMap_cons, List.filterMap_nil]
  simp only [HostSystem.resultSent, HostSession.withClients, hresult, hperms, Body.capped]
  rfl

/-- One of the steps so far negotiated a codec with the client. -/
def NegotiatedIn (steps : List (HostSystem × HostSystemEvent)) (id : UInt32) : Prop :=
  ∃ p ∈ steps, ∃ caps codec, p.1.Negotiates p.2 id caps codec

theorem NegotiatedIn.concat {steps : List (HostSystem × HostSystemEvent)} {id : UInt32}
    (h : NegotiatedIn steps id) (p : HostSystem × HostSystemEvent) :
    NegotiatedIn (steps ++ [p]) id := by
  obtain ⟨q, hq, hneg⟩ := h
  exact ⟨q, List.mem_append_left _ hq, hneg⟩

/-! ## Streams come from negotiations -/

/-- A client is reported connected, is seated and is streamed to only after a negotiation with it;
    the settings are those of the launch. -/
structure Traced (settings : HostLaunchSettings) (steps : List (HostSystem × HostSystemEvent))
    (s : HostSystem) : Prop where
  preferred : s.session.params.preferredCodec = settings.codec
  kept : s.app.settings = streamSettings settings
  filed : s.app.Filed
  reported : ∀ id, .updated .Connected ∈ reports id s.calls → NegotiatedIn steps id
  seated : ∀ id, (s.app.seats id).isSome → NegotiatedIn steps id
  streamed : ∀ st ∈ s.app.streamers,
    st.config = streamSettings settings ∧ NegotiatedIn steps st.clientId

/-- Only a negotiation is reported as a connection. -/
theorem negotiates_of_reported {se : HostEvent} {id : UInt32}
    (h : .updated .Connected ∈ reports id (s.session.handle se).2) :
    ∃ caps codec, s.Negotiates (.session se) id caps codec := by
  have hchange := s.session.step_change se id
  generalize (s.session.step se).viewOf id = v at hchange
  generalize reports id (s.session.handle se).2 = rs at hchange h
  cases hchange with
  | capabilities input hview hadmits =>
      obtain ⟨type, payload, now, later, env, caps, rfl, hdec, hbody, hsome, hrun, hstop⟩ :=
        hadmits
      obtain ⟨codec, hcodec⟩ := Option.isSome_iff_exists.1 hsome
      refine ⟨caps, codec, ?_, hrun, hstop, hcodec, type, payload, now, later, env, rfl, hdec,
        hbody⟩
      rw [HostSession.stateOf_eq_viewOf, hview, Option.map_some]
  | stay => cases h
  | connection hassigns hid => cases h
  | hello input hview hroom => cases h
  | setInput v hview input => simp at h
  | kick v hview => simp at h
  | forward input hview type payload => simp at h
  | dropped v hview => simp at h
  | stopped he => cases h

/-- A seat is an old one or was just given on a report. -/
theorem negotiated_of_seated {settings : HostLaunchSettings}
    {steps : List (HostSystem × HostSystemEvent)} (h : Traced settings steps s)
    {inv : HostCoordinatorEvent} (hinv : s.invocationAt e = some inv)
    {seats : UInt32 → Option UInt8} {g : (UInt8 → InputPermissions) → UInt8 → InputPermissions}
    (hchange : HostCoordinator.SeatChange s.app inv seats g) {id : UInt32}
    (hseat : (seats id).isSome) : NegotiatedIn steps id := by
  cases hchange with
  | stay hperms => exact h.seated id hseat
  | permissions a i p hold hperms => exact h.seated id hseat
  | reset a i hold hresets => exact h.seated id hseat
  | leave a i hold hends =>
      rw [Function.update_apply] at hseat
      split at hseat
      · cases hseat
      · exact h.seated id hseat
  | seat row keys salt hrow hstate hnew =>
      by_cases hid : id = row.id
      · apply h.reported id
        rw [reports_calls hinv id, hrow]
        simp [HostCoordinatorEvent.reportAbout, hid, hstate]
      · rw [Function.update_of_ne hid] at hseat
        exact h.seated id hseat

/-- **One step.** -/
theorem traced_step {settings : HostLaunchSettings} {steps : List (HostSystem × HostSystemEvent)}
    (h : Traced settings steps s) : Traced settings (steps ++ [(s, e)]) (s.step c e) := by
  have hshape := step_shape c s e
  generalize s.step c e = t at hshape
  cases hshape with
  | session se he ht =>
      subst ht he
      refine ⟨?_, h.kept, h.filed, ?_, ?_, ?_⟩
      · exact (s.session.step_kept se).params ▸ h.preferred
      · intro id hmem
        rw [reports_onSession, List.mem_append] at hmem
        rcases hmem with hold | hnew
        · exact (h.reported id hold).concat _
        · obtain ⟨caps, codec, hneg⟩ := negotiates_of_reported hnew
          exact ⟨_, List.mem_append_right _ (List.mem_singleton_self _), caps, codec, hneg⟩
      · intro id hseat
        exact (h.seated id hseat).concat _
      · intro st hst
        exact ⟨(h.streamed st hst).1, (h.streamed st hst).2.concat _⟩
  | invoke inv io hinv ht =>
      subst ht
      have hkeeps := s.app.step_keeps c inv
      refine ⟨?_, hkeeps.settings.trans h.kept, hkeeps.filed h.filed, ?_, ?_, ?_⟩
      · rw [← h.preferred]
        exact congrArg _ (foldl_callHost_keeps _ _).1
      · intro id hmem
        refine (h.reported id ?_).concat _
        rw [reports_calls hinv id]
        exact List.mem_append_right _ hmem
      · intro id hseat
        exact (negotiated_of_seated h hinv (s.app.step_seats c inv) hseat).concat _
      · intro st hst
        change st ∈ (s.app.step c inv).streamers at hst
        rw [s.app.streamers_step c inv, List.mem_append] at hst
        rcases hst with hold | hnew
        · exact ⟨(h.streamed st hold).1, (h.streamed st hold).2.concat _⟩
        · obtain ⟨hconfig, hseat⟩ := HostCoordinator.of_mem_started hnew h.filed
          exact ⟨hconfig.trans h.kept, (h.seated _ hseat).concat _⟩
  | quiet hinv hsession happ hcalls henforced =>
      refine ⟨by rw [hsession, h.preferred], by rw [happ, h.kept], happ ▸ h.filed, ?_, ?_, ?_⟩
      · intro id hmem
        rw [hcalls, reports_calls_of_none hinv] at hmem
        exact (h.reported id hmem).concat _
      · intro id hseat
        exact (h.seated id (happ ▸ hseat)).concat _
      · intro st hst
        rw [happ] at hst
        exact ⟨(h.streamed st hst).1, (h.streamed st hst).2.concat _⟩

theorem started_traced (userName : Bytes) (settings : HostLaunchSettings) (sessionCode : Bytes) :
    Traced settings [] (started userName settings sessionCode) where
  preferred := rfl
  kept := rfl
  filed := fun id cs hcs => by simp [started] at hcs
  reported := fun id hmem => by simp [started] at hmem
  seated := fun id hseat => by simp [started, HostCoordinator.seats] at hseat
  streamed := fun st hst => by simp [started] at hst

theorem runFrom_traced (c : Cng) (userName : Bytes) (settings : HostLaunchSettings)
    (sessionCode : Bytes) (es : List HostSystemEvent) :
    Traced settings (history (step c) (started userName settings sessionCode) es)
      (runFrom (step c) (started userName settings sessionCode) es) := by
  induction es using List.reverseRecOn with
  | nil => exact started_traced userName settings sessionCode
  | append_singleton es e ih =>
      rw [history_concat, runFrom_concat]
      exact traced_step ih

theorem preferred_of_mem_history {userName : Bytes} {settings : HostLaunchSettings}
    {sessionCode : Bytes} {es : List HostSystemEvent} {p : HostSystem × HostSystemEvent}
    (hp : p ∈ history (step c) (started userName settings sessionCode) es) :
    p.1.session.params.preferredCodec = settings.codec := by
  obtain ⟨pre, post, -, hstate⟩ := (mem_history_iff (step c) _ es p.1 p.2).1 hp
  rw [hstate]
  exact (runFrom_traced c userName settings sessionCode pre).preferred

/-! ## The codec of every stream -/

/-- The host picks its preference if the client has it. -/
theorem negotiated_eq_preferred_iff {params : Host.HostSessionParams}
    {caps : Proto.Msg.ClientCapabilities} {codec : VideoCodec}
    (h : HostSession.negotiated params caps = some codec) :
    params.preferredCodec = codec ↔ params.preferredCodec ∈ caps.supportedCodecs := by
  unfold HostSession.negotiated Proto.negotiateCodec at h
  have hmem : codec ∈ caps.supportedCodecs := by simpa using List.find?_some h
  constructor
  · intro heq
    rwa [heq]
  · intro hpref
    rw [List.find?_cons_of_pos (by simpa using hpref)] at h
    exact Option.some.inj h

/-- What a streamer announces once its socket is bound. -/
theorem startSent_streamBound {index : Nat} {st : HostStreamer}
    (h : s.app.streamers[index]? = some st) (udpPort : UInt16) :
    (s.handle c (.streamBound index udpPort)).2.filterMap startSent
      = [(st.clientId, st.config.codec.code)] := by
  have heffects : (s.handle c (.streamBound index udpPort)).2
      = (s.app.handleStreamBound index udpPort).map .app := rfl
  rw [heffects, HostCoordinator.handleStreamBound, h]
  simp only [List.map_cons, List.map_nil, List.filterMap_cons, List.filterMap_nil, startSent]
  rw [body_of_encodeMessage
    { type := .StreamStart
      body := .streamStart
        { udpPort := udpPort
          sessionId := st.udpSession
          playerIndex := st.playerIndex
          codec := st.config.codec.code
          width := st.config.resolution.width.toUInt16
          height := st.config.resolution.height.toUInt16
          fps := st.config.fps.toUInt8
          bitrateKbps := st.config.bitrateKbps } } rfl trivial]
  rfl

/-- **The codec of every stream.** In every run, a streamer belongs to a client with which a codec
    was negotiated before. Whatever the client's capabilities were then, the codec picked is the
    first of the host's preference and H.264 among them and was sent as the result; the codec the
    streamer encodes with and announces is that codec if and only if the client supports the host's
    preference. -/
theorem stream_codec_iff (c : Cng) (userName : Bytes) (settings : HostLaunchSettings)
    (sessionCode : Bytes) (es : List HostSystemEvent) (index : Nat) (st : HostStreamer)
    (udpPort : UInt16)
    (hst : (runFrom (step c) (started userName settings sessionCode) es).app.streamers[index]?
      = some st) :
    NegotiatedIn (history (step c) (started userName settings sessionCode) es) st.clientId ∧
    ∀ p ∈ history (step c) (started userName settings sessionCode) es, ∀ caps codec,
      p.1.Negotiates p.2 st.clientId caps codec →
        [settings.codec, .H264].find? (fun want => caps.supportedCodecs.contains want)
            = some codec ∧
        (p.1.handle c p.2).2.filterMap resultSent = [(st.clientId, codec.code)] ∧
        (st.config.codec = codec ∧
            ((runFrom (step c) (started userName settings sessionCode) es).handle c
              (.streamBound index udpPort)).2.filterMap startSent = [(st.clientId, codec.code)] ↔
          settings.codec ∈ caps.supportedCodecs) := by
  obtain ⟨hconfig, hnegotiated⟩ :=
    (runFrom_traced c userName settings sessionCode es).streamed st (List.mem_of_getElem? hst)
  refine ⟨hnegotiated, fun p hp caps codec hneg => ⟨?_, hneg.resultSent, ?_⟩⟩
  · have hpref := preferred_of_mem_history hp
    have hpick := hneg.2.2.2.1
    rwa [HostSession.negotiated, hpref] at hpick
  · have hpref := preferred_of_mem_history hp
    rw [startSent_streamBound hst, hconfig, ← hpref,
      ← negotiated_eq_preferred_iff hneg.2.2.2.1, hpref]
    constructor
    · exact fun h => h.1
    · rintro rfl
      exact ⟨rfl, rfl⟩

/-- The client of `joinRun`, which supports H.264 only, goes on to exchange keys and to ask for its
    stream. -/
def streamRun : List HostSystemEvent :=
  joinRun ++
    [.session (.frame 1 Id.KeyExchange.code
        (HostCoordinator.keyExchangePayload Crypto.Session.clientPublic Crypto.Session.clientSalt)
        4 4),
      .call none [] {},
      .session (.frame 1 Id.SessionKeyReady.code [] 5 5),
      .call none [] {}]

theorem stream_codec_h264 :
    ∃ st, (runFrom (step Crypto.Session.record.replay) (started [] {} Crypto.Session.code)
        streamRun).app.streamers[0]? = some st ∧
      NegotiatedIn (history (step Crypto.Session.record.replay)
        (started [] {} Crypto.Session.code) streamRun) st.clientId ∧
      ∀ p ∈ history (step Crypto.Session.record.replay) (started [] {} Crypto.Session.code)
        streamRun, ∀ caps codec, p.1.Negotiates p.2 st.clientId caps codec →
          VideoCodec.H264 ∈ caps.supportedCodecs → st.config.codec = codec := by
  obtain ⟨st, hst⟩ := Option.isSome_iff_exists.1 (show ((runFrom
    (step Crypto.Session.record.replay) (started [] {} Crypto.Session.code)
      streamRun).app.streamers[0]?).isSome from by decide +kernel)
  obtain ⟨hneg, hcodec⟩ := stream_codec_iff Crypto.Session.record.replay [] {} Crypto.Session.code
    streamRun 0 st 47000 hst
  exact ⟨st, hst, hneg, fun p hp caps codec h hmem =>
    ((hcodec p hp caps codec h).2.2.2 hmem).1⟩

/-- A host that prefers HEVC agrees on H.264 with this client, and tells it so; the streamer gets an
    active channel, but encodes HEVC and announces HEVC. -/
theorem fallback_stream_keeps_preference :
    let s₀ := started [] { codec := .Hevc } Crypto.Session.code
    let s := runFrom (step Crypto.Session.record.replay) s₀ streamRun
    (history (step Crypto.Session.record.replay) s₀ streamRun).flatMap
        (fun p => (p.1.handle Crypto.Session.record.replay p.2).2.filterMap resultSent)
        = [(1, VideoCodec.H264.code)] ∧
      s.app.streamers.map (fun st =>
        (st.clientId, st.config.codec, st.channel.map Crypto.SecureChannel.active))
        = [(1, .Hevc, some true)] ∧
      (s.handle Crypto.Session.record.replay (.streamBound 0 47000)).2.filterMap startSent
        = [(1, VideoCodec.Hevc.code)] := by
  refine ⟨?_, ?_, ?_⟩
  · decide +kernel
  · decide +kernel
  · decide +kernel

end HostSystem

end RemotePlay.App
