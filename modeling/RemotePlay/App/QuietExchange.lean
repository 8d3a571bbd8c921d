import RemotePlay.App.ConnectedPair
import RemotePlay.Host.Lifecycle
import RemotePlay.Networking.ProtocolCodec

set_option autoImplicit false

/-! # Before a key exchange is answered

From the moment the host accepts the client, both coordinators send their `KEY_EXCHANGE`. Until one
of them answers, each of the four machines is in a quiet state: `QuietHost`, `QuietHostApp`,
`QuietClient` and `QuietClientApp` say what it holds, `HostMay`, `HostAppMay`, `ClientMay` and
`ClientAppMay` what it may do, and one lemma for each handler shows that it stays there. All frames
in flight are of a few kinds that decode (`ClientSends`, `HostSends`). -/

namespace RemotePlay.App

open Proto (Envelope Body Id Reason encodeMessage decodeMessage knownId)
open Crypto (Cng EcdhKeyPair SecureChannel kEcdhPubBytes)
open Host (HostSession HostEvent HostEffect HostTask)
open Client (ClientSession ClientEvent ClientEffect ClientTask)

/-! ## Payloads -/

/-- The host's `KEY_EXCHANGE`. -/
def KeyMaterial.hostPayload (m : KeyMaterial) : Bytes :=
  HostCoordinator.keyExchangePayload m.hostKeys.publicKey m.hostSalt

/-- The client's `KEY_EXCHANGE`. -/
def KeyMaterial.clientPayload (m : KeyMaterial) : Bytes :=
  HostCoordinator.keyExchangePayload m.clientKeys.publicKey m.clientSalt

theorem decode_keyExchangePayload {publicKey salt : Bytes} (hpub : publicKey.length = kEcdhPubBytes)
    (hsalt : salt.length = 16) :
    decodeMessage Id.KeyExchange.code (HostCoordinator.keyExchangePayload publicKey salt)
      = some { type := .KeyExchange, body := .keyExchange { publicKey, salt } } :=
  Proto.decodeMessage_encodeMessage
    { type := .KeyExchange, body := .keyExchange { publicKey, salt } } rfl ⟨hpub, hsalt⟩

/-- A salt of any other size makes a `KEY_EXCHANGE` that is not decoded. -/
theorem decode_keyExchangePayload_eq_none {publicKey salt : Bytes}
    (hpub : publicKey.length = kEcdhPubBytes) (hsalt : salt.length ≠ 16) :
    decodeMessage Id.KeyExchange.code (HostCoordinator.keyExchangePayload publicKey salt)
      = none := by
  have hstart : ({ data := publicKey ++ salt } : Net.ByteReader)
      = Net.readerAt [] (Net.ByteWriter.bytes publicKey ++ salt) := rfl
  have hread : Proto.readMsg .KeyExchange { data := publicKey ++ salt } = none := by
    simp only [Proto.readMsg, hstart, Net.ByteReader.bytes_readerAt [] salt publicKey 64 hpub]
    exact Proto.whenDone_bytes_readerAt _ salt 16 _ hsalt
  simp only [decodeMessage, Id.ofRaw_code, HostCoordinator.keyExchangePayload, encodeMessage,
    Proto.writeMsg, Net.ByteWriter.bytes, hread, Option.map_none]

/-- The envelope without a body does not decode as what its tag says. -/
theorem decode_sessionKeyReadyPayload :
    decodeMessage Id.SessionKeyReady.code HostCoordinator.sessionKeyReadyPayload = none := by
  decide +kernel

/-- The host's farewell to a client that timed out. -/
def timeoutPayload : Bytes :=
  encodeMessage
    { type := .HostReject
      body := .hostReject
        { reasonCode := Reason.InactivityTimeout.code
          reasonText := ascii "Connection timed out." } }

/-! ## What is in flight -/

/-- The frames a client sends before any exchange is answered. -/
inductive ClientSends (m : KeyMaterial) : UInt16 → Bytes → Prop where
  | ping (t : Proto.Msg.Ping) :
      ClientSends m Id.Ping.code (encodeMessage { type := .Ping, body := .ping t })
  | pong (t : Proto.Msg.Pong) :
      ClientSends m Id.Pong.code (encodeMessage { type := .Pong, body := .pong t })
  | keyExchange (hsalt : m.clientSalt.length = 16) :
      ClientSends m Id.KeyExchange.code m.clientPayload

/-- The frames a host sends before any exchange is answered. -/
inductive HostSends (m : KeyMaterial) : UInt16 → Bytes → Prop where
  | ping (t : Proto.Msg.Ping) :
      HostSends m Id.Ping.code (encodeMessage { type := .Ping, body := .ping t })
  | pong (t : Proto.Msg.Pong) :
      HostSends m Id.Pong.code (encodeMessage { type := .Pong, body := .pong t })
  | inputPermission (t : Proto.Msg.InputPermission) :
      HostSends m Id.InputPermission.code
        (encodeMessage { type := .InputPermission, body := .inputPermission t })
  | negotiationResult (t : Proto.Msg.NegotiationResult) (haccepted : t.accepted = true) :
      HostSends m Id.NegotiationResult.code
        (encodeMessage { type := .NegotiationResult, body := .negotiationResult t })
  | timeout : HostSends m Id.HostReject.code timeoutPayload
  | keyExchange (hsalt : m.hostSalt.length = 16) :
      HostSends m Id.KeyExchange.code m.hostPayload

/-! ## The host's session -/

/-- The session knows at most the one client, connected, and has nothing to send but the host's
    `KEY_EXCHANGE`. -/
structure QuietHost (m : KeyMaterial) (id : UInt32) (h : HostSession) : Prop where
  clients : ∀ a st, h.stateOf a = some st → a = id ∧ st = .Connected
  handler : h.appHandler = true
  tasks : ∀ t ∈ h.tasks, ∃ type : Host.AppType, type.1 = Id.KeyExchange.code ∧
    m.hostSalt.length = 16 ∧ t = .sendAppMessage id type m.hostPayload

/-- What the session may do in that state. -/
def HostMay (m : KeyMaterial) (id : UInt32) : HostEffect → Prop
  | .send _ type payload => HostSends m type payload
  | .sendAndClose _ type payload => type = Id.HostReject.code ∧ payload = timeoutPayload
  | .close _ => True
  | .onClientUpdated row => row.state = .Connected → row.id = id
  | .onInputPermissions _ _ => True
  | .onAppMessage clientId type payload =>
      clientId = id ∧ type = Id.KeyExchange.code ∧ payload = m.clientPayload ∧
        m.clientSalt.length = 16
  | _ => False

/-- A handler's result keeps the session quiet. -/
def QuietHostResult (m : KeyMaterial) (id : UInt32) (r : HostSession × List HostEffect) : Prop :=
  QuietHost m id r.1 ∧ ∀ eff ∈ r.2, HostMay m id eff

section HostSide

variable {m : KeyMaterial} {id : UInt32} {h : HostSession}

/-- A handler that drops clients at most, and posts nothing, keeps the session quiet. -/
theorem QuietHost.of_stateOf {h' : HostSession} (hq : QuietHost m id h)
    (hstate : ∀ a, h'.stateOf a = h.stateOf a ∨ h'.stateOf a = none)
    (hrest : h'.appHandler = h.appHandler ∧ h'.tasks ⊆ h.tasks) :
    QuietHost m id h' where
  clients := fun a st hst => by
    rcases hstate a with heq | hnone
    · exact hq.clients a st (heq ▸ hst)
    · exact absurd (hnone.symm.trans hst) (by simp)
  handler := hrest.1.trans hq.handler
  tasks := fun t ht => hq.tasks t (hrest.2 ht)

theorem QuietHost.result (hq : QuietHost m id h) : QuietHostResult m id (h, []) :=
  ⟨hq, fun eff hmem => absurd hmem (by simp)⟩

theorem hostMay_sendTo (clientId : UInt32) (msg : Envelope)
    (hsends : HostSends m msg.type.code (encodeMessage msg)) :
    ∀ eff ∈ h.sendTo clientId msg, HostMay m id eff := by
  intro eff hmem
  unfold HostSession.sendTo at hmem
  split at hmem
  · rw [List.mem_singleton.1 hmem]
    exact hsends
  · exact absurd hmem (by simp)

/-- The row `setState` reports is the client's own, or the default one. -/
theorem hostMay_setState (id : UInt32) (st : ConnectionState) :
    ∀ eff ∈ (h.setState id st).2, HostMay m id eff := by
  intro eff hmem
  unfold HostSession.setState at hmem
  split at hmem
  · exact absurd hmem (by simp)
  · rw [List.mem_singleton.1 hmem]
    intro hconn
    generalize hfind : List.find? _ _ = found at hconn ⊢
    cases found with
    | none => exact absurd hconn (by simp)
    | some row => simpa using List.find?_some hfind

theorem dropClient_rest (a : UInt32) (sendReject : Bool) (reason : Reason) (text : Bytes) :
    (h.dropClient a sendReject reason text).1.appHandler = h.appHandler ∧
      (h.dropClient a sendReject reason text).1.tasks ⊆ h.tasks := by
  unfold HostSession.dropClient HostSession.setState
  split
  · exact ⟨rfl, List.Subset.refl _⟩
  · split
    · exact ⟨rfl, List.Subset.refl _⟩
    · exact ⟨rfl, List.Subset.refl _⟩

theorem quiet_dropClient (hq : QuietHost m id h) (a : UInt32) :
    QuietHostResult m id
      (h.dropClient a true .InactivityTimeout (ascii "Connection timed out.")) := by
  refine ⟨hq.of_stateOf ?_ (dropClient_rest a _ _ _), ?_⟩
  · intro b
    rw [HostSession.stateOf_dropClient]
    split
    · exact Or.inr rfl
    · exact Or.inl rfl
  · intro eff hmem
    unfold HostSession.dropClient at hmem
    split at hmem
    · exact absurd hmem (by simp)
    next rec hrec =>
    obtain ⟨rfl, -⟩ := hq.clients a rec.state (h.stateOf_of_lookup a hrec)
    rcases List.mem_append.1 hmem with hfarewell | hupdated
    · rw [if_pos rfl] at hfarewell
      unfold HostSession.sendAndClose at hfarewell
      split at hfarewell
      · rw [List.mem_singleton.1 hfarewell]
        exact ⟨rfl, rfl⟩
      · exact absurd hfarewell (by simp)
    · exact hostMay_setState a _ eff hupdated

theorem probe_rest (now : Int) (a : UInt32) :
    (h.probe now a).1.appHandler = h.appHandler ∧ (h.probe now a).1.tasks ⊆ h.tasks := by
  unfold HostSession.probe
  split
  · exact ⟨rfl, List.Subset.refl _⟩
  · split
    · exact ⟨rfl, List.Subset.refl _⟩
    · exact ⟨rfl, List.Subset.refl _⟩

theorem quiet_probe (hq : QuietHost m id h) (now : Int) (a : UInt32) :
    QuietHostResult m id (h.probe now a) := by
  refine ⟨hq.of_stateOf (fun b => Or.inl (h.stateOf_probe b a now)) (probe_rest now a), ?_⟩
  intro eff hmem
  unfold HostSession.probe at hmem
  split at hmem
  · exact absurd hmem (by simp)
  split at hmem
  · exact hostMay_sendTo a _ (.ping _) eff hmem
  · exact absurd hmem (by simp)

theorem quiet_tick (hq : QuietHost m id h) (now : Int) :
    QuietHostResult m id (h.handle (.tick now)) := by
  simp only [HostSession.handle]
  split
  · exact hq.result
  · exact h.housekeeping_rule (QuietHost m id) (HostMay m id) now
      (fun t a ht => quiet_probe ht now a) (fun t a ht => quiet_dropClient ht a) hq

theorem quiet_task (hq : QuietHost m id h) (now : Int) :
    QuietHostResult m id (h.handle (.runTask now)) := by
  simp only [HostSession.handle]
  split
  · exact hq.result
  split
  · exact hq.result
  next task rest htasks =>
  obtain ⟨type, htype, hsalt, rfl⟩ := hq.tasks task (by simp [htasks])
  refine ⟨hq.of_stateOf (fun a => Or.inl rfl) ⟨rfl, by simp [htasks, HostSession.runTask]⟩, ?_⟩
  intro eff hmem
  simp only [HostSession.runTask, HostSession.runSendAppMessage] at hmem
  split at hmem
  · rw [List.mem_singleton.1 hmem, HostMay, htype]
    exact .keyExchange hsalt
  · exact absurd hmem (by simp)

theorem quiet_closed (hq : QuietHost m id h) :
    QuietHostResult m id (h.handle (.closed id)) := by
  simp only [HostSession.handle, HostSession.handleClientClosed]
  split
  · exact hq.result
  split
  · exact hq.result
  split
  · exact hq.result
  refine ⟨hq.of_stateOf ?_ ⟨rfl, List.Subset.refl _⟩, ?_⟩
  · intro a
    rw [HostSession.stateOf_rebuildSnapshot, HostSession.stateOf_erase]
    split
    · exact Or.inr rfl
    · exact Or.inl rfl
  · intro eff hmem
    rw [List.mem_singleton.1 hmem]
    exact fun _ => rfl

/-- A frame of a client the session knows goes to the `switch` once it decodes. -/
theorem handleFrame_eq {type : UInt16} {payload : Bytes} {env : Envelope} (now later : Int)
    (hdec : decodeMessage type payload = some env) :
    h.handleFrame id type payload now later
      = if h.stopping then (h, [])
        else match h.clients[id]? with
          | none => (h, [])
          | some rec =>
              (h.withClients (h.clients.insert id { rec with lastActivity := now })).dispatch
                id type payload later env.body := by
  unfold HostSession.handleFrame
  rw [Proto.knownId_of_decodeMessage hdec, hdec]
  rfl

theorem quiet_handlePong (hq : QuietHost m id h) (pong : Proto.Msg.Pong) (later : Int) :
    QuietHostResult m id (h.handlePong id pong later, []) := by
  refine ⟨hq.of_stateOf (fun a => Or.inl (h.stateOf_handlePong a id pong later)) ?_,
    fun eff hmem => absurd hmem (by simp)⟩
  unfold HostSession.handlePong
  split
  · exact ⟨rfl, List.Subset.refl _⟩
  · exact ⟨rfl, List.Subset.refl _⟩

/-- A connected client's `KEY_EXCHANGE` is forwarded. -/
theorem quiet_handleOther (hq : QuietHost m id h) (hconn : h.stateOf id = some .Connected)
    (hsalt : m.clientSalt.length = 16) :
    QuietHostResult m id (h.handleOther id Id.KeyExchange.code m.clientPayload) := by
  obtain ⟨rec, hrec, hstate⟩ := Option.map_eq_some_iff.1 hconn
  unfold HostSession.handleOther
  dsimp only
  rw [if_pos ⟨by decide, by simp [hrec, hstate], hq.handler⟩]
  refine ⟨hq, ?_⟩
  intro eff hmem
  rw [List.mem_singleton.1 hmem]
  exact ⟨rfl, rfl, rfl, hsalt⟩

theorem quiet_frame (hq : QuietHost m id h) (hpub : m.clientKeys.publicKey.length = kEcdhPubBytes)
    {type : UInt16} {payload : Bytes} (hsends : ClientSends m type payload) (now later : Int) :
    QuietHostResult m id (h.handle (.frame id type payload now later)) := by
  -- every kind of frame in flight decodes, and its handler keeps the session quiet
  obtain ⟨env, hdec, hdispatch⟩ : ∃ env, decodeMessage type payload = some env ∧
      ∀ h', QuietHost m id h' → h'.stateOf id = some .Connected →
        QuietHostResult m id (h'.dispatch id type payload later env.body) := by
    cases hsends with
    | ping t =>
        exact ⟨{ type := .Ping, body := .ping t },
          Proto.decodeMessage_encodeMessage { type := .Ping, body := .ping t } rfl trivial,
          fun h' hq' _ => ⟨hq', hostMay_sendTo id _ (.pong _)⟩⟩
    | pong t =>
        exact ⟨{ type := .Pong, body := .pong t },
          Proto.decodeMessage_encodeMessage { type := .Pong, body := .pong t } rfl trivial,
          fun h' hq' _ => quiet_handlePong hq' t later⟩
    | keyExchange hsalt =>
        exact ⟨_, decode_keyExchangePayload hpub hsalt,
          fun h' hq' hconn => quiet_handleOther hq' hconn hsalt⟩
  simp only [HostSession.handle, handleFrame_eq now later hdec]
  split
  · exact hq.result
  split
  · exact hq.result
  split
  · exact hq.result
  next rec hrec =>
  have hsame := fun a => h.stateOf_insert_same id a { rec with lastActivity := now } hrec rfl
  refine hdispatch _ (hq.of_stateOf (fun a => Or.inl (hsame a)) ⟨rfl, List.Subset.refl _⟩) ?_
  have hstate := h.stateOf_of_lookup id hrec
  rw [hsame id, hstate, (hq.clients id rec.state hstate).2]

end HostSide

/-! ## The host's coordinator -/

/-- Streams are waiting for the client's `KEY_EXCHANGE`, and no streamer exists. -/
structure QuietHostApp (m : KeyMaterial) (k : HostCoordinator) : Prop where
  streams : ∀ (a : UInt32) (cs : ClientStream), k.streams[a]? = some cs →
    cs.keysReady = false ∧ cs.channel = none ∧ cs.ecdh = some m.hostKeys ∧
      cs.ourSalt = m.hostSalt ∧ m.hostSalt.length = 16
  streamers : k.streamers = []

/-- What the coordinator may do in that state. -/
def HostAppMay (m : KeyMaterial) (id : UInt32) : HostCoordinatorEffect → Prop
  | .sendAppMessage clientId type payload =>
      clientId = id ∧ type = Id.KeyExchange.code ∧ payload = m.hostPayload ∧
        m.hostSalt.length = 16
  | .kick _ => False
  | _ => True

def QuietHostAppResult (m : KeyMaterial) (id : UInt32)
    (r : HostCoordinator × List HostCoordinatorEffect) : Prop :=
  QuietHostApp m r.1 ∧ ∀ eff ∈ r.2, HostAppMay m id eff

section HostAppSide

variable {c : Cng} {m : KeyMaterial} {id : UInt32} {k : HostCoordinator}

theorem QuietHostApp.result (hq : QuietHostApp m k) {out : List HostCoordinatorEffect}
    (hout : ∀ eff ∈ out, HostAppMay m id eff) : QuietHostAppResult m id (k, out) := ⟨hq, hout⟩

theorem hostAppMay_stopStreamer (streamer : Option Nat) (playerIndex : UInt8) :
    ∀ eff ∈ (streamer.map HostCoordinatorEffect.stopStreamer).toList ++
      [.clientDisconnected playerIndex], HostAppMay m id eff := by
  intro eff hmem
  cases streamer with
  | none =>
      rw [List.mem_singleton.1 hmem]
      trivial
  | some index =>
      rcases List.mem_cons.1 hmem with rfl | hmem
      · trivial
      · rw [List.mem_singleton.1 hmem]
        trivial

theorem quiet_beginKeyExchange (hq : QuietHostApp m k)
    (hsalt : k.streams[id]? = none → m.hostSalt.length = 16) :
    QuietHostAppResult m id (k.beginKeyExchange id (some m.hostKeys) m.hostSalt) := by
  unfold HostCoordinator.beginKeyExchange
  split
  · exact hq.result (by simp)
  next hnone =>
  refine ⟨⟨?_, hq.streamers⟩, ?_⟩
  · intro a cs hcs
    rcases of_lookup_insert hcs with ⟨-, rfl⟩ | ⟨-, hcs⟩
    · exact ⟨rfl, rfl, rfl, rfl, hsalt hnone⟩
    · exact hq.streams a cs hcs
  · intro eff hmem
    rw [List.mem_singleton.1 hmem]
    exact ⟨rfl, rfl, rfl, hsalt hnone⟩

theorem quiet_teardownClient (hq : QuietHostApp m k) (a : UInt32) :
    QuietHostAppResult m id (k.teardownClient a) := by
  unfold HostCoordinator.teardownClient
  split
  · exact hq.result (by simp)
  · refine ⟨⟨?_, hq.streamers⟩, hostAppMay_stopStreamer _ _⟩
    intro b cs hcs
    exact hq.streams b cs (of_lookup_erase hcs).2

/-- A callback in the queue is harmless as long as it neither starts an exchange with a bad salt nor
    brings a `KEY_EXCHANGE` to a stream that waits for it. -/
theorem quiet_hostInvocation (hq : QuietHostApp m k)
    (hpub : m.clientKeys.publicKey.length = kEcdhPubBytes) {call : HostEffect}
    {e : HostCoordinatorEvent} (hcall : HostMay m id call) (hinv : hostInvocation m call = some e)
    (hsalt : ∀ row, call = .onClientUpdated row → row.state = .Connected →
      k.streams[row.id]? = none → m.hostSalt.length = 16)
    (hanswer : ∀ clientId type payload, call = .onAppMessage clientId type payload →
      k.streams[clientId]? = none) : QuietHostAppResult m id (k.handle c e) := by
  cases call with
  | onClientUpdated row =>
      obtain rfl := Option.some.inj hinv
      simp only [HostCoordinator.handle, HostCoordinator.handleClientUpdated]
      split
      · next hconn =>
          obtain rfl := hcall hconn
          exact quiet_beginKeyExchange hq (hsalt row rfl hconn)
      split
      · exact quiet_teardownClient hq row.id
      · exact hq.result (by simp)
  | onInputPermissions clientId perms =>
      obtain rfl := Option.some.inj hinv
      refine hq.result ?_
      intro eff hmem
      unfold HostCoordinator.handleInputPermissions at hmem
      split at hmem
      · exact absurd hmem (by simp)
      rcases List.mem_cons.1 hmem with rfl | hmem
      · trivial
      · split at hmem
        · rw [List.mem_singleton.1 hmem]
          trivial
        · exact absurd hmem (by simp)
  | onAppMessage clientId type payload =>
      obtain rfl := Option.some.inj hinv
      -- no stream for this client, so the message is dropped unanswered
      have hnone := hanswer clientId type payload rfl
      obtain ⟨-, rfl, rfl, hclient⟩ := hcall
      simp only [HostCoordinator.handle, HostCoordinator.handleAppMessage,
        KeyMaterial.clientPayload, decode_keyExchangePayload hpub hclient,
        HostCoordinator.handleKeyExchange, hnone]
      exact hq.result (by simp)
  | _ => exact absurd hinv (by simp [hostInvocation])

/-! Streamer workers find no streamer to report on. -/

theorem quiet_hostStreamBound (hq : QuietHostApp m k) (index : Nat) (udpPort : UInt16) :
    QuietHostAppResult m id (k.handle c (.streamBound index udpPort)) := by
  have hnone : k.streamers[index]? = none := by simp [hq.streamers]
  exact hq.result (by simp [HostCoordinator.handleStreamBound, hnone])

theorem quiet_hostStreamResult (hq : QuietHostApp m k) (index : Nat) (ok : Bool) (err : Bytes) :
    QuietHostAppResult m id (k.handle c (.streamResult index ok err)) := by
  have hnone : k.streamers[index]? = none := by simp [hq.streamers]
  exact hq.result (by simp [HostCoordinator.handleStreamResult, hnone])

theorem quiet_hostStreamError (hq : QuietHostApp m k) (a : UInt32) (running : Bool) :
    QuietHostAppResult m id (k.handle c (.streamError a running)) := by
  refine hq.result ?_
  intro eff hmem
  unfold HostCoordinator.handleStreamError at hmem
  split at hmem
  · exact absurd hmem (by simp)
  split at hmem
  · exact absurd hmem (by simp)
  split at hmem
  · exact absurd hmem (by simp)
  · exact hostAppMay_stopStreamer (some _) _ eff hmem

/-- The coordinator's calls leave the session quiet. -/
theorem quiet_callHost {h : HostSession} (hq : QuietHost m id h) (out : List HostCoordinatorEffect)
    (hout : ∀ eff ∈ out, HostAppMay m id eff) :
    QuietHost m id (out.foldl ConnectedPair.callHost h) := by
  induction out generalizing h with
  | nil => exact hq
  | cons eff out ih =>
      refine ih ?_ (fun eff' hmem => hout eff' (List.mem_cons_of_mem _ hmem))
      have hmay := hout eff (List.mem_cons_self ..)
      cases eff with
      | sendAppMessage clientId type payload =>
          obtain ⟨rfl, rfl, rfl, hsalt⟩ := hmay
          refine ⟨hq.clients, hq.handler, ?_⟩
          intro t ht
          rcases List.mem_append.1 ht with ht | ht
          · exact hq.tasks t ht
          · exact ⟨_, rfl, hsalt, List.mem_singleton.1 ht⟩
      | kick clientId => exact hmay.elim
      | _ => exact hq

end HostAppSide

/-! ## The client's session -/

/-- The session has nothing to send but the client's `KEY_EXCHANGE`. -/
def QuietClient (m : KeyMaterial) (k : ClientSession) : Prop :=
  ∀ t ∈ k.tasks, t = .sendAppMessage Id.KeyExchange.code m.clientPayload ∧ m.clientSalt.length = 16

/-- What the session may do in that state. -/
def ClientMay (m : KeyMaterial) : ClientEffect → Prop
  | .send type payload => ClientSends m type payload
  | .sendAndClose _ _ => False
  | .onError message => message ≠ ClientSession.malformedError
  | .onAppMessage type payload =>
      type = Id.KeyExchange.code ∧ payload = m.hostPayload ∧ m.hostSalt.length = 16
  | _ => True

def QuietClientResult (m : KeyMaterial) (r : ClientSession × List ClientEffect) : Prop :=
  QuietClient m r.1 ∧ ∀ eff ∈ r.2, ClientMay m eff

section ClientSide

variable {m : KeyMaterial} {k : ClientSession}

theorem QuietClient.result (hq : QuietClient m k) : QuietClientResult m (k, []) :=
  ⟨hq, fun eff hmem => absurd hmem (by simp)⟩

theorem quiet_send (hq : QuietClient m k) (msg : Envelope)
    (hsends : ClientSends m msg.type.code (encodeMessage msg)) :
    QuietClientResult m (k.send msg) := by
  unfold ClientSession.send
  split
  · exact hq.result
  · refine ⟨hq, ?_⟩
    intro eff hmem
    rw [List.mem_singleton.1 hmem]
    exact hsends

theorem quiet_finish (hq : QuietClient m k) (finalState : ConnectionState) (reason : Bytes) :
    QuietClientResult m (k.finish finalState reason) := by
  refine ⟨hq, ?_⟩
  intro eff hmem
  simp only [ClientSession.finish, List.mem_append, List.mem_singleton] at hmem
  rcases hmem with (rfl | hclose) | rfl
  · trivial
  · split at hclose
    · rw [List.mem_singleton.1 hclose]
      trivial
    · exact absurd hclose (by simp)
  · trivial

/-- The report on a rejection is not the one on a malformed message. -/
theorem rejected_ne_malformed (text : Bytes) :
    ascii "Host rejected: " ++ text ≠ ClientSession.malformedError := by
  intro heq
  have htake := congrArg (List.take 6) heq
  rw [List.take_append_of_le_length (by decide)] at htake
  exact absurd htake (by decide)

theorem quiet_hostReject (hq : QuietClient m k) (reject : Proto.Msg.HostReject) :
    QuietClientResult m (k.handleHostReject reject) := by
  obtain ⟨hfinish, hout⟩ := quiet_finish hq .Disconnected
    (ascii "Host rejected: " ++ reject.reasonText)
  refine ⟨hfinish, ?_⟩
  intro eff hmem
  rcases List.mem_append.1 hmem with hmem | hmem
  · exact hout eff hmem
  · rw [List.mem_singleton.1 hmem]
    exact rejected_ne_malformed reject.reasonText

theorem quiet_negotiation (hq : QuietClient m k) (result : Proto.Msg.NegotiationResult)
    (haccepted : result.accepted = true) : QuietClientResult m (k.handleNegotiation result) := by
  unfold ClientSession.handleNegotiation
  rw [if_neg (by simp [haccepted])]
  refine ⟨hq, ?_⟩
  intro eff hmem
  simp only [ClientSession.setState, List.mem_append, List.mem_singleton] at hmem
  rcases hmem with rfl | rfl
  · trivial
  · trivial

theorem quiet_clientOther (hq : QuietClient m k) (hsalt : m.hostSalt.length = 16) :
    QuietClientResult m (k, k.handleOther Id.KeyExchange.code m.hostPayload) := by
  refine ⟨hq, ?_⟩
  intro eff hmem
  unfold ClientSession.handleOther at hmem
  split at hmem
  · rw [List.mem_singleton.1 hmem]
    exact ⟨rfl, rfl, hsalt⟩
  · exact absurd hmem (by simp)

theorem quiet_clientFrame (hq : QuietClient m k)
    (hpub : m.hostKeys.publicKey.length = kEcdhPubBytes) {type : UInt16} {payload : Bytes}
    (hsends : HostSends m type payload) (now later : Int) :
    QuietClientResult m (k.handle (.frame type payload now later)) := by
  obtain ⟨env, hdec, hdispatch⟩ : ∃ env, decodeMessage type payload = some env ∧
      ∀ k', QuietClient m k' → QuietClientResult m (k'.dispatch type payload later env.body) := by
    cases hsends with
    | ping t =>
        exact ⟨{ type := .Ping, body := .ping t },
          Proto.decodeMessage_encodeMessage { type := .Ping, body := .ping t } rfl trivial,
          fun k' hq' => quiet_send hq' _ (.pong _)⟩
    | pong t =>
        exact ⟨{ type := .Pong, body := .pong t },
          Proto.decodeMessage_encodeMessage { type := .Pong, body := .pong t } rfl trivial,
          fun k' hq' => ⟨hq', fun eff hmem => absurd hmem (by simp [ClientSession.dispatch])⟩⟩
    | inputPermission t =>
        refine ⟨{ type := .InputPermission, body := .inputPermission t },
          Proto.decodeMessage_encodeMessage
            { type := .InputPermission, body := .inputPermission t } rfl trivial,
          fun k' hq' => ⟨hq', fun eff hmem => ?_⟩⟩
        rw [List.mem_singleton.1 hmem]
        trivial
    | negotiationResult t haccepted =>
        -- the note is cut to the protocol's cap on strings
        exact ⟨{ type := .NegotiationResult
                 body := .negotiationResult { t with note := t.note.take 1024 } },
          Proto.decodeMessage_encodeMessage
            { type := .NegotiationResult, body := .negotiationResult t } rfl trivial,
          fun k' hq' => quiet_negotiation hq' _ haccepted⟩
    | timeout =>
        exact ⟨_, Proto.decodeMessage_encodeMessage
            { type := .HostReject
              body := .hostReject
                { reasonCode := Reason.InactivityTimeout.code
                  reasonText := ascii "Connection timed out." } } rfl trivial,
          fun k' hq' => quiet_hostReject hq' _⟩
    | keyExchange hsalt =>
        exact ⟨_, decode_keyExchangePayload hpub hsalt, fun k' hq' => quiet_clientOther hq' hsalt⟩
  simp only [ClientSession.handle, ClientSession.handleFrame]
  split
  · exact hq.result
  split
  · exact hq.result
  rw [Proto.knownId_of_decodeMessage hdec, hdec]
  exact hdispatch _ hq

theorem quiet_clientTask (hq : QuietClient m k) : QuietClientResult m (k.handle .runTask) := by
  simp only [ClientSession.handle]
  split
  · exact hq.result
  split
  · exact hq.result
  next task rest htasks =>
  obtain ⟨rfl, hsalt⟩ := hq task (by simp [htasks])
  refine ⟨fun t ht => hq t (by simp [htasks, show t ∈ rest from ht]), ?_⟩
  intro eff hmem
  simp only [ClientSession.runTask] at hmem
  split at hmem
  · rw [List.mem_singleton.1 hmem]
    exact .keyExchange hsalt
  · exact absurd hmem (by simp)

theorem quiet_clientClosed (hq : QuietClient m k) (lost : Option Bytes) :
    QuietClientResult m (k.handle (.closed lost)) := by
  simp only [ClientSession.handle, ClientSession.handleClosed]
  split
  · exact hq.result
  split
  · exact hq.result
  cases lost with
  | none => exact quiet_finish hq _ _
  | some text => exact quiet_finish hq _ _

theorem quiet_heartbeat (hq : QuietClient m k) (now later : Int) :
    QuietClientResult m (k.handle (.heartbeat now later)) := by
  simp only [ClientSession.handle, ClientSession.startHeartbeat]
  split
  · exact hq.result
  split
  · exact hq.result
  split
  · exact quiet_finish hq _ _
  split
  · exact quiet_send hq _ (.ping _)
  · exact hq.result

theorem quiet_endStop (hq : QuietClient m k) : QuietClientResult m (k.handle .endStop) := by
  simp only [ClientSession.handle]
  split
  · exact hq.result
  split
  · refine ⟨hq, ?_⟩
    intro eff hmem
    rw [List.mem_singleton.1 hmem]
    trivial
  · exact ⟨hq, fun eff hmem => absurd hmem (by simp)⟩

end ClientSide

/-! ## The client's coordinator -/

/-- The coordinator has sent its `KEY_EXCHANGE` at most, and has no streamer. -/
structure QuietClientApp (m : KeyMaterial) (k : ClientCoordinator) : Prop where
  ecdh : ∀ kp, k.ecdh = some kp →
    kp = m.clientKeys ∧ k.ourSalt = m.clientSalt ∧ m.clientSalt.length = 16
  streamer : k.streamer = none
  watchdog : k.streamStartWatchdog = false

/-- What the coordinator may do in that state. -/
def ClientAppMay (m : KeyMaterial) : ClientCoordinatorEffect → Prop
  | .sendAppMessage type payload =>
      type = Id.KeyExchange.code ∧ payload = m.clientPayload ∧ m.clientSalt.length = 16
  | .disconnect => False
  | _ => True

def QuietClientAppResult (m : KeyMaterial)
    (r : ClientCoordinator × List ClientCoordinatorEffect) : Prop :=
  QuietClientApp m r.1 ∧ ∀ eff ∈ r.2, ClientAppMay m eff

section ClientAppSide

variable {c : Cng} {m : KeyMaterial} {k : ClientCoordinator}

theorem QuietClientApp.result (hq : QuietClientApp m k) : QuietClientAppResult m (k, []) :=
  ⟨hq, fun eff hmem => absurd hmem (by simp)⟩

theorem quiet_clientBeginKeyExchange (hq : QuietClientApp m k) (connected : Bool)
    (hsalt : k.ecdh = none → k.client = true → connected = true → m.clientSalt.length = 16) :
    QuietClientAppResult m (k.beginKeyExchange connected (some m.clientKeys) m.clientSalt) := by
  unfold ClientCoordinator.beginKeyExchange
  split
  · exact hq.result
  next hready =>
  simp only [not_or, Option.not_isSome_iff_eq_none, Bool.not_eq_true', Bool.not_eq_false] at hready
  have hlen := hsalt hready.1 hready.2.1 hready.2.2
  refine ⟨⟨fun kp hkp => ⟨(Option.some.inj hkp).symm, rfl, hlen⟩, hq.streamer, hq.watchdog⟩, ?_⟩
  intro eff hmem
  rw [List.mem_singleton.1 hmem]
  exact ⟨rfl, rfl, hlen⟩

/-- As for the host: a callback in the queue is harmless unless it starts an exchange with a bad
    salt or brings a `KEY_EXCHANGE` to a coordinator that waits for it. -/
theorem quiet_clientInvocation (hq : QuietClientApp m k)
    (hpub : m.hostKeys.publicKey.length = kEcdhPubBytes) {call : ClientEffect}
    {e : ClientCoordinatorEvent} {connected : Bool} (hcall : ClientMay m call)
    (hinv : clientInvocation m connected call = some e)
    (hsalt : call = .onState .Connected → k.ecdh = none → k.client = true → connected = true →
      m.clientSalt.length = 16)
    (hanswer : ∀ type payload, call = .onAppMessage type payload → k.ecdh = none) :
    QuietClientAppResult m (k.handle c e) := by
  cases call with
  | onState state =>
      obtain rfl := Option.some.inj hinv
      cases state with
      | Connected => exact quiet_clientBeginKeyExchange hq connected (hsalt rfl)
      | Disconnected =>
          refine ⟨hq, ?_⟩
          intro eff hmem
          simp [ClientCoordinator.handle, ClientCoordinator.handleState,
            ClientCoordinator.stopCurrent, hq.streamer] at hmem
      | _ => exact hq.result
  | onConnected status =>
      obtain rfl := Option.some.inj hinv
      exact ⟨⟨hq.ecdh, hq.streamer, hq.watchdog⟩, fun eff hmem => absurd hmem (by simp
        [ClientCoordinator.handle])⟩
  | onAppMessage type payload =>
      obtain rfl := Option.some.inj hinv
      have hnone := hanswer type payload rfl
      obtain ⟨rfl, rfl, hhost⟩ := hcall
      simp only [ClientCoordinator.handle, ClientCoordinator.handleAppMessage,
        KeyMaterial.hostPayload, decode_keyExchangePayload hpub hhost,
        ClientCoordinator.handleKeyExchange, hnone]
      exact hq.result
  | _ => exact absurd hinv (by simp [clientInvocation])

theorem quiet_clientStreamResult (hq : QuietClientApp m k) (ok : Bool) (err : Bytes) :
    QuietClientAppResult m (k.handle c (.streamResult ok err)) := by
  simp only [ClientCoordinator.handle]
  split
  · exact ⟨⟨hq.ecdh, hq.streamer, rfl⟩, fun eff hmem => absurd hmem (by simp)⟩
  · refine ⟨hq, ?_⟩
    intro eff hmem
    rw [List.mem_singleton.1 hmem]
    trivial

theorem quiet_clientWatchdog (hq : QuietClientApp m k) (running : Bool) :
    QuietClientAppResult m (k.handle c (.watchdog running)) := by
  simp only [ClientCoordinator.handle, ClientCoordinator.onStreamStartWatchdog, hq.watchdog]
  exact hq.result

/-- The coordinator's calls leave the session quiet. -/
theorem quiet_callClient {s : ClientSession} (hq : QuietClient m s)
    (out : List ClientCoordinatorEffect) (hout : ∀ eff ∈ out, ClientAppMay m eff) :
    QuietClient m (out.foldl ConnectedPair.callClient s) := by
  induction out generalizing s with
  | nil => exact hq
  | cons eff out ih =>
      refine ih ?_ (fun eff' hmem => hout eff' (List.mem_cons_of_mem _ hmem))
      have hmay := hout eff (List.mem_cons_self ..)
      cases eff with
      | sendAppMessage type payload =>
          obtain ⟨rfl, rfl, hsalt⟩ := hmay
          intro t ht
          rcases List.mem_append.1 (show t ∈ s.tasks ++ _ from ht) with ht | ht
          · exact hq t ht
          · exact ⟨List.mem_singleton.1 ht, hsalt⟩
      | disconnect => exact hmay.elim
      | _ => exact hq

end ClientAppSide

end RemotePlay.App
