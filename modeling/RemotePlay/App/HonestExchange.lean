import RemotePlay.App.QuietExchange
import RemotePlay.Lib.Runs
import RemotePlay.Security.KeySchedule

set_option autoImplicit false

/-! # An honest key exchange

The pair stays `Unanswered` until a coordinator that has sent its own `KEY_EXCHANGE` handles the
peer's. The answer is the one message whose envelope is built with a tag and no body: what goes out
is the encoding of an empty `CLIENT_HELLO`, which is no `SESSION_KEY_READY`. -/

namespace RemotePlay.App

open Proto (Envelope Body Id Reason encodeMessage decodeMessage)
open Crypto (Cng EcdhKeyPair SecureChannel kEcdhPubBytes)
open Host (HostSession HostEvent HostEffect)
open Client (ClientSession ClientEvent ClientEffect)

/-! ## The pair -/

namespace ConnectedPair

/-- Nothing but unanswered key exchanges and session upkeep is under way. -/
structure Unanswered (m : KeyMaterial) (s : ConnectedPair) : Prop where
  host : QuietHost m s.clientId s.host
  hostApp : QuietHostApp m s.hostApp
  hostCalls : ∀ call ∈ s.hostCalls, HostMay m s.clientId call
  toClient : ∀ f ∈ s.toClient.frames, HostSends m f.1 f.2
  client : QuietClient m s.client
  clientApp : QuietClientApp m s.clientApp
  clientCalls : ∀ call ∈ s.clientCalls, ClientMay m call
  toHost : ∀ f ∈ s.toHost.frames, ClientSends m f.1 f.2

/-- What the four machines may do then. -/
def May (m : KeyMaterial) (id : UInt32) : PairEffect → Prop
  | .host eff => HostMay m id eff
  | .hostApp eff => HostAppMay m id eff
  | .client eff => ClientMay m eff
  | .clientApp eff => ClientAppMay m eff

/-- A step's result keeps the pair unanswered. -/
def UnansweredResult (m : KeyMaterial) (id : UInt32) (r : ConnectedPair × List PairEffect) : Prop :=
  Unanswered m r.1 ∧ ∀ eff ∈ r.2, May m id eff

section Machines

variable {c : Cng} {m : KeyMaterial} {s : ConnectedPair}

theorem mem_put {w : Wire} {type : UInt16} {payload : Bytes} {f : UInt16 × Bytes}
    (h : f ∈ (w.put type payload).frames) : f ∈ w.frames ∨ f = (type, payload) := by
  unfold Wire.put at h
  split at h
  · rcases List.mem_append.1 h with h | h
    · exact Or.inl h
    · exact Or.inr (List.mem_singleton.1 h)
  · exact Or.inl h

theorem carryHost_sends_one {id : UInt32} {eff : HostEffect} (hmay : HostMay m id eff) {w : Wire}
    (hw : ∀ f ∈ w.frames, HostSends m f.1 f.2) :
    ∀ f ∈ (w.carryHost id eff).frames, HostSends m f.1 f.2 := by
  intro f hf
  cases eff with
  | send clientId type payload =>
      simp only [Wire.carryHost] at hf
      split at hf
      · rcases mem_put hf with hf | rfl
        · exact hw f hf
        · exact hmay
      · exact hw f hf
  | sendAndClose clientId type payload =>
      -- the farewell to a client that timed out is the last frame of the connection
      obtain ⟨rfl, rfl⟩ := hmay
      simp only [Wire.carryHost] at hf
      split at hf
      · rcases mem_put hf with hf | rfl
        · exact hw f hf
        · exact .timeout
      · exact hw f hf
  | close clientId =>
      simp only [Wire.carryHost] at hf
      split at hf
      · exact hw f hf
      · exact hw f hf
  | _ => exact hw f hf

theorem carryHost_sends {id : UInt32} (out : List HostEffect) (hout : ∀ eff ∈ out, HostMay m id eff)
    (w : Wire) (hw : ∀ f ∈ w.frames, HostSends m f.1 f.2) :
    ∀ f ∈ (out.foldl (Wire.carryHost id) w).frames, HostSends m f.1 f.2 := by
  induction out generalizing w with
  | nil => exact hw
  | cons eff out ih =>
      have hone := carryHost_sends_one (hout eff (List.mem_cons_self ..)) hw
      exact ih (fun eff' hmem => hout eff' (List.mem_cons_of_mem _ hmem)) _ hone

theorem carryClient_sends_one {eff : ClientEffect} (hmay : ClientMay m eff) {w : Wire}
    (hw : ∀ f ∈ w.frames, ClientSends m f.1 f.2) :
    ∀ f ∈ (w.carryClient eff).frames, ClientSends m f.1 f.2 := by
  intro f hf
  cases eff with
  | send type payload =>
      rcases mem_put hf with hf | rfl
      · exact hw f hf
      · exact hmay
  | sendAndClose type payload => exact hmay.elim
  | _ => exact hw f hf

theorem carryClient_sends (out : List ClientEffect) (hout : ∀ eff ∈ out, ClientMay m eff)
    (w : Wire) (hw : ∀ f ∈ w.frames, ClientSends m f.1 f.2) :
    ∀ f ∈ (out.foldl Wire.carryClient w).frames, ClientSends m f.1 f.2 := by
  induction out generalizing w with
  | nil => exact hw
  | cons eff out ih =>
      have hone := carryClient_sends_one (hout eff (List.mem_cons_self ..)) hw
      exact ih (fun eff' hmem => hout eff' (List.mem_cons_of_mem _ hmem)) _ hone

theorem Unanswered.onHost (hu : Unanswered m s) {e : HostEvent}
    (hr : QuietHostResult m s.clientId (s.host.handle e)) :
    UnansweredResult m s.clientId (s.onHost m e) := by
  obtain ⟨hhost, hout⟩ := hr
  refine ⟨{ hu with
    host := hhost
    hostCalls := ?_
    toClient := carryHost_sends _ hout _ hu.toClient }, ?_⟩
  · intro call hmem
    rcases List.mem_append.1 hmem with hmem | hmem
    · exact hu.hostCalls call hmem
    · exact hout call (List.mem_filter.1 hmem).1
  · intro eff hmem
    obtain ⟨heff, hin, rfl⟩ := List.mem_map.1 hmem
    exact hout heff hin

theorem Unanswered.onHostApp (hu : Unanswered m s) {e : HostCoordinatorEvent}
    (hr : QuietHostAppResult m s.clientId (s.hostApp.handle c e)) :
    UnansweredResult m s.clientId (s.onHostApp c e) := by
  obtain ⟨happ, hout⟩ := hr
  refine ⟨{ hu with host := quiet_callHost hu.host _ hout, hostApp := happ }, ?_⟩
  intro eff hmem
  obtain ⟨heff, hin, rfl⟩ := List.mem_map.1 hmem
  exact hout heff hin

theorem Unanswered.onClient (hu : Unanswered m s) {e : ClientEvent}
    (hr : QuietClientResult m (s.client.handle e)) :
    UnansweredResult m s.clientId (s.onClient m e) := by
  obtain ⟨hclient, hout⟩ := hr
  refine ⟨{ hu with
    client := hclient
    clientCalls := ?_
    toHost := carryClient_sends _ hout _ hu.toHost }, ?_⟩
  · intro call hmem
    rcases List.mem_append.1 hmem with hmem | hmem
    · exact hu.clientCalls call hmem
    · exact hout call (List.mem_filter.1 hmem).1
  · intro eff hmem
    obtain ⟨heff, hin, rfl⟩ := List.mem_map.1 hmem
    exact hout heff hin

theorem Unanswered.onClientApp (hu : Unanswered m s) {e : ClientCoordinatorEvent}
    (hr : QuietClientAppResult m (s.clientApp.handle c e)) :
    UnansweredResult m s.clientId (s.onClientApp c e) := by
  obtain ⟨happ, hout⟩ := hr
  refine ⟨{ hu with client := quiet_callClient hu.client _ hout, clientApp := happ }, ?_⟩
  intro eff hmem
  obtain ⟨heff, hin, rfl⟩ := List.mem_map.1 hmem
  exact hout heff hin

theorem Unanswered.result (hu : Unanswered m s) : UnansweredResult m s.clientId (s, []) :=
  ⟨hu, fun eff hmem => absurd hmem (by simp)⟩

end Machines

/-! ## Steps that answer -/

/-- A coordinator that has sent its own `KEY_EXCHANGE` handles one. -/
def Answers (s : ConnectedPair) : PairEvent → Prop
  | .hostCall => ∃ clientId type payload rest env kx cs,
      s.hostCalls = .onAppMessage clientId type payload :: rest ∧
        decodeMessage type payload = some env ∧ env.body = .keyExchange kx ∧
        s.hostApp.streams[clientId]? = some cs ∧ cs.ecdh.isSome ∧ cs.keysReady = false
  | .clientCall => ∃ type payload rest env kx,
      s.clientCalls = .onAppMessage type payload :: rest ∧
        decodeMessage type payload = some env ∧ env.body = .keyExchange kx ∧
        s.clientApp.ecdh.isSome
  | _ => False

/-- A coordinator starts its exchange although `randomBytes` failed it. -/
def StartsUnsalted (m : KeyMaterial) (s : ConnectedPair) : PairEvent → Prop
  | .hostCall => ∃ row rest, s.hostCalls = .onClientUpdated row :: rest ∧
      row.state = .Connected ∧ s.hostApp.streams[row.id]? = none ∧ m.hostSalt.length ≠ 16
  | .clientCall => ∃ rest, s.clientCalls = .onState .Connected :: rest ∧
      s.clientApp.ecdh = none ∧ s.clientApp.client = true ∧ s.client.running = true ∧
      m.clientSalt.length ≠ 16
  | _ => False

/-- What a step of an honest run must look like: payloads handed to `sendAppMessage` decode, the
    host does not drop the client for a protocol error, the client reports no malformed message. -/
structure Clean (out : List PairEffect) : Prop where
  hostPayloads : ∀ clientId type payload,
    .hostApp (.sendAppMessage clientId type payload) ∈ out → (decodeMessage type payload).isSome
  clientPayloads : ∀ type payload,
    .clientApp (.sendAppMessage type payload) ∈ out → (decodeMessage type payload).isSome
  no_protocol_error : ∀ clientId text,
    .host (.sendAndClose clientId Id.HostReject.code (encodeMessage
      { type := .HostReject
        body := .hostReject
          { reasonCode := Reason.ProtocolError.code, reasonText := text } })) ∉ out
  no_malformed : .client (.onError ClientSession.malformedError) ∉ out

end ConnectedPair

/-- The platform plays its part: public keys have their size and both key agreements succeed. -/
structure KeyMaterial.Honest (c : Cng) (m : KeyMaterial) : Prop where
  host_public : m.hostKeys.publicKey.length = kEcdhPubBytes
  client_public : m.clientKeys.publicKey.length = kEcdhPubBytes
  host_ecdh : ∃ shared, c.ecdhP256 m.hostKeys m.clientKeys.publicKey = some shared ∧
    shared.length = 32
  client_ecdh : ∃ shared, c.ecdhP256 m.clientKeys m.hostKeys.publicKey = some shared ∧
    shared.length = 32

namespace ConnectedPair

section Steps

variable {c : Cng} {m : KeyMaterial} {s : ConnectedPair}

/-- The reason code leads the encoding of a rejection. -/
theorem timeoutPayload_ne_protocolError (text : Bytes) :
    encodeMessage
        { type := .HostReject
          body := .hostReject { reasonCode := Reason.ProtocolError.code, reasonText := text } }
      ≠ timeoutPayload := by
  intro heq
  have htake := congrArg (List.take 1) heq
  exact absurd htake (by simp [encodeMessage, Proto.writeMsg, timeoutPayload, Net.ByteWriter.u16,
    leBytes, Reason.code])

theorem clean_of_may (hm : m.Honest c) {id : UInt32} {out : List PairEffect}
    (hout : ∀ eff ∈ out, May m id eff) : Clean out where
  hostPayloads := fun clientId type payload hmem => by
    obtain ⟨-, rfl, rfl, hsalt⟩ := hout _ hmem
    rw [KeyMaterial.hostPayload, decode_keyExchangePayload hm.host_public hsalt]
    rfl
  clientPayloads := fun type payload hmem => by
    obtain ⟨rfl, rfl, hsalt⟩ := hout _ hmem
    rw [KeyMaterial.clientPayload, decode_keyExchangePayload hm.client_public hsalt]
    rfl
  no_protocol_error := fun clientId text hmem =>
    timeoutPayload_ne_protocolError text (hout _ hmem).2
  no_malformed := fun hmem => hout _ hmem rfl

theorem unanswered_hostCall (hm : m.Honest c) (hu : Unanswered m s) (hans : ¬ s.Answers .hostCall)
    (hsalt : ¬ s.StartsUnsalted m .hostCall) :
    UnansweredResult m s.clientId (s.handle c m .hostCall) := by
  simp only [handle]
  split
  · exact hu.result
  next call rest hcalls =>
  have hrest : Unanswered m (s.setHostCalls rest) := { hu with
    hostCalls := fun call hmem => hu.hostCalls call (by
      rw [hcalls]
      exact List.mem_cons_of_mem _ hmem) }
  have hcall : HostMay m s.clientId call := hu.hostCalls call (by simp [hcalls])
  split
  · exact hrest.result
  next e hinv =>
  refine hrest.onHostApp (quiet_hostInvocation hu.hostApp hm.client_public hcall hinv ?_ ?_)
  · rintro row rfl hconn hnone
    by_contra hlen
    exact hsalt ⟨row, rest, hcalls, hconn, hnone, hlen⟩
  · -- a stream is waiting for its answer from the start, so finding one here would be an answer
    rintro clientId type payload rfl
    obtain ⟨-, rfl, rfl, hclient⟩ := hcall
    rw [Option.eq_none_iff_forall_not_mem]
    intro cs hcs
    obtain ⟨hready, -, hecdh, -⟩ := hu.hostApp.streams clientId cs hcs
    exact hans ⟨clientId, _, _, rest, _, _, cs, hcalls,
      decode_keyExchangePayload hm.client_public hclient, rfl, hcs, by simp [hecdh], hready⟩

theorem unanswered_clientCall (hm : m.Honest c) (hu : Unanswered m s)
    (hans : ¬ s.Answers .clientCall) (hsalt : ¬ s.StartsUnsalted m .clientCall) :
    UnansweredResult m s.clientId (s.handle c m .clientCall) := by
  simp only [handle]
  split
  · exact hu.result
  next call rest hcalls =>
  have hrest : Unanswered m (s.setClientCalls rest) := { hu with
    clientCalls := fun call hmem => hu.clientCalls call (by
      rw [hcalls]
      exact List.mem_cons_of_mem _ hmem) }
  have hcall : ClientMay m call := hu.clientCalls call (by simp [hcalls])
  split
  · exact hrest.result
  next e hinv =>
  refine hrest.onClientApp (quiet_clientInvocation hu.clientApp hm.host_public hcall hinv ?_ ?_)
  · rintro rfl hnone hclient hrunning
    by_contra hlen
    exact hsalt ⟨rest, hcalls, hnone, hclient, hrunning, hlen⟩
  · rintro type payload rfl
    obtain ⟨rfl, rfl, hhost⟩ := hcall
    rw [Option.eq_none_iff_forall_not_mem]
    intro kp hkp
    exact hans ⟨_, _, rest, _, _, hcalls, decode_keyExchangePayload hm.host_public hhost, rfl,
      Option.isSome_of_mem hkp⟩

/-- A step that neither answers nor starts unsalted is clean and leaves the pair unanswered. -/
theorem unanswered_handle (hm : m.Honest c) (hu : Unanswered m s) (e : PairEvent)
    (hans : ¬ s.Answers e) (hsalt : ¬ s.StartsUnsalted m e) :
    UnansweredResult m s.clientId (s.handle c m e) := by
  cases e with
  | hostTask now => exact hu.onHost (quiet_task hu.host now)
  | hostFrame now later =>
      simp only [handle]
      split
      · exact hu.result
      next type payload rest hframes =>
      have hrest : Unanswered m (s.setToHost { s.toHost with frames := rest }) := { hu with
        toHost := fun f hmem => hu.toHost f (by
          rw [hframes]
          exact List.mem_cons_of_mem _ hmem) }
      exact hrest.onHost (quiet_frame hu.host hm.client_public
        (hu.toHost (type, payload) (by simp [hframes])) now later)
  | hostClosed => exact hu.onHost (quiet_closed hu.host)
  | hostTick now => exact hu.onHost (quiet_tick hu.host now)
  | hostCall => exact unanswered_hostCall hm hu hans hsalt
  | hostStreamBound index udpPort =>
      exact hu.onHostApp (quiet_hostStreamBound hu.hostApp index udpPort)
  | hostStreamResult index ok err =>
      exact hu.onHostApp (quiet_hostStreamResult hu.hostApp index ok err)
  | hostStreamError clientId running =>
      exact hu.onHostApp (quiet_hostStreamError hu.hostApp clientId running)
  | clientTask => exact hu.onClient (quiet_clientTask hu.client)
  | clientFrame now later =>
      simp only [handle]
      split
      · exact hu.result
      next type payload rest hframes =>
      have hrest : Unanswered m (s.setToClient { s.toClient with frames := rest }) := { hu with
        toClient := fun f hmem => hu.toClient f (by
          rw [hframes]
          exact List.mem_cons_of_mem _ hmem) }
      exact hrest.onClient (quiet_clientFrame hu.client hm.host_public
        (hu.toClient (type, payload) (by simp [hframes])) now later)
  | clientClosed lost => exact hu.onClient (quiet_clientClosed hu.client lost)
  | clientHeartbeat now later => exact hu.onClient (quiet_heartbeat hu.client now later)
  | clientCall => exact unanswered_clientCall hm hu hans hsalt
  | clientStreamResult ok err => exact hu.onClientApp (quiet_clientStreamResult hu.clientApp ok err)
  | clientWatchdog running => exact hu.onClientApp (quiet_clientWatchdog hu.clientApp running)
  | clientEndStop =>
      simp only [handle]
      split
      · exact hu.onClient (quiet_endStop hu.client)
      · exact hu.result

/-- The host's answer to a `KEY_EXCHANGE` that completes. -/
theorem hostApp_answer {k : HostCoordinator} {clientId : UInt32} {cs : ClientStream}
    {kp : EcdhKeyPair} (kx : Proto.Msg.KeyExchange) (hcs : k.streams[clientId]? = some cs)
    (hecdh : cs.ecdh = some kp) (hready : cs.keysReady = false)
    (hfin : (SecureChannel.finish c {} kp cs.ourSalt kx.publicKey kx.salt k.sessionCode true).1
      = true) :
    (k.handleKeyExchange c clientId kx).2
      = [.sendAppMessage clientId Id.SessionKeyReady.code
          HostCoordinator.sessionKeyReadyPayload] := by
  unfold HostCoordinator.handleKeyExchange
  rw [hcs]
  dsimp only
  rw [hecdh]
  dsimp only
  rw [if_neg (by simp [hready]), hfin]
  rfl

/-- The client's answer to a `KEY_EXCHANGE` that completes. -/
theorem clientApp_answer {k : ClientCoordinator} {kp : EcdhKeyPair} (kx : Proto.Msg.KeyExchange)
    (hecdh : k.ecdh = some kp)
    (hfin : (SecureChannel.finish c {} kp k.ourSalt kx.publicKey kx.salt k.sessionCode false).1
      = true) :
    (k.handleKeyExchange c kx).2
      = [.sendAppMessage Id.SessionKeyReady.code HostCoordinator.sessionKeyReadyPayload] := by
  unfold ClientCoordinator.handleKeyExchange
  rw [hecdh]
  dsimp only
  rw [hfin]
  rfl

/-- An answer is the message that does not decode. -/
theorem not_clean_of_answers (hm : m.Honest c) (hu : Unanswered m s) {e : PairEvent}
    (hans : s.Answers e) : ¬ Clean (s.handle c m e).2 := by
  intro hclean
  cases e with
  | hostCall =>
      obtain ⟨clientId, type, payload, rest, env, kx, cs, hcalls, -, -, hcs, -⟩ := hans
      obtain ⟨rfl, rfl, rfl, hclient⟩ :=
        hu.hostCalls _ (by rw [hcalls]; exact List.mem_cons_self ..)
      obtain ⟨hready, -, hecdh, hours, hsalt⟩ := hu.hostApp.streams _ cs hcs
      -- the schedule succeeds, so the coordinator announces its keys
      obtain ⟨shared, hshared, hlen⟩ := hm.host_ecdh
      have hfin := SecureChannel.finish_fst {} hm.client_public (hours ▸ hsalt) hclient
        hshared hlen s.hostApp.sessionCode true
      have hsent : .hostApp (.sendAppMessage s.clientId Id.SessionKeyReady.code
          HostCoordinator.sessionKeyReadyPayload) ∈ (s.handle c m .hostCall).2 := by
        simp only [handle, hcalls, hostInvocation, onHostApp, setHostCalls, HostCoordinator.handle,
          HostCoordinator.handleAppMessage, KeyMaterial.clientPayload,
          decode_keyExchangePayload hm.client_public hclient,
          hostApp_answer ⟨m.clientKeys.publicKey, m.clientSalt⟩ hcs hecdh hready hfin]
        exact List.mem_singleton_self _
      exact absurd (hclean.hostPayloads _ _ _ hsent) (by simp [decode_sessionKeyReadyPayload])
  | clientCall =>
      obtain ⟨type, payload, rest, env, kx, hcalls, -, -, hecdh⟩ := hans
      obtain ⟨rfl, rfl, hhost⟩ := hu.clientCalls _ (by rw [hcalls]; exact List.mem_cons_self ..)
      obtain ⟨kp, hkp⟩ := Option.isSome_iff_exists.1 hecdh
      obtain ⟨rfl, hours, hsalt⟩ := hu.clientApp.ecdh kp hkp
      obtain ⟨shared, hshared, hlen⟩ := hm.client_ecdh
      have hfin := SecureChannel.finish_fst {} hm.host_public (hours ▸ hsalt) hhost
        hshared hlen s.clientApp.sessionCode false
      have hsent : .clientApp (.sendAppMessage Id.SessionKeyReady.code
          HostCoordinator.sessionKeyReadyPayload) ∈ (s.handle c m .clientCall).2 := by
        simp only [handle, hcalls, clientInvocation, onClientApp, setClientCalls,
          ClientCoordinator.handle, ClientCoordinator.handleAppMessage, KeyMaterial.hostPayload,
          decode_keyExchangePayload hm.host_public hhost,
          clientApp_answer ⟨m.hostKeys.publicKey, m.hostSalt⟩ hkp hfin]
        exact List.mem_singleton_self _
      exact absurd (hclean.clientPayloads _ _ hsent) (by simp [decode_sessionKeyReadyPayload])
  | _ => exact hans.elim

/-- An exchange without a salt is a `KEY_EXCHANGE` that does not decode. -/
theorem not_clean_of_startsUnsalted (hm : m.Honest c) {e : PairEvent}
    (hstart : s.StartsUnsalted m e) : ¬ Clean (s.handle c m e).2 := by
  intro hclean
  cases e with
  | hostCall =>
      obtain ⟨row, rest, hcalls, hconn, hnone, hlen⟩ := hstart
      have hsent : .hostApp (.sendAppMessage row.id Id.KeyExchange.code m.hostPayload)
          ∈ (s.handle c m .hostCall).2 := by
        simp [handle, hcalls, hostInvocation, onHostApp, setHostCalls, HostCoordinator.handle,
          HostCoordinator.handleClientUpdated, hconn, HostCoordinator.beginKeyExchange, hnone,
          KeyMaterial.hostPayload]
      have hdec := hclean.hostPayloads _ _ _ hsent
      rw [KeyMaterial.hostPayload, decode_keyExchangePayload_eq_none hm.host_public hlen] at hdec
      exact absurd hdec (by simp)
  | clientCall =>
      obtain ⟨rest, hcalls, hnone, hclient, hrunning, hlen⟩ := hstart
      have hsent : .clientApp (.sendAppMessage Id.KeyExchange.code m.clientPayload)
          ∈ (s.handle c m .clientCall).2 := by
        simp [handle, hcalls, clientInvocation, onClientApp, setClientCalls,
          ClientCoordinator.handle, ClientCoordinator.handleState,
          ClientCoordinator.beginKeyExchange, hnone, hclient, hrunning, KeyMaterial.clientPayload]
      have hdec := hclean.clientPayloads _ _ hsent
      rw [KeyMaterial.clientPayload,
        decode_keyExchangePayload_eq_none hm.client_public hlen] at hdec
      exact absurd hdec (by simp)
  | _ => exact hstart.elim

end Steps

/-! ## Whole runs -/

/-- The host has just accepted the client: its record is connected and the coordinator has been
    told; the accepted result and the input permissions are on their way to the client, who will
    then be connected too. Both coordinators are fresh and have the same session code. -/
structure Accepted (s : ConnectedPair) : Prop where
  clients : ∀ a st, s.host.stateOf a = some st → a = s.clientId ∧ st = .Connected
  connected : s.host.stateOf s.clientId = some .Connected
  host_handler : s.host.appHandler = true
  host_tasks : s.host.tasks = []
  host_calls : ∃ row perms, row.id = s.clientId ∧ row.state = .Connected ∧
    s.hostCalls = [.onClientUpdated row, .onInputPermissions s.clientId perms]
  host_app : s.hostApp.streams = ∅ ∧ s.hostApp.streamers = []
  to_client : ∃ result perms, result.accepted = true ∧ s.toClient =
    { frames :=
        [(Id.NegotiationResult.code, encodeMessage
            { type := .NegotiationResult, body := .negotiationResult result }),
          (Id.InputPermission.code, encodeMessage
            { type := .InputPermission, body := .inputPermission perms })] }
  client_state : s.client.status.state = .Authenticating ∧ s.client.appHandler = true ∧
    s.client.connection = true ∧ s.client.running = true ∧ s.client.ioRunning = true
  client_tasks : s.client.tasks = []
  client_calls : s.clientCalls = []
  client_app : s.clientApp = { sessionCode := s.hostApp.sessionCode }
  to_host : s.toHost = {}

theorem Accepted.unanswered {m : KeyMaterial} {s : ConnectedPair} (hs : Accepted s) :
    Unanswered m s where
  host := ⟨hs.clients, hs.host_handler, by simp [hs.host_tasks]⟩
  hostApp := ⟨by simp [hs.host_app.1], hs.host_app.2⟩
  hostCalls := by
    obtain ⟨row, perms, hid, -, hcalls⟩ := hs.host_calls
    simp [hcalls, HostMay, hid]
  toClient := by
    obtain ⟨result, perms, haccepted, hwire⟩ := hs.to_client
    intro f hmem
    simp only [hwire, List.mem_cons, List.not_mem_nil, or_false] at hmem
    rcases hmem with rfl | rfl
    · exact .negotiationResult result haccepted
    · exact .inputPermission perms
  client := by simp [QuietClient, hs.client_tasks]
  clientApp := by
    rw [hs.client_app]
    exact ⟨by simp, rfl, rfl⟩
  clientCalls := by simp [hs.client_calls]
  toHost := by simp [hs.to_host]

/-- Every step of the run is clean. -/
def CleanRun (c : Cng) (m : KeyMaterial) (s : ConnectedPair) (es : List PairEvent) : Prop :=
  ∀ p ∈ history (step c m) s es, Clean (p.1.handle c m p.2).2

/-- No step of the run answers a `KEY_EXCHANGE` or starts one without its salt. -/
def StaysUnanswered (c : Cng) (m : KeyMaterial) (s : ConnectedPair) (es : List PairEvent) : Prop :=
  ∀ p ∈ history (step c m) s es, ¬ p.1.Answers p.2 ∧ ¬ p.1.StartsUnsalted m p.2

/-- **When an honest key exchange is clean.** For every interleaving from the moment the client is
    accepted, with key agreement succeeding on both sides: every payload passed to `sendAppMessage`
    decodes, the host never drops the client for a protocol error and the client never reports a
    malformed message, if and only if no `KEY_EXCHANGE` is ever answered and none is started without
    its salt. -/
theorem honest_exchange_clean_iff (c : Cng) (m : KeyMaterial) (hm : m.Honest c) (s : ConnectedPair)
    (hs : Accepted s) (es : List PairEvent) :
    CleanRun c m s es ↔ StaysUnanswered c m s es := by
  refine forall_history_iff (step c m) (Unanswered m) (fun s e => Clean (s.handle c m e).2)
    (fun s e => ¬ s.Answers e ∧ ¬ s.StartsUnsalted m e) ?_ ?_ s es hs.unanswered
  · rintro s e hu ⟨hans, hsalt⟩
    obtain ⟨hnext, hout⟩ := unanswered_handle hm hu e hans hsalt
    exact ⟨clean_of_may hm hout, hnext⟩
  · intro s e hu hclean
    exact ⟨fun hans => not_clean_of_answers hm hu hans hclean,
      fun hstart => not_clean_of_startsUnsalted hm hstart hclean⟩

/-! ## A recorded pair -/

/-- The keys and salts of the recorded session. -/
def recorded : KeyMaterial where
  hostKeys := Crypto.Session.hostKeys
  hostSalt := Crypto.Session.hostSalt
  clientKeys := Crypto.Session.clientKeys
  clientSalt := Crypto.Session.clientSalt

/-- The host right after it accepted its first client. -/
def acceptedPair : ConnectedPair where
  clientId := 1
  host :=
    { params := {}
      sessionCode := Crypto.Session.code
      appHandler := true
      clients := Std.TreeMap.insert {} 1 { id := 1, state := .Connected }
      nextClientId := 2 }
  hostApp := { sessionCode := Crypto.Session.code }
  hostCalls := [.onClientUpdated { id := 1, state := .Connected }, .onInputPermissions 1 {}]
  client :=
    { params := { sessionCode := Crypto.Session.code }
      appHandler := true
      connection := true
      status := { state := .Authenticating } }
  clientApp := { sessionCode := Crypto.Session.code }
  toClient :=
    { frames :=
        [(Id.NegotiationResult.code, encodeMessage
            { type := .NegotiationResult, body := .negotiationResult { accepted := true } }),
          (Id.InputPermission.code, encodeMessage
            { type := .InputPermission, body := .inputPermission {} })] }

theorem recorded_honest : recorded.Honest Crypto.Session.record.replay where
  host_public := by decide +kernel
  client_public := by decide +kernel
  host_ecdh := ⟨Crypto.Session.shared, by decide +kernel, by decide +kernel⟩
  client_ecdh := ⟨Crypto.Session.shared, by decide +kernel, by decide +kernel⟩

theorem acceptedPair_accepted : Accepted acceptedPair where
  clients := fun a st hst => by
    have hinsert := HostSession.stateOf_insert
      { params := {}, sessionCode := Crypto.Session.code, appHandler := true, nextClientId := 2 }
      1 a { id := 1, state := .Connected }
    have hst' : (if 1 = a then some ConnectionState.Connected else none) = some st :=
      hinsert.symm.trans hst
    split at hst'
    · next heq => exact ⟨heq.symm, (Option.some.inj hst').symm⟩
    · exact absurd hst' (by simp)
  connected := by decide +kernel
  host_handler := rfl
  host_tasks := rfl
  host_calls := ⟨_, _, rfl, rfl, rfl⟩
  host_app := ⟨rfl, rfl⟩
  to_client := ⟨_, _, rfl, rfl⟩
  client_state := ⟨rfl, rfl, rfl, rfl, rfl⟩
  client_tasks := rfl
  client_calls := rfl
  client_app := rfl
  to_host := rfl

/-- Both sides start their exchange. -/
def openingRun : List PairEvent := [.hostCall, .hostTask 0, .clientFrame 0 0, .clientCall]

theorem honest_exchange_clean_iff_opening :
    CleanRun Crypto.Session.record.replay recorded acceptedPair openingRun := by
  refine (honest_exchange_clean_iff Crypto.Session.record.replay recorded recorded_honest
    acceptedPair acceptedPair_accepted openingRun).2 ?_
  have hclient : (runFrom (step Crypto.Session.record.replay recorded) acceptedPair
      [.hostCall, .hostTask 0, .clientFrame 0 0]).clientCalls.head?
        = some (.onState .Connected) := by
    decide +kernel
  intro p hp
  simp only [openingRun, history_cons, history_nil, List.mem_cons, List.not_mem_nil, or_false] at hp
  rcases hp with rfl | rfl | rfl | rfl
  · constructor
    · rintro ⟨_, _, _, _, _, _, _, hcalls, -⟩
      exact absurd hcalls (by simp [acceptedPair])
    · rintro ⟨_, _, _, _, _, hlen⟩
      exact hlen (by decide +kernel)
  · exact ⟨False.elim, False.elim⟩
  · exact ⟨False.elim, False.elim⟩
  · constructor
    · rintro ⟨_, _, _, _, _, hcalls, -⟩
      simp only [runFrom_cons, runFrom_nil] at hclient
      rw [hcalls] at hclient
      exact absurd hclient (by simp)
    · rintro ⟨_, _, _, _, _, hlen⟩
      exact hlen (by decide +kernel)

/-- The client answers the host's `KEY_EXCHANGE`, after sending its own. -/
def answeredRun : List PairEvent :=
  [.hostCall, .hostTask 0, .clientFrame 0 0, .clientFrame 0 0, .clientFrame 0 0, .clientCall,
    .clientCall, .clientCall, .clientTask, .clientTask, .hostFrame 1 1]

/-- The host's farewell to a client whose message it could not decode. -/
def malformedDrop : HostEffect :=
  .sendAndClose 1 Id.HostReject.code (encodeMessage
    { type := .HostReject
      body := .hostReject
        { reasonCode := Reason.ProtocolError.code, reasonText := ascii "Malformed message." } })

theorem not_clean_of_malformedDrop {out : List PairEffect} (h : .host malformedDrop ∈ out) :
    ¬ Clean out := fun hclean => hclean.no_protocol_error 1 (ascii "Malformed message.") h

/-- The host drops the client that answered, for a protocol error. -/
theorem answered_exchange_protocol_error :
    recorded.Honest Crypto.Session.record.replay ∧ Accepted acceptedPair ∧
      .host malformedDrop ∈ ((runFrom (step Crypto.Session.record.replay recorded) acceptedPair
        answeredRun).handle Crypto.Session.record.replay recorded (.hostFrame 2 2)).2 ∧
      ¬ CleanRun Crypto.Session.record.replay recorded acceptedPair
        (answeredRun ++ [.hostFrame 2 2]) := by
  have hdrop : .host malformedDrop ∈ ((runFrom (step Crypto.Session.record.replay recorded)
      acceptedPair answeredRun).handle Crypto.Session.record.replay recorded
        (.hostFrame 2 2)).2 := by
    decide +kernel
  refine ⟨recorded_honest, acceptedPair_accepted, hdrop, ?_⟩
  intro hclean
  rw [CleanRun, history_concat] at hclean
  have hlast := hclean _ (List.mem_append_right _ (List.mem_singleton_self _))
  dsimp only at hlast
  exact not_clean_of_malformedDrop hdrop hlast

end ConnectedPair

end RemotePlay.App
