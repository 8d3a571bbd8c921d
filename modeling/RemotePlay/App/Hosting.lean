import RemotePlay.Host.HostApp
import RemotePlay.Host.Isolation

set_option autoImplicit false

/-! # Starting and stopping to host

`HostCoordinator::startLan`, `startInternet` and `stop`, with the members they set. On the LAN the
session makes up a code and the coordinator publishes that one. Over the Internet the coordinator
publishes the code the signaling server issued; it creates a `HostApp` but never starts it, so no
session runs and the relay pipes of joining players are not dialed. -/

namespace RemotePlay.App

open Host (HostApp HostEvent HostSession HostLaunchSettings LaunchMachine)
open Security (generateSessionCode verifySessionCode)

/-- `HostUiState`, as far as the starts fill it in. -/
structure HostUiState where
  sessionCode : Bytes := []
  tcpPort : UInt16 := 0
  internetMode : Bool := false
  serverAddress : Bytes := []
deriving DecidableEq, Repr

/-- `signaling::HostRegisterResult`; the code has eight characters. -/
structure HostRegisterResult where
  code : Bytes
  hcode : code.length = 8
  hostToken : Bytes
  relayTcpPort : UInt16
  relayUdpPort : UInt16
deriving DecidableEq, Repr

/-- What comes of connecting to the signaling server and registering. -/
inductive SignalingOutcome where
  | unreachable (err : Bytes)
  | rejected
  | registered (reg : HostRegisterResult)
deriving DecidableEq, Repr

/-- `signaling::ClientJoined`, as far as it is used. -/
structure ClientJoined where
  playerIndex : Nat
  name : Bytes
  token : Bytes
deriving DecidableEq, Repr

/-- An event of a running session: only `HostApp::stop` stops it. -/
def SessionEvent : Type := { e : HostEvent // e ≠ .beginStop ∧ e ≠ .endStop }

/-- The members of `HostCoordinator` that starting and stopping set. `invocations` are the
    `client_joined` calls posted to the Qt thread; they outlive the hosting they were posted in. -/
structure Hosting where
  host : Option HostApp := none
  settings : Option HostLaunchSettings := none
  signaling : Bool := false
  internetMode : Bool := false
  serverHost : Bytes := []
  serverPort : UInt16 := 0
  relayTcpPort : UInt16 := 0
  relayUdpPort : UInt16 := 0
  hostToken : Bytes := []
  sessionCode : Bytes := []
  ui : HostUiState := {}
  invocations : List ClientJoined := []

inductive HostingEvent where
  | startLan (settings : HostLaunchSettings) (m : LaunchMachine)
  | startInternet (settings : HostLaunchSettings) (serverAddress : Bytes) (serverPort : UInt16)
      (outcome : SignalingOutcome)
  | stop
  /-- A notification reaches the signaling client's reader thread. -/
  | clientJoined (cj : ClientJoined)
  /-- The Qt thread takes the next posted call. -/
  | invoke
  | session (e : SessionEvent)

inductive HostingEffect where
  /-- The result of a start call. -/
  | returned (ok : Bool) (err : Bytes)
  /-- `HostSession::connectRelayClient`. -/
  | dialRelay (serverHost : Bytes) (relayTcpPort : UInt16) (token : Bytes)
  /-- `host_` is dereferenced while it is null. -/
  | nullHost
deriving DecidableEq, Repr

namespace Hosting

/-- The session the coordinator runs. -/
def runningSession (h : Hosting) : Option HostSession := h.host.bind HostApp.session

/-- `HostCoordinator::stop`, past the streams. -/
def stop (h : Hosting) : Hosting := { h with host := none, signaling := false, ui := {} }

/-- `HostCoordinator::startLan`. -/
def startLan (h : Hosting) (settings : HostLaunchSettings) (m : LaunchMachine) :
    Hosting × List HostingEffect :=
  let h := { h.stop with internetMode := false, settings := some settings }
  let (app, ok) := ({} : HostApp).setEvents.start m settings
  if !ok then
    (h, [.returned false (ascii
      "Could not start the session (is the listen port already in use? See the log for details.)")])
  else
    ({ h with
        host := some app
        sessionCode := app.sessionCode
        ui :=
          { h.ui with
            internetMode := false
            tcpPort := app.port
            sessionCode := app.sessionCode } },
      [.returned true []])

/-- `HostCoordinator::startInternet`. -/
def startInternet (h : Hosting) (settings : HostLaunchSettings) (serverAddress : Bytes)
    (serverPort : UInt16) (outcome : SignalingOutcome) : Hosting × List HostingEffect :=
  let h :=
    { h.stop with
      internetMode := true
      serverHost := serverAddress
      serverPort := serverPort
      settings := some settings }
  match outcome with
  | .unreachable err => (h, [.returned false (ascii "Signaling server: " ++ err)])
  | .rejected => (h, [.returned false (ascii "Signaling server rejected the registration.")])
  | .registered reg =>
      ({ h with
          signaling := true
          sessionCode := reg.code
          relayTcpPort := reg.relayTcpPort
          relayUdpPort := reg.relayUdpPort
          hostToken := reg.hostToken
          -- "Session runs over relay pipes; HostApp->HostSession handles them."
          host := some ({} : HostApp).setEvents
          ui :=
            { h.ui with
              internetMode := true
              sessionCode := reg.code
              serverAddress := serverAddress
              tcpPort := 0 } },
        [.returned true []])

/-- The body of the `client_joined` call: "Dial this player's relay pipe; the session then sees a
    new client." -/
def dialJoined (h : Hosting) (cj : ClientJoined) : List HostingEffect :=
  match h.host with
  | none => [.nullHost]
  | some app =>
      if app.session.isSome then [.dialRelay h.serverHost h.relayTcpPort cj.token] else []

def handle (h : Hosting) : HostingEvent → Hosting × List HostingEffect
  | .startLan settings m => h.startLan settings m
  | .startInternet settings serverAddress serverPort outcome =>
      h.startInternet settings serverAddress serverPort outcome
  | .stop => (h.stop, [])
  | .clientJoined cj =>
      if h.signaling then ({ h with invocations := h.invocations ++ [cj] }, []) else (h, [])
  | .invoke =>
      match h.invocations with
      | [] => (h, [])
      | cj :: rest => ({ h with invocations := rest }, h.dialJoined cj)
  | .session e =>
      let step := fun (app : HostApp) =>
        { app with session := app.session.map (fun s => s.step e.1) }
      ({ h with host := h.host.map step }, [])

def step (h : Hosting) (e : HostingEvent) : Hosting := (h.handle e).1

/-- The calls that begin or end a hosting. -/
def isControl : HostingEvent → Bool
  | .startLan _ _ => true
  | .startInternet _ _ _ _ => true
  | .stop => true
  | _ => false

/-- The event is a start call that returns true. -/
def Succeeds (h : Hosting) (e : HostingEvent) : Prop := .returned true [] ∈ (h.handle e).2

/-- The published code is the accepted one: a session runs, it admits whoever presents the code on
    display, joining players are dialed, and the key schedule is bound to the same code. -/
def Published (h : Hosting) : Prop :=
  ∃ session, h.runningSession = some session ∧ session.running = true ∧
    verifySessionCode h.ui.sessionCode session.sessionCode = true ∧
    (∀ cj, h.dialJoined cj = [.dialRelay h.serverHost h.relayTcpPort cj.token]) ∧
    h.sessionCode = session.sessionCode

/-! ## What a start leaves behind -/

/-- A session runs under a generated code, which is the one on display and in the key schedule. -/
def Sessioned (h : Hosting) : Prop :=
  ∃ app session random, h.host = some app ∧ app.session = some session ∧
    session.running = true ∧ session.sessionCode = generateSessionCode random ∧
    h.ui.sessionCode = session.sessionCode ∧ h.sessionCode = session.sessionCode

/-- There is a facade with no session behind it. -/
def Sessionless (h : Hosting) : Prop := ∃ app, h.host = some app ∧ app.session = none

theorem Sessioned.published {h : Hosting} (hs : h.Sessioned) : h.Published := by
  obtain ⟨app, session, random, happ, hsession, hrun, hcode, hui, hkeys⟩ := hs
  refine ⟨session, ?_, hrun, ?_, ?_, hkeys⟩
  · rw [runningSession, happ, Option.bind_some, hsession]
  · rw [hui, hcode]
    exact Security.verifySessionCode_generateSessionCode random
  · intro cj
    simp [dialJoined, happ, hsession]

theorem Sessionless.not_published {h : Hosting} (hs : h.Sessionless) : ¬ h.Published := by
  obtain ⟨app, happ, hnone⟩ := hs
  rintro ⟨session, hsession, -⟩
  rw [runningSession, happ, Option.bind_some, hnone] at hsession
  cases hsession

theorem startLan_sessioned (h : Hosting) (settings : HostLaunchSettings) (m : LaunchMachine)
    (hok : h.Succeeds (.startLan settings m)) : (h.step (.startLan settings m)).Sessioned := by
  simp only [Succeeds, step, handle, startLan] at hok ⊢
  cases hstart : (({} : HostApp).setEvents.start m settings).2 with
  | false => simp [hstart] at hok
  | true =>
      obtain ⟨session, hsession, hrun, hcode⟩ := HostApp.start_session _ m settings hstart
      have happCode : (({} : HostApp).setEvents.start m settings).1.sessionCode
          = session.sessionCode := by
        rw [HostApp.sessionCode, hsession]
        rfl
      rw [if_neg (by simp)]
      exact ⟨_, session, m.random, rfl, hsession, hrun, hcode, happCode, happCode⟩

theorem startInternet_sessionless (h : Hosting) (settings : HostLaunchSettings)
    (serverAddress : Bytes) (serverPort : UInt16) (outcome : SignalingOutcome)
    (hok : h.Succeeds (.startInternet settings serverAddress serverPort outcome)) :
    (h.step (.startInternet settings serverAddress serverPort outcome)).Sessionless := by
  cases outcome with
  | unreachable err => simp [Succeeds, handle, startInternet] at hok
  | rejected => simp [Succeeds, handle, startInternet] at hok
  | registered reg => exact ⟨({} : HostApp).setEvents, rfl, rfl⟩

/-- Notifications and posted calls change neither the facade nor the codes. -/
theorem step_of_posted (h : Hosting) (e : HostingEvent) (he : isControl e = false)
    (hsession : ∀ se, e ≠ .session se) :
    (h.step e).host = h.host ∧ (h.step e).ui = h.ui ∧ (h.step e).sessionCode = h.sessionCode := by
  cases e with
  | startLan settings m => cases he
  | startInternet settings serverAddress serverPort outcome => cases he
  | stop => cases he
  | clientJoined cj =>
      simp only [step, handle]
      split
      · exact ⟨rfl, rfl, rfl⟩
      · exact ⟨rfl, rfl, rfl⟩
  | invoke =>
      simp only [step, handle]
      split
      · exact ⟨rfl, rfl, rfl⟩
      · exact ⟨rfl, rfl, rfl⟩
  | session se => exact absurd rfl (hsession se)

/-- Nothing but a start or a stop ends this. -/
theorem step_sessioned (h : Hosting) (e : HostingEvent) (hs : h.Sessioned)
    (he : isControl e = false) : (h.step e).Sessioned := by
  obtain ⟨app, session, random, happ, hsession, hrun, hcode, hui, hkeys⟩ := hs
  cases e with
  | session e =>
      have hkept := session.step_kept e.1
      refine ⟨{ app with session := app.session.map (fun s => s.step e.1) }, session.step e.1,
        random, ?_, ?_, ?_, ?_, ?_, ?_⟩
      · simp [step, handle, happ]
      · simp [hsession]
      · rw [hkept.running e.2.2, hrun]
      · rw [hkept.sessionCode, hcode]
      · rw [hkept.sessionCode, ← hui]
        rfl
      · rw [hkept.sessionCode, ← hkeys]
        rfl
  | _ =>
      obtain ⟨hhost, hui', hkeys'⟩ := step_of_posted h _ he (by simp)
      exact ⟨app, session, random, hhost.trans happ, hsession, hrun, hcode,
        hui' ▸ hui, hkeys'.trans hkeys⟩

theorem step_sessionless (h : Hosting) (e : HostingEvent) (hs : h.Sessionless)
    (he : isControl e = false) : (h.step e).Sessionless := by
  obtain ⟨app, happ, hnone⟩ := hs
  cases e with
  | session e => exact ⟨{ app with session := none }, by simp [step, handle, happ, hnone], rfl⟩
  | _ =>
      obtain ⟨hhost, -, -⟩ := step_of_posted h _ he (by simp)
      exact ⟨app, hhost.trans happ, hnone⟩

/-! ## Every run -/

/-- What the start leaves behind lasts until the next start or stop. -/
theorem lasts {I : Hosting → Prop} (hstep : ∀ h e, I h → isControl e = false → I (h.step e))
    (pre post : List HostingEvent) (e : HostingEvent) (hpost : ∀ d ∈ post, isControl d = false)
    (hstart : I ((runFrom step {} pre).step e)) : I (runFrom step {} (pre ++ e :: post)) := by
  rw [runFrom_append, runFrom_cons]
  refine runFrom_invariant step I (fun _ d => isControl d = false) hstep _ post hstart ?_
  intro p hp
  obtain ⟨before, after, hsplit, -⟩ := (mem_history_iff step _ post p.1 p.2).1 hp
  exact hpost p.2 (hsplit ▸ List.mem_append_right before (List.mem_cons_self ..))

/-- Only the start calls return true. -/
theorem start_of_succeeds {h : Hosting} {e : HostingEvent} (hok : h.Succeeds e) :
    (∃ settings m, e = .startLan settings m) ∨
      ∃ settings serverAddress serverPort outcome,
        e = .startInternet settings serverAddress serverPort outcome := by
  cases e with
  | startLan settings m => exact .inl ⟨settings, m, rfl⟩
  | startInternet settings serverAddress serverPort outcome =>
      exact .inr ⟨settings, serverAddress, serverPort, outcome, rfl⟩
  | stop => simp [Succeeds, handle] at hok
  | clientJoined cj =>
      simp only [Succeeds, handle] at hok
      split at hok
      · cases hok
      · cases hok
  | invoke =>
      simp only [Succeeds, handle, dialJoined] at hok
      split at hok
      · cases hok
      split at hok
      · simp at hok
      split at hok
      · simp at hok
      · cases hok
  | session e => simp [Succeeds, handle] at hok

/-- **Which starts publish the accepted code.** In every run of starts, stops, notifications and
    session events, at every point after a start that returned true and before the next start or
    stop, the published code is the accepted one if and only if that start was `startLan`. -/
theorem published_iff_startLan (pre post : List HostingEvent) (e : HostingEvent)
    (hok : (runFrom step {} pre).Succeeds e) (hpost : ∀ d ∈ post, isControl d = false) :
    (runFrom step {} (pre ++ e :: post)).Published ↔ ∃ settings m, e = .startLan settings m := by
  rcases start_of_succeeds hok with ⟨settings, m, rfl⟩ | ⟨settings, address, port, outcome, rfl⟩
  · have hs := lasts step_sessioned pre post _ hpost (startLan_sessioned _ settings m hok)
    exact ⟨fun _ => ⟨settings, m, rfl⟩, fun _ => hs.published⟩
  · have hs := lasts step_sessionless pre post _ hpost
      (startInternet_sessionless _ settings address port outcome hok)
    constructor
    · intro hpub
      exact absurd hpub hs.not_published
    · rintro ⟨settings', m, heq⟩
      cases heq

/-- Hosting over a server that issues the code of the example in `SignalingClient.h`. -/
def internetStart : HostingEvent :=
  .startInternet {} (ascii "192.0.2.10") 41800
    (.registered
      { code := ascii "57EA6A6Q"
        hcode := by decide +kernel
        hostToken := ascii "host-token"
        relayTcpPort := 41801
        relayUdpPort := 41802 })

def joined : ClientJoined := { playerIndex := 0, name := ascii "Sara", token := ascii "token" }

/-- A LAN hosting that follows an Internet one, with a notification of the latter still posted. -/
theorem published_lan_after_internet :
    (runFrom step {} ([internetStart, .clientJoined joined, .stop] ++
      .startLan {} {} :: [.invoke])).Published :=
  (published_iff_startLan [internetStart, .clientJoined joined, .stop] [.invoke] (.startLan {} {})
    (List.mem_singleton.2 rfl) (by simp [isControl])).2 ⟨{}, {}, rfl⟩

/-- The Internet start returns true and shows the server's code, but no session runs that would
    accept it, and the player who joins is not dialed. -/
theorem internet_code_not_accepted :
    ({} : Hosting).Succeeds internetStart ∧
      (runFrom step {} [internetStart]).ui.sessionCode = ascii "57EA6A6Q" ∧
      (runFrom step {} [internetStart]).runningSession = none ∧
      (runFrom step {} [internetStart]).dialJoined joined = [] ∧
      ¬ (runFrom step {} [internetStart]).Published := by
  refine ⟨List.mem_singleton.2 rfl, rfl, rfl, rfl, ?_⟩
  rintro ⟨session, hsession, -⟩
  cases hsession

end Hosting

end RemotePlay.App
