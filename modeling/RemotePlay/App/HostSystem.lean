import RemotePlay.App.ConnectedPair
import RemotePlay.Host.HostApp
import RemotePlay.Input.InputInjector

set_option autoImplicit false

/-! # The host as a whole

A running host: the session on its network thread, the coordinator on the Qt thread with the
session's callbacks queued for it, and the input injector both the coordinator and the streamers'
network threads call. Any number of clients connect. A step is one handler of one thread. -/

namespace RemotePlay.App

open Crypto (Cng EcdhKeyPair)
open Host (HostEffect HostEvent HostLaunchSettings HostSession)
open Input (InputInjector PlatformResults SentInput)

/-- What the coordinator keeps of the launch settings for its streamers. -/
def streamSettings (settings : HostLaunchSettings) : StreamSettings :=
  { codec := settings.codec
    resolution := settings.resolution
    fps := settings.fps
    bitrateKbps := settings.bitrateKbps }

/-- The running host. `calls` are the callbacks queued for the Qt thread; `inputHandlers` gives the
    player as which a streamer's input datagrams are applied. -/
structure HostSystem where
  session : HostSession
  app : HostCoordinator
  injector : InputInjector := {}
  calls : List HostEffect := []
  inputHandlers : Nat → Option UInt8 := fun _ => none

/-- The coordinator's invocation for a callback of the session; `keys` and `salt` are what the
    platform returns if it generates them. -/
def invocation (keys : Option EcdhKeyPair) (salt : Bytes) :
    HostEffect → Option HostCoordinatorEvent
  | .onClientUpdated row => some (.clientUpdated row keys salt)
  | .onInputPermissions clientId perms => some (.inputPermissions clientId perms)
  | .onAppMessage clientId type payload => some (.appMessage clientId type payload)
  | _ => none

/-- An effect that queues an invocation. -/
def isCall (eff : HostEffect) : Bool := (invocation none [] eff).isSome

inductive HostSystemEvent where
  /-- A handler on the network thread, or a call into the session from outside. -/
  | session (e : HostEvent)
  /-- The Qt thread takes the next callback. -/
  | call (keys : Option EcdhKeyPair) (salt : Bytes) (io : PlatformResults)
  | streamBound (index : Nat) (udpPort : UInt16)
  | streamResult (index : Nat) (ok : Bool) (err : Bytes)
  | streamError (clientId : UInt32) (running : Bool)
  | kick (clientId : UInt32)
  /-- An input datagram reaches a streamer. -/
  | input (index : Nat) (data : Bytes) (io : PlatformResults)

inductive HostSystemEffect where
  | session (eff : HostEffect)
  | app (eff : HostCoordinatorEffect)
  | injected (input : SentInput)
deriving DecidableEq, Repr

namespace HostSystem

/-- A call of the coordinator into the injector. -/
def callInjector (io : PlatformResults) (j : InputInjector) : HostCoordinatorEffect → InputInjector
  | .setPermissions playerIndex perms => (j.setPermissions playerIndex perms io).1
  | .clientDisconnected playerIndex => (j.clientDisconnected playerIndex).1
  | .setRumbleSender clientId => { j with rumbleSender := some clientId }
  | _ => j

/-- A call of the coordinator that routes a streamer's input. -/
def routeInput (handlers : Nat → Option UInt8) : HostCoordinatorEffect → Nat → Option UInt8
  | .setInputHandler index playerIndex => Function.update handlers index (some playerIndex)
  | _ => handlers

/-- An event of the session. -/
def onSession (s : HostSystem) (e : HostEvent) : HostSystem × List HostSystemEffect :=
  let (session, out) := s.session.handle e
  ({ s with session := session, calls := s.calls ++ out.filter isCall }, out.map .session)

/-- An invocation on the coordinator. -/
def onApp (c : Cng) (s : HostSystem) (e : HostCoordinatorEvent) (io : PlatformResults) :
    HostSystem × List HostSystemEffect :=
  let (app, out) := s.app.handle c e
  ({ s with
      app := app
      session := out.foldl ConnectedPair.callHost s.session
      injector := out.foldl (callInjector io) s.injector
      inputHandlers := out.foldl routeInput s.inputHandlers },
    out.map .app)

def setCalls (s : HostSystem) (calls : List HostEffect) : HostSystem := { s with calls := calls }

/-- One step of the system. -/
def handle (c : Cng) (s : HostSystem) (e : HostSystemEvent) : HostSystem × List HostSystemEffect :=
  match e with
  | .session e => s.onSession e
  | .call keys salt io =>
      match s.calls.head?.bind (invocation keys salt) with
      | none => (s.setCalls s.calls.tail, [])
      | some inv => (s.setCalls s.calls.tail).onApp c inv io
  | .streamBound index udpPort => s.onApp c (.streamBound index udpPort) {}
  | .streamResult index ok err => s.onApp c (.streamResult index ok err) {}
  | .streamError clientId running => s.onApp c (.streamError clientId running) {}
  | .kick clientId => s.onApp c (.kick clientId) {}
  | .input index data io =>
      match s.inputHandlers index with
      | none => (s, [])
      | some playerIndex =>
          let (j, _, sent) := s.injector.applyInput playerIndex data io
          ({ s with injector := j }, sent.map .injected)

def step (c : Cng) (s : HostSystem) (e : HostSystemEvent) : HostSystem := (s.handle c e).1

/-- The host right after `startLan` has started it with these settings. -/
def started (userName : Bytes) (settings : HostLaunchSettings) (sessionCode : Bytes) :
    HostSystem where
  session := HostSession.started (Host.sessionParams userName settings) sessionCode true
  app := { sessionCode := sessionCode, settings := streamSettings settings }

/-- The coordinator only posts to the session. -/
theorem foldl_callHost_keeps (out : List HostCoordinatorEffect) (h : HostSession) :
    (out.foldl ConnectedPair.callHost h).params = h.params ∧
      (out.foldl ConnectedPair.callHost h).running = h.running ∧
      (out.foldl ConnectedPair.callHost h).clients = h.clients := by
  induction out generalizing h with
  | nil => exact ⟨rfl, rfl, rfl⟩
  | cons eff out ih =>
      obtain ⟨hparams, hrunning, hclients⟩ := ih (ConnectedPair.callHost h eff)
      rw [List.foldl_cons, hparams, hrunning, hclients]
      cases eff with
      | sendAppMessage clientId type payload =>
          rw [ConnectedPair.callHost, HostSession.step, HostSession.handle]
          split
          · exact ⟨rfl, rfl, rfl⟩
          · exact ⟨rfl, rfl, rfl⟩
      | _ => exact ⟨rfl, rfl, rfl⟩

/-! ## The shapes of a step -/

/-- The coordinator's invocation an event stands for. -/
def invocationAt (s : HostSystem) : HostSystemEvent → Option HostCoordinatorEvent
  | .call keys salt _ => s.calls.head?.bind (invocation keys salt)
  | .streamBound index udpPort => some (.streamBound index udpPort)
  | .streamResult index ok err => some (.streamResult index ok err)
  | .streamError clientId running => some (.streamError clientId running)
  | .kick clientId => some (.kick clientId)
  | _ => none

/-- The callbacks that are still queued when the event has taken its own. -/
def callsAfter (s : HostSystem) : HostSystemEvent → List HostEffect
  | .call _ _ _ => s.calls.tail
  | _ => s.calls

/-- What a step is: an event of the session, an invocation on the coordinator, or neither, with
    nothing changed that the session, the coordinator or a permission check would notice. -/
inductive StepShape (c : Cng) (s : HostSystem) (e : HostSystemEvent) (t : HostSystem) : Prop where
  | session (se : HostEvent) (he : e = .session se) (ht : t = (s.onSession se).1)
  | invoke (inv : HostCoordinatorEvent) (io : PlatformResults) (hinv : s.invocationAt e = some inv)
      (ht : t = ((s.setCalls (s.callsAfter e)).onApp c inv io).1)
  | quiet (hinv : s.invocationAt e = none) (hsession : t.session = s.session)
      (happ : t.app = s.app) (hcalls : t.calls = s.callsAfter e)
      (henforced : ∀ p, t.injector.enforced p = s.injector.enforced p)

theorem step_shape (c : Cng) (s : HostSystem) (e : HostSystemEvent) :
    StepShape c s e (s.step c e) := by
  unfold step handle
  cases e with
  | session se => exact .session se rfl rfl
  | call keys salt io =>
      dsimp only
      split
      · next hnone => exact .quiet hnone rfl rfl rfl (fun _ => rfl)
      · next inv hinv => exact .invoke inv io hinv rfl
  | streamBound index udpPort => exact .invoke _ {} rfl rfl
  | streamResult index ok err => exact .invoke _ {} rfl rfl
  | streamError clientId running => exact .invoke _ {} rfl rfl
  | kick clientId => exact .invoke _ {} rfl rfl
  | input index data io =>
      dsimp only
      split
      · exact .quiet rfl rfl rfl rfl (fun _ => rfl)
      · next playerIndex _ =>
          exact .quiet rfl rfl rfl rfl
            (fun p => s.injector.enforced_applyInput playerIndex p data io)

end HostSystem

end RemotePlay.App
