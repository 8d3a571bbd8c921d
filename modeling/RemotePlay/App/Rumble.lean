import RemotePlay.App.SeatCapacity
import RemotePlay.App.StreamerLifecycle

set_option autoImplicit false

/-! # Where a rumble goes

The injector has one rumble sender for all players. Each permission report that allows a streaming
client its controller replaces it with a sender to that client, so the vibration of every pad goes
to whoever was granted last. `lastGrant` is that client; a rumble reaches its player exactly if that
is the client seated there (`rumble_reaches_player_iff`). -/

namespace RemotePlay.App

open Crypto (Cng EcdhKeyPair)
open Host (HostLaunchSettings)
open Input (InputInjector PlatformResults)

/-- What becomes of a pad's vibration. -/
inductive Rumble where
  /-- The sender is not invoked. -/
  | silent
  /-- The sender finds no stream of its client. -/
  | noStream
  /-- The stream has no streamer, and the sender calls through a null pointer. -/
  | nullStreamer
  /-- `sendRumble` of this streamer is called. -/
  | sendRumble (index : Nat)
deriving DecidableEq, Repr

/-- The rumble sender that `onInputPermissions` makes for a client. -/
def HostCoordinator.rumbleSender (k : HostCoordinator) (clientId : UInt32) : Rumble :=
  match k.streams[clientId]? with
  | none => .noStream
  | some cs =>
      match cs.streamer with
      | none => .nullStreamer
      | some index => .sendRumble index

/-- The client that an invocation makes the rumble sender for. -/
def HostCoordinator.granted (k : HostCoordinator) : HostCoordinatorEvent → Option UInt32
  | .inputPermissions clientId perms =>
      if (k.streams[clientId]?).any (fun cs => cs.streamer.isSome) ∧ perms.controller then
        some clientId
      else none
  | _ => none

namespace HostSystem

variable {c : Cng} {s : HostSystem} {e : HostSystemEvent}

/-- The virtual pad of a player reports vibration. -/
def vibrate (s : HostSystem) (player : UInt8) : Rumble :=
  match (s.injector.pads.handleVibration player).bind s.injector.onVibration with
  | none => .silent
  | some clientId => s.app.rumbleSender clientId

/-- If the sender is invoked, the rumble goes to a streamer of the client seated as this player. -/
def RumbleReaches (s : HostSystem) (player : UInt8) : Prop :=
  s.vibrate player ≠ .silent → ∃ index st, s.vibrate player = .sendRumble index ∧
    s.app.streamers[index]? = some st ∧ s.app.seats st.clientId = some player

/-! ## Who was granted last -/

/-- The client that the event's permission report allows its controller, while it is streaming. -/
def grantAt (s : HostSystem) (e : HostSystemEvent) : Option UInt32 :=
  (s.invocationAt e).bind s.app.granted

/-- The client of the latest such report in a run. -/
def lastGrant (steps : List (HostSystem × HostSystemEvent)) : Option UInt32 :=
  lastOutcome (fun _ _ => false) grantAt steps

/-- The sender that an effect installs. -/
def senderSet : HostCoordinatorEffect → Option UInt32
  | .setRumbleSender clientId => some clientId
  | _ => none

theorem rumbleSender_callInjector (io : PlatformResults) (j : InputInjector)
    (eff : HostCoordinatorEffect) :
    (callInjector io j eff).rumbleSender = (senderSet eff).or j.rumbleSender := by
  cases eff with
  | setPermissions p perms => exact j.rumbleSender_setPermissions p perms io
  | _ => rfl

/-- Calls that install no sender. -/
theorem rumbleSender_foldl_of_none (io : PlatformResults) (out : List HostCoordinatorEffect)
    (j : InputInjector) (h : out.filterMap senderSet = []) :
    (out.foldl (callInjector io) j).rumbleSender = j.rumbleSender := by
  rw [List.filterMap_eq_nil_iff] at h
  induction out generalizing j with
  | nil => rfl
  | cons eff out ih =>
      rw [List.foldl_cons, ih _ (fun a ha => h a (List.mem_cons_of_mem eff ha)),
        rumbleSender_callInjector, h eff List.mem_cons_self, Option.none_or]

theorem senders_stopStreamer (cs : ClientStream) (more : List HostCoordinatorEffect)
    (hmore : more.filterMap senderSet = []) :
    ((cs.streamer.map HostCoordinatorEffect.stopStreamer).toList ++ more).filterMap senderSet
      = [] := by
  rw [List.filterMap_append, hmore]
  cases cs.streamer with
  | none => rfl
  | some index => rfl

theorem senders_of_outward {out : List HostCoordinatorEffect}
    (h : out.all HostCoordinator.outward = true) : out.filterMap senderSet = [] := by
  rw [List.filterMap_eq_nil_iff]
  intro eff hmem
  have heff := List.all_eq_true.1 h eff hmem
  cases eff with
  | setRumbleSender id => cases heff
  | _ => rfl

/-- Only a permission report installs a sender. -/
theorem senders_handle (k : HostCoordinator) (inv : HostCoordinatorEvent)
    (hinv : ∀ id p, inv ≠ .inputPermissions id p) :
    (k.handle c inv).2.filterMap senderSet = [] := by
  have h := k.handle_outcome c inv
  generalize k.handle c inv = r at h
  cases h with
  | idle out hout hperms hends hexchange hstarted => exact senders_of_outward hout
  | opened row keys salt kp out hout he hstate hnew => exact senders_of_outward hout
  | closed id cs more hmore hcs he =>
      have hsenders := senders_of_outward hmore
      rw [List.append_assoc]
      exact senders_stopStreamer cs _ hsenders
  | exchanged id cs ecdh m out hout hcs hecdh hready he => exact senders_of_outward hout
  | ready id cs hcs hchannel he => rfl
  | permitted id p cs hcs he => exact absurd he (hinv id p)
  | reset id cs hcs he => exact senders_stopStreamer cs _ rfl

theorem rumbleSender_onApp (s : HostSystem) (inv : HostCoordinatorEvent) (io : PlatformResults) :
    (s.onApp c inv io).1.injector.rumbleSender
      = (s.app.granted inv).or s.injector.rumbleSender := by
  have hother : (∀ id p, inv ≠ .inputPermissions id p) →
      (s.onApp c inv io).1.injector.rumbleSender = s.injector.rumbleSender :=
    fun hinv => rumbleSender_foldl_of_none io _ _ (senders_handle s.app inv hinv)
  cases inv with
  | inputPermissions id perms =>
      show ((s.app.handleInputPermissions id perms).foldl (callInjector io)
        s.injector).rumbleSender = _
      unfold HostCoordinator.handleInputPermissions
      split
      · next hnone => simp [HostCoordinator.granted, hnone]
      · next cs hcs =>
          rw [List.foldl_cons, HostCoordinator.granted, hcs, Option.any_some]
          split
          · rfl
          · exact s.injector.rumbleSender_setPermissions cs.playerIndex perms io
  | _ => exact hother (by simp)

/-- **What a step does to the rumble sender.** -/
theorem rumbleSender_step (c : Cng) (s : HostSystem) (e : HostSystemEvent) :
    (s.step c e).injector.rumbleSender = (s.grantAt e).or s.injector.rumbleSender := by
  unfold step handle grantAt
  cases e with
  | session se => rfl
  | call keys salt io =>
      dsimp only [invocationAt]
      split
      · next hnone => simp [hnone, setCalls]
      · next inv hinv =>
          rw [hinv]
          exact rumbleSender_onApp (s.setCalls s.calls.tail) inv io
  | streamBound index udpPort => exact rumbleSender_onApp s _ {}
  | streamResult index ok err => exact rumbleSender_onApp s _ {}
  | streamError clientId running => exact rumbleSender_onApp s _ {}
  | kick clientId => exact rumbleSender_onApp s _ {}
  | input index data io =>
      dsimp only
      split
      · rfl
      · exact s.injector.rumbleSender_applyInput _ data io

theorem rumbleSender_eq_lastGrant (c : Cng) (userName : Bytes) (settings : HostLaunchSettings)
    (sessionCode : Bytes) (es : List HostSystemEvent) :
    (runFrom (step c) (started userName settings sessionCode) es).injector.rumbleSender
      = lastGrant (history (step c) (started userName settings sessionCode) es) :=
  eq_lastOutcome (step c) (fun _ _ => false) grantAt (fun s => s.injector.rumbleSender)
    (fun s e => rumbleSender_step c s e) _ rfl es

/-! ## Every run -/

/-- There is a pad of the player, and its vibration is allowed. -/
def Rumbles (s : HostSystem) (player : UInt8) : Prop :=
  s.injector.pads.hasPlayer player = true ∧
    (s.injector.clients.find? player).any Input.PerClient.vibration = true

/-- The client is seated as this player and has a streamer. -/
def StreamsAs (s : HostSystem) (id : UInt32) (player : UInt8) : Prop :=
  s.app.seats id = some player ∧ ∃ index, s.app.entries id = some (some index)

theorem vibrate_of_rumbles {player : UInt8} (h : s.Rumbles player) :
    s.vibrate player = s.injector.rumbleSender.elim .silent s.app.rumbleSender := by
  unfold vibrate
  simp only [Input.VirtualGamepad.handleVibration, h.1, if_true, Option.bind_some,
    InputInjector.onVibration, h.2]
  cases s.injector.rumbleSender with
  | none => rfl
  | some id => rfl

theorem vibrate_of_not_rumbles {player : UInt8} (h : ¬ s.Rumbles player) :
    s.vibrate player = .silent := by
  unfold vibrate Input.VirtualGamepad.handleVibration
  split
  · rfl
  · next clientId hinvoked =>
      exfalso
      split at hinvoked
      · next hpad =>
          rw [Option.bind_some, InputInjector.onVibration] at hinvoked
          split at hinvoked
          · next hvib => exact h ⟨hpad, hvib⟩
          · cases hinvoked
      · cases hinvoked

theorem rumbleSender_of_entry {k : HostCoordinator} {id : UInt32} {index : Nat}
    (h : k.entries id = some (some index)) : k.rumbleSender id = .sendRumble index := by
  obtain ⟨cs, hcs, hindex⟩ := Option.map_eq_some_iff.1 h
  simp [HostCoordinator.rumbleSender, hcs, hindex]

theorem entry_of_rumbleSender {k : HostCoordinator} {id : UInt32} {index : Nat}
    (h : k.rumbleSender id = .sendRumble index) : k.entries id = some (some index) := by
  unfold HostCoordinator.rumbleSender at h
  split at h
  · cases h
  next cs hcs =>
  split at h
  · cases h
  next i hi =>
  rw [HostCoordinator.entries_of_stream hcs, hi, Rumble.sendRumble.inj h]

theorem rumbleSender_ne_silent (k : HostCoordinator) (id : UInt32) :
    k.rumbleSender id ≠ .silent := by
  unfold HostCoordinator.rumbleSender
  split
  · simp
  split
  · simp
  · simp

/-- One vibration, in a state whose streamers are with their clients. -/
theorem rumbleReaches_iff (howned : s.app.Owned) (player : UInt8) :
    s.RumbleReaches player ↔
      (s.Rumbles player → ∀ id, s.injector.rumbleSender = some id → s.StreamsAs id player) := by
  by_cases hrumbles : s.Rumbles player
  swap
  · exact iff_of_true (fun h => absurd (vibrate_of_not_rumbles hrumbles) h)
      (fun h => absurd h hrumbles)
  rw [RumbleReaches, vibrate_of_rumbles hrumbles]
  cases s.injector.rumbleSender with
  | none => simp
  | some id =>
      simp only [Option.elim_some, ne_eq, rumbleSender_ne_silent, not_false_eq_true, true_imp_iff,
        hrumbles, Option.some.injEq, forall_eq']
      constructor
      · rintro ⟨index, st, hsent, hst, hseat⟩
        have hentry := entry_of_rumbleSender hsent
        obtain ⟨st', hst', hclient⟩ := howned id index hentry
        obtain rfl := Option.some.inj (hst.symm.trans hst')
        exact ⟨hclient ▸ hseat, index, hentry⟩
      · rintro ⟨hseat, index, hentry⟩
        obtain ⟨st, hst, hclient⟩ := howned id index hentry
        exact ⟨index, st, rumbleSender_of_entry hentry, hst, hclient.symm ▸ hseat⟩

theorem owned_run (c : Cng) (userName : Bytes) (settings : HostLaunchSettings)
    (sessionCode : Bytes) (es : List HostSystemEvent) :
    (runFrom (step c) (started userName settings sessionCode) es).app.Filed ∧
      (runFrom (step c) (started userName settings sessionCode) es).app.Owned := by
  refine runFrom_preserved (step c) (fun s => s.app.Filed ∧ s.app.Owned) ?_ _ es ⟨?_, ?_⟩
  · intro s e ⟨hfiled, howned⟩
    have hshape := step_shape c s e
    generalize s.step c e = t at hshape
    cases hshape with
    | session se he ht => exact ht ▸ ⟨hfiled, howned⟩
    | invoke inv io hinv ht =>
        subst ht
        exact ⟨(s.app.step_keeps c inv).filed hfiled,
          HostCoordinator.step_owned c hfiled howned inv⟩
    | quiet hinv hsession happ hcalls henforced => exact happ ▸ ⟨hfiled, howned⟩
  · intro id cs hcs
    simp [started] at hcs
  · intro id index hentry
    simp [started, HostCoordinator.entries] at hentry

/-- **Where a rumble goes.** In every run, the vibration of a player's pad goes to the client seated
    as that player and to nobody else, if and only if the client that was last granted its
    controller while streaming is that client, still there with its streamer, or there was none. -/
theorem rumble_reaches_player_iff (c : Cng) (userName : Bytes) (settings : HostLaunchSettings)
    (sessionCode : Bytes) (es : List HostSystemEvent) (player : UInt8) :
    (runFrom (step c) (started userName settings sessionCode) es).RumbleReaches player ↔
      ((runFrom (step c) (started userName settings sessionCode) es).Rumbles player →
        ∀ id, lastGrant (history (step c) (started userName settings sessionCode) es) = some id →
          (runFrom (step c) (started userName settings sessionCode) es).StreamsAs id player) := by
  rw [rumbleReaches_iff (owned_run c userName settings sessionCode es).2,
    rumbleSender_eq_lastGrant]

/-- A client exchanges keys and gets its stream. -/
def streams (id : UInt32) : List HostSystemEvent :=
  [.session (.frame id Proto.Id.KeyExchange.code
      (HostCoordinator.keyExchangePayload Crypto.Session.clientPublic Crypto.Session.clientSalt)
      4 4),
    .call none [] {},
    .session (.frame id Proto.Id.SessionKeyReady.code [] 5 5),
    .call none [] {}]

/-- The host takes a client its input and gives it back; only then is there a pad. -/
def regrants (id : UInt32) : List HostSystemEvent :=
  [.session (.setClientInput id false), .session (.setClientInput id true)]

/-- Two clients stream, and both get their pads, the second one last. -/
def twoPlayers : List HostSystemEvent :=
  joins 1 ++ joins 2 ++
    List.replicate 4 (.call (some Crypto.Session.hostKeys) Crypto.Session.hostSalt {}) ++
    streams 1 ++ streams 2 ++ regrants 1 ++ regrants 2 ++
    List.replicate 8 (.session (.runTask 6)) ++ List.replicate 4 (.call none [] {})

/-- The pad of the first player rumbles the second one's controller. -/
theorem rumble_goes_to_last_granted :
    let s := runFrom (step Crypto.Session.record.replay) (started [] {} Crypto.Session.code)
      twoPlayers
    s.app.seats 1 = some 0 ∧ s.app.entries 1 = some (some 0) ∧ s.app.seats 2 = some 1 ∧
      s.vibrate 0 = .sendRumble 1 ∧ s.app.streamers.map HostStreamer.clientId = [1, 2] ∧
      ¬ s.RumbleReaches 0 := by
  intro s
  have hseat : s.app.seats 2 = some 1 := by decide +kernel
  have hsent : s.vibrate 0 = .sendRumble 1 := by decide +kernel
  have hclients : s.app.streamers.map HostStreamer.clientId = [1, 2] := by decide +kernel
  refine ⟨by decide +kernel, by decide +kernel, hseat, hsent, hclients, ?_⟩
  intro hreaches
  obtain ⟨index, st, hindex, hst, hplayer⟩ := hreaches (by simp [hsent])
  obtain rfl := Rumble.sendRumble.inj (hsent.symm.trans hindex)
  have hclient : (s.app.streamers.map HostStreamer.clientId)[1]? = some st.clientId := by
    rw [List.getElem?_map, hst, Option.map_some]
  rw [hclients] at hclient
  have htwo : st.clientId = 2 := by simpa using hclient.symm
  rw [htwo, hseat] at hplayer
  exact absurd hplayer (by decide)

end HostSystem

end RemotePlay.App
