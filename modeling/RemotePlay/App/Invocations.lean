import RemotePlay.App.HostCoordinator
import RemotePlay.Lib.OrderedMap

set_option autoImplicit false

/-! # What an invocation can do

`Outcome` lists everything an invocation on the coordinator can do to its streams and streamers,
with the effects that come with it, and `handle_outcome` proves the list complete. What becomes of a
client's channel, of its seat or of its streamer is read off this list. -/

namespace RemotePlay.App

open Proto (Body decodeMessage)
open Crypto (Cng EcdhKeyPair SecureChannel)

namespace HostCoordinator

/-! ## What an invocation is about -/

/-- The application message an invocation handles: its sender and its body. -/
def messageOf : HostCoordinatorEvent → Option (UInt32 × Body)
  | .appMessage clientId type payload =>
      (decodeMessage type payload).map (fun env => (clientId, env.body))
  | _ => none

/-- The invocation ends the client's stream. -/
def endsStream (id : UInt32) : HostCoordinatorEvent → Bool
  | .clientUpdated row _ _ => row.state = .Disconnected && row.id = id
  | .kick clientId => clientId = id
  | _ => false

/-- The invocation drops the injector's entry of a client that keeps its stream: a `STREAM_STOP`
    message, or the report of a streamer that has stopped itself. -/
def Resets (k : HostCoordinator) (e : HostCoordinatorEvent) (id : UInt32) : Prop :=
  (∃ m, messageOf e = some (id, .streamStop m)) ∨
    (e = .streamError id false ∧ ((k.streams[id]?).bind ClientStream.streamer).isSome)

/-- The result of `finish`, if the invocation runs it for the client. -/
def exchangeAt (c : Cng) (id : UInt32) (k : HostCoordinator) (e : HostCoordinatorEvent) :
    Option Bool :=
  match messageOf e with
  | some (clientId, .keyExchange m) =>
      if clientId = id then
        (k.streams[id]?).bind (fun cs => cs.ecdh.bind (fun ecdh =>
          if cs.keysReady then none
          else some (SecureChannel.finish c {} ecdh cs.ourSalt m.publicKey m.salt
            k.sessionCode true).1))
      else none
  | _ => none

/-- The streamers an invocation adds. -/
def started (k : HostCoordinator) (e : HostCoordinatorEvent) : List HostStreamer :=
  match messageOf e with
  | some (clientId, .sessionKeyReady) =>
      match k.streams[clientId]? with
      | none => []
      | some cs =>
          if cs.channel.isNone then []
          else
            [{ clientId := cs.clientId
               config := k.settings
               playerIndex := cs.playerIndex
               udpSession := makeUdpSessionId k.sessionCode cs.clientId
               channel := cs.channel }]
  | _ => []

section

variable {c : Cng} {k : HostCoordinator} {e : HostCoordinatorEvent} {id : UInt32}

theorem messageOf_of_endsStream (h : endsStream id e = true) : messageOf e = none := by
  cases e with
  | appMessage clientId type payload => cases h
  | _ => rfl

theorem endsStream_of_messageOf {p : UInt32 × Body} (h : messageOf e = some p) (a : UInt32) :
    endsStream a e = false := by
  cases e with
  | appMessage clientId type payload => rfl
  | _ => cases h

/-- An invocation ends one stream only. -/
theorem eq_of_endsStream {a : UInt32} (h : endsStream id e = true) (ha : endsStream a e = true) :
    a = id := by
  cases e with
  | clientUpdated row keys salt =>
      simp only [endsStream, Bool.and_eq_true, decide_eq_true_eq] at h ha
      exact ha.2.symm.trans h.2
  | kick clientId =>
      simp only [endsStream, decide_eq_true_eq] at h ha
      exact ha.symm.trans h
  | _ => cases h

theorem endsStream_of_resets (h : k.Resets e id) (a : UInt32) : endsStream a e = false := by
  rcases h with ⟨m, hmsg⟩ | ⟨rfl, -⟩
  · exact endsStream_of_messageOf hmsg a
  · rfl

theorem exchangeAt_of_no_message (h : messageOf e = none) : exchangeAt c id k e = none := by
  rw [exchangeAt, h]

theorem started_of_no_message (h : messageOf e = none) : k.started e = [] := by
  rw [started, h]

theorem exchangeAt_of_resets (h : k.Resets e id) (a : UInt32) : exchangeAt c a k e = none := by
  rcases h with ⟨m, hmsg⟩ | ⟨rfl, -⟩
  · rw [exchangeAt, hmsg]
  · rfl

theorem started_of_resets (h : k.Resets e id) : k.started e = [] := by
  rcases h with ⟨m, hmsg⟩ | ⟨rfl, -⟩
  · rw [started, hmsg]
  · rfl

end

/-! ## The outcomes -/

/-- The effect concerns neither the injector nor the life of a streamer. -/
def outward : HostCoordinatorEffect → Bool
  | .setPermissions _ _ => false
  | .clientDisconnected _ => false
  | .setRumbleSender _ => false
  | .startStreamer _ => false
  | .stopStreamer _ => false
  | _ => true

/-- Everything an invocation can do. -/
inductive Outcome (c : Cng) (k : HostCoordinator) (e : HostCoordinatorEvent) :
    HostCoordinator × List HostCoordinatorEffect → Prop where
  /-- The client it is about has no stream, or the stream is not in the state for it. -/
  | idle (out : List HostCoordinatorEffect) (hout : out.all outward = true)
      (hperms : ∀ id p, e = .inputPermissions id p → k.streams[id]? = none)
      (hends : ∀ id, endsStream id e = true → k.streams[id]? = none)
      (hexchange : ∀ id, exchangeAt c id k e = none) (hstarted : k.started e = []) :
      Outcome c k e (k, out)
  | opened (row : Host.ClientRow) (keys : Option EcdhKeyPair) (salt : Bytes) (kp : EcdhKeyPair)
      (out : List HostCoordinatorEffect) (hout : out.all outward = true)
      (he : e = .clientUpdated row keys salt) (hstate : row.state = .Connected)
      (hnew : k.streams[row.id]? = none) :
      Outcome c k e
        (k.putStream row.id
          { clientId := row.id, playerIndex := k.assignPlayerIndex, ecdh := some kp,
            ourSalt := salt }, out)
  | closed (id : UInt32) (cs : ClientStream) (more : List HostCoordinatorEffect)
      (hmore : more.all outward = true) (hcs : k.streams[id]? = some cs)
      (he : endsStream id e = true) :
      Outcome c k e
        ({ k with streams := k.streams.erase id },
          (cs.streamer.map .stopStreamer).toList ++ [.clientDisconnected cs.playerIndex] ++ more)
  | exchanged (id : UInt32) (cs : ClientStream) (ecdh : EcdhKeyPair) (m : Proto.Msg.KeyExchange)
      (out : List HostCoordinatorEffect) (hout : out.all outward = true)
      (hcs : k.streams[id]? = some cs) (hecdh : cs.ecdh = some ecdh) (hready : cs.keysReady = false)
      (he : messageOf e = some (id, .keyExchange m)) :
      Outcome c k e
        (k.putStream id
          { cs with channel := some (SecureChannel.finish c {} ecdh cs.ourSalt m.publicKey m.salt
              k.sessionCode true).2 }, out)
  | ready (id : UInt32) (cs : ClientStream) (hcs : k.streams[id]? = some cs)
      (hchannel : cs.channel.isNone = false) (he : messageOf e = some (id, .sessionKeyReady)) :
      Outcome c k e (k.startStreamFor id { cs with keysReady := true })
  | permitted (id : UInt32) (p : InputPermissions) (cs : ClientStream)
      (hcs : k.streams[id]? = some cs) (he : e = .inputPermissions id p) :
      Outcome c k e (k, k.handleInputPermissions id p)
  | reset (id : UInt32) (cs : ClientStream) (hcs : k.streams[id]? = some cs) (he : k.Resets e id) :
      Outcome c k e
        (k, (cs.streamer.map .stopStreamer).toList ++ [.clientDisconnected cs.playerIndex])

section Handlers

variable {c : Cng} {k : HostCoordinator} {e : HostCoordinatorEvent}

/-- An invocation that is no message and has no stream to end. -/
theorem Outcome.idle_of_no_message {out : List HostCoordinatorEffect} (hmsg : messageOf e = none)
    (hout : out.all outward = true)
    (hperms : ∀ id p, e = .inputPermissions id p → k.streams[id]? = none)
    (hends : ∀ id, endsStream id e = true → k.streams[id]? = none) : Outcome c k e (k, out) :=
  .idle out hout hperms hends (fun _ => exchangeAt_of_no_message hmsg) (started_of_no_message hmsg)

/-- A message that completes no exchange and starts no stream. -/
theorem Outcome.idle_of_message {p : UInt32 × Body} {out : List HostCoordinatorEffect}
    (hmsg : messageOf e = some p) (hout : out.all outward = true)
    (hexchange : ∀ id, exchangeAt c id k e = none) (hstarted : k.started e = []) :
    Outcome c k e (k, out) := by
  refine .idle out hout ?_ ?_ hexchange hstarted
  · rintro id perms rfl
    cases hmsg
  · intro id hends
    rw [endsStream_of_messageOf hmsg] at hends
    cases hends

theorem outcome_teardownClient {id : UInt32} (he : endsStream id e = true)
    (more : List HostCoordinatorEffect) (hmore : more.all outward = true) :
    Outcome c k e ((k.teardownClient id).1, (k.teardownClient id).2 ++ more) := by
  unfold teardownClient
  split
  · next hnone =>
      refine .idle_of_no_message (messageOf_of_endsStream he) hmore ?_ ?_
      · rintro a p rfl
        cases he
      · intro a ha
        rw [eq_of_endsStream he ha, hnone]
  · next cs hcs => exact .closed id cs more hmore hcs he

theorem outcome_beginKeyExchange {row : Host.ClientRow} {keys : Option EcdhKeyPair} {salt : Bytes}
    (he : e = .clientUpdated row keys salt) (hstate : row.state = .Connected) :
    Outcome c k e (k.beginKeyExchange row.id keys salt) := by
  have hidle : ∀ out : List HostCoordinatorEffect, out.all outward = true →
      Outcome c k e (k, out) := by
    subst he
    intro out hout
    refine .idle_of_no_message rfl hout ?_ ?_
    · intro a p h
      cases h
    · intro a h
      simp [endsStream, hstate] at h
  unfold beginKeyExchange
  split
  · exact hidle [] rfl
  next hnone =>
  split
  · exact hidle _ rfl
  · next kp => exact .opened row _ salt kp _ rfl he hstate hnone

theorem outcome_handleClientUpdated (row : Host.ClientRow) (keys : Option EcdhKeyPair)
    (salt : Bytes) (he : e = .clientUpdated row keys salt) :
    Outcome c k e (k.handleClientUpdated row keys salt) := by
  unfold handleClientUpdated
  split
  · next hconn => exact outcome_beginKeyExchange he hconn
  split
  · next hdisc =>
      have hends : endsStream row.id e = true := by simp [he, endsStream, hdisc]
      have h := outcome_teardownClient (c := c) (k := k) hends [] rfl
      rwa [List.append_nil] at h
  · next hdisc =>
      subst he
      refine .idle_of_no_message rfl rfl ?_ ?_
      · intro a p h
        cases h
      · intro a h
        simp [endsStream, hdisc] at h

theorem outcome_handleKeyExchange {id : UInt32} {m : Proto.Msg.KeyExchange}
    (he : messageOf e = some (id, .keyExchange m)) :
    Outcome c k e (k.handleKeyExchange c id m) := by
  have hstarted : k.started e = [] := by rw [started, he]
  -- `finish` runs for the sender only, and only if its stream is there and not ready
  have hexchange : (k.streams[id]?).bind (fun cs => cs.ecdh.bind (fun ecdh =>
      if cs.keysReady then none
      else some (SecureChannel.finish c {} ecdh cs.ourSalt m.publicKey m.salt
        k.sessionCode true).1)) = none → ∀ a, exchangeAt c a k e = none := by
    intro h a
    rw [exchangeAt, he]
    dsimp only
    split
    · next heq => rw [← heq, h]
    · rfl
  unfold handleKeyExchange
  split
  · next hnone => exact .idle_of_message he rfl (hexchange (by rw [hnone]; rfl)) hstarted
  next cs hcs =>
  split
  · next hecdh => exact .idle_of_message he rfl (hexchange (by simp [hcs, hecdh])) hstarted
  next ecdh hecdh =>
  split
  · next hready =>
      exact .idle_of_message he rfl (hexchange (by simp [hcs, hecdh, hready])) hstarted
  next hready =>
  rw [Bool.not_eq_true] at hready
  -- success or failure: the channel is stored either way
  dsimp only
  split
  · exact .exchanged id cs ecdh m _ rfl hcs hecdh hready he
  · exact .exchanged id cs ecdh m _ rfl hcs hecdh hready he

theorem outcome_handleSessionKeyReady {id : UInt32}
    (he : messageOf e = some (id, .sessionKeyReady)) :
    Outcome c k e (k.handleSessionKeyReady id) := by
  have hexchange : ∀ a, exchangeAt c a k e = none := by
    intro a
    rw [exchangeAt, he]
  unfold handleSessionKeyReady
  split
  · next hnone => exact .idle_of_message he rfl hexchange (by simp [started, he, hnone])
  next cs hcs =>
  split
  · next hch => exact .idle_of_message he rfl hexchange (by simp [started, he, hcs, hch])
  · next hch => exact .ready id cs hcs ((Bool.not_eq_true _).mp hch) he

theorem outcome_handleAppMessage (id : UInt32) (type : UInt16) (payload : Bytes)
    (he : e = .appMessage id type payload) :
    Outcome c k e (k.handleAppMessage c id type payload) := by
  unfold handleAppMessage
  split
  · next hdec =>
      subst he
      refine .idle_of_no_message (by simp [messageOf, hdec]) rfl ?_ ?_
      · intro a p h
        cases h
      · intro a h
        cases h
  next env hdec =>
  have hmsg : messageOf e = some (id, env.body) := by simp [he, messageOf, hdec]
  split
  · next m hbody => exact outcome_handleKeyExchange (by rw [hmsg, hbody])
  · next hbody => exact outcome_handleSessionKeyReady (by rw [hmsg, hbody])
  · next m hbody =>
      rw [hbody] at hmsg
      unfold handleStreamStop
      split
      · exact .idle_of_message hmsg rfl (by simp [exchangeAt, hmsg]) (by simp [started, hmsg])
      · next cs hcs => exact .reset id cs hcs (.inl ⟨m, hmsg⟩)
  · next hbody =>
      rw [hbody] at hmsg
      refine .idle_of_message hmsg ?_ (by simp [exchangeAt, hmsg]) (by simp [started, hmsg])
      unfold handleKeyframeRequest
      split
      · rfl
      · next cs _ =>
          cases cs.streamer with
          | none => rfl
          | some index => rfl
  · next hkey hready hstop hframe =>
      refine .idle_of_message hmsg rfl ?_ ?_
      · intro a
        unfold exchangeAt
        split
        · next m h => exact absurd (Prod.mk.inj (Option.some.inj (hmsg.symm.trans h))).2 (hkey m)
        · rfl
      · unfold started
        split
        · next h => exact absurd (Prod.mk.inj (Option.some.inj (hmsg.symm.trans h))).2 hready
        · rfl

theorem outcome_handleStreamError (id : UInt32) (running : Bool)
    (he : e = .streamError id running) :
    Outcome c k e (k, k.handleStreamError id running) := by
  subst he
  have hidle : Outcome c k (.streamError id running) (k, []) := by
    refine .idle_of_no_message rfl rfl ?_ ?_
    · intro a p h
      cases h
    · intro a h
      cases h
  unfold handleStreamError
  split
  · exact hidle
  next cs hcs =>
  split
  · exact hidle
  next index hindex =>
  split
  · exact hidle
  next hrun =>
  rw [Bool.not_eq_true] at hrun
  subst hrun
  have h := Outcome.reset (c := c) (e := .streamError id false) id cs hcs
    (.inr ⟨rfl, by simp [hcs, hindex]⟩)
  rwa [hindex] at h

end Handlers

/-- **What an invocation can do.** -/
theorem handle_outcome (c : Cng) (k : HostCoordinator) (e : HostCoordinatorEvent) :
    Outcome c k e (k.handle c e) := by
  unfold handle
  cases e with
  | clientUpdated row keys salt => exact outcome_handleClientUpdated row keys salt rfl
  | appMessage id type payload => exact outcome_handleAppMessage id type payload rfl
  | streamError id running => exact outcome_handleStreamError id running rfl
  | kick id => exact outcome_teardownClient (by simp [endsStream]) _ rfl
  | inputPermissions id p =>
      cases hcs : k.streams[id]? with
      | some cs => exact .permitted id p cs hcs rfl
      | none =>
          refine .idle_of_no_message rfl (by simp [handleInputPermissions, hcs]) ?_ ?_
          · intro a q h
            rw [← (HostCoordinatorEvent.inputPermissions.inj h).1, hcs]
          · intro a h
            cases h
  | streamBound index udpPort =>
      refine .idle_of_no_message rfl ?_ (fun a p h => by cases h) (fun a h => by cases h)
      unfold handleStreamBound
      split
      · rfl
      · rfl
  | streamResult index ok err =>
      refine .idle_of_no_message rfl ?_ (fun a p h => by cases h) (fun a h => by cases h)
      unfold handleStreamResult
      split
      · rfl
      split
      · rfl
      split
      · rfl
      · rfl

/-- The list of streamers is a log: invocations only append to it. -/
theorem streamers_step (c : Cng) (k : HostCoordinator) (e : HostCoordinatorEvent) :
    (k.step c e).streamers = k.streamers ++ k.started e := by
  have hnone : k.started e = [] → k.streamers = k.streamers ++ k.started e := by
    intro h
    rw [h, List.append_nil]
  have h := handle_outcome c k e
  unfold step
  generalize k.handle c e = r at h
  cases h with
  | idle out hout hperms hends hexchange hstarted => exact hnone hstarted
  | opened row keys salt kp out hout he hstate hnew => exact hnone (by rw [he]; rfl)
  | closed a cs more hmore hcs he =>
      exact hnone (started_of_no_message (messageOf_of_endsStream he))
  | exchanged a cs ecdh m out hout hcs hecdh hready he => exact hnone (by rw [started, he])
  | ready a cs hcs hchannel he =>
      -- the only message that starts a streamer, whatever state its channel is in
      rw [started, he]
      simp [hcs, hchannel, startStreamFor, putStream]
  | permitted a p cs hcs he => exact hnone (by rw [he]; rfl)
  | reset a cs hcs he => exact hnone (started_of_resets he)

end HostCoordinator

end RemotePlay.App
