import Mathlib.Logic.Relation
import RemotePlay.Lib.Runs
import RemotePlay.Server.Coherence

set_option autoImplicit false

/-! # Steps and runs of the signaling server

What an event does to the slots, and what it leaves as it was: every event keeps the invariant, and
goes onward, that is, it only adds messages, removes sessions from the indexes or enters new ones,
and leaves who has a role in it. -/

namespace RemotePlay.Server

/-! ## Events -/

namespace SignalingServer

/-- Whether the coroutine waits for a line. -/
def reading (st : SignalingServer) (c : ConnId) : Bool :=
  match (st.conns c).task with
  | .readline => true
  | _ => false

/-- Whether the coroutine is starting the relays of a session. -/
def starting (st : SignalingServer) (c : ConnId) : Bool :=
  match (st.conns c).task with
  | .startServer _ => true
  | .createDatagramEndpoint _ _ => true
  | _ => false

/-- The connection that leaves its session in the event, if one does. -/
def leaving (st : SignalingServer) : ServerEvent → Option ConnId
  | .line c (.request .leave) _ => if st.reading c then some c else none
  | .line c .ended _ => if st.reading c then some c else none
  | .bound c none => if st.starting c then some c else none
  | _ => none

/-- The slot that is given out in the event, if one is, and in which session. -/
def granted (st : SignalingServer) : ServerEvent → Option (SessionRef × ClientSlot)
  | .line c (.request (.join code name)) env =>
      if st.reading c ∧ (st.conns c).role = none then
        (st.registry.lookupCode code).bind (fun s =>
          (Registry.freeSlot (st.session s)).map (fun idx => (s, newSlot c idx name env)))
      else none
  | _ => none

theorem granted_join (st : SignalingServer) (c : ConnId) (code : String) (name : Option String)
    (env : Readings) : st.granted (.line c (.request (.join code name)) env) =
      if st.reading c ∧ (st.conns c).role = none then
        (st.registry.lookupCode code).bind (fun s =>
          (Registry.freeSlot (st.session s)).map (fun idx => (s, newSlot c idx name env)))
      else none := rfl

/-- A line is handled by a coroutine that waits for one. -/
theorem step_line (st : SignalingServer) (c : ConnId) (x : Line) (env : Readings) :
    st.step (.line c x env) = if st.reading c then st.onLine c x env else st := by
  cases htask : (st.conns c).task
  all_goals simp [step, reading, htask]

theorem leaving_line_of_not_reading {st : SignalingServer} {c : ConnId}
    (h : st.reading c = false) (x : Line) (env : Readings) :
    st.leaving (.line c x env) = none ∧ st.granted (.line c x env) = none := by
  cases x with
  | skipped => exact ⟨rfl, rfl⟩
  | badJson => exact ⟨rfl, rfl⟩
  | ended => exact ⟨by rw [leaving, if_neg (by simp [h])], rfl⟩
  | request msg =>
      cases msg with
      | hostRegister name => exact ⟨rfl, rfl⟩
      | join code name => exact ⟨rfl, by rw [granted, if_neg (by simp [h])]⟩
      | keepalive => exact ⟨rfl, rfl⟩
      | leave => exact ⟨by rw [leaving, if_neg (by simp [h])], rfl⟩
      | unknown type => exact ⟨rfl, rfl⟩

end SignalingServer

theorem SignalingServer.code_of_granted {st : SignalingServer} {e : ServerEvent} {s : SessionRef}
    {slot : ClientSlot} (h : st.granted e = some (s, slot)) :
    ∃ code, st.registry.byCode.get? code = some s := by
  unfold SignalingServer.granted at h
  split at h
  · next c code name env =>
      split at h
      · obtain ⟨t, hlookup, hslot⟩ := Option.bind_eq_some_iff.1 h
        obtain ⟨idx, -, heq⟩ := Option.map_eq_some_iff.1 hslot
        obtain ⟨rfl, -⟩ := Prod.mk.inj heq
        exact ⟨code, hlookup⟩
      · exact absurd h (by simp)
  · exact absurd h (by simp)

/-- The connection whose coroutine the event takes on. -/
def ServerEvent.conn? : ServerEvent → Option ConnId
  | connect c => some c
  | line c _ _ => some c
  | resume c _ => some c
  | bound c _ => some c
  | expire _ => none
  | relay _ => none
  | datagram _ _ _ => none

/-- What an event does to the slots. -/
inductive SlotChange (st : SignalingServer) (e : ServerEvent) (st' : SignalingServer) : Prop where
  | kept (hleave : st.leaving e = none) (hgrant : st.granted e = none)
      (hget : ∀ s i slot, (st'.session s).clients.get? i = some slot ↔
        (st.session s).clients.get? i = some slot)
  | freed (c : ConnId) (hleave : st.leaving e = some c) (hgrant : st.granted e = none)
      (hget : FreedOf c st st')
  | taken (s : SessionRef) (slot : ClientSlot) (hleave : st.leaving e = none)
      (hgrant : st.granted e = some (s, slot))
      (hfree : (st.session s).clients.get? slot.playerIndex = none)
      (hrole : (st.conns slot.signalingConn).role = none)
      (hget : ∀ t i, (st'.session t).clients.get? i
        = if t = s ∧ i = slot.playerIndex then some slot else (st.session t).clients.get? i)

theorem Registry.freeSlot_eq_some {s : Session} {idx : Nat} (h : Registry.freeSlot s = some idx) :
    idx < maxPlayers ∧ s.clients.get? idx = none :=
  ⟨List.mem_range.1 (List.mem_of_find?_eq_some h),
    Option.isNone_iff_eq_none.1 (List.find?_some (p := fun i => (s.clients.get? i).isNone) h)⟩

/-- There is no free slot exactly if every index is taken. -/
theorem Registry.freeSlot_eq_none_iff (s : Session) :
    Registry.freeSlot s = none ↔ ∀ idx, idx < maxPlayers → s.clients.get? idx ≠ none := by
  unfold Registry.freeSlot
  rw [List.find?_eq_none]
  constructor
  · intro h idx hidx hnone
    exact h idx (List.mem_range.2 hidx) (Option.isNone_iff_eq_none.2 hnone)
  · intro h idx hidx hnone
    exact h idx (List.mem_range.1 hidx) (Option.isNone_iff_eq_none.1 hnone)

namespace Coherent

theorem onJoin {st : SignalingServer} (h : Coherent st) {c : ConnId}
    (hreading : st.reading c = true) (code : String) (name : Option String)
    (env : Readings) :
    Coherent (st.onJoin c code name env) ∧
      SlotChange st (.line c (.request (.join code name)) env) (st.onJoin c code name env) := by
  have hleave : st.leaving (.line c (.request (.join code name)) env) = none := rfl
  unfold SignalingServer.onJoin
  split
  · next hrole =>
      refine ⟨h.replyWith .., .kept hleave ?_ (fun _ _ _ => Iff.rfl)⟩
      rw [SignalingServer.granted_join, if_neg]
      rintro ⟨-, hnone⟩
      rw [hnone] at hrole
      exact absurd hrole (by simp)
  · next hrole =>
      have hrole' : (st.conns c).role = none := by simpa using hrole
      have hgrant : st.granted (.line c (.request (.join code name)) env)
          = (st.registry.lookupCode code).bind (fun s =>
            (Registry.freeSlot (st.session s)).map
              (fun idx => (s, SignalingServer.newSlot c idx name env))) := by
        rw [SignalingServer.granted_join, if_pos ⟨hreading, hrole'⟩]
      split
      · next hlookup =>
          rw [hlookup] at hgrant
          exact ⟨h.replyWith .., .kept hleave hgrant (fun _ _ _ => Iff.rfl)⟩
      · next s hlookup =>
          rw [hlookup, Option.bind_some] at hgrant
          have hs := (h.byCode code s hlookup).1
          obtain ⟨host, hhost, -⟩ := h.hosted s hs
          rw [if_neg (by rw [hhost]; simp)]
          split
          · next hslot =>
              rw [hslot] at hgrant
              exact ⟨h.replyWith .., .kept hleave hgrant (fun _ _ _ => Iff.rfl)⟩
          · next idx hslot =>
              rw [hslot] at hgrant
              obtain ⟨hlt, hfree⟩ := Registry.freeSlot_eq_some hslot
              obtain ⟨hcoherent, hget⟩ := h.takeSlot hrole' hs
                (SignalingServer.newSlot c idx name env) rfl hlt
              exact ⟨hcoherent, .taken s _ hleave hgrant hfree hrole' hget⟩

theorem onHostRegister {st : SignalingServer} (h : Coherent st) (c : ConnId)
    (name : Option String) (env : Readings) :
    Coherent (st.onHostRegister c name env) ∧
      ∀ s i slot, ((st.onHostRegister c name env).session s).clients.get? i = some slot ↔
        (st.session s).clients.get? i = some slot := by
  unfold SignalingServer.onHostRegister
  split
  · exact ⟨h.replyWith .., fun _ _ _ => Iff.rfl⟩
  · next hrole =>
      dsimp only
      split
      · exact ⟨h, fun _ _ _ => Iff.rfl⟩
      · next s r hcreate =>
          have hrole' : (st.conns c).role = none := by simpa using hrole
          obtain ⟨hcoherent, hget⟩ := (h.expireOld env.now).register hrole' hcreate env.token
            (SignalingServer.clip (name.getD "Host")) env.publicAddress
          refine ⟨hcoherent, ?_⟩
          intro t i slot
          have hexpired := ((Registry.removeAll_frame (st.registry.expiring env.now)
            st.registry).2.1 t).1
          rw [hget t i slot]
          show ((st.registry.expireOld env.now).objects t).clients.get? i = some slot ↔ _
          rw [Registry.expireOld, hexpired]
          rfl

theorem onRelaysStarted {st : SignalingServer} (h : Coherent st) (c : ConnId) (s : SessionRef)
    (tcpPort udpPort : Nat) : Coherent (st.onRelaysStarted c s tcpPort udpPort) :=
  (h.modifySession s (fun x =>
    { x with udpRelay := .listening, tcpRelayPort := tcpPort, udpRelayPort := udpPort })
    (fun _ => ⟨rfl, rfl, rfl, rfl⟩)).replyWith ..

theorem clients_modifySession (st : SignalingServer) (s : SessionRef) (f : Session → Session)
    (hf : ∀ x : Session, (f x).clients = x.clients) (t : SessionRef) :
    ((st.modifySession s f).session t).clients = (st.session t).clients := by
  by_cases ht : t = s
  · rw [ht, SignalingServer.session_modifySession_self, hf]
  · rw [SignalingServer.session_modifySession_of_ne _ ht]

/-- A line. -/
theorem onLine {st : SignalingServer} (h : Coherent st) {c : ConnId}
    (hreading : st.reading c = true) (x : Line) (env : Readings) :
    Coherent (st.onLine c x env) ∧ SlotChange st (.line c x env) (st.onLine c x env) := by
  cases x with
  | skipped => exact ⟨h, .kept rfl rfl (fun _ _ _ => Iff.rfl)⟩
  | badJson => exact ⟨h.replyWith .., .kept rfl rfl (fun _ _ _ => Iff.rfl)⟩
  | request msg =>
      cases msg with
      | hostRegister name =>
          obtain ⟨hcoherent, hget⟩ := h.onHostRegister c name env
          exact ⟨hcoherent, .kept rfl rfl hget⟩
      | join code name => exact h.onJoin hreading code name env
      | keepalive => exact ⟨h.replyWith .., .kept rfl rfl (fun _ _ _ => Iff.rfl)⟩
      | leave =>
          obtain ⟨hcoherent, hget⟩ := h.onLeave c false
          exact ⟨hcoherent, .freed c (by rw [SignalingServer.leaving, if_pos hreading]) rfl hget⟩
      | unknown type => exact ⟨h.replyWith .., .kept rfl rfl (fun _ _ _ => Iff.rfl)⟩
  | ended =>
      obtain ⟨hcoherent, hget⟩ := h.onLeave c true
      exact ⟨hcoherent, .freed c (by rw [SignalingServer.leaving, if_pos hreading]) rfl hget⟩

theorem onResume {st : SignalingServer} (h : Coherent st) (c : ConnId)
    (next : Option (List ClientSlot)) :
    Coherent (st.onResume c next) ∧
      ∀ s, ((st.onResume c next).session s).clients = (st.session s).clients := by
  have hfits := h.task c
  unfold SignalingServer.onResume
  split
  · exact ⟨h.goto c trivial, fun _ => rfl⟩
  · next s slot htask =>
      rw [htask] at hfits
      obtain ⟨host, hhost, -⟩ := h.hosted s hfits
      unfold SignalingServer.tellHost
      rw [hhost]
      exact ⟨(h.send _ _).goto c trivial, fun _ => rfl⟩
  · next s rest closing htask =>
      rw [htask] at hfits
      -- there was one slot of the connection, and it is out already
      rw [leaveClient_of_done hfits]
      exact ⟨h.leaveDone c closing, fun _ => rfl⟩
  · next s clients rest closing htask =>
      rw [htask] at hfits
      unfold SignalingServer.continueLeaveHost
      split
      · exact ⟨h.goto c trivial, fun _ => rfl⟩
      · split
        · exact h.leaveHost hfits.1 hfits.2 ..
        · split
          · exact ⟨h.goto c trivial, fun _ => rfl⟩
          · exact h.leaveHost hfits.1 hfits.2 ..
  · exact ⟨h.goto c trivial, fun _ => rfl⟩
  · exact ⟨h, fun _ => rfl⟩

theorem onServerStarted {st : SignalingServer} (h : Coherent st) (c : ConnId) (s : SessionRef)
    (port : Nat) : Coherent (st.onServerStarted c s port) :=
  (h.modifySession s (fun x => { x with tcpRelayServer := .listening })
    (fun _ => ⟨rfl, rfl, rfl, rfl⟩)).goto c trivial

theorem clients_onServerStarted (st : SignalingServer) (c : ConnId) (s : SessionRef) (port : Nat)
    (t : SessionRef) :
    ((st.onServerStarted c s port).session t).clients = (st.session t).clients :=
  clients_modifySession st s (fun x => { x with tcpRelayServer := .listening }) (fun _ => rfl) t

theorem clients_onRelaysStarted (st : SignalingServer) (c : ConnId) (s : SessionRef)
    (tcpPort udpPort : Nat) (t : SessionRef) :
    ((st.onRelaysStarted c s tcpPort udpPort).session t).clients = (st.session t).clients :=
  clients_modifySession st s (fun x =>
    { x with udpRelay := .listening, tcpRelayPort := tcpPort, udpRelayPort := udpPort })
    (fun _ => rfl) t

theorem onBound {st : SignalingServer} (h : Coherent st) (c : ConnId) (port : Option Nat) :
    Coherent (st.onBound c port) ∧ SlotChange st (.bound c port) (st.onBound c port) := by
  have hfail : st.starting c = true →
      Coherent (st.onLeave c true) ∧ SlotChange st (.bound c none) (st.onLeave c true) := by
    intro hstarting
    obtain ⟨hcoherent, hget⟩ := h.onLeave c true
    exact ⟨hcoherent, .freed c (by rw [SignalingServer.leaving, if_pos hstarting]) rfl hget⟩
  have hnot : st.starting c = false →
      Coherent st ∧ SlotChange st (.bound c port) st := by
    intro hstarting
    refine ⟨h, .kept ?_ rfl (fun _ _ _ => Iff.rfl)⟩
    cases port with
    | some port => rfl
    | none => rw [SignalingServer.leaving, if_neg (by simp [hstarting])]
  cases htask : (st.conns c).task
  case startServer s =>
    simp only [SignalingServer.onBound, htask]
    cases port with
    | some port =>
        refine ⟨h.onServerStarted c s port, .kept rfl rfl ?_⟩
        intro t i slot
        rw [clients_onServerStarted]
    | none => exact hfail (by simp only [SignalingServer.starting, htask])
  case createDatagramEndpoint s tcpPort =>
    simp only [SignalingServer.onBound, htask]
    cases port with
    | some port =>
        refine ⟨h.onRelaysStarted c s tcpPort port, .kept rfl rfl ?_⟩
        intro t i slot
        rw [clients_onRelaysStarted]
    | none => exact hfail (by simp only [SignalingServer.starting, htask])
  all_goals
    simp only [SignalingServer.onBound, htask]
    exact hnot (by simp only [SignalingServer.starting, htask])

/-- **Every event** keeps the invariant, and changes the slots as it says. -/
theorem step {st : SignalingServer} (h : Coherent st) (e : ServerEvent) :
    Coherent (st.step e) ∧ SlotChange st e (st.step e) := by
  cases e with
  | connect c =>
      unfold SignalingServer.step
      dsimp only
      split
      · exact ⟨h.goto c trivial, .kept rfl rfl (fun _ _ _ => Iff.rfl)⟩
      · exact ⟨h, .kept rfl rfl (fun _ _ _ => Iff.rfl)⟩
  | line c x env =>
      rw [SignalingServer.step_line]
      split
      · next hreading => exact h.onLine hreading x env
      · next hreading =>
          obtain ⟨hleave, hgrant⟩ :=
            SignalingServer.leaving_line_of_not_reading (by simpa using hreading) x env
          exact ⟨h, .kept hleave hgrant (fun _ _ _ => Iff.rfl)⟩
  | resume c next =>
      obtain ⟨hcoherent, hclients⟩ := h.onResume c next
      refine ⟨hcoherent, .kept rfl rfl ?_⟩
      intro s i slot
      show ((st.onResume c next).session s).clients.get? i = some slot ↔ _
      rw [hclients]
  | bound c port => exact h.onBound c port
  | expire now =>
      refine ⟨h.expireOld now, .kept rfl rfl ?_⟩
      intro s i slot
      show ((st.registry.expireOld now).objects s).clients.get? i = some slot ↔ _
      rw [Registry.expireOld, ((Registry.removeAll_frame _ st.registry).2.1 s).1]
      rfl
  | relay e =>
      exact ⟨h.quiet rfl (fun _ => ⟨rfl, rfl, rfl, rfl⟩) (fun _ _ => id) (fun _ _ => id)
        (fun _ => ⟨rfl, rfl⟩) (fun _ => Or.inl rfl), .kept rfl rfl (fun _ _ _ => Iff.rfl)⟩
  | datagram s data addr =>
      unfold SignalingServer.step SignalingServer.onDatagram
      dsimp only
      split
      · exact ⟨h, .kept rfl rfl (fun _ _ _ => Iff.rfl)⟩
      · exact ⟨h.quiet rfl (fun _ => ⟨rfl, rfl, rfl, rfl⟩) (fun _ _ => id) (fun _ _ => id)
          (fun _ => ⟨rfl, rfl⟩) (fun _ => Or.inl rfl), .kept rfl rfl (fun _ _ _ => Iff.rfl)⟩

end Coherent

theorem coherent_empty : Coherent {} := by
  constructor
  case byId =>
    intro id s hget
    exact absurd hget (by simp)
  case byCode =>
    intro code s hget
    exact absurd hget (by simp)
  case blank =>
    intro s _
    exact ⟨rfl, fun _ => rfl⟩
  case hosted =>
    intro s hs
    exact absurd hs (Nat.not_lt_zero s)
  case ownHost =>
    intro s t c hs
    exact absurd hs (by simp [SignalingServer.session])
  case member =>
    intro c s hc
    exact absurd hc (by simp)
  case slot =>
    intro s idx slot hget
    exact absurd hget (by simp [SignalingServer.session])
  case ownSlot =>
    intro s i j a b ha
    exact absurd ha (by simp [SignalingServer.session])
  case task =>
    intro c
    trivial

/-- The state that the server reaches. -/
abbrev serverRun (es : List ServerEvent) : SignalingServer := runFrom SignalingServer.step {} es

theorem coherent_serverRun (es : List ServerEvent) : Coherent (serverRun es) :=
  runFrom_preserved SignalingServer.step Coherent (fun _ e h => (h.step e).1) {} es coherent_empty

/-! ## What a coroutine changes -/

/-- A change that the coroutine of `c` makes. A connection without a role comes in as the host of a
    new session or as the player of the slot that is given out. -/
inductive ServerChange (c : ConnId) (given : Option (SessionRef × ClientSlot))
    (st : SignalingServer) : SignalingServer → Prop where
  | conn (f : SignalingConn → SignalingConn) (hrole : ∀ x, (f x).role = x.role)
      (hsession : ∀ x, (f x).session = x.session ∨ (f x).session = none) :
      ServerChange c given st (st.modifyConn c f)
  | send (d : ConnId) (msg : Message) : ServerChange c given st (st.send d msg)
  | session (s : SessionRef) (f : Session → Session)
      (hf : ∀ x, (f x).hostConn = x.hostConn ∧ (f x).code = x.code) :
      ServerChange c given st (st.modifySession s f)
  | remove (ss : List SessionRef) :
      ServerChange c given st { st with registry := ss.foldl Registry.remove st.registry }
  | host (hrole : (st.conns c).role = none) (name : String) (draws : List String) (now : Int)
      (s : SessionRef) (r : Registry) (hcreate : st.registry.create name draws now = some (s, r))
      (token : String) (address : Address) :
      ServerChange c given st ({ st with registry := r.modify s (fun x =>
          { x with hostConn := some c, hostToken := token, hostPublic := address })
        }.modifyConn c (fun _ =>
          { session := some s, role := some .host, name := name, task := .startServer s }))
  | client (hrole : (st.conns c).role = none) (s : SessionRef) (slot : ClientSlot)
      (hgiven : given = some (s, slot)) : ServerChange c given st (st.takeSlot c s slot)

/-- Any number of such changes. -/
abbrev ServerChanges (c : ConnId) (given : Option (SessionRef × ClientSlot)) :
    SignalingServer → SignalingServer → Prop := Relation.ReflTransGen (ServerChange c given)

namespace ServerChanges

variable {c : ConnId} {given : Option (SessionRef × ClientSlot)} (st : SignalingServer)

theorem goto (task : Task) : ServerChanges c given st (st.goto c task) :=
  .single (.conn _ (fun _ => rfl) fun _ => Or.inl rfl)

theorem send (d : ConnId) (msg : Message) : ServerChanges c given st (st.send d msg) :=
  .single (.send d msg)

theorem replyWith (msg : Message) : ServerChanges c given st (st.replyWith c msg) :=
  (send st c msg).trans (goto ..)

theorem modifySession (s : SessionRef) (f : Session → Session)
    (hf : ∀ x, (f x).hostConn = x.hostConn ∧ (f x).code = x.code) :
    ServerChanges c given st (st.modifySession s f) := .single (.session s f hf)

theorem leaveClient (s : SessionRef) (closing : Bool) (items : List (Nat × ClientSlot))
    (st : SignalingServer) :
    ServerChanges c given st (SignalingServer.leaveClient c s closing items st) := by
  induction items generalizing st with
  | nil => exact goto ..
  | cons item rest ih =>
      have hpop : ServerChanges c given st
          (st.modifySession s fun x => { x with clients := x.clients.pop item.1 }) :=
        modifySession st s _ fun _ => ⟨rfl, rfl⟩
      unfold SignalingServer.leaveClient
      split
      · dsimp only
        split
        · exact hpop.trans ((send ..).trans (goto ..))
        · exact hpop.trans (ih _)
      · exact ih st

theorem leaveHost (s : SessionRef) (clients : Dict Nat ClientSlot) (closing : Bool)
    (rest : List ClientSlot) : ServerChanges c given st (st.leaveHost c s clients closing rest) := by
  cases rest with
  | nil => exact .head (.remove [s]) (goto ..)
  | cons slot rest => exact (send ..).trans (goto ..)

theorem onLeave (closing : Bool) : ServerChanges c given st (st.onLeave c closing) := by
  have hclear : ServerChanges c given st (st.modifyConn c fun x => { x with session := none }) :=
    .single (.conn _ (fun _ => rfl) fun _ => Or.inr rfl)
  unfold SignalingServer.onLeave
  dsimp only
  split
  · exact hclear.trans (goto ..)
  split
  · exact hclear.trans (leaveClient ..)
  · exact hclear.trans (leaveHost ..)
  · exact hclear.trans (goto ..)

theorem onHostRegister (name : Option String) (env : Readings) :
    ServerChanges c given st (st.onHostRegister c name env) := by
  unfold SignalingServer.onHostRegister
  split
  · exact replyWith ..
  · next hrole =>
      dsimp only
      split
      · exact .refl
      · next s r hcreate =>
          have hrole' : (st.conns c).role = none := by simpa using hrole
          have hcome := @ServerChange.host c given
            { st with registry := st.registry.expireOld env.now } hrole' _ env.draws env.createdAt
            s r hcreate env.token env.publicAddress
          exact .head (.remove (st.registry.expiring env.now)) (.single hcome)

theorem onJoin (hreading : st.reading c = true) (code : String) (name : Option String)
    (env : Readings) :
    ServerChanges c (st.granted (.line c (.request (.join code name)) env)) st
      (st.onJoin c code name env) := by
  unfold SignalingServer.onJoin
  split
  · exact replyWith ..
  · next hrole =>
      have hrole' : (st.conns c).role = none := by simpa using hrole
      split
      · exact replyWith ..
      · next s hlookup =>
          split
          · exact replyWith ..
          · split
            · exact replyWith ..
            · next idx hslot =>
                refine .single (.client hrole' s _ ?_)
                rw [SignalingServer.granted_join, if_pos ⟨hreading, hrole'⟩, hlookup,
                  Option.bind_some, hslot]
                rfl

theorem onResume (next : Option (List ClientSlot)) :
    ServerChanges c given st (st.onResume c next) := by
  unfold SignalingServer.onResume
  split
  · exact goto ..
  · unfold SignalingServer.tellHost
    split
    · exact onLeave ..
    · exact (send ..).trans (goto ..)
  · exact leaveClient ..
  · unfold SignalingServer.continueLeaveHost
    split
    · exact goto ..
    split
    · exact leaveHost ..
    split
    · exact goto ..
    · exact leaveHost ..
  · exact goto ..
  · exact .refl

theorem onBound (port : Option Nat) : ServerChanges c given st (st.onBound c port) := by
  unfold SignalingServer.onBound
  split
  · exact (modifySession st _ (fun x => { x with tcpRelayServer := .listening })
      fun _ => ⟨rfl, rfl⟩).trans (goto ..)
  · exact onLeave ..
  · next s tcpPort udpPort _ =>
      exact (modifySession st s (fun x =>
        { x with udpRelay := .listening, tcpRelayPort := tcpPort, udpRelayPort := udpPort })
        fun _ => ⟨rfl, rfl⟩).trans (replyWith ..)
  · exact onLeave ..
  · exact .refl

variable {st}

/-- What none of the changes touches. -/
theorem frame {α : Type} {st' : SignalingServer} (f : SignalingServer → α)
    (h : ServerChanges c given st st') (hconn : ∀ u g, f (SignalingServer.modifyConn u c g) = f u)
    (hsend : ∀ u d msg, f (SignalingServer.send u d msg) = f u)
    (hregistry : ∀ (u : SignalingServer) r, f { u with registry := r } = f u)
    (hrelay : ∀ (u : SignalingServer) s slot, given = some (s, slot) →
      f { u with relay := u.relay.registerPair slot.token } = f u) : f st' = f st := by
  induction h with
  | refl => rfl
  | tail _ hchange ih =>
      rw [← ih]
      cases hchange with
      | conn g _ _ => exact hconn _ g
      | send d msg => exact hsend _ d msg
      | session s g _ => exact hregistry _ _
      | remove ss => exact hregistry _ _
      | host _ name draws now s r _ token address => exact (hconn _ _).trans (hregistry _ _)
      | client _ s slot hgiven =>
          exact (hsend ..).trans ((hrelay _ s slot hgiven).trans ((hconn ..).trans (hregistry ..)))

end ServerChanges

/-- **What a step of a coroutine changes.** -/
theorem SignalingServer.step_changes (st : SignalingServer) (e : ServerEvent) {c : ConnId}
    (hc : e.conn? = some c) : ServerChanges c (st.granted e) st (st.step e) := by
  cases e with
  | connect d =>
      obtain rfl := Option.some.inj hc
      unfold step
      dsimp only
      split
      · exact .goto ..
      · exact .refl
  | line d x env =>
      obtain rfl := Option.some.inj hc
      rw [step_line]
      split
      · next hreading =>
          cases x with
          | skipped => exact .refl
          | badJson => exact .replyWith ..
          | ended => exact .onLeave ..
          | request msg =>
              cases msg with
              | hostRegister name => exact .onHostRegister ..
              | join code name => exact .onJoin _ hreading ..
              | keepalive => exact .replyWith ..
              | leave => exact .onLeave ..
              | unknown type => exact .replyWith ..
      · exact .refl
  | resume d next =>
      obtain rfl := Option.some.inj hc
      exact .onResume ..
  | bound d port =>
      obtain rfl := Option.some.inj hc
      exact .onBound ..
  | expire now => exact absurd hc (by simp [ServerEvent.conn?])
  | relay e => exact absurd hc (by simp [ServerEvent.conn?])
  | datagram s data addr => exact absurd hc (by simp [ServerEvent.conn?])

/-! ## Roles and sessions over time -/

/-- Who has a role keeps it, and stays in its session or leaves it for good. -/
structure Settled (st st' : SignalingServer) : Prop where
  kept : ∀ c, (st.conns c).role ≠ none → (st'.conns c).role = (st.conns c).role ∧
    ((st'.conns c).session = (st.conns c).session ∨ (st'.conns c).session = none)

namespace Settled

theorem refl (st : SignalingServer) : Settled st st := ⟨fun _ _ => ⟨rfl, Or.inl rfl⟩⟩

theorem trans {st st' st'' : SignalingServer} (h : Settled st st') (h' : Settled st' st'') :
    Settled st st'' := by
  constructor
  intro c hc
  obtain ⟨hrole, hsession⟩ := h.kept c hc
  obtain ⟨hrole', hsession'⟩ := h'.kept c (by rw [hrole]; exact hc)
  refine ⟨hrole'.trans hrole, ?_⟩
  rcases hsession' with hsame | hnone
  · rw [hsame]
    exact hsession
  · exact Or.inr hnone

theorem modifyConn (st : SignalingServer) (c : ConnId) (f : SignalingConn → SignalingConn)
    (hf : (st.conns c).role ≠ none → (f (st.conns c)).role = (st.conns c).role ∧
      ((f (st.conns c)).session = (st.conns c).session ∨ (f (st.conns c)).session = none)) :
    Settled st (st.modifyConn c f) := by
  constructor
  intro x hx
  by_cases hxc : x = c
  · rw [hxc, SignalingServer.conns_modifyConn_self]
    exact hf (hxc ▸ hx)
  · rw [SignalingServer.conns_modifyConn_of_ne _ hxc]
    exact ⟨rfl, Or.inl rfl⟩

/-- A connection without a role may come in. -/
theorem enter {st st' : SignalingServer} {c : ConnId} (hrole : (st.conns c).role = none)
    (hother : ∀ x, x ≠ c → st'.conns x = st.conns x) : Settled st st' := by
  constructor
  intro x hx
  have hxc : x ≠ c := by
    rintro rfl
    exact hx hrole
  rw [hother x hxc]
  exact ⟨rfl, Or.inl rfl⟩

end Settled

/-! ## What every step leaves behind -/

/-- Messages are only added; sessions that were created keep their host and their code and are not
    entered into the indexes again; a new session has a host that had no role. -/
structure Onward (st st' : SignalingServer) : Prop extends Settled st st' where
  allocated : st.registry.allocated ≤ st'.registry.allocated
  sent : st.sent <+: st'.sent
  byId : ∀ id s, s < st.registry.allocated → st'.registry.byId.get? id = some s →
    st.registry.byId.get? id = some s
  byCode : ∀ code s, s < st.registry.allocated → st'.registry.byCode.get? code = some s →
    st.registry.byCode.get? code = some s
  host : ∀ s, s < st.registry.allocated → (st'.session s).hostConn = (st.session s).hostConn
  code : ∀ s, s < st.registry.allocated → (st'.session s).code = (st.session s).code
  newHost : ∀ s c, st.registry.allocated ≤ s → (st'.session s).hostConn = some c →
    (st.session s).hostConn = some c ∨ (st.conns c).role = none

namespace Onward

theorem refl (st : SignalingServer) : Onward st st where
  toSettled := Settled.refl st
  allocated := Nat.le_refl _
  sent := List.prefix_rfl
  byId _ _ _ := id
  byCode _ _ _ := id
  host _ _ := rfl
  code _ _ := rfl
  newHost _ _ _ := Or.inl

theorem trans {st st' st'' : SignalingServer} (h : Onward st st') (h' : Onward st' st'') :
    Onward st st'' := by
  have hlt : ∀ s, s < st.registry.allocated → s < st'.registry.allocated :=
    fun s hs => Nat.lt_of_lt_of_le hs h.allocated
  refine ⟨h.toSettled.trans h'.toSettled, h.allocated.trans h'.allocated, h.sent.trans h'.sent,
    ?_, ?_, ?_, ?_, ?_⟩
  · intro id s hs hget
    exact h.byId id s hs (h'.byId id s (hlt s hs) hget)
  · intro code s hs hget
    exact h.byCode code s hs (h'.byCode code s (hlt s hs) hget)
  · intro s hs
    exact (h'.host s (hlt s hs)).trans (h.host s hs)
  · intro s hs
    exact (h'.code s (hlt s hs)).trans (h.code s hs)
  · intro s c hs hhost
    rcases Nat.lt_or_ge s st'.registry.allocated with hlt' | hge
    · exact h.newHost s c hs ((h'.host s hlt').symm.trans hhost)
    · rcases h'.newHost s c hge hhost with hsame | hrole
      · exact h.newHost s c hs hsame
      · right
        by_contra hne
        exact hne ((h.kept c hne).1.symm.trans hrole)

/-- A step that changes connections and relays, and sends. -/
theorem of_registry {st st' : SignalingServer} (hkept : Settled st st')
    (hregistry : st'.registry = st.registry) (hsent : st.sent <+: st'.sent) : Onward st st' := by
  have hsession : ∀ s, st'.session s = st.session s := by
    intro s
    unfold SignalingServer.session
    rw [hregistry]
  refine ⟨hkept, hregistry ▸ Nat.le_refl _, hsent, ?_, ?_, ?_, ?_, ?_⟩
  · intro id s _ hget
    rwa [hregistry] at hget
  · intro code s _ hget
    rwa [hregistry] at hget
  · intro s _
    rw [hsession]
  · intro s _
    rw [hsession]
  · intro s c _ hhost
    rw [hsession] at hhost
    exact Or.inl hhost

theorem modifySession (st : SignalingServer) (s : SessionRef) (f : Session → Session)
    (hf : ∀ x : Session, (f x).hostConn = x.hostConn ∧ (f x).code = x.code) :
    Onward st (st.modifySession s f) := by
  have hsame : ∀ t, ((st.modifySession s f).session t).hostConn = (st.session t).hostConn ∧
      ((st.modifySession s f).session t).code = (st.session t).code := by
    intro t
    by_cases ht : t = s
    · rw [ht, SignalingServer.session_modifySession_self]
      exact hf _
    · rw [SignalingServer.session_modifySession_of_ne _ ht]
      exact ⟨rfl, rfl⟩
  exact ⟨⟨(Settled.refl st).kept⟩, Nat.le_refl _, List.prefix_rfl, fun _ _ _ => id, fun _ _ _ => id,
    fun t _ => (hsame t).1, fun t _ => (hsame t).2,
    fun t c _ ht => Or.inl ((hsame t).1.symm.trans ht)⟩

theorem removeAll (st : SignalingServer) (ss : List SessionRef) :
    Onward st { st with registry := ss.foldl Registry.remove st.registry } := by
  obtain ⟨halloc, hobjects, hid, hcode⟩ := Registry.removeAll_frame ss st.registry
  exact ⟨⟨(Settled.refl st).kept⟩, halloc.ge, List.prefix_rfl, fun id s _ => hid id s,
    fun code s _ => hcode code s, fun s _ => (hobjects s).2.1, fun s _ => (hobjects s).2.2.1,
    fun s c _ hs => Or.inl ((hobjects s).2.1.symm.trans hs)⟩

/-- A connection without a role comes in as the host of a new session. -/
theorem comesIn {st : SignalingServer} {c : ConnId} (hrole : (st.conns c).role = none) {name : String}
    {draws : List String} {now : Int} {s : SessionRef} {r : Registry}
    (hcreate : st.registry.create name draws now = some (s, r)) (token : String)
    (address : Address) :
    Onward st ({ st with registry := r.modify s (fun x =>
        { x with hostConn := some c, hostToken := token, hostPublic := address })
      }.modifyConn c (fun _ =>
        { session := some s, role := some .host, name := name, task := .startServer s })) := by
  obtain ⟨code, -, rfl, rfl⟩ := Registry.create_eq_some hcreate
  have hold : ∀ t, t < st.registry.allocated → t ≠ st.registry.allocated :=
    fun t ht => Nat.ne_of_lt ht
  refine ⟨Settled.enter hrole (fun x hx => Function.update_of_ne hx ..), Nat.le_succ _,
    List.prefix_rfl, ?_, ?_, ?_, ?_, ?_⟩
  · intro id t ht hget
    have hget' := (Dict.get?_assign _ _ _ _).symm.trans hget
    split at hget'
    · exact absurd (Option.some.inj hget').symm (hold t ht)
    · exact hget'
  · intro code' t ht hget
    have hget' := (Dict.get?_assign _ _ _ _).symm.trans hget
    split at hget'
    · exact absurd (Option.some.inj hget').symm (hold t ht)
    · exact hget'
  · intro t ht
    exact congrArg Session.hostConn ((Function.update_of_ne (hold t ht) ..).trans
      (Function.update_of_ne (hold t ht) ..))
  · intro t ht
    exact congrArg Session.code ((Function.update_of_ne (hold t ht) ..).trans
      (Function.update_of_ne (hold t ht) ..))
  · intro t x ht hhost
    by_cases hta : t = st.registry.allocated
    · rw [hta] at hhost
      have hx : c = x := by
        simpa [SignalingServer.session, SignalingServer.modifyConn, Registry.modify] using hhost
      exact Or.inr (hx ▸ hrole)
    · left
      exact (congrArg Session.hostConn ((Function.update_of_ne hta ..).trans
        (Function.update_of_ne hta ..))).symm.trans hhost

variable {c : ConnId} {given : Option (SessionRef × ClientSlot)} {st st' : SignalingServer}

/-- Every change of a coroutine goes onward. -/
theorem of_change (h : ServerChange c given st st') : Onward st st' := by
  cases h with
  | conn f hrole hsession =>
      exact of_registry (Settled.modifyConn st c f fun _ => ⟨hrole _, hsession _⟩) rfl
        List.prefix_rfl
  | send d msg => exact of_registry ⟨(Settled.refl st).kept⟩ rfl (List.prefix_append _ _)
  | session s f hf => exact modifySession st s f hf
  | remove ss => exact removeAll st ss
  | host hrole name draws now s r hcreate token address => exact comesIn hrole hcreate token address
  | client hrole s slot hgiven =>
      have hseat := modifySession st s
        (fun x => { x with clients := x.clients.assign slot.playerIndex slot }) fun _ => ⟨rfl, rfl⟩
      exact hseat.trans (of_registry (Settled.enter (c := c) hrole
        fun x hx => Function.update_of_ne hx ..) rfl (List.prefix_append _ _))

theorem of_changes (h : ServerChanges c given st st') : Onward st st' := by
  induction h with
  | refl => exact refl st
  | tail _ hchange ih => exact ih.trans (of_change hchange)

theorem onLeave (st : SignalingServer) (c : ConnId) (closing : Bool) :
    Onward st (st.onLeave c closing) :=
  of_changes (ServerChanges.onLeave st closing : ServerChanges c none st _)

/-- **Every event** goes onward. -/
theorem step (st : SignalingServer) (e : ServerEvent) : Onward st (st.step e) := by
  cases hc : e.conn? with
  | some c => exact of_changes (st.step_changes e hc)
  | none =>
      cases e with
      | expire now => exact removeAll st _
      | relay e => exact of_registry ⟨(Settled.refl st).kept⟩ rfl List.prefix_rfl
      | datagram s data addr =>
          show Onward st (st.onDatagram s data addr)
          unfold SignalingServer.onDatagram
          split
          · exact refl st
          · exact of_registry ⟨(Settled.refl st).kept⟩ rfl List.prefix_rfl
      | _ => exact absurd hc (by simp [ServerEvent.conn?])

end Onward

/-- Over a part of a run. -/
theorem onward_serverRun (pre post : List ServerEvent) :
    Onward (serverRun pre) (serverRun (pre ++ post)) := by
  rw [serverRun, serverRun, runFrom_append]
  exact runFrom_preserved SignalingServer.step (Onward (runFrom SignalingServer.step {} pre))
    (fun st e h => h.trans (Onward.step st e)) _ post (Onward.refl _)

/-- A host connects and registers, with the code that is drawn. -/
def hostComesIn (c : ConnId) (code token : String) : List ServerEvent :=
  [.connect c, .line c (.request (.hostRegister none)) { draws := [code], token := token },
    .bound c (some 40001), .bound c (some 40002), .resume c none]

/-- A player connects and joins. -/
def playerComesIn (c : ConnId) (code token : String) : List ServerEvent :=
  [.connect c, .line c (.request (.join code none)) { token := token }, .resume c none,
    .resume c none]

/-! ## One coroutine at a time -/

namespace SignalingServer

/-- An event changes no connection but its own. -/
theorem conns_step_of_ne (st : SignalingServer) (e : ServerEvent) {x : ConnId}
    (h : e.conn? ≠ some x) : (st.step e).conns x = st.conns x := by
  cases hc : e.conn? with
  | some c =>
      have hx : x ≠ c := by
        rintro rfl
        exact h hc
      exact (st.step_changes e hc).frame (fun u => u.conns x)
        (fun u g => conns_modifyConn_of_ne u hx g) (fun _ _ _ => rfl) (fun _ _ => rfl)
        (fun _ _ _ _ => rfl)
  | none =>
      cases e with
      | expire now => rfl
      | relay e => rfl
      | datagram s data addr =>
          show (st.onDatagram s data addr).conns x = _
          unfold onDatagram
          split
          · rfl
          · rfl
      | _ => exact absurd hc (by simp [ServerEvent.conn?])

end SignalingServer

end RemotePlay.Server
