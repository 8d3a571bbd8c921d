import Mathlib.Data.List.TakeWhile
import RemotePlay.Server.Signaling

set_option autoImplicit false

/-! # What holds of the signaling server at all times

The invariant relates the slots of the sessions, the connections and the registry: a slot belongs to
a client connection that is still in its session, a connection belongs to one session, and a session
that has been created has a host. Every event keeps it, whatever the interleaving. -/

namespace RemotePlay.Server

namespace SignalingServer

/-! ## What the operations leave alone -/

theorem conns_modifyConn_self (st : SignalingServer) (c : ConnId)
    (f : SignalingConn → SignalingConn) : (st.modifyConn c f).conns c = f (st.conns c) :=
  Function.update_self ..

theorem conns_modifyConn_of_ne (st : SignalingServer) {c x : ConnId} (h : x ≠ c)
    (f : SignalingConn → SignalingConn) : (st.modifyConn c f).conns x = st.conns x :=
  Function.update_of_ne h ..

theorem session_modifySession_self (st : SignalingServer) (s : SessionRef) (f : Session → Session) :
    (st.modifySession s f).session s = f (st.session s) := Function.update_self ..

theorem session_modifySession_of_ne (st : SignalingServer) {s x : SessionRef} (h : x ≠ s)
    (f : Session → Session) : (st.modifySession s f).session x = st.session x :=
  Function.update_of_ne h ..

end SignalingServer

theorem Registry.removeAll_frame (ss : List SessionRef) (r : Registry) :
    (ss.foldl Registry.remove r).allocated = r.allocated ∧
    (∀ t, ((ss.foldl Registry.remove r).objects t).clients = (r.objects t).clients ∧
      ((ss.foldl Registry.remove r).objects t).hostConn = (r.objects t).hostConn ∧
      ((ss.foldl Registry.remove r).objects t).code = (r.objects t).code ∧
      ((ss.foldl Registry.remove r).objects t).sessionId = (r.objects t).sessionId) ∧
    (∀ id t, (ss.foldl Registry.remove r).byId.get? id = some t → r.byId.get? id = some t) ∧
    ∀ code t, (ss.foldl Registry.remove r).byCode.get? code = some t →
      r.byCode.get? code = some t := by
  induction ss generalizing r with
  | nil => exact ⟨rfl, fun _ => ⟨rfl, rfl, rfl, rfl⟩, fun _ _ => id, fun _ _ => id⟩
  | cons s ss ih =>
      obtain ⟨halloc, hobjects, hid, hcode⟩ := ih (r.remove s)
      rw [List.foldl_cons]
      refine ⟨halloc, ?_, ?_, ?_⟩
      · intro t
        obtain ⟨h1, h2, h3, h4⟩ := hobjects t
        exact ⟨h1.trans (clients_remove r s t), h2.trans (hostConn_remove r s t),
          h3.trans (code_remove r s t), h4.trans (sessionId_remove r s t)⟩
      · intro id t hget
        have hbefore := hid id t hget
        rw [byId_remove] at hbefore
        split at hbefore
        · exact absurd hbefore (by simp)
        · exact hbefore
      · intro code t hget
        have hbefore := hcode code t hget
        rw [byCode_remove] at hbefore
        split at hbefore
        · exact absurd hbefore (by simp)
        · exact hbefore

/-! ## The invariant -/

/-- What the position of a coroutine says. -/
def SignalingServer.TaskFits (st : SignalingServer) (c : ConnId) : Task → Prop
  | .joined s _ => s < st.registry.allocated
  | .clientLeft _ rest _ => ∀ item ∈ rest, item.2.signalingConn ≠ c
  | .sessionClosed s _ _ _ => (st.session s).hostConn = some c ∧ (st.conns c).session = none
  | _ => True

/-- What a position says stays true while hosts stay hosts and nobody enters a session again. -/
theorem SignalingServer.TaskFits.mono {st st' : SignalingServer} {c : ConnId} {task : Task}
    (h : st.TaskFits c task) (halloc : st.registry.allocated ≤ st'.registry.allocated)
    (hhost : ∀ s, (st.session s).hostConn = some c → (st'.session s).hostConn = some c)
    (hsession : (st.conns c).session = none → (st'.conns c).session = none) :
    st'.TaskFits c task := by
  cases task with
  | joined s slot => exact Nat.lt_of_lt_of_le h halloc
  | sessionClosed s clients rest closing => exact ⟨hhost s h.1, hsession h.2⟩
  | _ => exact h

/-- **The invariant of the server.** -/
structure Coherent (st : SignalingServer) : Prop where
  /-- The indexes hold sessions that were created, each under its own id and code. -/
  byId : ∀ id s, st.registry.byId.get? id = some s →
    s < st.registry.allocated ∧ (st.session s).sessionId = id
  byCode : ∀ code s, st.registry.byCode.get? code = some s →
    s < st.registry.allocated ∧ (st.session s).code = code
  /-- A session has a host of its own exactly if it was created. -/
  blank : ∀ s, st.registry.allocated ≤ s →
    (st.session s).hostConn = none ∧ ∀ idx, (st.session s).clients.get? idx = none
  hosted : ∀ s, s < st.registry.allocated →
    ∃ h, (st.session s).hostConn = some h ∧ (st.conns h).role = some .host
  ownHost : ∀ s t h, (st.session s).hostConn = some h → (st.session t).hostConn = some h → s = t
  /-- A connection that is in a session has a role, and a host is in its own session. -/
  member : ∀ c s, (st.conns c).session = some s → s < st.registry.allocated ∧
    (st.conns c).role ≠ none ∧
    ((st.conns c).role = some .host → (st.session s).hostConn = some c)
  /-- A slot is under its own index, and its connection is a client in the session. -/
  slot : ∀ s idx slot, (st.session s).clients.get? idx = some slot →
    slot.playerIndex = idx ∧ idx < maxPlayers ∧
    (st.conns slot.signalingConn).role = some .client ∧
    (st.conns slot.signalingConn).session = some s
  /-- No connection has two slots of a session. -/
  ownSlot : ∀ s i j a b, (st.session s).clients.get? i = some a →
    (st.session s).clients.get? j = some b → a.signalingConn = b.signalingConn → i = j
  task : ∀ c, st.TaskFits c (st.conns c).task

namespace Coherent

/-- A connection that is no client in a session has no slot. -/
theorem no_slot {st : SignalingServer} (h : Coherent st) {c : ConnId}
    (hc : (st.conns c).role ≠ some .client ∨ (st.conns c).session = none) (s : SessionRef)
    (idx : Nat) (slot : ClientSlot) (hget : (st.session s).clients.get? idx = some slot) :
    slot.signalingConn ≠ c := by
  rintro rfl
  obtain ⟨-, -, hrole, hsession⟩ := h.slot s idx slot hget
  rcases hc with hc | hc
  · exact hc hrole
  · rw [hc] at hsession
    exact absurd hsession (by simp)

theorem role_of_hostConn {st : SignalingServer} (h : Coherent st) {s : SessionRef} {c : ConnId}
    (hhost : (st.session s).hostConn = some c) : (st.conns c).role = some .host := by
  rcases Nat.lt_or_ge s st.registry.allocated with hlt | hge
  · obtain ⟨x, hx, hrole⟩ := h.hosted s hlt
    exact Option.some.inj (hhost.symm.trans hx) ▸ hrole
  · rw [(h.blank s hge).1] at hhost
    exact absurd hhost (by simp)

/-- **The quiet step**: nobody changes session or role, no slot changes, and the indexes lose
    entries only. -/
theorem quiet {st st' : SignalingServer} (h : Coherent st)
    (halloc : st'.registry.allocated = st.registry.allocated)
    (hsession : ∀ s, (st'.session s).clients = (st.session s).clients ∧
      (st'.session s).hostConn = (st.session s).hostConn ∧
      (st'.session s).code = (st.session s).code ∧
      (st'.session s).sessionId = (st.session s).sessionId)
    (hbyId : ∀ id s, st'.registry.byId.get? id = some s → st.registry.byId.get? id = some s)
    (hbyCode : ∀ code s, st'.registry.byCode.get? code = some s →
      st.registry.byCode.get? code = some s)
    (hconn : ∀ c, (st'.conns c).role = (st.conns c).role ∧
      (st'.conns c).session = (st.conns c).session)
    (htask : ∀ c, (st'.conns c).task = (st.conns c).task ∨ st.TaskFits c (st'.conns c).task) :
    Coherent st' := by
  have hfits : ∀ c task, st.TaskFits c task → st'.TaskFits c task := by
    intro c task hfits
    exact hfits.mono halloc.ge (fun s hs => (hsession s).2.1.trans hs)
      (fun hc => (hconn c).2.trans hc)
  constructor
  case byId =>
    intro id s hget
    rw [halloc, (hsession s).2.2.2]
    exact h.byId id s (hbyId id s hget)
  case byCode =>
    intro code s hget
    rw [halloc, (hsession s).2.2.1]
    exact h.byCode code s (hbyCode code s hget)
  case blank =>
    intro s hs
    rw [halloc] at hs
    rw [(hsession s).1, (hsession s).2.1]
    exact h.blank s hs
  case hosted =>
    intro s hs
    rw [halloc] at hs
    obtain ⟨x, hx, hrole⟩ := h.hosted s hs
    exact ⟨x, (hsession s).2.1.trans hx, (hconn x).1.trans hrole⟩
  case ownHost =>
    intro s t x hs ht
    rw [(hsession s).2.1] at hs
    rw [(hsession t).2.1] at ht
    exact h.ownHost s t x hs ht
  case member =>
    intro c s hc
    rw [(hconn c).2] at hc
    rw [halloc, (hconn c).1, (hsession s).2.1]
    exact h.member c s hc
  case slot =>
    intro s idx slot hget
    rw [(hsession s).1] at hget
    rw [(hconn _).1, (hconn _).2]
    exact h.slot s idx slot hget
  case ownSlot =>
    intro s i j a b ha hb
    rw [(hsession s).1] at ha hb
    exact h.ownSlot s i j a b ha hb
  case task =>
    intro c
    rcases htask c with heq | hfit
    · rw [heq]
      exact hfits c _ (h.task c)
    · exact hfits c _ hfit

theorem goto {st : SignalingServer} (h : Coherent st) (c : ConnId) {task : Task}
    (htask : st.TaskFits c task) : Coherent (st.goto c task) := by
  refine h.quiet rfl (fun _ => ⟨rfl, rfl, rfl, rfl⟩) (fun _ _ => id) (fun _ _ => id) ?_ ?_
  · intro x
    by_cases hx : x = c
    · rw [hx, SignalingServer.goto, SignalingServer.conns_modifyConn_self]
      exact ⟨rfl, rfl⟩
    · rw [SignalingServer.goto, SignalingServer.conns_modifyConn_of_ne _ hx]
      exact ⟨rfl, rfl⟩
  · intro x
    by_cases hx : x = c
    · rw [hx, SignalingServer.goto, SignalingServer.conns_modifyConn_self]
      exact Or.inr htask
    · rw [SignalingServer.goto, SignalingServer.conns_modifyConn_of_ne _ hx]
      exact Or.inl rfl

theorem send {st : SignalingServer} (h : Coherent st) (c : ConnId) (msg : Message) :
    Coherent (st.send c msg) :=
  h.quiet rfl (fun _ => ⟨rfl, rfl, rfl, rfl⟩) (fun _ _ => id) (fun _ _ => id)
    (fun _ => ⟨rfl, rfl⟩) (fun _ => Or.inl rfl)

theorem replyWith {st : SignalingServer} (h : Coherent st) (c : ConnId) (msg : Message) :
    Coherent (st.replyWith c msg) := (h.send c msg).goto c trivial

theorem modifySession {st : SignalingServer} (h : Coherent st) (s : SessionRef)
    (f : Session → Session) (hf : ∀ x : Session, (f x).clients = x.clients ∧
      (f x).hostConn = x.hostConn ∧ (f x).code = x.code ∧ (f x).sessionId = x.sessionId) :
    Coherent (st.modifySession s f) := by
  refine h.quiet rfl ?_ (fun _ _ => id) (fun _ _ => id) (fun _ => ⟨rfl, rfl⟩)
    (fun _ => Or.inl rfl)
  intro t
  by_cases ht : t = s
  · rw [ht, SignalingServer.session_modifySession_self]
    exact hf _
  · rw [SignalingServer.session_modifySession_of_ne _ ht]
    exact ⟨rfl, rfl, rfl, rfl⟩

/-- Removing sessions from the indexes. -/
theorem removeAll {st : SignalingServer} (h : Coherent st) (ss : List SessionRef) :
    Coherent { st with registry := ss.foldl Registry.remove st.registry } := by
  obtain ⟨halloc, hobjects, hid, hcode⟩ := Registry.removeAll_frame ss st.registry
  exact h.quiet halloc hobjects hid hcode (fun _ => ⟨rfl, rfl⟩) (fun _ => Or.inl rfl)

theorem remove {st : SignalingServer} (h : Coherent st) (s : SessionRef) :
    Coherent { st with registry := st.registry.remove s } := h.removeAll [s]

theorem expireOld {st : SignalingServer} (h : Coherent st) (now : Int) :
    Coherent { st with registry := st.registry.expireOld now } := h.removeAll _

theorem leaveDone {st : SignalingServer} (h : Coherent st) (c : ConnId) (closing : Bool) :
    Coherent (st.leaveDone c closing) := by
  refine h.goto c ?_
  cases closing
  · trivial
  · trivial

/-- Clearing the session of a connection that has no slot. -/
theorem dropSession {st : SignalingServer} (h : Coherent st) (c : ConnId)
    (hslot : ∀ s idx slot, (st.session s).clients.get? idx = some slot → slot.signalingConn ≠ c) :
    Coherent (st.modifyConn c (fun x => { x with session := none })) := by
  have hself := SignalingServer.conns_modifyConn_self st c (fun x => { x with session := none })
  have hother : ∀ x, x ≠ c →
      (st.modifyConn c (fun x => { x with session := none })).conns x = st.conns x :=
    fun x hx => SignalingServer.conns_modifyConn_of_ne st hx _
  have hrole : ∀ x, ((st.modifyConn c (fun x => { x with session := none })).conns x).role
      = (st.conns x).role := by
    intro x
    by_cases hx : x = c
    · rw [hx, hself]
    · rw [hother x hx]
  refine ⟨h.byId, h.byCode, h.blank, ?_, h.ownHost, ?_, ?_, h.ownSlot, ?_⟩
  · intro s hs
    obtain ⟨x, hx, hx'⟩ := h.hosted s hs
    exact ⟨x, hx, (hrole x).trans hx'⟩
  · intro x s hx
    by_cases hxc : x = c
    · rw [hxc, hself] at hx
      exact absurd hx (by simp)
    · rw [hother x hxc] at hx ⊢
      exact h.member x s hx
  · intro s idx slot hget
    rw [hother _ (hslot s idx slot hget)]
    exact h.slot s idx slot hget
  · intro x
    have htask : ((st.modifyConn c (fun x => { x with session := none })).conns x).task
        = (st.conns x).task := by
      by_cases hxc : x = c
      · rw [hxc, hself]
      · rw [hother x hxc]
    rw [htask]
    refine (h.task x).mono (Nat.le_refl _) (fun _ => id) ?_
    intro hnone
    by_cases hxc : x = c
    · rw [hxc, hself]
    · rw [hother x hxc]
      exact hnone

/-- The slots of one session change, to slots that are in order. -/
theorem setClients {st : SignalingServer} (h : Coherent st) (s : SessionRef)
    (f : Dict Nat ClientSlot → Dict Nat ClientSlot)
    (hslot : ∀ i slot, (f (st.session s).clients).get? i = some slot →
      slot.playerIndex = i ∧ i < maxPlayers ∧
        (st.conns slot.signalingConn).role = some .client ∧
        (st.conns slot.signalingConn).session = some s)
    (hown : ∀ i j a b, (f (st.session s).clients).get? i = some a →
      (f (st.session s).clients).get? j = some b → a.signalingConn = b.signalingConn → i = j) :
    Coherent (st.modifySession s (fun x => { x with clients := f x.clients })) := by
  have hself := SignalingServer.session_modifySession_self st s
    (fun x => { x with clients := f x.clients })
  have helse : ∀ t, t ≠ s →
      (st.modifySession s (fun x => { x with clients := f x.clients })).session t = st.session t :=
    fun t ht => SignalingServer.session_modifySession_of_ne st ht _
  have hsame : ∀ t,
      ((st.modifySession s (fun x => { x with clients := f x.clients })).session t).hostConn
        = (st.session t).hostConn ∧
      ((st.modifySession s (fun x => { x with clients := f x.clients })).session t).code
        = (st.session t).code ∧
      ((st.modifySession s (fun x => { x with clients := f x.clients })).session t).sessionId
        = (st.session t).sessionId := by
    intro t
    by_cases ht : t = s
    · rw [ht, hself]
      exact ⟨rfl, rfl, rfl⟩
    · rw [helse t ht]
      exact ⟨rfl, rfl, rfl⟩
  constructor
  case byId =>
    intro id t ht
    rw [(hsame t).2.2]
    exact h.byId id t ht
  case byCode =>
    intro code t ht
    rw [(hsame t).2.1]
    exact h.byCode code t ht
  case blank =>
    intro t ht
    rw [(hsame t).1]
    refine ⟨(h.blank t ht).1, fun i => ?_⟩
    by_cases hts : t = s
    · -- a client of the session would make it an allocated one
      rw [hts, hself, Option.eq_none_iff_forall_ne_some]
      intro slot hi
      have hlt := (h.member _ _ (hslot i slot hi).2.2.2).1
      rw [← hts] at hlt
      exact absurd ht (Nat.not_le.2 hlt)
    · rw [helse t hts]
      exact (h.blank t ht).2 i
  case hosted =>
    intro t ht
    rw [(hsame t).1]
    exact h.hosted t ht
  case ownHost =>
    intro t u x ht hu
    rw [(hsame t).1] at ht
    rw [(hsame u).1] at hu
    exact h.ownHost t u x ht hu
  case member =>
    intro c t hc
    rw [(hsame t).1]
    exact h.member c t hc
  case slot =>
    intro t i slot hi
    by_cases ht : t = s
    · rw [ht, hself] at hi
      exact ht ▸ hslot i slot hi
    · rw [helse t ht] at hi
      exact h.slot t i slot hi
  case ownSlot =>
    intro t i j a b hi hj
    by_cases ht : t = s
    · rw [ht, hself] at hi hj
      exact hown i j a b hi hj
    · rw [helse t ht] at hi hj
      exact h.ownSlot t i j a b hi hj
  case task =>
    intro c
    exact (h.task c).mono (Nat.le_refl _) (fun t ht => (hsame t).1.trans ht) id

/-- Taking out one slot. -/
theorem popSlot {st : SignalingServer} (h : Coherent st) (s : SessionRef) (idx : Nat) :
    Coherent (st.modifySession s (fun x => { x with clients := x.clients.pop idx })) := by
  have hget : ∀ i slot, ((st.session s).clients.pop idx).get? i = some slot →
      (st.session s).clients.get? i = some slot := by
    intro i slot hi
    rw [Dict.get?_pop] at hi
    split at hi
    · exact absurd hi (by simp)
    · exact hi
  exact h.setClients s (fun d => d.pop idx) (fun i slot hi => h.slot s i slot (hget i slot hi))
    (fun i j a b hi hj => h.ownSlot s i j a b (hget i a hi) (hget j b hj))

/-- Giving a client of the session a slot, if it has none. -/
theorem assignSlot {st : SignalingServer} (h : Coherent st) {s : SessionRef} {slot : ClientSlot}
    (hlt : slot.playerIndex < maxPlayers)
    (hrole : (st.conns slot.signalingConn).role = some .client)
    (hsession : (st.conns slot.signalingConn).session = some s)
    (hfresh : ∀ i a, (st.session s).clients.get? i = some a →
      a.signalingConn ≠ slot.signalingConn) :
    Coherent (st.modifySession s (fun x =>
      { x with clients := x.clients.assign slot.playerIndex slot })) := by
  refine h.setClients s (fun d => d.assign slot.playerIndex slot) ?_ ?_
  · intro i slot' hi
    rw [Dict.get?_assign] at hi
    split at hi
    · next heq =>
        obtain rfl := Option.some.inj hi
        exact ⟨heq, heq ▸ hlt, hrole, hsession⟩
    · exact h.slot s i slot' hi
  · intro i j a b hi hj heq
    rw [Dict.get?_assign] at hi hj
    split at hi
    · next hia =>
        obtain rfl := Option.some.inj hi
        split at hj
        · next hjb => exact hia.symm.trans hjb
        · exact absurd heq.symm (hfresh j b hj)
    · split at hj
      · obtain rfl := Option.some.inj hj
        exact absurd heq (hfresh i a hi)
      · exact h.ownSlot s i j a b hi hj heq

end Coherent

/-! ## `on_leave` -/

/-- The loop of a client's leave stops at the first slot of its connection, which it takes out. -/
theorem leaveClient_eq (c : ConnId) (s : SessionRef) (closing : Bool)
    (items : List (Nat × ClientSlot)) (st : SignalingServer) {host : ConnId}
    (hhost : (st.session s).hostConn = some host) :
    SignalingServer.leaveClient c s closing items st
      = match items.dropWhile (fun item => item.2.signalingConn ≠ c) with
        | [] => st.leaveDone c closing
        | item :: rest => ((st.modifySession s (fun x =>
            { x with clients := x.clients.pop item.1 })).send host (.clientLeft item.1)).goto c
              (.clientLeft s rest closing) := by
  induction items with
  | nil => rfl
  | cons item rest ih =>
      obtain ⟨idx, slot⟩ := item
      unfold SignalingServer.leaveClient
      by_cases hc : slot.signalingConn = c
      · rw [if_pos hc, List.dropWhile_cons_of_neg (by simpa using hc)]
        dsimp only
        rw [SignalingServer.session_modifySession_self]
        dsimp only
        rw [hhost]
      · rw [if_neg hc, List.dropWhile_cons_of_pos (by simpa using hc)]
        exact ih

theorem leaveClient_of_done {c : ConnId} {items : List (Nat × ClientSlot)}
    (h : ∀ item ∈ items, item.2.signalingConn ≠ c) (s : SessionRef) (closing : Bool)
    (st : SignalingServer) :
    SignalingServer.leaveClient c s closing items st = st.leaveDone c closing := by
  induction items with
  | nil => rfl
  | cons item rest ih =>
      unfold SignalingServer.leaveClient
      rw [if_neg (h item List.mem_cons_self)]
      exact ih (fun other hother => h other (List.mem_cons_of_mem _ hother))

/-- The slots that are left after `c` has left. -/
def FreedOf (c : ConnId) (st st' : SignalingServer) : Prop :=
  ∀ s i slot, (st'.session s).clients.get? i = some slot ↔
    (st.session s).clients.get? i = some slot ∧ slot.signalingConn ≠ c

theorem FreedOf.of_same {c : ConnId} {st st' : SignalingServer}
    (hsame : ∀ s, (st'.session s).clients = (st.session s).clients)
    (hslot : ∀ s i slot, (st.session s).clients.get? i = some slot → slot.signalingConn ≠ c) :
    FreedOf c st st' := by
  intro s i slot
  rw [hsame]
  exact ⟨fun hget => ⟨hget, hslot s i slot hget⟩, And.left⟩

namespace Coherent

/-- The first item of a client and what is left after it. -/
theorem items_of_client {st : SignalingServer} (h : Coherent st) {c : ConnId} {s : SessionRef}
    {item : Nat × ClientSlot} {rest : List (Nat × ClientSlot)}
    (hdrop : (st.session s).clients.toList.dropWhile (fun item => item.2.signalingConn ≠ c)
      = item :: rest) :
    (st.session s).clients.get? item.1 = some item.2 ∧ item.2.signalingConn = c ∧
      ∀ other ∈ rest, other.2.signalingConn ≠ c := by
  have hsuffix : item :: rest <:+ (st.session s).clients.toList := by
    rw [← hdrop]
    exact List.dropWhile_suffix _
  have hmem : ∀ other ∈ item :: rest, (st.session s).clients.get? other.1 = some other.2 := by
    intro other hother
    exact ((st.session s).clients.mem_toList_iff other.1 other.2).1 (hsuffix.subset hother)
  have hitem := List.head_dropWhile_not (p := fun item : Nat × ClientSlot =>
    decide (item.2.signalingConn ≠ c)) (w := by rw [hdrop]; simp)
  simp only [hdrop, List.head_cons] at hitem
  have hconn : item.2.signalingConn = c := by simpa using hitem
  refine ⟨hmem item List.mem_cons_self, hconn, ?_⟩
  intro other hother heq
  have hkeys : ((item :: rest).map Prod.fst).Nodup :=
    (st.session s).clients.nodup.sublist (hsuffix.sublist.map _)
  have hidx := h.ownSlot s item.1 other.1 item.2 other.2 (hmem item List.mem_cons_self)
    (hmem other (List.mem_cons_of_mem _ hother)) (hconn.trans heq.symm)
  rw [List.map_cons, List.nodup_cons, hidx] at hkeys
  exact hkeys.1 (List.mem_map_of_mem hother)

/-- A client leaves its session. -/
theorem leaveSession {st : SignalingServer} (h : Coherent st) {c : ConnId} {s : SessionRef}
    (hsession : (st.conns c).session = some s) (closing : Bool) :
    let st' := SignalingServer.leaveClient c s closing (st.session s).clients.toList
      (st.modifyConn c (fun x => { x with session := none }))
    Coherent st' ∧ FreedOf c st st' := by
  have helse : ∀ t i slot, (st.session t).clients.get? i = some slot →
      slot.signalingConn = c → t = s := by
    rintro t i slot hget rfl
    have hslot := (h.slot t i slot hget).2.2.2
    rw [hsession] at hslot
    exact (Option.some.inj hslot).symm
  obtain ⟨host, hhost, -⟩ := h.hosted s (h.member c s hsession).1
  intro st'
  have hst' : st' = _ := leaveClient_eq c s closing (st.session s).clients.toList
    (st.modifyConn c (fun x => { x with session := none })) hhost
  cases hdrop : (st.session s).clients.toList.dropWhile
      (fun item => item.2.signalingConn ≠ c) with
  | nil =>
      rw [hdrop] at hst'
      dsimp only at hst'
      have hnone : ∀ t i slot, (st.session t).clients.get? i = some slot →
          slot.signalingConn ≠ c := by
        intro t i slot hget heq
        obtain rfl := helse t i slot hget heq
        have hall := List.dropWhile_eq_nil_iff.1 hdrop (i, slot)
          (((st.session t).clients.mem_toList_iff i slot).2 hget)
        simp [heq] at hall
      rw [hst']
      exact ⟨(h.dropSession c hnone).leaveDone c closing, FreedOf.of_same (fun _ => rfl) hnone⟩
  | cons item rest =>
      rw [hdrop] at hst'
      dsimp only at hst'
      obtain ⟨hget, hconn, hrest⟩ := h.items_of_client hdrop
      have hfreed : FreedOf c st
          (st.modifySession s (fun x => { x with clients := x.clients.pop item.1 })) := by
        intro t i slot
        by_cases ht : t = s
        · rw [ht, SignalingServer.session_modifySession_self]
          dsimp only
          rw [Dict.get?_pop]
          by_cases hi : item.1 = i
          · rw [if_pos hi]
            refine iff_of_false (by simp) ?_
            rintro ⟨hslot, hne⟩
            rw [← hi, hget] at hslot
            exact hne (Option.some.inj hslot ▸ hconn)
          · rw [if_neg hi]
            refine ⟨fun hslot => ⟨hslot, fun heq => hi ?_⟩, And.left⟩
            exact h.ownSlot s item.1 i item.2 slot hget hslot (hconn.trans heq.symm)
        · rw [SignalingServer.session_modifySession_of_ne _ ht]
          exact ⟨fun hslot => ⟨hslot, fun heq => ht (helse t i slot hslot heq)⟩, And.left⟩
      have hpopped := (h.popSlot s item.1).dropSession c
        (fun t i slot hslot => ((hfreed t i slot).1 hslot).2)
      rw [hst']
      exact ⟨(hpopped.send host _).goto c hrest, hfreed⟩

/-- A turn of the loop of a host's leave. -/
theorem leaveHost {st : SignalingServer} (h : Coherent st) {c : ConnId} {s : SessionRef}
    (hhost : (st.session s).hostConn = some c) (hsession : (st.conns c).session = none)
    (clients : Dict Nat ClientSlot) (closing : Bool) (rest : List ClientSlot) :
    Coherent (st.leaveHost c s clients closing rest) ∧
      ∀ t, ((st.leaveHost c s clients closing rest).session t).clients
        = (st.session t).clients := by
  cases rest with
  | nil => exact ⟨(h.remove s).leaveDone c closing, Registry.clients_remove st.registry s⟩
  | cons slot rest => exact ⟨(h.send _ _).goto c ⟨hhost, hsession⟩, fun _ => rfl⟩

/-- **Leaving** keeps the invariant and frees the slot of the connection, and no other. -/
theorem onLeave {st : SignalingServer} (h : Coherent st) (c : ConnId) (closing : Bool) :
    Coherent (st.onLeave c closing) ∧ FreedOf c st (st.onLeave c closing) := by
  unfold SignalingServer.onLeave
  dsimp only
  cases hsession : (st.conns c).session with
  | none =>
      have hnone := h.no_slot (c := c) (Or.inr hsession)
      exact ⟨(h.dropSession c hnone).leaveDone c closing, FreedOf.of_same (fun _ => rfl) hnone⟩
  | some s =>
      dsimp only
      cases hrole : (st.conns c).role with
      | none =>
          have hnone := h.no_slot (c := c) (Or.inl (by rw [hrole]; simp))
          exact ⟨(h.dropSession c hnone).leaveDone c closing,
            FreedOf.of_same (fun _ => rfl) hnone⟩
      | some role =>
          cases role with
          | client => exact h.leaveSession hsession closing
          | host =>
              have hnone := h.no_slot (c := c) (Or.inl (by rw [hrole]; simp))
              have hhost := (h.member c s hsession).2.2 hrole
              obtain ⟨hcoherent, hclients⟩ := (h.dropSession c hnone).leaveHost hhost
                (by rw [SignalingServer.conns_modifyConn_self]) (st.session s).clients closing
                (st.session s).clients.values
              exact ⟨hcoherent, FreedOf.of_same hclients hnone⟩

end Coherent

/-! ## Hosts and players that come in -/

namespace Coherent

/-- The session that a registration adds, and what it leaves as it was. -/
structure Registered (st st' : SignalingServer) (c : ConnId) : Prop where
  allocated : st'.registry.allocated = st.registry.allocated + 1
  session : (st'.conns c).session = some st.registry.allocated
  role : (st'.conns c).role = some .host
  task : (st'.conns c).task = .startServer st.registry.allocated
  others : ∀ x, x ≠ c → st'.conns x = st.conns x
  hostConn : (st'.session st.registry.allocated).hostConn = some c
  empty : ∀ i, (st'.session st.registry.allocated).clients.get? i = none
  kept : ∀ t, t ≠ st.registry.allocated → st'.session t = st.session t

theorem not_host {st : SignalingServer} (h : Coherent st) {c : ConnId}
    (hrole : (st.conns c).role = none) (t : SessionRef) : (st.session t).hostConn ≠ some c := by
  intro ht
  rw [h.role_of_hostConn ht] at hrole
  exact absurd hrole (by simp)

namespace Registered

variable {st st' : SignalingServer} {c : ConnId}

theorem earlier (hr : Registered st st' c) {t : SessionRef} (ht : t < st.registry.allocated) :
    st'.session t = st.session t := hr.kept t (Nat.ne_of_lt ht)

theorem clients (hr : Registered st st' c) (h : Coherent st) (t : SessionRef) (i : Nat)
    (slot : ClientSlot) : (st'.session t).clients.get? i = some slot ↔
      (st.session t).clients.get? i = some slot := by
  by_cases ht : t = st.registry.allocated
  · rw [ht, hr.empty, (h.blank _ (Nat.le_refl _)).2 i]
  · rw [hr.kept t ht]

/-- Either index is that of before with the new session under its key. -/
theorem index (hr : Registered st st' c) {κ : Type} [DecidableEq κ] {d : Dict κ SessionRef}
    {key : Session → κ} {k₀ : κ} (hk₀ : key (st'.session st.registry.allocated) = k₀)
    (hd : ∀ k t, d.get? k = some t → t < st.registry.allocated ∧ key (st.session t) = k) (k : κ)
    (t : SessionRef) (ht : (d.assign k₀ st.registry.allocated).get? k = some t) :
    t < st'.registry.allocated ∧ key (st'.session t) = k := by
  rw [hr.allocated]
  rw [Dict.get?_assign] at ht
  split at ht
  · next hk =>
      obtain rfl := Option.some.inj ht
      exact ⟨Nat.lt_succ_self _, hk₀.trans hk⟩
  · obtain ⟨hlt, heq⟩ := hd k t ht
    rw [hr.earlier hlt]
    exact ⟨Nat.lt_succ_of_lt hlt, heq⟩

theorem hosted (hr : Registered st st' c) (h : Coherent st) (hrole : (st.conns c).role = none)
    (t : SessionRef) (ht : t < st'.registry.allocated) :
    ∃ x, (st'.session t).hostConn = some x ∧ (st'.conns x).role = some .host := by
  rw [hr.allocated] at ht
  rcases Nat.lt_succ_iff_lt_or_eq.1 ht with hlt | rfl
  · obtain ⟨x, hx, hxrole⟩ := h.hosted t hlt
    have hxc : x ≠ c := by
      rintro rfl
      exact h.not_host hrole t hx
    exact ⟨x, by rw [hr.earlier hlt, hx], by rw [hr.others x hxc, hxrole]⟩
  · exact ⟨c, hr.hostConn, hr.role⟩

theorem ownHost (hr : Registered st st' c) (h : Coherent st) (hrole : (st.conns c).role = none)
    (t u : SessionRef) (x : ConnId) (ht : (st'.session t).hostConn = some x)
    (hu : (st'.session u).hostConn = some x) : t = u := by
  by_cases hta : t = st.registry.allocated
  · by_cases hua : u = st.registry.allocated
    · rw [hta, hua]
    · rw [hta, hr.hostConn] at ht
      rw [hr.kept u hua, ← Option.some.inj ht] at hu
      exact absurd hu (h.not_host hrole u)
  · by_cases hua : u = st.registry.allocated
    · rw [hua, hr.hostConn] at hu
      rw [hr.kept t hta, ← Option.some.inj hu] at ht
      exact absurd ht (h.not_host hrole t)
    · rw [hr.kept t hta] at ht
      rw [hr.kept u hua] at hu
      exact h.ownHost t u x ht hu

theorem member (hr : Registered st st' c) (h : Coherent st) (x : ConnId) (t : SessionRef)
    (hx : (st'.conns x).session = some t) : t < st'.registry.allocated ∧
      (st'.conns x).role ≠ none ∧
      ((st'.conns x).role = some .host → (st'.session t).hostConn = some x) := by
  rw [hr.allocated]
  by_cases hxc : x = c
  · rw [hxc, hr.session] at hx
    obtain rfl := Option.some.inj hx
    rw [hxc, hr.role, hr.hostConn]
    exact ⟨Nat.lt_succ_self _, by simp, fun _ => rfl⟩
  · rw [hr.others x hxc] at hx ⊢
    obtain ⟨hlt, hrole', hhost⟩ := h.member x t hx
    rw [hr.earlier hlt]
    exact ⟨Nat.lt_succ_of_lt hlt, hrole', hhost⟩

theorem slot (hr : Registered st st' c) (h : Coherent st) (hrole : (st.conns c).role = none)
    (t : SessionRef) (i : Nat) (slot : ClientSlot)
    (hi : (st'.session t).clients.get? i = some slot) : slot.playerIndex = i ∧ i < maxPlayers ∧
      (st'.conns slot.signalingConn).role = some .client ∧
      (st'.conns slot.signalingConn).session = some t := by
  obtain ⟨h1, h2, h3, h4⟩ := h.slot t i slot ((hr.clients h t i slot).1 hi)
  have hne : slot.signalingConn ≠ c := by
    intro heq
    rw [heq, hrole] at h3
    exact absurd h3 (by simp)
  rw [hr.others _ hne]
  exact ⟨h1, h2, h3, h4⟩

theorem fits (hr : Registered st st' c) (h : Coherent st) (x : ConnId) :
    st'.TaskFits x (st'.conns x).task := by
  by_cases hxc : x = c
  · rw [hxc, hr.task]
    trivial
  · rw [hr.others x hxc]
    refine (h.task x).mono (by rw [hr.allocated]; exact Nat.le_succ _) ?_ ?_
    · intro t ht
      have hta : t ≠ st.registry.allocated := by
        rintro rfl
        rw [(h.blank _ (Nat.le_refl _)).1] at ht
        exact absurd ht (by simp)
      rw [hr.kept t hta]
      exact ht
    · intro hnone
      rw [hr.others x hxc]
      exact hnone

end Registered

/-- A host registers. -/
theorem register {st : SignalingServer} (h : Coherent st) {c : ConnId}
    (hrole : (st.conns c).role = none) {hostName : String} {draws : List String} {now : Int}
    {s : SessionRef} {r : Registry} (hcreate : st.registry.create hostName draws now = some (s, r))
    (token name : String) (address : Address) :
    let st' := { st with registry := r.modify s (fun x =>
        { x with hostConn := some c, hostToken := token, hostPublic := address }) }.modifyConn c
      (fun _ => { session := some s, role := some .host, name := name, task := .startServer s })
    Coherent st' ∧ ∀ t i slot, (st'.session t).clients.get? i = some slot ↔
      (st.session t).clients.get? i = some slot := by
  obtain ⟨code, -, rfl, rfl⟩ := Registry.create_eq_some hcreate
  intro st'
  have hself : st'.conns c =
      { session := some st.registry.allocated
        role := some .host
        name := name
        task := .startServer st.registry.allocated } :=
    SignalingServer.conns_modifyConn_self ..
  have hnew : st'.session st.registry.allocated =
      { sessionId := st.registry.byId.size + 1
        code := code
        hostName := hostName
        createdAt := now
        hostConn := some c
        hostToken := token
        hostPublic := address } := by
    show Function.update _ _ _ _ = _
    rw [Function.update_self]
    simp only [Function.update_self]
  have hr : Registered st st' c :=
    { allocated := rfl
      session := by rw [hself]
      role := by rw [hself]
      task := by rw [hself]
      others := fun x hx => SignalingServer.conns_modifyConn_of_ne _ hx _
      hostConn := by rw [hnew]
      empty := by
        intro i
        rw [hnew]
        rfl
      kept := by
        intro t ht
        show Function.update _ _ _ _ = _
        rw [Function.update_of_ne ht]
        exact Function.update_of_ne ht .. }
  refine ⟨?_, hr.clients h⟩
  constructor
  case byId => exact hr.index (d := st.registry.byId) (by rw [hnew]) h.byId
  case byCode => exact hr.index (d := st.registry.byCode) (by rw [hnew]) h.byCode
  case blank =>
    intro t ht
    have hgt : st.registry.allocated < t := ht
    rw [hr.kept t hgt.ne']
    exact h.blank t hgt.le
  case hosted => exact hr.hosted h hrole
  case ownHost => exact hr.ownHost h hrole
  case member => exact hr.member h
  case slot => exact hr.slot h hrole
  case ownSlot =>
    intro t i j a b hi hj
    exact h.ownSlot t i j a b ((hr.clients h t i a).1 hi) ((hr.clients h t j b).1 hj)
  case task => exact hr.fits h

/-- A connection without a role becomes a client in a session, without a slot so far. -/
theorem enterAsClient {st : SignalingServer} (h : Coherent st) {c : ConnId} {s : SessionRef}
    (hrole : (st.conns c).role = none) (hs : s < st.registry.allocated) (name : String)
    (slot : ClientSlot) :
    Coherent (st.modifyConn c (fun _ =>
      { session := some s, role := some .client, name := name, task := .joined s slot })) := by
  have hself := SignalingServer.conns_modifyConn_self st c (fun _ =>
    { session := some s, role := some .client, name := name, task := .joined s slot })
  have hother : ∀ x, x ≠ c → (st.modifyConn c (fun _ =>
      { session := some s, role := some .client, name := name, task := .joined s slot })).conns x
        = st.conns x := fun x hx => SignalingServer.conns_modifyConn_of_ne st hx _
  -- nobody who has a role is the newcomer
  have hknown : ∀ x role, (st.conns x).role = some role → x ≠ c := by
    rintro x role hx rfl
    rw [hrole] at hx
    exact absurd hx (by simp)
  refine ⟨h.byId, h.byCode, h.blank, ?_, h.ownHost, ?_, ?_, h.ownSlot, ?_⟩
  · intro t ht
    obtain ⟨x, hx, hxrole⟩ := h.hosted t ht
    exact ⟨x, hx, by rw [hother x (hknown x _ hxrole), hxrole]⟩
  · intro x t hx
    by_cases hxc : x = c
    · rw [hxc, hself] at hx ⊢
      obtain rfl := Option.some.inj hx
      exact ⟨hs, by simp, fun hhost => by simp at hhost⟩
    · rw [hother x hxc] at hx ⊢
      exact h.member x t hx
  · intro t i a hi
    rw [hother _ (hknown _ _ (h.slot t i a hi).2.2.1)]
    exact h.slot t i a hi
  · intro x
    by_cases hxc : x = c
    · rw [hxc, hself]
      exact hs
    · rw [hother x hxc]
      refine (h.task x).mono (Nat.le_refl _) (fun _ => id) ?_
      intro hnone
      rw [hother x hxc]
      exact hnone

/-- A player takes a free slot. -/
theorem takeSlot {st : SignalingServer} (h : Coherent st) {c : ConnId} {s : SessionRef}
    (hrole : (st.conns c).role = none) (hs : s < st.registry.allocated) (slot : ClientSlot)
    (hconn : slot.signalingConn = c) (hlt : slot.playerIndex < maxPlayers) :
    Coherent (st.takeSlot c s slot) ∧ ∀ t i, ((st.takeSlot c s slot).session t).clients.get? i
      = if t = s ∧ i = slot.playerIndex then some slot else (st.session t).clients.get? i := by
  subst hconn
  constructor
  · have hentered := h.enterAsClient hrole hs slot.name slot
    have hself := SignalingServer.conns_modifyConn_self st slot.signalingConn (fun _ =>
      { session := some s, role := some .client, name := slot.name, task := .joined s slot })
    have hassigned := hentered.assignSlot hlt (by rw [hself]) (by rw [hself])
      (fun i a => h.no_slot (Or.inl (by rw [hrole]; simp)) s i a)
    -- the two changes are of different fields, so their order does not matter
    exact hassigned.quiet rfl (fun _ => ⟨rfl, rfl, rfl, rfl⟩) (fun _ _ => id) (fun _ _ => id)
      (fun _ => ⟨rfl, rfl⟩) (fun _ => Or.inl rfl)
  · intro t i
    by_cases ht : t = s
    · have hsession : (st.takeSlot slot.signalingConn s slot).session s =
          { st.session s with clients := (st.session s).clients.assign slot.playerIndex slot } :=
        Function.update_self ..
      rw [ht, hsession]
      dsimp only
      rw [Dict.get?_assign]
      simp [eq_comm]
    · have helse : (st.takeSlot slot.signalingConn s slot).session t = st.session t :=
        Function.update_of_ne ht ..
      rw [helse, if_neg (fun hboth => ht hboth.1)]

end Coherent

end RemotePlay.Server
