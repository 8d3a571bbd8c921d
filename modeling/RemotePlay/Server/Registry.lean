import RemotePlay.Lib.Dict
import RemotePlay.Lib.Runs

set_option autoImplicit false

/-! # The registry of the signaling server (`server/signaling-server/server.py`)

A `Session` is a mutable object that several places refer to, so the registry holds a heap of the
sessions created so far and a reference is a position in it. `by_id` and `by_code` are updated one
after the other, and a new session's id is the size of `by_id` plus one: the two stay inverse
indexes of the live sessions exactly as long as that number is free and `remove` is not called for a
session whose id or code has meanwhile gone to another one.

Times are nanoseconds of the loop's clock. Log lines are left out. -/

namespace RemotePlay.Server

/-! ## Sessions -/

/-- `MAX_PLAYERS`. -/
def maxPlayers : Nat := 4

/-- `SESSION_TTL_SECONDS`. -/
def sessionTtl : Int := 6 * 3600 * 1000000000

/-- A public address as the server observes it. -/
structure Address where
  ip : String := ""
  port : Nat := 0
deriving DecidableEq, Repr

/-- A signaling connection; the coroutine that serves it has the same name. -/
abbrev ConnId := Nat

/-- A reference to a `Session` object. -/
abbrev SessionRef := Nat

/-- `ClientSlot`, without the member that nothing reads. -/
structure ClientSlot where
  playerIndex : Nat
  name : String
  token : String
  signalingConn : ConnId
  publicAddress : Address := {}
deriving DecidableEq, Repr

/-- What a session holds of a relay: `None`, a listening object, or one that was closed. -/
inductive Listener where
  | absent
  | listening
  | closed
deriving DecidableEq, Repr

def Listener.close : Listener → Listener
  | .absent => .absent
  | .listening => .closed
  | .closed => .closed

/-- `Session`; `clients` maps player indices to slots. -/
structure Session where
  sessionId : Nat := 0
  code : String := ""
  hostName : String := ""
  hostConn : Option ConnId := none
  hostToken : String := ""
  hostPublic : Address := {}
  clients : Dict Nat ClientSlot := {}
  createdAt : Int := 0
  tcpRelayPort : Nat := 0
  udpRelayPort : Nat := 0
  tcpRelayServer : Listener := .absent
  udpRelay : Listener := .absent

/-- `now - x.created_at > SESSION_TTL_SECONDS`. -/
def Session.expired (s : Session) (now : Int) : Bool := sessionTtl < now - s.createdAt

/-! ## The registry -/

/-- `Registry`, with the sessions created so far. -/
structure Registry where
  objects : SessionRef → Session := fun _ => {}
  allocated : Nat := 0
  byId : Dict Nat SessionRef := {}
  byCode : Dict String SessionRef := {}

instance : Inhabited Registry := ⟨{}⟩

namespace Registry

/-- Assign to a session object. -/
def modify (r : Registry) (s : SessionRef) (f : Session → Session) : Registry :=
  { r with objects := Function.update r.objects s (f (r.objects s)) }

/-- `create`: `draws` are the codes that the loop draws. It leaves the loop with the first one that
    is not taken, and goes on drawing while there is none. -/
def create (r : Registry) (hostName : String) (draws : List String) (now : Int) :
    Option (SessionRef × Registry) :=
  (draws.find? (fun code => (r.byCode.get? code).isNone)).map (fun code =>
    let s : Session :=
      { sessionId := r.byId.size + 1, code := code, hostName := hostName, createdAt := now }
    (r.allocated,
      { objects := Function.update r.objects r.allocated s
        allocated := r.allocated + 1
        byId := r.byId.assign s.sessionId r.allocated
        byCode := r.byCode.assign code r.allocated }))

/-- `lookup_code`, for a code that is stripped and in upper case. -/
def lookupCode (r : Registry) (code : String) : Option SessionRef := r.byCode.get? code

/-- `free_slot`. -/
def freeSlot (s : Session) : Option Nat :=
  (List.range maxPlayers).find? (fun i => (s.clients.get? i).isNone)

/-- `remove`: takes the session's id and code out of the indexes and closes its relays. -/
def remove (r : Registry) (s : SessionRef) : Registry :=
  { r with
    byCode := r.byCode.pop (r.objects s).code
    byId := r.byId.pop (r.objects s).sessionId }.modify s (fun x =>
      { x with tcpRelayServer := x.tcpRelayServer.close, udpRelay := x.udpRelay.close })

/-- The sessions that `expire_old` removes. -/
def expiring (r : Registry) (now : Int) : List SessionRef :=
  r.byId.values.filter (fun s => (r.objects s).expired now)

/-- `expire_old`. -/
def expireOld (r : Registry) (now : Int) : Registry := (r.expiring now).foldl remove r

/-! ## What the operations leave alone -/

/-- `remove` changes no session but for its relays. -/
theorem objects_remove (r : Registry) (s t : SessionRef) :
    (r.remove s).objects t = { r.objects t with
      tcpRelayServer := ((r.remove s).objects t).tcpRelayServer
      udpRelay := ((r.remove s).objects t).udpRelay } := by
  unfold remove modify
  dsimp only
  by_cases hts : t = s
  · rw [hts, Function.update_self]
  · rw [Function.update_of_ne hts]

@[simp] theorem allocated_remove (r : Registry) (s : SessionRef) :
    (r.remove s).allocated = r.allocated := rfl

@[simp] theorem sessionId_remove (r : Registry) (s t : SessionRef) :
    ((r.remove s).objects t).sessionId = (r.objects t).sessionId := by rw [objects_remove]

@[simp] theorem code_remove (r : Registry) (s t : SessionRef) :
    ((r.remove s).objects t).code = (r.objects t).code := by rw [objects_remove]

@[simp] theorem clients_remove (r : Registry) (s t : SessionRef) :
    ((r.remove s).objects t).clients = (r.objects t).clients := by rw [objects_remove]

@[simp] theorem hostConn_remove (r : Registry) (s t : SessionRef) :
    ((r.remove s).objects t).hostConn = (r.objects t).hostConn := by rw [objects_remove]

theorem byId_remove (r : Registry) (s : SessionRef) (id : Nat) :
    (r.remove s).byId.get? id
      = if (r.objects s).sessionId = id then none else r.byId.get? id :=
  Dict.get?_pop _ _ _

theorem byCode_remove (r : Registry) (s : SessionRef) (code : String) :
    (r.remove s).byCode.get? code
      = if (r.objects s).code = code then none else r.byCode.get? code :=
  Dict.get?_pop _ _ _

/-- What `create` does when it returns. -/
theorem create_eq_some {r r' : Registry} {hostName : String} {draws : List String} {now : Int}
    {s : SessionRef} (h : r.create hostName draws now = some (s, r')) :
    ∃ code, r.byCode.get? code = none ∧ s = r.allocated ∧
      r' = { objects := Function.update r.objects s
              { sessionId := r.byId.size + 1, code := code, hostName := hostName, createdAt := now }
             allocated := r.allocated + 1
             byId := r.byId.assign (r.byId.size + 1) s
             byCode := r.byCode.assign code s } := by
  obtain ⟨code, hfind, heq⟩ := Option.map_eq_some_iff.1 h
  obtain ⟨rfl, rfl⟩ := Prod.mk.inj heq
  have hfree := List.find?_some hfind
  exact ⟨code, Option.isNone_iff_eq_none.1 hfree, rfl, rfl⟩

end Registry

/-! ## The live sessions -/

/-- A call of a registry method. -/
inductive RegistryOp where
  | create (hostName : String) (draws : List String) (now : Int)
  | remove (s : SessionRef)
  | expireOld (now : Int)
deriving Repr

/-- The registry beside the sessions that it is meant to hold: those created, less those that
    `remove` was called for or that have grown too old by a call of `expire_old`. -/
structure Ledger where
  registry : Registry := {}
  live : List SessionRef := []

namespace Ledger

def step (l : Ledger) (op : RegistryOp) : Ledger :=
  match op with
  | .create hostName draws now =>
      match l.registry.create hostName draws now with
      | none => l
      | some (s, r) => { registry := r, live := l.live ++ [s] }
  | .remove s => { registry := l.registry.remove s, live := l.live.filter (· ≠ s) }
  | .expireOld now =>
      { registry := l.registry.expireOld now
        live := l.live.filter (fun s => !(l.registry.objects s).expired now) }

/-- The two indexes hold exactly the live sessions, each under its own id and its own code, and no
    two live sessions share either. -/
structure Bijective (l : Ledger) : Prop where
  byId : ∀ id s, l.registry.byId.get? id = some s ↔
    s ∈ l.live ∧ (l.registry.objects s).sessionId = id
  byCode : ∀ code s, l.registry.byCode.get? code = some s ↔
    s ∈ l.live ∧ (l.registry.objects s).code = code
  idsDistinct : ∀ s ∈ l.live, ∀ t ∈ l.live,
    (l.registry.objects s).sessionId = (l.registry.objects t).sessionId → s = t
  codesDistinct : ∀ s ∈ l.live, ∀ t ∈ l.live,
    (l.registry.objects s).code = (l.registry.objects t).code → s = t

/-- The call does not mistake one live session for another: the id that `create` assigns belongs to
    no live session, and neither do the id and the code of the session that `remove` is for, unless
    to that session itself. -/
def Unambiguous (l : Ledger) (op : RegistryOp) : Prop :=
  match op with
  | .create hostName draws now => (l.registry.create hostName draws now).isSome →
      ∀ t ∈ l.live, (l.registry.objects t).sessionId ≠ l.registry.byId.size + 1
  | .remove s => ∀ t ∈ l.live, t ≠ s →
      (l.registry.objects t).sessionId ≠ (l.registry.objects s).sessionId ∧
        (l.registry.objects t).code ≠ (l.registry.objects s).code
  | .expireOld _ => True

/-- Indexes that answer with the live sessions alone are injective on them. -/
theorem Bijective.of_indexes {l : Ledger}
    (byId : Indexes l.registry.byId.get? l.live (fun s => (l.registry.objects s).sessionId))
    (byCode : Indexes l.registry.byCode.get? l.live (fun s => (l.registry.objects s).code)) :
    l.Bijective :=
  ⟨byId, byCode, byId.injective, byCode.injective⟩

/-- Taking one session out, and no other. -/
theorem Bijective.remove {r : Registry} {live : List SessionRef}
    (h : Bijective { registry := r, live := live }) (s : SessionRef)
    (hclear : ∀ t ∈ live, t ≠ s → (r.objects t).sessionId ≠ (r.objects s).sessionId ∧
      (r.objects t).code ≠ (r.objects s).code) :
    Bijective { registry := r.remove s, live := live.filter (· ≠ s) } := by
  have hId : Indexes r.byId.get? live (fun t => (r.objects t).sessionId) := h.byId
  have hCode : Indexes r.byCode.get? live (fun t => (r.objects t).code) := h.byCode
  refine Bijective.of_indexes ?_ ?_
  · have hremoved := hId.remove (fun t ht hne => (hclear t ht hne).1)
    intro id t
    dsimp only
    rw [Registry.byId_remove, Registry.sessionId_remove]
    exact hremoved id t
  · have hremoved := hCode.remove (fun t ht hne => (hclear t ht hne).2)
    intro code t
    dsimp only
    rw [Registry.byCode_remove, Registry.code_remove]
    exact hremoved code t

/-- Removing several sessions in a row. -/
theorem Bijective.removeAll (ss : List SessionRef) {r : Registry} {live : List SessionRef}
    (h : Bijective { registry := r, live := live })
    (hclear : ∀ s ∈ ss, ∀ t ∈ live, t ≠ s →
      (r.objects t).sessionId ≠ (r.objects s).sessionId ∧ (r.objects t).code ≠ (r.objects s).code) :
    Bijective { registry := ss.foldl Registry.remove r, live := live.filter (· ∉ ss) } := by
  induction ss generalizing r live with
  | nil =>
      rw [List.filter_eq_self.2 (by simp)]
      exact h
  | cons s ss ih =>
      have hfirst := h.remove s (hclear s List.mem_cons_self)
      have hrest := ih hfirst (by
        intro s' hs' t ht hne
        rw [Registry.sessionId_remove, Registry.sessionId_remove, Registry.code_remove,
          Registry.code_remove]
        exact hclear s' (List.mem_cons_of_mem _ hs') t (List.mem_filter.1 ht).1 hne)
      rw [List.filter_filter] at hrest
      rw [List.foldl_cons]
      convert hrest using 4
      simp [Bool.and_comm]

/-- A bijective ledger whose live sessions have been created. -/
def Sound (l : Ledger) : Prop := l.Bijective ∧ ∀ s ∈ l.live, s < l.registry.allocated

theorem allocated_removeAll (ss : List SessionRef) (r : Registry) :
    (ss.foldl Registry.remove r).allocated = r.allocated := by
  induction ss generalizing r with
  | nil => rfl
  | cons s ss ih => rw [List.foldl_cons, ih, Registry.allocated_remove]

theorem Sound.create {l : Ledger} (h : l.Sound) {hostName : String} {draws : List String}
    {now : Int} {s : SessionRef} {r : Registry}
    (hcreate : l.registry.create hostName draws now = some (s, r))
    (hfree : ∀ t ∈ l.live, (l.registry.objects t).sessionId ≠ l.registry.byId.size + 1) :
    Sound { registry := r, live := l.live ++ [s] } := by
  obtain ⟨code, hcode, rfl, rfl⟩ := Registry.create_eq_some hcreate
  obtain ⟨hbij, hold⟩ := h
  have hId : Indexes l.registry.byId.get? l.live (fun t => (l.registry.objects t).sessionId) :=
    hbij.byId
  have hCode : Indexes l.registry.byCode.get? l.live (fun t => (l.registry.objects t).code) :=
    hbij.byCode
  have hne : ∀ t ∈ l.live, t ≠ l.registry.allocated := by
    intro t ht
    exact Nat.ne_of_lt (hold t ht)
  have hfreeId : l.registry.byId.get? (l.registry.byId.size + 1) = none := by
    rw [Option.eq_none_iff_forall_ne_some]
    intro t hget
    obtain ⟨ht, heq⟩ := (hId _ t).1 hget
    exact hfree t ht heq
  -- the session that comes in, and what the others look like beside it
  set new : Session :=
    { sessionId := l.registry.byId.size + 1, code := code, hostName := hostName, createdAt := now }
  have hself : Function.update l.registry.objects l.registry.allocated new l.registry.allocated
      = new := Function.update_self ..
  have hother : ∀ t ∈ l.live,
      Function.update l.registry.objects l.registry.allocated new t = l.registry.objects t :=
    fun t ht => Function.update_of_ne (hne t ht) ..
  refine ⟨Bijective.of_indexes ?_ ?_, ?_⟩
  · have hinserted := hId.insert
      (fun t => (Function.update l.registry.objects l.registry.allocated new t).sessionId)
      (fun t ht => ⟨hne t ht, congrArg Session.sessionId (hother t ht)⟩)
      (by rw [hself]; exact hfreeId)
    intro id t
    dsimp only
    rw [Dict.get?_assign]
    rw [hself] at hinserted
    exact hinserted id t
  · have hinserted := hCode.insert
      (fun t => (Function.update l.registry.objects l.registry.allocated new t).code)
      (fun t ht => ⟨hne t ht, congrArg Session.code (hother t ht)⟩)
      (by rw [hself]; exact hcode)
    intro code' t
    dsimp only
    rw [Dict.get?_assign]
    rw [hself] at hinserted
    exact hinserted code' t
  · intro t ht
    rcases List.mem_append.1 ht with ht | ht
    · exact Nat.lt_succ_of_lt (hold t ht)
    · rw [List.mem_singleton.1 ht]
      exact Nat.lt_succ_self _

/-- The sessions that expire are live, and they are all the live ones that are too old. -/
theorem Bijective.mem_expiring {l : Ledger} (h : l.Bijective) (now : Int) (s : SessionRef) :
    s ∈ l.registry.expiring now ↔ s ∈ l.live ∧ (l.registry.objects s).expired now = true := by
  unfold Registry.expiring
  rw [List.mem_filter, Dict.mem_values_iff]
  constructor
  · rintro ⟨⟨id, hget⟩, hold⟩
    exact ⟨((h.byId id s).1 hget).1, hold⟩
  · rintro ⟨hlive, hold⟩
    exact ⟨⟨_, (h.byId _ s).2 ⟨hlive, rfl⟩⟩, hold⟩

theorem Sound.expireOld {l : Ledger} (h : l.Sound) (now : Int) :
    (l.step (.expireOld now)).Sound := by
  obtain ⟨hbij, hold⟩ := h
  have hremoved := hbij.removeAll (l.registry.expiring now) (by
    intro s hs t ht hne
    have hlive := ((hbij.mem_expiring now s).1 hs).1
    exact ⟨fun heq => hne (hbij.idsDistinct t ht s hlive heq),
      fun heq => hne (hbij.codesDistinct t ht s hlive heq)⟩)
  have hfilter : l.live.filter (· ∉ l.registry.expiring now)
      = l.live.filter (fun s => !(l.registry.objects s).expired now) := by
    refine List.filter_congr ?_
    intro s hs
    have hmem := hbij.mem_expiring now s
    simp [hmem, hs]
  rw [hfilter] at hremoved
  refine ⟨hremoved, ?_⟩
  intro s hs
  show s < (l.registry.expireOld now).allocated
  rw [Registry.expireOld, allocated_removeAll]
  exact hold s (List.mem_filter.1 hs).1

/-- One unambiguous call keeps the indexes right. -/
theorem Sound.step {l : Ledger} (h : l.Sound) (op : RegistryOp) (hop : l.Unambiguous op) :
    (l.step op).Sound := by
  cases op with
  | create hostName draws now =>
      unfold Ledger.step
      dsimp only
      cases hcreate : l.registry.create hostName draws now with
      | none => exact h
      | some result => exact h.create hcreate (hop (by rw [hcreate]; rfl))
  | remove s =>
      refine ⟨h.1.remove s hop, ?_⟩
      intro t ht
      exact h.2 t (List.mem_filter.1 ht).1
  | expireOld now => exact h.expireOld now

/-- A call that leaves the indexes right was unambiguous. -/
theorem unambiguous_of_bijective {l : Ledger} (h : l.Sound) (op : RegistryOp)
    (hafter : (l.step op).Bijective) : l.Unambiguous op := by
  cases op with
  | create hostName draws now =>
      intro hsome t ht heq
      obtain ⟨⟨s, r⟩, hcreate⟩ := Option.isSome_iff_exists.1 hsome
      unfold Ledger.step at hafter
      dsimp only at hafter
      rw [hcreate] at hafter
      obtain ⟨code, -, rfl, rfl⟩ := Registry.create_eq_some hcreate
      have hne := Nat.ne_of_lt (h.2 t ht)
      -- the new session and `t` would be two live sessions with one id
      have hsame := hafter.idsDistinct t (List.mem_append_left _ ht) l.registry.allocated
        (List.mem_append_right _ (List.mem_singleton_self _))
      dsimp only at hsame
      rw [Function.update_of_ne hne, Function.update_self] at hsame
      exact hne (hsame heq)
  | remove s =>
      intro t ht hne
      have hlive : t ∈ l.live.filter (· ≠ s) := List.mem_filter.2 ⟨ht, by simpa using hne⟩
      constructor
      · intro heq
        have hget := (hafter.byId _ t).2 ⟨hlive, rfl⟩
        simp only [Ledger.step, Registry.byId_remove, Registry.sessionId_remove] at hget
        rw [if_pos heq.symm] at hget
        exact absurd hget (by simp)
      · intro heq
        have hget := (hafter.byCode _ t).2 ⟨hlive, rfl⟩
        simp only [Ledger.step, Registry.byCode_remove, Registry.code_remove] at hget
        rw [if_pos heq.symm] at hget
        exact absurd hget (by simp)
  | expireOld now => trivial

theorem sound_empty : Sound {} :=
  ⟨Bijective.of_indexes (Indexes.empty _) (Indexes.empty _), by simp⟩

end Ledger

/-- **When the registry is a bijection.** For every sequence of calls, the indexes hold exactly the
    live sessions after every call, exactly when no call is ambiguous. -/
theorem registry_bijective_iff (ops : List RegistryOp) :
    (∀ p ∈ history Ledger.step {} ops, (p.1.step p.2).Bijective) ↔
      ∀ p ∈ history Ledger.step {} ops, p.1.Unambiguous p.2 := by
  refine forall_history_iff Ledger.step Ledger.Sound (fun l op => (l.step op).Bijective)
    Ledger.Unambiguous ?_ ?_ {} ops Ledger.sound_empty
  · intro l op hsound hop
    have hafter := hsound.step op hop
    exact ⟨hafter.1, hafter⟩
  · intro l op hsound hafter
    exact Ledger.unambiguous_of_bijective hsound op hafter

/-- Two sessions, the first one removed, and a third: it gets the id of the second. -/
theorem third_session_takes_id :
    ¬ ∀ p ∈ history Ledger.step {} [.create "a" ["AAAAAAAA"] 0, .create "b" ["BBBBBBBB"] 0,
      .remove 0, .create "c" ["CCCCCCCC"] 0], (p.1.step p.2).Bijective := by
  intro hall
  have hlast := hall _ (List.mem_of_getLast? (by rfl))
  have hsecond : (1 : SessionRef) ∈ [1, 2] := by decide
  have hthird : (2 : SessionRef) ∈ [1, 2] := by decide
  exact absurd (hlast.idsDistinct 1 hsecond 2 hthird (by decide +kernel)) (by decide)

end RemotePlay.Server
