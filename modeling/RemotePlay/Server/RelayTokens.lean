import RemotePlay.Server.RelaySteps
import RemotePlay.Server.Steps

set_option autoImplicit false

/-! # The life of a relay token

`on_join` puts the token of a slot into `PAIRS`, and only the relay coroutines take it out again, when
both sides of the pair are gone. The slots go by another way: a player leaves, or its session is
removed. A token outlives its slot exactly when the slot goes first: tokens die with their players in a
run in which the relay cleans each one up before it is taken out of its session
(`tokens_die_of_cleanedUp`). -/

namespace RemotePlay.Server

/-- What the last `finally` of a connection in this role leaves of the entry, if it gets there. -/
def Pair.left (p : Pair) : RoleField → Option Pair
  | .side side => some (p.put side none)
  | .ready => some { p with hasReady := false }
  | .key => some p
  | .falsy => none
  | .unhashable => none

/-- A coroutine comes to the end of its last `finally`: the connection presented the token, in a role
    that is a key, and no side is left in the entry. -/
def TcpRelay.CleansUp (t : TcpRelay) (e : RelayEvent) (token : String) : Prop :=
  ∃ r ok, e = .resume r ok ∧ (t.conns r).phase = .closing ∧ (t.conns r).token = some token ∧
    token ≠ "" ∧ ∃ p q, t.table.get? token = some p ∧
      (t.pairs p).left (t.conns r).role = some q ∧ q.vacant = true

namespace SignalingServer

/-- The token belongs to a slot of a session that is in the registry. -/
def Present (st : SignalingServer) (token : String) : Prop :=
  ∃ s idx slot, st.registry.lookupCode (st.session s).code = some s ∧
    (st.session s).clients.get? idx = some slot ∧ slot.token = token

/-- `token in PAIRS`. -/
def Paired (st : SignalingServer) (token : String) : Prop := st.relay.table.get? token ≠ none

/-- The sessions that the event removes from the registry. -/
def removes (st : SignalingServer) (e : ServerEvent) : List SessionRef :=
  match e with
  | .expire now => st.registry.expiring now
  | .line c (.request (.hostRegister _)) env =>
      if st.reading c ∧ (st.conns c).role = none then st.registry.expiring env.now else []
  | .resume c next =>
      match (st.conns c).task with
      | .sessionClosed s clients rest _ =>
          if (st.session s).clients = clients then if rest = [] then [s] else []
          else if next = some [] then [s] else []
      | _ => []
  | _ =>
      match st.leaving e with
      | none => []
      | some c =>
          match (st.conns c).session with
          | none => []
          | some s =>
              if (st.conns c).role = some .host ∧ (st.session s).clients.values = [] then [s] else []

/-- The event takes the slot with this token out of its session: its player leaves, or the session is
    removed. -/
inductive TakesOut (st : SignalingServer) (e : ServerEvent) (token : String) : Prop where
  | leaves (c : ConnId) (hleave : st.leaving e = some c) (s : SessionRef) (idx : Nat) (slot : ClientSlot)
      (hget : (st.session s).clients.get? idx = some slot) (hconn : slot.signalingConn = c)
      (htoken : slot.token = token)
  | removed (s : SessionRef) (hs : s ∈ st.removes e) (t : SessionRef)
      (hlookup : st.registry.lookupCode (st.session s).code = some t) (idx : Nat) (slot : ClientSlot)
      (hget : (st.session t).clients.get? idx = some slot) (htoken : slot.token = token)

/-- No token that the event takes out of its session is still in `PAIRS`. -/
def Released (st : SignalingServer) (e : ServerEvent) : Prop :=
  ∀ token, st.TakesOut e token → ¬ st.Paired token

/-- The event is a join that gets a slot with this token. -/
def Issues (st : SignalingServer) (e : ServerEvent) (token : String) : Prop :=
  ∃ s slot, st.granted e = some (s, slot) ∧ slot.token = token

/-- The event ends a relay coroutine that presented the token, and leaves no side of its pair. -/
def CleansUp (st : SignalingServer) (e : ServerEvent) (token : String) : Prop :=
  ∃ e', e = .relay e' ∧ st.relay.CleansUp e' token

/-! ## The registry and the relay in one step -/

theorem removes_of_granted {st : SignalingServer} {e : ServerEvent} {given : SessionRef × ClientSlot}
    (h : st.granted e = some given) : st.removes e = [] := by
  unfold granted at h
  split at h
  · rfl
  · exact absurd h (by simp)

/-- A session leaves `by_code` only when a session with its code is removed. -/
def KeepsCodes (st st' : SignalingServer) (removed : List SessionRef) : Prop :=
  ∀ code t, st.registry.byCode.get? code = some t →
    st'.registry.byCode.get? code = some t ∨ ∃ s ∈ removed, (st.session s).code = code

theorem KeepsCodes.of_same {st st' : SignalingServer} {removed : List SessionRef}
    (h : st'.registry.byCode = st.registry.byCode) : KeepsCodes st st' removed := by
  intro code t hget
  rw [h]
  exact Or.inl hget

theorem KeepsCodes.removeAll (st : SignalingServer) (ss : List SessionRef) :
    KeepsCodes st { st with registry := ss.foldl Registry.remove st.registry } ss := by
  intro code t hget
  by_cases hin : ∃ s ∈ ss, (st.session s).code = code
  · exact Or.inr hin
  · left
    have hkeep : ∀ (ss : List SessionRef) (r : Registry),
        (∀ s ∈ ss, (r.objects s).code ≠ code) → r.byCode.get? code = some t →
        (ss.foldl Registry.remove r).byCode.get? code = some t := by
      intro ss
      induction ss with
      | nil => exact fun _ _ => id
      | cons s ss ih =>
          intro r hne hr
          refine ih (r.remove s) ?_ ?_
          · intro u hu
            rw [Registry.code_remove]
            exact hne u (List.mem_cons_of_mem _ hu)
          · rw [Registry.byCode_remove, if_neg (hne s List.mem_cons_self)]
            exact hr
    refine hkeep ss st.registry ?_ hget
    intro s hs heq
    exact hin ⟨s, hs, heq⟩

theorem byCode_leaveClient (c : ConnId) (s : SessionRef) (closing : Bool)
    (items : List (Nat × ClientSlot)) (st : SignalingServer) :
    (leaveClient c s closing items st).registry.byCode = st.registry.byCode := by
  induction items generalizing st with
  | nil => rfl
  | cons item rest ih =>
      unfold leaveClient
      split
      · dsimp only
        split
        · rfl
        · exact ih _
      · exact ih st

theorem keepsCodes_leaveHost (st : SignalingServer) (c : ConnId) (s : SessionRef)
    (clients : Dict Nat ClientSlot) (closing : Bool) (rest : List ClientSlot) :
    KeepsCodes st (st.leaveHost c s clients closing rest) (if rest = [] then [s] else []) := by
  cases rest with
  | nil => exact KeepsCodes.removeAll st [s]
  | cons slot rest => exact .of_same rfl

theorem keepsCodes_onLeave (st : SignalingServer) (c : ConnId) (closing : Bool) :
    KeepsCodes st (st.onLeave c closing)
      (match (st.conns c).session with
        | none => []
        | some s =>
            if (st.conns c).role = some .host ∧ (st.session s).clients.values = [] then [s] else []) := by
  cases hsession : (st.conns c).session with
  | none =>
      simp only [onLeave, hsession]
      exact .of_same rfl
  | some s =>
      cases hrole : (st.conns c).role with
      | none =>
          simp only [onLeave, hsession, hrole]
          exact .of_same rfl
      | some role =>
          cases role with
          | client =>
              simp only [onLeave, hsession, hrole]
              exact .of_same (byCode_leaveClient ..)
          | host =>
              simp only [onLeave, hsession, hrole, true_and]
              exact keepsCodes_leaveHost (st.modifyConn c (fun x => { x with session := none })) c s
                (st.session s).clients closing (st.session s).clients.values

theorem keepsCodes_onHostRegister (st : SignalingServer) (c : ConnId) (name : Option String)
    (env : Readings) : KeepsCodes st (st.onHostRegister c name env)
      (if (st.conns c).role = none then st.registry.expiring env.now else []) := by
  unfold onHostRegister
  split
  · exact .of_same rfl
  · next hrole =>
      rw [if_pos (by simpa using hrole)]
      dsimp only
      split
      · exact .of_same rfl
      · next s r hcreate =>
          obtain ⟨code, hfree, rfl, rfl⟩ := Registry.create_eq_some hcreate
          intro code' t hget
          rcases KeepsCodes.removeAll st (st.registry.expiring env.now) code' t hget with hkept | hout
          · left
            refine (Dict.get?_assign _ _ _ _).trans ?_
            rw [if_neg]
            · exact hkept
            · rintro rfl
              exact absurd (hfree.symm.trans hkept) (by simp)
          · exact Or.inr hout

theorem byCode_onJoin (st : SignalingServer) (c : ConnId) (code : String) (name : Option String)
    (env : Readings) : (st.onJoin c code name env).registry.byCode = st.registry.byCode := by
  unfold onJoin
  split
  · rfl
  split
  · rfl
  split
  · rfl
  split
  · rfl
  · rfl

theorem keepsCodes_onLine (st : SignalingServer) {c : ConnId} (hreading : st.reading c = true)
    (x : Line) (env : Readings) :
    KeepsCodes st (st.onLine c x env) (st.removes (.line c x env)) := by
  cases x with
  | skipped => exact .of_same rfl
  | badJson => exact .of_same rfl
  | request msg =>
      cases msg with
      | hostRegister name =>
          simp only [removes, hreading, true_and]
          exact keepsCodes_onHostRegister st c name env
      | join code name => exact .of_same (byCode_onJoin st c code name env)
      | keepalive => exact .of_same rfl
      | leave =>
          simp only [removes, leaving, hreading, if_true]
          exact keepsCodes_onLeave st c false
      | unknown type => exact .of_same rfl
  | ended =>
      simp only [removes, leaving, hreading, if_true]
      exact keepsCodes_onLeave st c true

theorem keepsCodes_onResume {st : SignalingServer} (h : Coherent st) (c : ConnId)
    (next : Option (List ClientSlot)) :
    KeepsCodes st (st.onResume c next) (st.removes (.resume c next)) := by
  have hfits := h.task c
  unfold onResume
  split
  · exact .of_same rfl
  · next s slot htask =>
      rw [htask] at hfits
      obtain ⟨host, hhost, -⟩ := h.hosted s hfits
      unfold tellHost
      rw [hhost]
      exact .of_same rfl
  · exact .of_same (byCode_leaveClient ..)
  · next s clients rest closing htask =>
      simp only [removes, htask]
      unfold continueLeaveHost
      by_cases hsame : (st.session s).clients = clients
      · rw [if_neg (by rw [hsame]; simp), if_pos hsame, if_pos hsame]
        exact keepsCodes_leaveHost st c s clients closing rest
      · rw [if_neg hsame, if_neg hsame]
        split
        · exact .of_same rfl
        · cases next with
          | none => exact .of_same rfl
          | some rest =>
              simp only [Option.some.injEq]
              exact keepsCodes_leaveHost st c s clients closing rest
  · exact .of_same rfl
  · exact .of_same rfl

theorem keepsCodes_onBound (st : SignalingServer) (c : ConnId) (port : Option Nat) :
    KeepsCodes st (st.onBound c port) (st.removes (.bound c port)) := by
  have hfail : st.starting c = true →
      KeepsCodes st (st.onLeave c true) (st.removes (.bound c none)) := by
    intro hstarting
    simp only [removes, leaving, hstarting, if_true]
    exact keepsCodes_onLeave st c true
  unfold onBound
  split
  · exact .of_same rfl
  · next htask => exact hfail (by simp only [starting, htask])
  · exact .of_same rfl
  · next htask => exact hfail (by simp only [starting, htask])
  · exact .of_same rfl

/-- **The codes in one step.** -/
theorem keepsCodes_step {st : SignalingServer} (h : Coherent st) (e : ServerEvent) :
    KeepsCodes st (st.step e) (st.removes e) := by
  cases e with
  | connect c =>
      unfold step
      dsimp only
      split
      · exact .of_same rfl
      · exact .of_same rfl
  | line c x env =>
      rw [step_line]
      split
      · next hreading => exact keepsCodes_onLine st hreading x env
      · exact .of_same rfl
  | resume c next => exact keepsCodes_onResume h c next
  | bound c port => exact keepsCodes_onBound st c port
  | expire now => exact KeepsCodes.removeAll st _
  | relay e => exact .of_same rfl
  | datagram s data addr =>
      unfold step onDatagram
      dsimp only
      split
      · exact .of_same rfl
      · exact .of_same rfl

/-- A signaling event that gives out no slot does not reach into the relay. -/
theorem relay_step_of_none {st : SignalingServer} {e : ServerEvent} (hgrant : st.granted e = none)
    (hrelay : ∀ e', e ≠ .relay e') : (st.step e).relay = st.relay := by
  cases hc : e.conn? with
  | some c =>
      have hchanges := st.step_changes e hc
      rw [hgrant] at hchanges
      exact hchanges.frame SignalingServer.relay (fun _ _ => rfl) (fun _ _ _ => rfl)
        (fun _ _ => rfl) fun _ _ _ hnone => absurd hnone (by simp)
  | none =>
      cases e with
      | expire now => rfl
      | relay e => exact absurd rfl (hrelay e)
      | datagram s data addr =>
          show (st.onDatagram s data addr).relay = st.relay
          unfold onDatagram
          split
          · rfl
          · rfl
      | _ => exact absurd hc (by simp [ServerEvent.conn?])

/-- A join that gets a slot registers its token. -/
theorem relay_step_of_some {st : SignalingServer} (h : Coherent st) {e : ServerEvent}
    {s : SessionRef} {slot : ClientSlot} (hgrant : st.granted e = some (s, slot)) :
    (st.step e).relay = st.relay.registerPair slot.token := by
  unfold granted at hgrant
  split at hgrant
  · next c code name env =>
      split at hgrant
      · next hjoins =>
          obtain ⟨t, hlookup, hslot⟩ := Option.bind_eq_some_iff.1 hgrant
          obtain ⟨idx, hfree, heq⟩ := Option.map_eq_some_iff.1 hslot
          obtain ⟨rfl, rfl⟩ := Prod.mk.inj heq
          obtain ⟨host, hhost, -⟩ := h.hosted t (h.byCode code t hlookup).1
          rw [step_line, if_pos hjoins.1]
          show (st.onJoin c code name env).relay = _
          unfold onJoin
          rw [if_neg (by simp [hjoins.2]), hlookup]
          dsimp only
          rw [if_neg (by rw [hhost]; simp), hfree]
          rfl
      · exact absurd hgrant (by simp)
  · exact absurd hgrant (by simp)

end SignalingServer

/-! ## The table -/

namespace TcpRelay

/-- The coroutines only take tokens out of `PAIRS`. -/
theorem table_step_subset (t : TcpRelay) (e : RelayEvent) {token : String}
    (h : (t.step e).table.get? token ≠ none) : t.table.get? token ≠ none := by
  rcases t.step_changes e with hchanges | ⟨p, side, -, -, hchanges⟩
  · exact hchanges.table_subset h
  · exact hchanges.table_subset h

theorem get?_vacate {t : TcpRelay} {token : String} {p : PairRef} (hget : t.table.get? token = some p)
    {f : Pair → Pair} (hvacant : (f (t.pairs p)).vacant = true) :
    (t.vacate token f).table.get? token = none := by
  have hentry : ((t.modifyPair p f).pairs p).vacant = true := by
    show (Function.update t.pairs p (f (t.pairs p)) p).vacant = true
    rw [Function.update_self]
    exact hvacant
  unfold vacate
  rw [hget]
  dsimp only
  rw [if_pos hentry]
  exact (Dict.get?_pop _ _ _).trans (if_pos rfl)

/-- **A cleaned up token** is not in `PAIRS` any more. -/
theorem get?_of_cleansUp {t : TcpRelay} {e : RelayEvent} {token : String} (h : t.CleansUp e token) :
    (t.step e).table.get? token = none := by
  obtain ⟨r, ok, rfl, hphase, htoken, hne, p, q, hget, hleft, hvacant⟩ := h
  have hstep : (t.step (.resume r ok)).table = (t.cleanup (some token) (t.conns r).role).table := by
    unfold step resume
    dsimp only
    rw [hphase, htoken]
    rfl
  rw [hstep]
  unfold cleanup
  dsimp only
  rw [if_neg hne]
  cases hrole : (t.conns r).role with
  | side side =>
      rw [hrole] at hleft
      obtain rfl := Option.some.inj hleft
      exact get?_vacate hget hvacant
  | ready =>
      rw [hrole] at hleft
      obtain rfl := Option.some.inj hleft
      exact get?_vacate hget hvacant
  | key =>
      rw [hrole] at hleft
      obtain rfl := Option.some.inj hleft
      exact get?_vacate hget hvacant
  | falsy =>
      rw [hrole] at hleft
      cases hleft
  | unhashable =>
      rw [hrole] at hleft
      cases hleft

/-- A handshake is accepted only with a token in `PAIRS`. -/
theorem paired_of_accepted {t : TcpRelay} {r : RelayId} {line : Handshake}
    (h : ((t.step (.handshake r line)).conns r).out = (t.conns r).out ++ [.accepted]) :
    ∃ token role, line = .relay (some token) role ∧ t.table.get? token ≠ none := by
  have hout : ∀ x : RelayOut, ((t.conns r).write x).out = (t.conns r).out ++ [.accepted] →
      x = .accepted := by
    intro x hx
    unfold RelayConn.write at hx
    split at hx
    · exact absurd hx (by simp)
    · simpa using hx
  have hreject : ∀ reason, ((t.reject r reason).conns r).out ≠ (t.conns r).out ++ [.accepted] := by
    intro reason heq
    have hself : ((t.reject r reason).conns r).out = ((t.conns r).write (.rejected reason)).out := by
      simp [reject, goto, write, modifyConn]
    exact absurd (hout _ (hself.symm.trans heq)) (by simp)
  unfold step at h
  dsimp only at h
  split at h
  · cases line with
    | other => exact absurd h (hreject _)
    | failure =>
        have hself : ((t.finish r).conns r).out = (t.conns r).out := by
          simp [finish, close, goto, modifyConn]
        exact absurd (hself.symm.trans h) (by simp)
    | relay token role =>
        have hself : (((t.modifyConn r (fun c => { c with token := token, role := role })).reject r
            "unknown token").conns r).out = ((t.conns r).write (.rejected "unknown token")).out := by
          simp only [reject, goto, write, modifyConn, Function.update_self, RelayConn.write]
          split
          · rfl
          · rfl
        dsimp only at h
        unfold onRelay at h
        dsimp only at h
        split at h
        · next p side htoken =>
            obtain ⟨token', rfl, hget⟩ := Option.bind_eq_some_iff.1 htoken
            have hget' : t.table.get? token' = some p := hget
            exact ⟨token', _, rfl, by rw [hget']; simp⟩
        · exact absurd (hout _ (hself.symm.trans h)) (by simp)
  · exact absurd h (by simp)

end TcpRelay

/-! ## Runs -/

open SignalingServer in
/-- A token that was there before stays with its slot. -/
theorem present_step_of_paired {st : SignalingServer} (h : Coherent st)
    (hpresent : ∀ token, st.Paired token → st.Present token) (e : ServerEvent)
    (hreleased : st.Released e) {token : String} (hbefore : st.Paired token) :
    (st.step e).Present token := by
  obtain ⟨s, idx, slot, hlookup, hget, htoken⟩ := hpresent token hbefore
  have hs := (h.byCode _ s hlookup).1
  have hcode : (st.step e).registry.lookupCode ((st.step e).session s).code = some s := by
    rw [(Onward.step st e).code s hs]
    rcases keepsCodes_step h e _ s hlookup with hkept | ⟨u, hu, hucode⟩
    · exact hkept
    · exact absurd hbefore
        (hreleased token (.removed u hu s (hucode ▸ hlookup) idx slot hget htoken))
  refine ⟨s, idx, slot, hcode, ?_, htoken⟩
  cases (h.step e).2 with
  | kept hleave hgrant hsame => exact (hsame s idx slot).2 hget
  | freed c hleave hgrant hfreed =>
      refine (hfreed s idx slot).2 ⟨hget, ?_⟩
      intro hconn
      exact hreleased token (.leaves c hleave s idx slot hget hconn htoken) hbefore
  | taken t new hleave hgrant hfree hrole hsame =>
      rw [hsame, if_neg]
      · exact hget
      · rintro ⟨rfl, rfl⟩
        rw [hfree] at hget
        exact absurd hget (by simp)

open SignalingServer in
/-- The token that comes in belongs to the slot that is given. -/
theorem present_step_of_granted {st : SignalingServer} (h : Coherent st) {e : ServerEvent}
    {s : SessionRef} {slot : ClientSlot} (hgrant : st.granted e = some (s, slot)) :
    (st.step e).Present slot.token := by
  obtain ⟨code, hcode⟩ := code_of_granted hgrant
  have hs := h.byCode code s hcode
  refine ⟨s, slot.playerIndex, slot, ?_, ?_, rfl⟩
  · rw [(Onward.step st e).code s hs.1, hs.2]
    rcases keepsCodes_step h e code s hcode with hkept | ⟨u, hu, -⟩
    · exact hkept
    · exact absurd hu (by simp [removes_of_granted hgrant])
  · cases (h.step e).2 with
    | kept hleave hnone hsame => exact absurd (hgrant.symm.trans hnone) (by simp)
    | freed c hleave hnone hfreed => exact absurd (hgrant.symm.trans hnone) (by simp)
    | taken t new hleave hsome hfree hrole hsame =>
        obtain ⟨rfl, rfl⟩ := Prod.mk.inj (Option.some.inj (hgrant.symm.trans hsome))
        rw [hsame, if_pos ⟨rfl, rfl⟩]

open SignalingServer in
/-- A token gets into `PAIRS` only when it is issued. -/
theorem paired_of_step {st : SignalingServer} (h : Coherent st) {e : ServerEvent} {token : String}
    (hpaired : (st.step e).Paired token) : st.Paired token ∨ st.Issues e token := by
  unfold Paired at hpaired
  cases hgrant : st.granted e with
  | none =>
      left
      cases e with
      | relay e => exact st.relay.table_step_subset e hpaired
      | _ =>
          rw [relay_step_of_none hgrant (by simp)] at hpaired
          exact hpaired
  | some given =>
      obtain ⟨s, slot⟩ := given
      rw [relay_step_of_some h hgrant] at hpaired
      have hassign : (st.relay.table.assign slot.token st.relay.allocated).get? token ≠ none :=
        hpaired
      rw [Dict.get?_assign] at hassign
      split at hassign
      · next htoken => exact Or.inr ⟨s, slot, hgrant, htoken⟩
      · exact Or.inl hassign

open SignalingServer in
/-- **One event** that releases every token it takes out of its session leaves only tokens of players
    in `PAIRS`. -/
theorem present_step {st : SignalingServer} (h : Coherent st)
    (hpresent : ∀ token, st.Paired token → st.Present token) (e : ServerEvent)
    (hreleased : st.Released e) (token : String) (hpaired : (st.step e).Paired token) :
    (st.step e).Present token := by
  rcases paired_of_step h hpaired with hbefore | ⟨s, slot, hgrant, rfl⟩
  · exact present_step_of_paired h hpresent e hreleased hbefore
  · exact present_step_of_granted h hgrant

/-- Relay tokens die with their player in the run. -/
structure TokensDie (es : List ServerEvent) : Prop where
  /-- A handshake is accepted only with the token of a slot in a session of the registry, -/
  accepted : ∀ pre, pre <+: es → ∀ r line,
    (((serverRun pre).step (.relay (.handshake r line))).relay.conns r).out
        = ((serverRun pre).relay.conns r).out ++ [.accepted] →
      ∃ token role, line = .relay (some token) role ∧ (serverRun pre).Present token
  /-- and such tokens are the only ones in `PAIRS`. -/
  paired : ∀ pre, pre <+: es → ∀ token, (serverRun pre).Paired token →
    (serverRun pre).Present token

/-- Tokens die in every run in which no token is in `PAIRS` any more when its player leaves or its
    session is removed. -/
theorem tokens_die_of_released (es : List ServerEvent)
    (h : ∀ p ∈ history SignalingServer.step {} es, p.1.Released p.2) : TokensDie es := by
  have hpresent : ∀ pre, pre <+: es → ∀ token, (serverRun pre).Paired token →
      (serverRun pre).Present token := by
    rintro pre ⟨post, rfl⟩
    rw [history_append] at h
    refine (runFrom_invariant SignalingServer.step
      (fun st => Coherent st ∧ ∀ token, st.Paired token → st.Present token)
      SignalingServer.Released ?_ {} pre ⟨coherent_empty, ?_⟩ ?_).2
    · rintro st e ⟨hcoherent, hall⟩ he
      exact ⟨(hcoherent.step e).1, present_step hcoherent hall e he⟩
    · intro token hpaired
      exact absurd rfl hpaired
    · intro p hp
      exact h p (List.mem_append_left _ hp)
  refine ⟨?_, hpresent⟩
  intro pre hpre r line hout
  obtain ⟨token, role, rfl, hget⟩ := TcpRelay.paired_of_accepted hout
  exact ⟨token, role, rfl, hpresent pre hpre token hget⟩

/-! ## Cleaned up in time -/

/-- The relay has cleaned the token up, and no join has issued it since. -/
def CleanedUp (es : List ServerEvent) (token : String) : Prop :=
  ∃ before e after, es = before ++ e :: after ∧ (serverRun before).CleansUp e token ∧
    ∀ p ∈ history SignalingServer.step (serverRun (before ++ [e])) after, ¬ p.1.Issues p.2 token

/-- **A token that was cleaned up** stays out of `PAIRS` until it is issued again. -/
theorem not_paired_of_cleanedUp {es : List ServerEvent} {token : String} (h : CleanedUp es token) :
    ¬ (serverRun es).Paired token := by
  obtain ⟨before, e, after, rfl, ⟨e', rfl, hcleans⟩, hissues⟩ := h
  have hstart : ¬ (serverRun (before ++ [.relay e'])).Paired token := by
    unfold serverRun
    rw [runFrom_concat]
    exact not_not.2 (TcpRelay.get?_of_cleansUp hcleans)
  have hrun := (runFrom_invariant SignalingServer.step
    (fun st => Coherent st ∧ ¬ st.Paired token) (fun st e => ¬ st.Issues e token)
    (fun st e hst he => ⟨(hst.1.step e).1, fun hpaired =>
      (paired_of_step hst.1 hpaired).elim hst.2 he⟩) _ after
    ⟨coherent_serverRun _, hstart⟩ hissues).2
  rw [serverRun, ← runFrom_append, List.append_assoc] at hrun
  exact hrun

/-- **Relay tokens die with their player** in every run in which the relay cleans a token up, after it
    was issued, before the player leaves or the session is removed. -/
theorem tokens_die_of_cleanedUp (es : List ServerEvent)
    (h : ∀ pre e, pre ++ [e] <+: es → ∀ token, (serverRun pre).TakesOut e token →
      CleanedUp pre token) : TokensDie es := by
  refine tokens_die_of_released es ?_
  rintro ⟨st, e⟩ hmem token htakes
  obtain ⟨pre, post, rfl, rfl⟩ := (mem_history_iff _ _ _ _ _).1 hmem
  refine not_paired_of_cleanedUp (h pre e ?_ token htakes)
  exact ⟨post, List.append_assoc ..⟩

/-- A connection that names no valid role takes the token of a player out of `PAIRS`. -/
def relayCleanup : List ServerEvent :=
  hostComesIn 0 "ABCDEFGH" "h" ++ playerComesIn 1 "ABCDEFGH" "p" ++
    [.relay (.connect 0), .relay (.handshake 0 (.relay (some "p") .key)), .relay (.resume 0 true),
      .relay (.resume 0 true)]

theorem tokens_die_of_cleanedUp_leave : TokensDie (relayCleanup ++ [.line 1 (.request .leave) {}]) := by
  have hquiet : ∀ p ∈ history SignalingServer.step {} relayCleanup,
      p.1.leaving p.2 = none ∧ p.1.removes p.2 = [] := by
    simp only [relayCleanup, hostComesIn, playerComesIn, List.cons_append, List.nil_append, history_cons,
      history_nil, List.forall_mem_cons]
    refine ⟨⟨rfl, rfl⟩, ⟨rfl, rfl⟩, ⟨rfl, rfl⟩, ⟨rfl, rfl⟩, ⟨rfl, rfl⟩, ⟨rfl, rfl⟩, ⟨rfl, rfl⟩,
      ⟨rfl, rfl⟩, ⟨rfl, rfl⟩, ⟨rfl, rfl⟩, ⟨rfl, rfl⟩, ⟨rfl, rfl⟩, ⟨rfl, rfl⟩, by simp⟩
  refine tokens_die_of_cleanedUp _ fun pre e hpre token htakes => ?_
  rcases List.prefix_concat_iff.1 hpre with heq | hearlier
  · obtain ⟨rfl, hlast⟩ := List.append_inj' heq rfl
    obtain rfl := (List.cons.inj hlast).1
    have htokens : ∀ idx < maxPlayers, ∀ slot ∈ ((serverRun relayCleanup).session 0).clients.get? idx,
        slot.token = "p" := by
      decide +kernel
    cases htakes with
    | leaves c hleave s idx slot hget hconn htoken =>
        obtain rfl := Option.some.inj hleave
        obtain ⟨-, hidx, -, hsession⟩ := (coherent_serverRun relayCleanup).slot s idx slot hget
        rw [hconn] at hsession
        obtain rfl : 0 = s := Option.some.inj hsession
        obtain rfl : "p" = token := (htokens idx hidx slot hget).symm.trans htoken
        refine ⟨relayCleanup.dropLast, .relay (.resume 0 true), [], rfl, ⟨_, rfl, ?_⟩, by simp⟩
        exact ⟨0, true, rfl, rfl, rfl, by decide, 0, {}, rfl, rfl, rfl⟩
    | removed s hs => cases hs
  · obtain ⟨post, hpost⟩ := hearlier
    have hmem : (serverRun pre, e) ∈ history SignalingServer.step {} relayCleanup :=
      (mem_history_iff _ _ _ _ _).2 ⟨pre, post, by rw [← hpost, List.append_assoc]; rfl, rfl⟩
    obtain ⟨hleaving, hremoves⟩ := hquiet _ hmem
    cases htakes with
    | leaves c hleave => exact absurd (hleaving.symm.trans hleave) (by simp)
    | removed s hs =>
        rw [hremoves] at hs
        cases hs

/-- A player leaves before it has used its token. -/
def leaveBeforeRelay : List ServerEvent :=
  hostComesIn 0 "ABCDEFGH" "h" ++ playerComesIn 1 "ABCDEFGH" "p" ++
    [.line 1 (.request .leave) {}, .relay (.connect 0)]

theorem token_outlives_player : ¬ TokensDie leaveBeforeRelay := by
  intro h
  obtain ⟨token, role, heq, s, idx, slot, -, hget, -⟩ :=
    h.accepted leaveBeforeRelay List.prefix_rfl 0 (.relay (some "p") (.side .client))
      (by decide +kernel)
  -- nobody is in a session any more as a client
  obtain ⟨-, -, hrole, hsession⟩ := (coherent_serverRun leaveBeforeRelay).slot s idx slot hget
  generalize slot.signalingConn = c at hrole hsession
  rcases c with _ | _ | c
  · cases hrole
  · cases hsession
  · cases hrole

end RemotePlay.Server
