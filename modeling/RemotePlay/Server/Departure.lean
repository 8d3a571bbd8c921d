import RemotePlay.Server.Steps

set_option autoImplicit false

/-! # The departure of a host

A host that leaves goes through the slots of its session, sends `session_closed` to each of them, and
removes the session after the loop. It is suspended at every turn, so that joins and leaves of others
can change the dictionary under the iteration. If none does, the session is gone when `on_leave`
has finished, and everybody has been told. -/

namespace RemotePlay.Server

/-- The coroutine is in the loop of a host's leave. -/
def Task.notifying : Task → Bool
  | .sessionClosed _ _ _ _ => true
  | _ => false

/-- The host's `on_leave` has finished: the session has been taken from the connection, and the loop
    has ended, in one way or the other. -/
def SignalingServer.Departed (st : SignalingServer) (s : SessionRef) : Prop :=
  ∃ c, (st.session s).hostConn = some c ∧ (st.conns c).session = none ∧
    (st.conns c).task.notifying = false

/-- The message to the clients of a host that leaves. -/
def hostLeft : Message := .sessionClosed "host left"

/-- The session is in neither index, its code leads nowhere but to a later session that has drawn it
    again, and everybody in it has been told. -/
structure SignalingServer.Gone (st : SignalingServer) (s : SessionRef) : Prop where
  byId : ∀ id, st.registry.byId.get? id ≠ some s
  byCode : ∀ code, st.registry.byCode.get? code ≠ some s
  later : ∀ t, st.registry.lookupCode (st.session s).code = some t → s < t
  told : ∀ idx slot, (st.session s).clients.get? idx = some slot →
    (slot.signalingConn, hostLeft) ∈ st.sent

/-- Every slot is still to come in the loop, or has been told. -/
def SignalingServer.Told (st : SignalingServer) (clients : Dict Nat ClientSlot)
    (rest : List ClientSlot) : Prop :=
  ∀ slot ∈ clients.values, slot ∈ rest ∨ (slot.signalingConn, hostLeft) ∈ st.sent

/-- The dictionary over which the loop iterates is as it was when the loop began. -/
def SignalingServer.Unchanged (st : SignalingServer) : ServerEvent → Prop
  | .resume c _ => ∀ s clients rest closing,
      (st.conns c).task = .sessionClosed s clients rest closing → (st.session s).clients = clients
  | _ => True

/-- The invariant of departures. -/
structure Departing (st : SignalingServer) : Prop where
  loop : ∀ c s clients rest closing, (st.conns c).task = .sessionClosed s clients rest closing →
    st.Told clients rest
  gone : ∀ s, st.Departed s → st.Gone s

/-- What a step of `c` must say about `c` for the invariant to be kept. -/
structure Steady (st st' : SignalingServer) (c : ConnId) : Prop where
  loop : ∀ s clients rest closing, (st'.conns c).task = .sessionClosed s clients rest closing →
    st'.Told clients rest
  left : ∀ s, (st'.session s).hostConn = some c → (st'.conns c).session = none →
    (st'.conns c).task.notifying = false →
    ((st.conns c).role ≠ none ∧ (st.conns c).session = none ∧
      (st.conns c).task.notifying = false) ∨ st'.Gone s

namespace Steady

/-- A step that stays in the session, outside the loop. -/
theorem of_same {st st' : SignalingServer} {c : ConnId} (h : Coherent st')
    (hrole : (st'.conns c).role = (st.conns c).role)
    (hsession : (st'.conns c).session = (st.conns c).session)
    (hbefore : (st.conns c).task.notifying = false)
    (hafter : (st'.conns c).task.notifying = false) : Steady st st' c := by
  constructor
  · intro s clients rest closing htask
    rw [htask] at hafter
    exact absurd hafter (by simp [Task.notifying])
  · intro s hhost hnone _
    have hhostRole := h.role_of_hostConn hhost
    exact Or.inl ⟨by rw [← hrole, hhostRole]; simp, hsession.symm.trans hnone, hbefore⟩

/-- A step after which the connection is in a session. -/
theorem of_session {st st' : SignalingServer} {c : ConnId} {s : SessionRef}
    (hsession : (st'.conns c).session = some s)
    (hafter : (st'.conns c).task.notifying = false) : Steady st st' c := by
  constructor
  · intro t clients rest closing htask
    rw [htask] at hafter
    exact absurd hafter (by simp [Task.notifying])
  · intro t _ hnone _
    rw [hsession] at hnone
    exact absurd hnone (by simp)

/-- A step of a connection that is no host. -/
theorem of_client {st st' : SignalingServer} {c : ConnId} (h : Coherent st')
    (hrole : (st'.conns c).role ≠ some .host)
    (hafter : (st'.conns c).task.notifying = false) : Steady st st' c := by
  constructor
  · intro t clients rest closing htask
    rw [htask] at hafter
    exact absurd hafter (by simp [Task.notifying])
  · intro s hhost _ _
    exact absurd (h.role_of_hostConn hhost) hrole

end Steady

theorem SignalingServer.Told.extend {st st' : SignalingServer} {clients : Dict Nat ClientSlot}
    {rest : List ClientSlot} (h : st.Told clients rest) (hsent : st.sent <+: st'.sent) :
    st'.Told clients rest := by
  intro slot hslot
  rcases h slot hslot with hrest | htold
  · exact Or.inl hrest
  · exact Or.inr (hsent.subset htold)

/-- Who is gone stays gone. -/
theorem SignalingServer.Gone.step {st : SignalingServer} {s : SessionRef} (h : st.Gone s)
    (hcoherent : Coherent st) (hs : s < st.registry.allocated) (e : ServerEvent) :
    (st.step e).Gone s ∧ ∀ idx slot, ((st.step e).session s).clients.get? idx = some slot →
      (st.session s).clients.get? idx = some slot := by
  have honward := Onward.step st e
  have hslots : ∀ idx slot, ((st.step e).session s).clients.get? idx = some slot →
      (st.session s).clients.get? idx = some slot := by
    intro idx slot hget
    cases (hcoherent.step e).2 with
    | kept hleave hgrant hsame => exact (hsame s idx slot).1 hget
    | freed c hleave hgrant hfreed => exact ((hfreed s idx slot).1 hget).1
    | taken t new hleave hgrant hfree hrole hsame =>
        rw [hsame] at hget
        split at hget
        · next hboth =>
            -- a slot is given out in sessions that are in the index only
            obtain ⟨code, hcode⟩ := SignalingServer.code_of_granted hgrant
            rw [← hboth.1] at hcode
            exact absurd hcode (h.byCode code)
        · exact hget
  refine ⟨⟨?_, ?_, ?_, ?_⟩, hslots⟩
  · intro id hget
    exact h.byId id (honward.byId id s hs hget)
  · intro code hget
    exact h.byCode code (honward.byCode code s hs hget)
  · intro t hget
    rw [honward.code s hs] at hget
    rcases Nat.lt_or_ge t st.registry.allocated with ht | ht
    · exact h.later t (honward.byCode _ t ht hget)
    · exact Nat.lt_of_lt_of_le hs ht
  · intro idx slot hget
    exact honward.sent.subset (h.told idx slot (hslots idx slot hget))

/-- The invariant from one connection to all of them. -/
theorem Departing.of_steady {st : SignalingServer} (h : Departing st) (hcoherent : Coherent st)
    (e : ServerEvent) (hsteady : ∀ c, e.conn? = some c → Steady st (st.step e) c) :
    Departing (st.step e) := by
  have honward := Onward.step st e
  have hafter := (hcoherent.step e).1
  constructor
  · intro c s clients rest closing htask
    by_cases hc : e.conn? = some c
    · exact (hsteady c hc).loop s clients rest closing htask
    · rw [SignalingServer.conns_step_of_ne st e hc] at htask
      exact (h.loop c s clients rest closing htask).extend honward.sent
  · rintro s ⟨c, hhost, hnone, htask⟩
    have hbefore : ((st.conns c).role ≠ none ∧ (st.conns c).session = none ∧
        (st.conns c).task.notifying = false) ∨ (st.step e).Gone s := by
      by_cases hc : e.conn? = some c
      · exact (hsteady c hc).left s hhost hnone htask
      · have hrole := hafter.role_of_hostConn hhost
        rw [SignalingServer.conns_step_of_ne st e hc] at hnone htask hrole
        exact Or.inl ⟨by rw [hrole]; simp, hnone, htask⟩
    rcases hbefore with ⟨hrole, hnone', htask'⟩ | hgone
    · have hs : s < st.registry.allocated := by
        -- the host of a new session had no role
        by_contra hge
        rcases honward.newHost s c (Nat.not_lt.1 hge) hhost with hsame | hnoRole
        · rw [(hcoherent.blank s (Nat.not_lt.1 hge)).1] at hsame
          exact absurd hsame (by simp)
        · exact hrole hnoRole
      have hdeparted : st.Departed s := ⟨c, (honward.host s hs).symm.trans hhost, hnone', htask'⟩
      exact ((h.gone s hdeparted).step hcoherent hs e).1
    · exact hgone

/-! ## The steps of a connection -/

namespace Steady

/-- Nothing happens. -/
theorem refl {st : SignalingServer} (h : Departing st) (hcoherent : Coherent st) (c : ConnId) :
    Steady st st c := by
  constructor
  · intro s clients rest closing htask
    exact h.loop c s clients rest closing htask
  · intro s hhost hnone htask
    exact Or.inl ⟨by rw [hcoherent.role_of_hostConn hhost]; simp, hnone, htask⟩

/-- A step that only moves the coroutine and sends. -/
theorem moves {st st' : SignalingServer} {c : ConnId} (h : Coherent st') {task : Task}
    (hconn : st'.conns c = { st.conns c with task := task })
    (hbefore : (st.conns c).task.notifying = false) (hafter : task.notifying = false) :
    Steady st st' c :=
  of_same h (by rw [hconn]) (by rw [hconn]) hbefore (by rw [hconn]; exact hafter)

theorem replyWith {st : SignalingServer} (h : Coherent st) {c : ConnId}
    (hbefore : (st.conns c).task.notifying = false) (msg : Message) :
    Steady st (st.replyWith c msg) c :=
  moves (h.replyWith c msg) (Function.update_self ..) hbefore rfl

theorem leaveDone {st : SignalingServer} (h : Coherent st) {c : ConnId}
    (hbefore : (st.conns c).task.notifying = false) (closing : Bool) :
    Steady st (st.leaveDone c closing) c := by
  have hconn : (st.leaveDone c closing).conns c
      = { st.conns c with task := if closing then .waitClosed else .readline } :=
    Function.update_self ..
  refine moves (h.leaveDone c closing) hconn hbefore ?_
  cases closing
  · rfl
  · rfl

theorem onServerStarted {st : SignalingServer} (h : Coherent st) {c : ConnId}
    (hbefore : (st.conns c).task.notifying = false) (s : SessionRef) (port : Nat) :
    Steady st (st.onServerStarted c s port) c :=
  moves (h.onServerStarted c s port) (Function.update_self ..) hbefore rfl

theorem onRelaysStarted {st : SignalingServer} (h : Coherent st) {c : ConnId}
    (hbefore : (st.conns c).task.notifying = false) (s : SessionRef) (tcpPort udpPort : Nat) :
    Steady st (st.onRelaysStarted c s tcpPort udpPort) c :=
  moves (h.onRelaysStarted c s tcpPort udpPort) (Function.update_self ..) hbefore rfl

/-- When the loop is over, the session is removed and all its players have been told. -/
theorem gone_leaveHost {st : SignalingServer} (h : Coherent st) {s : SessionRef}
    {clients : Dict Nat ClientSlot} (hclients : (st.session s).clients = clients) (c : ConnId)
    (closing : Bool) (htold : st.Told clients []) : (st.leaveHost c s clients closing []).Gone s := by
  have hcode : ((st.leaveHost c s clients closing []).session s).code
      = (st.registry.objects s).code := Registry.code_remove st.registry s s
  refine ⟨?_, ?_, ?_, ?_⟩
  · intro id hget
    have hget' := (Registry.byId_remove st.registry s id).symm.trans hget
    split at hget'
    · exact absurd hget' (by simp)
    · next hid => exact hid (h.byId id s hget').2
  · intro code hget
    have hget' := (Registry.byCode_remove st.registry s code).symm.trans hget
    split at hget'
    · exact absurd hget' (by simp)
    · next hne => exact hne (h.byCode code s hget').2
  · intro u hget
    have hget' := (Registry.byCode_remove st.registry s _).symm.trans hget
    rw [if_pos hcode.symm] at hget'
    exact absurd hget' (by simp)
  · intro idx slot hget
    have hbefore : (st.session s).clients.get? idx = some slot := by
      rw [← hget]
      exact congrArg (fun d => Dict.get? d idx) (Registry.clients_remove st.registry s s).symm
    have hmem : slot ∈ clients.values := by
      rw [← hclients]
      exact (Dict.mem_values_iff _ _).2 ⟨idx, hbefore⟩
    exact (htold slot hmem).resolve_left (by simp)

/-- A turn of the loop: it tells the next slot, or it is over and the session is removed. -/
theorem leaveHost {base st : SignalingServer} (h : Coherent st) {c : ConnId} {s : SessionRef}
    (hhost : (st.session s).hostConn = some c) {clients : Dict Nat ClientSlot}
    (hclients : (st.session s).clients = clients) (closing : Bool) {rest : List ClientSlot}
    (htold : st.Told clients rest) : Steady base (st.leaveHost c s clients closing rest) c := by
  cases rest with
  | nil =>
      have hconn : (st.leaveHost c s clients closing []).conns c
          = { st.conns c with task := if closing then .waitClosed else .readline } :=
        Function.update_self ..
      have htask : ((st.leaveHost c s clients closing []).conns c).task.notifying = false := by
        rw [hconn]
        cases closing
        · rfl
        · rfl
      constructor
      · intro t clients' rest closing' hloop
        rw [hloop] at htask
        exact absurd htask (by simp [Task.notifying])
      · intro t hhost' _ _
        have hkept : ((st.registry.remove s).objects t).hostConn = (st.session t).hostConn :=
          Registry.hostConn_remove st.registry s t
        obtain rfl := h.ownHost t s c (hkept.symm.trans hhost') hhost
        exact Or.inr (gone_leaveHost h hclients c closing htold)
  | cons slot rest =>
      have hconn : (st.leaveHost c s clients closing (slot :: rest)).conns c
          = { st.conns c with task := .sessionClosed s clients rest closing } :=
        Function.update_self ..
      constructor
      · intro t clients' rest' closing' hloop
        rw [hconn] at hloop
        obtain ⟨rfl, rfl, rfl, rfl⟩ := Task.sessionClosed.inj hloop
        intro other hother
        rcases htold other hother with hrest | hsent
        · rcases List.mem_cons.1 hrest with rfl | hrest
          · exact Or.inr (List.mem_append_right _ (List.mem_singleton_self _))
          · exact Or.inl hrest
        · exact Or.inr (List.mem_append_left _ hsent)
      · intro t _ _ htask
        rw [hconn] at htask
        exact absurd htask (by simp [Task.notifying])

end Steady

theorem notifying_leaveClient (c : ConnId) (s : SessionRef) (closing : Bool)
    (items : List (Nat × ClientSlot)) (st : SignalingServer) :
    ((SignalingServer.leaveClient c s closing items st).conns c).task.notifying = false := by
  have hgoto : ∀ (u : SignalingServer) (task : Task), task.notifying = false →
      ((u.goto c task).conns c).task.notifying = false := by
    intro u task htask
    rw [SignalingServer.goto, SignalingServer.conns_modifyConn_self]
    exact htask
  induction items generalizing st with
  | nil =>
      refine hgoto st _ ?_
      cases closing
      · rfl
      · rfl
  | cons item rest ih =>
      unfold SignalingServer.leaveClient
      split
      · dsimp only
        split
        · exact hgoto _ _ rfl
        · exact ih _
      · exact ih st

/-- **Leaving**, from outside the loop. -/
theorem Steady.onLeave {st : SignalingServer} (h : Coherent st) {c : ConnId}
    (hbefore : (st.conns c).task.notifying = false) (closing : Bool) :
    Steady st (st.onLeave c closing) c := by
  have hafter := (h.onLeave c closing).1
  have hkept := (Onward.onLeave st c closing).kept c
  have hdone : ∀ task, (if closing then Task.waitClosed else .readline) = task →
      task.notifying = false := by
    rintro task rfl
    cases closing
    · rfl
    · rfl
  cases hsession : (st.conns c).session with
  | none =>
      have heq : st.onLeave c closing
          = (st.modifyConn c (fun x => { x with session := none })).leaveDone c closing := by
        simp only [SignalingServer.onLeave, hsession]
      rw [heq] at hafter ⊢
      have hconn : ((st.modifyConn c (fun x => { x with session := none })).leaveDone c closing).conns
          c = { st.conns c with task := if closing then .waitClosed else .readline } := by
        rw [SignalingServer.leaveDone, SignalingServer.goto, SignalingServer.conns_modifyConn_self,
          SignalingServer.conns_modifyConn_self, ← hsession]
      exact moves hafter hconn hbefore (hdone _ rfl)
  | some s =>
      obtain ⟨-, hrole, hown⟩ := h.member c s hsession
      cases hcase : (st.conns c).role with
      | none => exact absurd hcase hrole
      | some role =>
          cases role with
          | client =>
              refine of_client hafter ?_ ?_
              · rw [(hkept hrole).1, hcase]
                simp
              · simp only [SignalingServer.onLeave, hsession, hcase]
                exact notifying_leaveClient ..
          | host =>
              have hnone := h.no_slot (c := c) (Or.inl (by rw [hcase]; simp))
              simp only [SignalingServer.onLeave, hsession, hcase]
              exact leaveHost (h.dropSession c hnone) (hown hcase) rfl closing
                (fun slot hslot => Or.inl hslot)

namespace Steady

theorem onHostRegister {st : SignalingServer} (h : Departing st) (hcoherent : Coherent st)
    {c : ConnId} (hbefore : (st.conns c).task.notifying = false) (name : Option String)
    (env : Readings) : Steady st (st.onHostRegister c name env) c := by
  unfold SignalingServer.onHostRegister
  split
  · exact replyWith hcoherent hbefore _
  · dsimp only
    split
    · exact refl h hcoherent c
    · next s r _ =>
        refine of_session (s := s) ?_ ?_
        · rw [SignalingServer.conns_modifyConn_self]
        · rw [SignalingServer.conns_modifyConn_self]
          rfl

theorem onJoin {st : SignalingServer} (hcoherent : Coherent st) {c : ConnId}
    (hbefore : (st.conns c).task.notifying = false) (code : String) (name : Option String)
    (env : Readings) : Steady st (st.onJoin c code name env) c := by
  unfold SignalingServer.onJoin
  split
  · exact replyWith hcoherent hbefore _
  split
  · exact replyWith hcoherent hbefore _
  next s _ =>
  split
  · exact replyWith hcoherent hbefore _
  split
  · exact replyWith hcoherent hbefore _
  next idx _ =>
  generalize SignalingServer.newSlot c idx name env = slot
  have hconn : (st.takeSlot c s slot).conns c =
      { session := some s, role := some .client, name := slot.name, task := .joined s slot } :=
    Function.update_self ..
  exact of_session (s := s) (by rw [hconn]) (by rw [hconn]; rfl)

theorem onLine {st : SignalingServer} (h : Departing st) (hcoherent : Coherent st) {c : ConnId}
    (hbefore : (st.conns c).task.notifying = false) (x : Line) (env : Readings) :
    Steady st (st.onLine c x env) c := by
  cases x with
  | skipped => exact refl h hcoherent c
  | badJson => exact replyWith hcoherent hbefore _
  | ended => exact onLeave hcoherent hbefore true
  | request msg =>
      cases msg with
      | hostRegister name => exact onHostRegister h hcoherent hbefore name env
      | join code name => exact onJoin hcoherent hbefore code name env
      | keepalive => exact replyWith hcoherent hbefore _
      | leave => exact onLeave hcoherent hbefore false
      | unknown type => exact replyWith hcoherent hbefore _

/-- What comes after an `await`, unless the dictionary of a leave loop has been changed. -/
theorem onResume {st : SignalingServer} (h : Departing st) (hcoherent : Coherent st) (c : ConnId)
    (next : Option (List ClientSlot)) (hunchanged : st.Unchanged (.resume c next)) :
    Steady st (st.onResume c next) c := by
  have hafter := (hcoherent.onResume c next).1
  have hfits := hcoherent.task c
  unfold SignalingServer.onResume at hafter ⊢
  split
  · next htask =>
      exact moves (hcoherent.goto c trivial) (Function.update_self ..) (by rw [htask]; rfl) rfl
  · next s slot htask =>
      rw [htask] at hfits
      obtain ⟨host, hhost, -⟩ := hcoherent.hosted s hfits
      unfold SignalingServer.tellHost
      rw [hhost]
      exact moves ((hcoherent.send _ _).goto c trivial) (Function.update_self ..)
        (by rw [htask]; rfl) rfl
  · next s rest closing htask =>
      rw [htask] at hfits
      rw [leaveClient_of_done hfits]
      exact leaveDone hcoherent (by rw [htask]; rfl) closing
  · next s clients rest closing htask =>
      rw [htask] at hfits
      have hsame := hunchanged s clients rest closing htask
      unfold SignalingServer.continueLeaveHost
      rw [if_neg (by rw [hsame]; simp), if_pos hsame]
      exact leaveHost hcoherent hfits.1 hsame closing (h.loop c s clients rest closing htask)
  · next htask =>
      exact moves (hcoherent.goto c trivial) (Function.update_self ..) (by rw [htask]; rfl) rfl
  · exact refl h hcoherent c

theorem onBound {st : SignalingServer} (h : Departing st) (hcoherent : Coherent st) (c : ConnId)
    (port : Option Nat) : Steady st (st.onBound c port) c := by
  unfold SignalingServer.onBound
  split
  · next htask => exact onServerStarted hcoherent (by rw [htask]; rfl) ..
  · next htask => exact onLeave hcoherent (by rw [htask]; rfl) true
  · next htask => exact onRelaysStarted hcoherent (by rw [htask]; rfl) ..
  · next htask => exact onLeave hcoherent (by rw [htask]; rfl) true
  · exact refl h hcoherent c

end Steady

theorem notifying_of_reading {st : SignalingServer} {c : ConnId} (h : st.reading c = true) :
    (st.conns c).task.notifying = false := by
  unfold SignalingServer.reading at h
  split at h
  · next htask =>
      rw [htask]
      rfl
  · exact absurd h (by simp)

/-- **Every event** keeps the invariant of departures, unless it goes on with a leave loop whose
    dictionary has been changed. -/
theorem Departing.step {st : SignalingServer} (h : Departing st) (hcoherent : Coherent st)
    (e : ServerEvent) (hunchanged : st.Unchanged e) : Departing (st.step e) := by
  refine h.of_steady hcoherent e ?_
  intro c hc
  cases e with
  | connect c' =>
      obtain rfl := Option.some.inj hc
      unfold SignalingServer.step
      dsimp only
      split
      · next htask =>
          exact Steady.moves (hcoherent.goto c' trivial) (Function.update_self ..)
            (by rw [htask]; rfl) rfl
      · exact Steady.refl h hcoherent c'
  | line c' x env =>
      obtain rfl := Option.some.inj hc
      rw [SignalingServer.step_line]
      split
      · next hreading => exact Steady.onLine h hcoherent (notifying_of_reading hreading) x env
      · exact Steady.refl h hcoherent c'
  | resume c' next =>
      obtain rfl := Option.some.inj hc
      exact Steady.onResume h hcoherent c' next hunchanged
  | bound c' port =>
      obtain rfl := Option.some.inj hc
      exact Steady.onBound h hcoherent c' port
  | expire now => exact absurd hc (by simp [ServerEvent.conn?])
  | relay e => exact absurd hc (by simp [ServerEvent.conn?])
  | datagram s data addr => exact absurd hc (by simp [ServerEvent.conn?])

theorem departing_empty : Departing {} := by
  constructor
  · intro c s clients rest closing htask
    exact absurd htask (by simp)
  · rintro s ⟨c, hhost, -⟩
    exact absurd hhost (by simp [SignalingServer.session])

/-! ## Runs -/

/-- Once the host's `on_leave` has finished, the session is gone, and whatever happens next, nobody
    joins it. -/
def DepartedAreGone (es : List ServerEvent) : Prop :=
  ∀ pre, pre <+: es → ∀ s, (serverRun pre).Departed s → (serverRun pre).Gone s ∧
    ∀ e idx slot, (((serverRun pre).step e).session s).clients.get? idx = some slot →
      ((serverRun pre).session s).clients.get? idx = some slot

/-- **A departed host's session is gone** in every run in which nobody joins or leaves a session while
    its host is being suspended in the loop of its own leave. -/
theorem departed_are_gone_of_unchanged (es : List ServerEvent)
    (h : ∀ p ∈ history SignalingServer.step {} es, p.1.Unchanged p.2) : DepartedAreGone es := by
  rintro pre ⟨post, rfl⟩ s hdeparted
  have hcoherent := coherent_serverRun pre
  have hdeparting : Coherent (serverRun pre) ∧ Departing (serverRun pre) := by
    refine runFrom_invariant SignalingServer.step (fun st => Coherent st ∧ Departing st)
      SignalingServer.Unchanged ?_ {} pre ⟨coherent_empty, departing_empty⟩ ?_
    · rintro st e ⟨hc, hd⟩ he
      exact ⟨(hc.step e).1, hd.step hc e he⟩
    · intro p hp
      rw [history_append] at h
      exact h p (List.mem_append_left _ hp)
  have hgone := hdeparting.2.gone s hdeparted
  obtain ⟨c, hhost, -, -⟩ := hdeparted
  have hs : s < (serverRun pre).registry.allocated := by
    by_contra hge
    rw [(hcoherent.blank s (Nat.not_lt.1 hge)).1] at hhost
    exact absurd hhost (by simp)
  exact ⟨hgone, fun e idx slot hget => (hgone.step hcoherent hs e).2 idx slot hget⟩

theorem departed_are_gone_of_unchanged_alone : DepartedAreGone
    (hostComesIn 0 "ABCDEFGH" "h" ++ playerComesIn 1 "ABCDEFGH" "p" ++
      [.line 0 (.request .leave) {}, .resume 0 none]) := by
  refine departed_are_gone_of_unchanged _ ?_
  simp only [hostComesIn, playerComesIn, List.cons_append, List.nil_append, history_cons,
    history_nil, List.forall_mem_cons]
  refine ⟨trivial, trivial, trivial, trivial, ?_, trivial, trivial, ?_, ?_, trivial, ?_, by simp⟩
  · intro s clients rest closing htask
    cases htask
  · intro s clients rest closing htask
    cases htask
  · intro s clients rest closing htask
    cases htask
  · intro s clients rest closing htask
    cases htask
    decide +kernel

/-- The host leaves and is suspended while it tells its one player so, and another player joins: the
    iteration raises, and the session stays open to everybody. -/
def joinDuringLeave : List ServerEvent :=
  hostComesIn 0 "ABCDEFGH" "h" ++ playerComesIn 1 "ABCDEFGH" "p" ++
    [.line 0 (.request .leave) {}] ++ playerComesIn 2 "ABCDEFGH" "q" ++ [.resume 0 none]

theorem departed_session_stays_open : ¬ DepartedAreGone joinDuringLeave := by
  intro h
  have hgone := (h joinDuringLeave List.prefix_rfl 0
    ⟨0, by decide +kernel, by decide +kernel, by decide +kernel⟩).1
  exact hgone.byCode "ABCDEFGH" (by decide +kernel)

end RemotePlay.Server
