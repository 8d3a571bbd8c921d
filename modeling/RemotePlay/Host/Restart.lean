import RemotePlay.Host.Isolation
import RemotePlay.Host.SessionRuns

set_option autoImplicit false

/-! # What an earlier run can do to the host's session

The task of `stop` and the close of the acceptor name no run: whichever run executes them, they act
on the timer and the server it finds, or on a server that is gone. If both were executed before the
loop stopped, then the only thing left of `stop` is the closing of connections, and what that
reports concerns an id that the later run has not given to anybody. -/

namespace RemotePlay.Host

/-- A client that is unknown stays so, unless a new connection gets its id. -/
theorem HostSession.viewOf_step_of_none {s : HostSession} {e : HostEvent} {id : UInt32}
    (hnone : s.viewOf id = none) (hid : s.assigns e = true → id ≠ s.nextClientId) :
    (s.step e).viewOf id = none := by
  have hchange := s.step_change e id
  generalize (s.step e).viewOf id = v at hchange ⊢
  generalize reports id (s.handle e).2 = rs at hchange
  cases hchange with
  | stay => exact hnone
  | connection hassigns heq => exact absurd heq (hid hassigns)
  | hello input hview => simp [hnone] at hview
  | capabilities input hview => simp [hnone] at hview
  | setInput v hview => simp [hnone] at hview
  | kick v hview => simp [hnone] at hview
  | forward input hview => exact hnone
  | dropped v hview => rfl
  | stopped he => rfl

namespace HostRuns

/-! ## What a step queues -/

/-- `t` follows `s` by steps of the run that is on. -/
structure Onward (s t : HostRuns) : Prop where
  run : t.run = s.run
  server : ∀ l, t.server = some l → l.run = s.run
  queue : ∃ new, t.queue = s.queue ++ new ∧ ∀ h ∈ new, h.run = s.run

section Onward

variable {s t u : HostRuns}

theorem Onward.trans (h : Onward s t) (h' : Onward t u) : Onward s u := by
  obtain ⟨new, hnew, hown⟩ := h.queue
  obtain ⟨new', hnew', hown'⟩ := h'.queue
  refine ⟨h'.run.trans h.run, ?_, ⟨new ++ new', ?_, ?_⟩⟩
  · intro l hl
    rw [← h.run]
    exact h'.server l hl
  · rw [hnew', hnew, List.append_assoc]
  · intro a ha
    rcases List.mem_append.1 ha with hin | hin
    · exact hown a hin
    · rw [← h.run]
      exact hown' a hin

variable (hserver : ∀ l, s.server = some l → l.run = s.run)

include hserver

theorem onward_refl : Onward s s := ⟨rfl, hserver, ⟨[], by simp, by simp⟩⟩

theorem onward_post {h : HostHandler} (hrun : h.run = s.run) : Onward s (s.post h) :=
  ⟨rfl, hserver, ⟨[h], rfl, by simp [hrun]⟩⟩

theorem onward_cancelWait : Onward s s.cancelWait := by
  unfold cancelWait
  split
  · exact ⟨rfl, hserver, ⟨[_], rfl, by simp⟩⟩
  · exact onward_refl hserver

theorem onward_stopServer : Onward s s.stopServer := by
  unfold stopServer
  split
  · exact onward_refl hserver
  · next l hl =>
      split
      · exact onward_refl hserver
      · refine ⟨rfl, ?_, ⟨[_], rfl, by simp [hserver l hl]⟩⟩
        intro l' hl'
        obtain rfl := Option.some.inj hl'
        exact hserver l hl

theorem onward_perform (eff : HostEffect) : Onward s (s.perform eff) := by
  unfold perform
  split
  · exact onward_stopServer hserver
  · exact onward_post hserver rfl
  · exact onward_refl hserver

theorem onward_performAll (out : List HostEffect) : Onward s (out.foldl perform s) := by
  induction out generalizing s with
  | nil => exact onward_refl hserver
  | cons eff out ih =>
      have hfirst := onward_perform hserver eff
      have hown : ∀ l, (s.perform eff).server = some l → l.run = (s.perform eff).run := by
        intro l hl
        rw [hfirst.run]
        exact hfirst.server l hl
      exact hfirst.trans (ih hown)

theorem onward_enter (e : HostEvent) : Onward s (s.enter e).1 := by
  have hposted : Onward s
      { s with
        session := { s.session.step e with tasks := [] }
        queue := s.queue ++ (s.session.step e).tasks.map (fun task => ⟨s.run, .task task⟩) } := by
    refine ⟨rfl, hserver, ⟨_, rfl, ?_⟩⟩
    intro h hmem
    obtain ⟨task, -, rfl⟩ := List.mem_map.1 hmem
    rfl
  refine hposted.trans (onward_performAll ?_ _)
  exact hserver

end Onward

/-! ## The session's part -/

variable {s : HostRuns}

@[simp] theorem post_session (s : HostRuns) (h : HostHandler) : (s.post h).session = s.session :=
  rfl

@[simp] theorem cancelWait_session (s : HostRuns) : s.cancelWait.session = s.session := by
  unfold cancelWait
  split
  · rfl
  · rfl

theorem arm_session (s : HostRuns) : s.arm.session = s.session := s.cancelWait_session

@[simp] theorem stopServer_session (s : HostRuns) : s.stopServer.session = s.session := by
  unfold stopServer
  split
  · rfl
  split
  · rfl
  · rfl

@[simp] theorem perform_session (s : HostRuns) (eff : HostEffect) :
    (s.perform eff).session = s.session := by
  unfold perform
  split
  · exact s.stopServer_session
  · rfl
  · rfl

theorem enter_session (s : HostRuns) (e : HostEvent) :
    (s.enter e).1.session = { s.session.step e with tasks := [] } := by
  have hfold : ∀ (out : List HostEffect) (t : HostRuns),
      (out.foldl perform t).session = t.session := by
    intro out
    induction out with
    | nil => exact fun t => rfl
    | cons eff out ih => exact fun t => (ih _).trans (t.perform_session eff)
  exact hfold _ _

/-! ## The invariant -/

/-- Nothing that `stop` has left in the queue acts on the run that is on. -/
structure Clear (s : HostRuns) : Prop where
  bound : ∀ h ∈ s.queue, h.run ≤ s.run
  stopped : ∀ h ∈ s.queue, h.run < s.run →
    h.work ≠ .task .shutdown ∧ h.work ≠ .closeAcceptor
  gone : ∀ h ∈ s.queue, h.run < s.run → ∀ id, h.work = .closeConn id → s.session.viewOf id = none
  server : ∀ l, s.server = some l → l.run = s.run
  idle : s.session.running = false → ∀ id, s.session.viewOf id = none

theorem Clear.onward {t : HostRuns} (hs : s.Clear) (h : Onward s t)
    (hgone : ∀ a ∈ s.queue, a.run < s.run → ∀ id, a.work = .closeConn id →
      t.session.viewOf id = none)
    (hidle : t.session.running = false → ∀ id, t.session.viewOf id = none) : t.Clear := by
  obtain ⟨new, hnew, hown⟩ := h.queue
  constructor
  · intro a ha
    rw [hnew] at ha
    rw [h.run]
    rcases List.mem_append.1 ha with hold | hin
    · exact hs.bound a hold
    · exact Nat.le_of_eq (hown a hin)
  · intro a ha hlt
    rw [hnew] at ha
    rw [h.run] at hlt
    rcases List.mem_append.1 ha with hold | hin
    · exact hs.stopped a hold hlt
    · exact absurd (hown a hin) (Nat.ne_of_lt hlt)
  · intro a ha hlt
    rw [hnew] at ha
    rw [h.run] at hlt
    rcases List.mem_append.1 ha with hold | hin
    · exact hgone a hold hlt
    · exact absurd (hown a hin) (Nat.ne_of_lt hlt)
  · intro l hl
    rw [h.run]
    exact h.server l hl
  · exact hidle

/-- What leaves the session alone. -/
theorem Clear.aside {t : HostRuns} (hs : s.Clear) (h : Onward s t)
    (hsession : t.session = s.session) : t.Clear :=
  hs.onward h (hsession ▸ hs.gone) (hsession ▸ hs.idle)

theorem Clear.taken (hs : s.Clear) : s.taken.Clear where
  bound := fun h hmem => hs.bound h (List.mem_of_mem_tail hmem)
  stopped := fun h hmem => hs.stopped h (List.mem_of_mem_tail hmem)
  gone := fun h hmem => hs.gone h (List.mem_of_mem_tail hmem)
  server := hs.server
  idle := hs.idle

theorem Clear.withTask (hs : s.Clear) (task : HostTask) : (s.withTask task).Clear :=
  ⟨hs.bound, hs.stopped, hs.gone, hs.server, hs.idle⟩

theorem running_of_assigns {session : HostSession} {e : HostEvent}
    (h : session.assigns e = true) : session.running = true := by
  simp only [HostSession.assigns, Bool.and_eq_true] at h
  exact h.1.1

/-- A session that no longer runs has no clients. -/
theorem idle_step {session : HostSession}
    (hidle : session.running = false → ∀ id, session.viewOf id = none) (e : HostEvent)
    (hrun : (session.step e).running = false) (id : UInt32) :
    (session.step e).viewOf id = none := by
  cases hold : session.running with
  | false =>
      refine HostSession.viewOf_step_of_none (hidle hold id) ?_
      intro hassigns
      exact absurd (running_of_assigns hassigns) (by simp [hold])
  | true =>
      by_cases hend : e = .endStop
      · subst hend
        unfold HostSession.step HostSession.handle at hrun ⊢
        dsimp only at hrun ⊢
        split
        · simp [HostSession.viewOf]
        · next hno =>
            rw [if_neg hno] at hrun
            exact absurd hrun (by simp [hold])
      · exact absurd (((session.step_kept e).running hend).symm.trans hrun) (by simp [hold])

/-- A call on the session. A new connection gets an id under which nothing is left to close. -/
theorem Clear.enter (hs : s.Clear) (e : HostEvent)
    (hnew : s.session.assigns e = true → ∀ a ∈ s.queue, a.run < s.run →
      a.work ≠ .closeConn s.session.nextClientId) : (s.enter e).1.Clear := by
  refine hs.onward (onward_enter hs.server e) ?_ ?_
  · intro a ha hlt id hclose
    rw [enter_session]
    refine HostSession.viewOf_step_of_none (hs.gone a ha hlt id hclose) ?_
    intro hassigns heq
    rw [heq] at hclose
    exact hnew hassigns a ha hlt hclose
  · rw [enter_session]
    exact idle_step hs.idle e

/-- The same for a call that cannot bring a connection. -/
theorem Clear.enter_of_not_assigns (hs : s.Clear) (e : HostEvent)
    (hno : s.session.assigns e = false) : (s.enter e).1.Clear :=
  hs.enter e (fun hassigns => absurd hassigns (by simp [hno]))

/-! ## Steps -/

theorem next_eq_some {h : HostHandler} (hnext : s.next = some h) :
    ∃ rest, s.queue = h :: rest ∧ s.session.running = true := by
  unfold next at hnext
  split at hnext
  · next hrun =>
      obtain ⟨rest, hrest⟩ := List.head?_eq_some_iff.1 hnext
      exact ⟨rest, hrest, hrun⟩
  · cases hnext

theorem idPending_eq_false_iff (s : HostRuns) :
    s.idPending = false ↔ ∀ a ∈ s.queue, a.run < s.run →
      a.work ≠ .closeConn s.session.nextClientId := by
  simp only [idPending, List.any_eq_false, decide_eq_true_eq, not_and]
  constructor
  · intro h a ha hlt hwork
    exact h a ha hwork hlt
  · intro h a ha hwork hlt
    exact h a ha hlt hwork

theorem Clear.runTask (hs : s.Clear) (task : HostTask) (now : Int)
    (hnew : (s.withTask task).session.assigns (.runTask now) = true → s.idPending = false) :
    (s.runTask task now).1.Clear := by
  unfold HostRuns.runTask
  split
  · next hshutdown =>
      subst hshutdown
      have hcancelled := hs.aside (onward_cancelWait hs.server) s.cancelWait_session
      exact (hcancelled.withTask .shutdown).enter_of_not_assigns _
        (by simp [HostSession.assigns, HostRuns.withTask])
  · exact (hs.withTask task).enter _ (fun hassigns => (s.idPending_eq_false_iff).1 (hnew hassigns))

theorem Clear.closeAcceptor (hs : s.Clear) (run : Nat) : (s.closeAcceptor run).Clear := by
  have hdangling : ({ s with dangling := true } : HostRuns).Clear :=
    ⟨hs.bound, hs.stopped, hs.gone, hs.server, hs.idle⟩
  unfold HostRuns.closeAcceptor
  split
  · exact hdangling
  · next l hl =>
      split
      · refine ⟨hs.bound, hs.stopped, hs.gone, ?_, hs.idle⟩
        intro l' hl'
        obtain rfl := Option.some.inj hl'
        exact hs.server l hl
      · exact hdangling

theorem Clear.exec (hs : s.Clear) (h : HostHandler) (now : Int) (isOpen : Bool)
    (hnew : ∀ task, h.work = .task task →
      (s.withTask task).session.assigns (.runTask now) = true → s.idPending = false) :
    (s.exec h now isOpen).1.Clear := by
  unfold HostRuns.exec
  split
  · next task hwork => exact hs.runTask task now (hnew task hwork)
  · exact hs.closeAcceptor h.run
  · next clientId hwork =>
      split
      · exact hs.enter_of_not_assigns _ (by simp [HostSession.assigns])
      · exact hs
  · split
    · exact hs
    · have htick := hs.enter_of_not_assigns (.tick now) (by simp [HostSession.assigns])
      have hcancelled := htick.aside (onward_cancelWait htick.server)
        (s.enter (.tick now)).1.cancelWait_session
      exact ⟨hcancelled.bound, hcancelled.stopped, hcancelled.gone, hcancelled.server,
        hcancelled.idle⟩

theorem Clear.start (hs : s.Clear) (params : HostSessionParams) (sessionCode : Bytes)
    (bound : Bool) (hstopped : s.restarts (.start params sessionCode bound) = true →
      s.isStopped = true) : (s.start params sessionCode bound).Clear := by
  unfold HostRuns.start
  split
  · exact hs
  next hrun =>
  have hnone := hs.idle (by simpa using hrun)
  dsimp only
  split
  · exact ⟨hs.bound, hs.stopped, hs.gone, hs.server, fun _ => hnone⟩
  · next hbound =>
      have hqueue := hstopped (by simp [restarts, by simpa using hbound, by simpa using hrun])
      have hcancelled := hs.aside (onward_cancelWait hs.server) s.cancelWait_session
      have hrun' := (onward_cancelWait hs.server).run
      refine ⟨?_, ?_, fun _ _ _ id _ => hnone id, ?_, fun hdead => nomatch hdead⟩
      · intro h hmem
        exact Nat.le_succ_of_le (hrun' ▸ hcancelled.bound h hmem)
      · intro h hmem _
        have hall : ∀ a ∈ s.queue, a.work ≠ .task .shutdown ∧ a.work ≠ .closeAcceptor := by
          intro a ha
          simpa using List.all_eq_true.1 hqueue a ha
        dsimp only at hmem
        unfold HostRuns.cancelWait at hmem
        split at hmem
        · rcases List.mem_append.1 hmem with hold | hin
          · exact hall h hold
          · obtain rfl := List.mem_singleton.1 hin
            exact ⟨by simp, by simp⟩
        · exact hall h hmem
      · intro l hl
        obtain rfl := Option.some.inj hl
        rfl

/-- The condition on a step: a start finds that `stop` was carried out, a new connection gets an id
    under which nothing is left to close. -/
def Orderly (s : HostRuns) (e : HostRunEvent) : Prop :=
  (s.restarts e = true → s.isStopped = true) ∧ (s.assigns e = true → s.idPending = false)

instance (s : HostRuns) (e : HostRunEvent) : Decidable (s.Orderly e) :=
  inferInstanceAs (Decidable (_ ∧ _))

/-- **What one event preserves.** -/
theorem Clear.step (hs : s.Clear) (e : HostRunEvent) (horderly : s.Orderly e) :
    (s.step e).Clear := by
  obtain ⟨hstopped, hnew⟩ := horderly
  unfold HostRuns.step
  cases e with
  | start params sessionCode bound => exact hs.start params sessionCode bound hstopped
  | beginStop =>
      simp only [handle, beginStop]
      split
      · exact hs.enter_of_not_assigns _ (by simp [HostSession.assigns])
      · exact hs
  | endStop =>
      simp only [handle, endStop]
      split
      · have hend := hs.enter_of_not_assigns .endStop (by simp [HostSession.assigns])
        have hserver := hend.aside (onward_stopServer hend.server) (stopServer_session _)
        exact ⟨hserver.bound, hserver.stopped, hserver.gone, fun l hl => absurd hl (by simp),
          hserver.idle⟩
      · exact hs
  | expire =>
      simp only [handle]
      split
      · exact hs.aside ⟨rfl, hs.server, ⟨[_], rfl, by simp⟩⟩ rfl
      · exact hs
  | session e =>
      have henter : (s.enter e).1.Clear :=
        hs.enter e (fun hassigns => (s.idPending_eq_false_iff).1 (hnew hassigns))
      cases e with
      | runTask now => exact hs
      | tick now => exact hs
      | beginStop => exact hs
      | endStop => exact hs
      | _ => exact henter
  | runHandler now isOpen =>
      simp only [handle]
      split
      · exact hs
      · next h hnext =>
          refine hs.taken.exec h now isOpen ?_
          intro task hwork hassigns
          obtain ⟨run, work⟩ := h
          obtain rfl : work = .task task := hwork
          have htask : (s.withTask task).session.assigns (.runTask now) = true := hassigns
          have hold := hnew (by simpa [assigns, hnext] using htask)
          rw [idPending_eq_false_iff] at hold ⊢
          exact fun a ha => hold a (List.mem_of_mem_tail ha)

/-- Between two events the session's own list of tasks is empty: they are in the queue. -/
theorem step_tasks (htasks : s.session.tasks = []) (e : HostRunEvent) :
    (s.step e).session.tasks = [] := by
  have henter : ∀ (t : HostRuns) (e : HostEvent), (t.enter e).1.session.tasks = [] := by
    intro t e
    rw [enter_session]
  unfold HostRuns.step
  cases e with
  | start params sessionCode bound =>
      simp only [handle, start]
      split
      · exact htasks
      split
      · exact htasks
      · exact htasks
  | beginStop =>
      simp only [handle, beginStop]
      split
      · exact henter _ _
      · exact htasks
  | endStop =>
      simp only [handle, endStop]
      split
      · rw [stopServer_session]
        exact henter _ _
      · exact htasks
  | expire =>
      simp only [handle]
      split
      · exact htasks
      · exact htasks
  | session e =>
      cases e with
      | runTask now => exact htasks
      | tick now => exact htasks
      | beginStop => exact htasks
      | endStop => exact htasks
      | _ => exact henter _ _
  | runHandler now isOpen =>
      simp only [handle]
      split
      · exact htasks
      · next h hnext =>
          unfold exec
          split
          · unfold runTask
            split
            · exact henter _ _
            · exact henter _ _
          · unfold closeAcceptor
            split
            · exact htasks
            split
            · exact htasks
            · exact htasks
          · split
            · exact henter _ _
            · exact htasks
          · split
            · exact htasks
            · show (s.taken.enter (.tick now)).1.arm.session.tasks = []
              rw [arm_session]
              exact henter _ _

/-- **A handler that an earlier `stop` has queued**: the run that is on does not notice it. -/
theorem Clear.unaffected (hs : s.Clear) (htasks : s.session.tasks = []) {h : HostHandler}
    (hnext : s.next = some h) (hlt : h.run < s.run) (hstop : h.work.byStop = true) (now : Int)
    (isOpen : Bool) : s.Unaffected (s.handle (.runHandler now isOpen)) := by
  obtain ⟨rest, hqueue, hrun⟩ := next_eq_some hnext
  have hmem : h ∈ s.queue := by simp [hqueue]
  obtain ⟨hshutdown, hacceptor⟩ := hs.stopped h hmem hlt
  have hnothing : s.Unaffected (s.taken, []) := ⟨rfl, rfl, rfl, rfl, rfl, rfl⟩
  have hhandle : s.handle (.runHandler now isOpen) = s.taken.exec h now isOpen := by
    simp only [handle, hnext]
  rw [hhandle]
  unfold HostRuns.exec
  split
  · next task hwork =>
      rw [hwork] at hstop
      have htask : task = .shutdown := by simpa [HostWork.byStop] using hstop
      exact absurd (htask ▸ hwork) hshutdown
  · next hwork => exact absurd hwork hacceptor
  · next clientId hwork =>
      split
      · have hlookup : s.session.clients[clientId]? = none :=
          Option.map_eq_none_iff.1 (hs.gone h hmem hlt clientId hwork)
        have hclosed : s.session.handle (.closed clientId) = (s.session, []) := by
          unfold HostSession.handle HostSession.handleClientClosed
          simp [hrun, hlookup]
        have henter : s.taken.enter (.closed clientId) = (s.taken, []) := by
          have hsession : s.taken.session.handle (.closed clientId) = (s.session, []) := hclosed
          have hsame : ({ s.session with tasks := [] } : HostSession) = s.session := by
            rw [← htasks]
          unfold HostRuns.enter
          rw [hsession]
          simp [htasks, hsame, HostRuns.taken]
        rw [henter]
        exact hnothing
      · exact hnothing
  · next aborted hwork =>
      have haborted : aborted = true := by simpa [hwork, HostWork.byStop] using hstop
      rw [if_pos (by simp [haborted])]
      exact hnothing

theorem created_clear (appHandler : Bool) : (created appHandler).Clear where
  bound := fun h hmem => nomatch hmem
  stopped := fun h hmem => nomatch hmem
  gone := fun h hmem => nomatch hmem
  server := fun l hl => nomatch hl
  idle := by simp [created, HostSession.viewOf]

/-- Every step of the run is orderly. -/
def RunsOrderly (appHandler : Bool) (es : List HostRunEvent) : Prop :=
  ∀ p ∈ history step (created appHandler) es, p.1.Orderly p.2

instance (appHandler : Bool) (es : List HostRunEvent) : Decidable (RunsOrderly appHandler es) :=
  inferInstanceAs (Decidable (∀ p ∈ _, _))

/-- No handler that an earlier `stop` has queued ever affects the session. -/
def Independent (appHandler : Bool) (es : List HostRunEvent) : Prop :=
  ∀ p ∈ history step (created appHandler) es, ∀ now isOpen h,
    p.2 = .runHandler now isOpen → p.1.next = some h → h.run < p.1.run → h.work.byStop = true →
      p.1.Unaffected (p.1.handle p.2)

/-- **Runs.** Orderly steps keep what earlier runs have left from acting. -/
theorem run_clear (appHandler : Bool) (es : List HostRunEvent)
    (horderly : RunsOrderly appHandler es) :
    (runFrom step (created appHandler) es).Clear ∧
      (runFrom step (created appHandler) es).session.tasks = [] :=
  runFrom_invariant step (fun s => s.Clear ∧ s.session.tasks = []) Orderly
    (fun _ e hs horderly => ⟨hs.1.step e horderly, step_tasks hs.2 e⟩) _ es
    ⟨created_clear appHandler, rfl⟩ horderly

theorem independent_of_orderly (appHandler : Bool) (es : List HostRunEvent)
    (horderly : RunsOrderly appHandler es) : Independent appHandler es := by
  intro p hp now isOpen h he hnext hlt hstop
  obtain ⟨pre, post, rfl, hstate⟩ := (mem_history_iff _ _ _ p.1 p.2).1 hp
  have hpre : RunsOrderly appHandler pre := by
    intro q hq
    refine horderly q ?_
    rw [history_append]
    exact List.mem_append_left _ hq
  obtain ⟨hclear, htasks⟩ := run_clear appHandler pre hpre
  rw [← hstate] at hclear htasks
  rw [he]
  exact hclear.unaffected htasks hnext hlt hstop now isOpen

end HostRuns

end RemotePlay.Host
