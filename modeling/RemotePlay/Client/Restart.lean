import RemotePlay.Client.SessionRuns

set_option autoImplicit false

/-! # What an earlier run can do to the client's session

Once its attempt has ended and its connection is closed, what a run still has in the queue is
without effect. That is kept by every step, the order of the queue taking care of the posted tasks:
those of an earlier run are gone before an attempt of the run that is on can give the session a
connection. -/

namespace RemotePlay.Client

open Net (TcpConnection ConnEvent ErrorCode)

/-! ## Objects that are done -/

section Closed

variable {c : TcpConnection} (hclosed : c.closed = true)

include hclosed

theorem shutdown_of_closed (ec : ErrorCode) : c.shutdown ec = (c, []) := by
  rw [TcpConnection.shutdown, if_pos hclosed]

/-- A handler of a closed connection reports nothing, unless it is a read that was complete before
    and hands a frame up. -/
theorem step_of_closed (e : ConnEvent)
    (hread : ∀ buf, e = .readDone .success buf → handsUp c buf = false) :
    (c.step e).1.closed = true ∧ (c.step e).2 = [] := by
  cases e with
  | start => simp [TcpConnection.step, hclosed]
  | send type flags payload => simp [TcpConnection.step, hclosed]
  | sendAndClose type payload => simp [TcpConnection.step, hclosed]
  | close => simp [TcpConnection.step, shutdown_of_closed hclosed, hclosed]
  | writeDone ec =>
      simp only [TcpConnection.step, TcpConnection.writeDone]
      split
      · split
        · simp [TcpConnection.shutdown, hclosed]
        split
        · simp [TcpConnection.shutdown, hclosed]
        · unfold TcpConnection.pumpWrite
          split
          · exact ⟨hclosed, rfl⟩
          · simp [hclosed]
      · exact ⟨hclosed, rfl⟩
  | readDone ec buf =>
      have hshut : ∀ ec', ({ c with reading := none } : TcpConnection).shutdown ec' =
          ({ c with reading := none }, []) := shutdown_of_closed hclosed
      simp only [TcpConnection.step]
      split
      · exact ⟨hclosed, rfl⟩
      · next hreading =>
          unfold TcpConnection.headerDone
          split
          · rw [hshut]
            exact ⟨hclosed, rfl⟩
          · next hec =>
              obtain rfl : ec = .success := not_not.1 hec
              have hno := hread buf rfl
              simp only [handsUp, hreading] at hno
              split
              · rw [hshut]
                exact ⟨hclosed, rfl⟩
              · next h hparse =>
                  rw [hparse] at hno
                  unfold TcpConnection.readBody
                  split
                  · next hzero => exact absurd hzero (by simpa using hno)
                  · exact ⟨hclosed, rfl⟩
      · next hreading =>
          unfold TcpConnection.bodyDone
          split
          · rw [hshut]
            exact ⟨hclosed, rfl⟩
          · next hec =>
              obtain rfl : ec = .success := not_not.1 hec
              have hno := hread buf rfl
              simp [handsUp, hreading] at hno

/-- Only a read changes what a closed connection reads next. -/
theorem reading_of_closed (e : ConnEvent) (hread : (Work.conn e).isRead = false) :
    (c.step e).1.reading = c.reading := by
  cases e with
  | start => simp [TcpConnection.step, hclosed]
  | send type flags payload => simp [TcpConnection.step, hclosed]
  | sendAndClose type payload => simp [TcpConnection.step, hclosed]
  | close => simp [TcpConnection.step, shutdown_of_closed hclosed]
  | writeDone ec =>
      simp only [TcpConnection.step, TcpConnection.writeDone]
      split
      · split
        · simp [TcpConnection.shutdown, hclosed]
        split
        · simp [TcpConnection.shutdown, hclosed]
        · unfold TcpConnection.pumpWrite
          split
          · rfl
          · simp [hclosed]
      · rfl
  | readDone ec buf => simp [Work.isRead] at hread

end Closed

namespace RunObjects

theorem isDone_iff (o : RunObjects) :
    o.isDone = true ↔ o.finished = true ∧ ∀ c, o.conn = some c → c.closed = true := by
  rw [isDone, Bool.and_eq_true, Option.all_eq_true]

theorem exec_attempt_of_finished {o : RunObjects} (h : o.finished = true)
    (failure : Option Bytes) : o.exec (.attempt failure) = (o, []) := by
  simp [exec, h]

theorem exec_conn_of_none {o : RunObjects} (h : o.conn = none) (e : ConnEvent) :
    o.exec (.conn e) = (o, []) := by
  simp [exec, h]

theorem exec_conn_of_some {o : RunObjects} {c : TcpConnection} (h : o.conn = some c)
    (e : ConnEvent) :
    o.exec (.conn e) =
      ({ o with conn := some (c.step e).1 }, (c.step e).2.filterMap Call.ofEffect) := by
  simp [exec, h]

section Done

variable {o : RunObjects} (hdone : o.isDone = true) {w : Work} (hw : w.isInert o = true)

include hdone hw

theorem isDone_exec : (o.exec w).1.isDone = true := by
  obtain ⟨hfinished, hconn⟩ := o.isDone_iff.1 hdone
  cases w with
  | task task => exact hdone
  | heartbeat aborted => exact hdone
  | attempt failure =>
      rw [exec_attempt_of_finished hfinished]
      exact hdone
  | conn e =>
      cases hc : o.conn with
      | none =>
          rw [exec_conn_of_none hc]
          exact hdone
      | some c =>
          rw [exec_conn_of_some hc]
          refine (isDone_iff _).2 ⟨hfinished, ?_⟩
          intro d hd
          obtain rfl := Option.some.inj hd
          refine (step_of_closed (hconn c hc) e ?_).1
          rintro buf rfl
          simpa [Work.isInert, hc] using hw

/-- Only the posted tasks of a run that is done still look at the session. -/
theorem calls_of_done (htask : w.isTask = false) : (o.exec w).2 = [] := by
  obtain ⟨hfinished, hconn⟩ := o.isDone_iff.1 hdone
  cases w with
  | task task => cases htask
  | heartbeat aborted =>
      have haborted : aborted = true := hw
      simp [exec, haborted]
  | attempt failure => rw [exec_attempt_of_finished hfinished]
  | conn e =>
      cases hc : o.conn with
      | none => rw [exec_conn_of_none hc]
      | some c =>
          rw [exec_conn_of_some hc]
          have hsilent : (c.step e).2 = [] := by
            refine (step_of_closed (hconn c hc) e ?_).2
            rintro buf rfl
            simpa [Work.isInert, hc] using hw
          simp [hsilent]

/-- What is inert stays so when another handler of the run is executed: a connection has one read
    outstanding at a time. -/
theorem isInert_exec {w' : Work} (hw' : w'.isInert o = true)
    (hreads : w.isRead = true → w'.isRead = true → False) : w'.isInert (o.exec w).1 = true := by
  obtain ⟨hfinished, hconn⟩ := o.isDone_iff.1 hdone
  cases w with
  | task task => exact hw'
  | heartbeat aborted => exact hw'
  | attempt failure =>
      rw [exec_attempt_of_finished hfinished]
      exact hw'
  | conn e =>
      cases hc : o.conn with
      | none =>
          rw [exec_conn_of_none hc]
          exact hw'
      | some c =>
          rw [exec_conn_of_some hc]
          unfold Work.isInert at hw' ⊢
          split
          · -- a read that is queued as well, so `e` is none and leaves the reading part alone
            have hread : (Work.conn e).isRead = false :=
              Bool.eq_false_iff.2 (fun h => hreads h rfl)
            simp only [hc, Option.all_some] at hw' ⊢
            unfold handsUp at hw' ⊢
            rw [reading_of_closed (hconn c hc) e hread]
            exact hw'
          · exact hw'
          · rfl

end Done

end RunObjects

/-! ## The queue of a run -/

/-- What the queue of the run `n` satisfies when all earlier runs are done. -/
structure Queued (n : Nat) (objects : Nat → RunObjects) (queue : List Handler) : Prop where
  bound : ∀ h ∈ queue, h.run ≤ n
  inert : ∀ h ∈ queue, h.run < n → h.work.isInert (objects h.run) = true
  /-- A connection has one read outstanding at a time. -/
  reads : queue.Pairwise (fun a b => a.work.isRead = true → b.work.isRead = true → a.run ≠ b.run)
  /-- Tasks of earlier runs come before anything that could give the session a connection. -/
  order : queue.Pairwise (fun a b => a.run = n → a.work.isAttempt = true →
    b.work.isTask = true → b.run = n)

namespace Queued

variable {n : Nat} {objects : Nat → RunObjects} {queue : List Handler}

theorem append {new : List Handler} (hqueue : Queued n objects queue)
    (hnew : ∀ h ∈ new, h.run = n ∧ h.work.isRead = false) :
    Queued n objects (queue ++ new) where
  bound := by
    intro h hmem
    rcases List.mem_append.1 hmem with hold | hin
    · exact hqueue.bound h hold
    · exact Nat.le_of_eq (hnew h hin).1
  inert := by
    intro h hmem hlt
    rcases List.mem_append.1 hmem with hold | hin
    · exact hqueue.inert h hold hlt
    · exact absurd (hnew h hin).1 (Nat.ne_of_lt hlt)
  reads := by
    refine List.pairwise_append.2 ⟨hqueue.reads, ?_, ?_⟩
    · refine List.pairwise_of_forall_mem_list ?_
      intro a ha b hb hread
      exact absurd hread (by simp [(hnew a ha).2])
    · intro a ha b hb _ hread
      exact absurd hread (by simp [(hnew b hb).2])
  order := by
    refine List.pairwise_append.2 ⟨hqueue.order, ?_, ?_⟩
    · refine List.pairwise_of_forall_mem_list ?_
      intro a ha b hb _ _ _
      exact (hnew b hb).1
    · intro a ha b hb _ _ _
      exact (hnew b hb).1

/-- An operation of any run so far that completes. -/
theorem completed {h : Handler} (hqueue : Queued n objects queue) (hbound : h.run ≤ n)
    (htask : h.work.isTask = false)
    (hinert : h.run < n → h.work.isInert (objects h.run) = true)
    (hread : h.work.isRead = true → ∀ a ∈ queue, a.work.isRead = true → a.run ≠ h.run) :
    Queued n objects (queue ++ [h]) where
  bound := by
    intro a hmem
    rcases List.mem_append.1 hmem with hold | hin
    · exact hqueue.bound a hold
    · rwa [List.mem_singleton.1 hin]
  inert := by
    intro a hmem hlt
    rcases List.mem_append.1 hmem with hold | hin
    · exact hqueue.inert a hold hlt
    · obtain rfl := List.mem_singleton.1 hin
      exact hinert hlt
  reads := by
    refine List.pairwise_append.2 ⟨hqueue.reads, List.pairwise_singleton _ _, ?_⟩
    intro a ha b hb hreada hreadb
    obtain rfl := List.mem_singleton.1 hb
    exact hread hreadb a ha hreada
  order := by
    refine List.pairwise_append.2 ⟨hqueue.order, List.pairwise_singleton _ _, ?_⟩
    intro a ha b hb _ _ hisTask
    obtain rfl := List.mem_singleton.1 hb
    exact absurd hisTask (by simp [htask])

theorem tail (hqueue : Queued n objects queue) : Queued n objects queue.tail where
  bound := fun h hmem => hqueue.bound h (List.mem_of_mem_tail hmem)
  inert := fun h hmem => hqueue.inert h (List.mem_of_mem_tail hmem)
  reads := hqueue.reads.tail
  order := hqueue.order.tail

/-- The objects of the run itself may change at will. -/
theorem update (hqueue : Queued n objects queue) (o : RunObjects) :
    Queued n (Function.update objects n o) queue where
  bound := hqueue.bound
  inert := by
    intro h hmem hlt
    rw [Function.update_of_ne (Nat.ne_of_lt hlt)]
    exact hqueue.inert h hmem hlt
  reads := hqueue.reads
  order := hqueue.order

/-- The next run, once everything in the queue is inert. -/
theorem restart (hqueue : Queued n objects queue)
    (hinert : ∀ h ∈ queue, h.work.isInert (objects h.run) = true) :
    Queued (n + 1) objects queue where
  bound := fun h hmem => Nat.le_succ_of_le (hqueue.bound h hmem)
  inert := fun h hmem _ => hinert h hmem
  reads := hqueue.reads
  order := by
    refine List.pairwise_of_forall_mem_list ?_
    intro a ha b _ hrun _ _
    exact absurd (hqueue.bound a ha) (by omega)

/-- A handler of an earlier run is taken and executed on its objects. -/
theorem take {h : Handler} {rest : List Handler} (hqueue : Queued n objects (h :: rest))
    (hlt : h.run < n) (hdone : (objects h.run).isDone = true) :
    Queued n (Function.update objects h.run ((objects h.run).exec h.work).1) rest where
  bound := hqueue.tail.bound
  inert := by
    intro a ha halt
    have hinert := hqueue.inert a (List.mem_cons_of_mem _ ha) halt
    by_cases hsame : a.run = h.run
    · rw [hsame, Function.update_self]
      rw [hsame] at hinert
      refine RunObjects.isInert_exec hdone (hqueue.inert h List.mem_cons_self hlt) hinert ?_
      intro hreadh hreada
      exact List.rel_of_pairwise_cons hqueue.reads ha hreadh hreada hsame.symm
    · rw [Function.update_of_ne hsame]
      exact hinert
  reads := hqueue.tail.reads
  order := hqueue.tail.order

end Queued

namespace ClientRuns

/-! ## Calls on the session -/

/-- The posted tasks in the queue are of the run that is on. -/
def OwnTasks (s : ClientRuns) : Prop := ∀ h ∈ s.queue, h.work.isTask = true → h.run = s.run

/-- All earlier runs are done, and the session has a connection only of the run that is on, once no
    task of an earlier run can find it. -/
structure Clean (s : ClientRuns) : Prop where
  queued : Queued s.run s.objects s.queue
  done : ∀ r < s.run, (s.objects r).isDone = true
  own : ∀ r, s.connection = some r → r = s.run
  tasks : s.connection ≠ none → s.OwnTasks

/-- `t` follows `s` by steps of the run that is on: it queues handlers of its own, and does not
    bring a connection. -/
structure Onward (s t : ClientRuns) : Prop where
  run : t.run = s.run
  objects : t.objects = s.objects
  queue : ∃ new, t.queue = s.queue ++ new ∧ ∀ h ∈ new, h.run = s.run ∧ h.work.isRead = false
  connection : t.connection = s.connection ∨ t.connection = none

section Onward

variable {s t u : ClientRuns}

theorem Onward.refl (s : ClientRuns) : Onward s s :=
  ⟨rfl, rfl, ⟨[], by simp, by simp⟩, .inl rfl⟩

theorem Onward.trans (h : Onward s t) (h' : Onward t u) : Onward s u := by
  obtain ⟨new, hnew, hown⟩ := h.queue
  obtain ⟨new', hnew', hown'⟩ := h'.queue
  refine ⟨h'.run.trans h.run, h'.objects.trans h.objects, ⟨new ++ new', ?_, ?_⟩, ?_⟩
  · rw [hnew', hnew, List.append_assoc]
  · intro a ha
    rcases List.mem_append.1 ha with hin | hin
    · exact hown a hin
    · rw [← h.run]
      exact hown' a hin
  · rcases h'.connection with hsame | hnone
    · rw [hsame]
      exact h.connection
    · exact .inr hnone

theorem Onward.tasks (h : Onward s t) (htasks : s.OwnTasks) : t.OwnTasks := by
  obtain ⟨new, hnew, hown⟩ := h.queue
  intro a ha htask
  rw [h.run]
  rw [hnew] at ha
  rcases List.mem_append.1 ha with hold | hin
  · exact htasks a hold htask
  · exact (hown a hin).1

theorem Onward.clean (h : Onward s t) (hs : s.Clean) : t.Clean := by
  obtain ⟨new, hnew, hown⟩ := h.queue
  have hconn : t.connection ≠ none → t.connection = s.connection := fun hne =>
    h.connection.resolve_right hne
  constructor
  · rw [h.run, h.objects, hnew]
    exact hs.queued.append hown
  · rw [h.run, h.objects]
    exact hs.done
  · intro r hr
    rw [h.run]
    exact hs.own r ((hconn (by simp [hr])).symm.trans hr)
  · intro hne
    exact h.tasks (hs.tasks (hconn hne ▸ hne))

end Onward

variable {s : ClientRuns}

theorem connPosts_own (hown : ∀ r, s.connection = some r → r = s.run) (out : List ClientEffect) :
    ∀ h ∈ s.connPosts out, h.run = s.run ∧ h.work.isRead = false := by
  intro h hmem
  unfold connPosts at hmem
  split at hmem
  · cases hmem
  · next r hr =>
      obtain ⟨e, he, rfl⟩ := List.mem_map.1 hmem
      obtain ⟨eff, -, heff⟩ := List.mem_filterMap.1 he
      refine ⟨hown r hr, ?_⟩
      cases eff with
      | send type payload =>
          obtain rfl := Option.some.inj heff
          rfl
      | sendAndClose type payload =>
          obtain rfl := Option.some.inj heff
          rfl
      | close =>
          obtain rfl := Option.some.inj heff
          rfl
      | _ => cases heff

theorem onward_enter (hown : ∀ r, s.connection = some r → r = s.run) (e : ClientEvent) :
    Onward s (s.enter e).1 where
  run := rfl
  objects := rfl
  queue := by
    refine ⟨_, rfl, ?_⟩
    intro h hmem
    rcases List.mem_append.1 hmem with htask | hconn
    · obtain ⟨task, -, rfl⟩ := List.mem_map.1 htask
      exact ⟨rfl, rfl⟩
    · exact connPosts_own hown _ h hconn
  connection := by
    unfold enter
    dsimp only
    split
    · exact .inl rfl
    · exact .inr rfl

theorem onward_post (s : ClientRuns) {h : Handler} (hrun : h.run = s.run)
    (hread : h.work.isRead = false) : Onward s (s.post h) where
  run := rfl
  objects := rfl
  queue := ⟨[h], rfl, by simp [hrun, hread]⟩
  connection := .inl rfl

theorem onward_cancelWait (s : ClientRuns) : Onward s s.cancelWait := by
  unfold cancelWait
  split
  · exact (⟨rfl, rfl, ⟨[], by simp, by simp⟩, .inl rfl⟩ :
      Onward s { s with waiting := false }).trans (onward_post _ rfl rfl)
  · exact .refl s

theorem onward_join (s : ClientRuns) : Onward s s.join := by
  obtain ⟨hrun, hobjects, hqueue, -⟩ := onward_cancelWait s
  exact ⟨hrun, hobjects, hqueue, .inr rfl⟩

theorem onward_startHeartbeat (hown : ∀ r, s.connection = some r → r = s.run) (now later : Int) :
    Onward s (s.startHeartbeat now later).1 := by
  have hbeat := onward_enter hown (.heartbeat now later)
  unfold startHeartbeat
  dsimp only
  split
  · exact hbeat
  · obtain ⟨hrun, hobjects, hqueue, hconn⟩ := hbeat.trans (onward_cancelWait _)
    exact ⟨hrun, hobjects, hqueue, hconn⟩

theorem onward_runTask (hown : ∀ r, s.connection = some r → r = s.run) (task : ClientTask) :
    Onward s (s.runTask task).1 := by
  unfold runTask
  split
  · exact .refl s
  · exact ⟨rfl, rfl, ⟨_, rfl, connPosts_own hown _⟩, .inl rfl⟩

section Calls

variable (lost : ErrorCode → Option Bytes) (now later : Int)

/-- A call of a handler of the run that is on. A new connection needs the tasks of earlier runs to
    be gone. -/
theorem Clean.call (hs : s.Clean) (c : Call) (hc : c = .connected → s.OwnTasks) :
    (s.call lost now later s.run c).1.Clean ∧ (s.call lost now later s.run c).1.run = s.run ∧
      (s.OwnTasks → (s.call lost now later s.run c).1.OwnTasks) := by
  have hfrom : ∀ {a t : ClientRuns}, a.Clean → a.queue = s.queue → a.run = s.run → Onward a t →
      t.Clean ∧ t.run = s.run ∧ (s.OwnTasks → t.OwnTasks) := by
    intro a t ha hqueue hrun h
    refine ⟨h.clean ha, h.run.trans hrun, ?_⟩
    intro htasks
    refine h.tasks ?_
    rw [OwnTasks, hqueue, hrun]
    exact htasks
  cases c with
  | connected =>
      have hconnected : ({ s with connection := some s.run } : ClientRuns).Clean :=
        ⟨hs.queued, hs.done, fun r hr => (Option.some.inj hr).symm, fun _ => hc rfl⟩
      have hstarted := onward_post { s with connection := some s.run }
        (h := ⟨s.run, .conn .start⟩) rfl rfl
      exact hfrom hconnected rfl rfl
        (hstarted.trans (onward_enter (hstarted.clean hconnected).own (.connected now)))
  | connectFailed message => exact hfrom hs rfl rfl (onward_enter hs.own _)
  | frame type payload => exact hfrom hs rfl rfl (onward_enter hs.own _)
  | closed ec => exact hfrom hs rfl rfl (onward_enter hs.own _)
  | heartbeat => exact hfrom hs rfl rfl (onward_startHeartbeat hs.own now later)
  | task task => exact hfrom hs rfl rfl (onward_runTask hs.own task)

theorem Clean.callAll (hs : s.Clean) (cs : List Call) (hc : .connected ∈ cs → s.OwnTasks) :
    (s.callAll lost now later s.run cs).1.Clean := by
  induction cs generalizing s with
  | nil => exact hs
  | cons c cs ih =>
      obtain ⟨hclean, hrun, htasks⟩ := hs.call lost now later c
        (fun heq => hc (by simp [heq]))
      have hrest := ih hclean (fun hmem => htasks (hc (List.mem_cons_of_mem _ hmem)))
      rw [hrun] at hrest
      exact hrest

end Calls

/-! ## Steps of the loop -/

theorem next_eq_some {h : Handler} (hnext : s.next = some h) :
    ∃ rest, s.queue = h :: rest ∧ s.session.ioRunning = true := by
  unfold next at hnext
  split at hnext
  · next hio =>
      obtain ⟨rest, hrest⟩ := List.head?_eq_some_iff.1 hnext
      exact ⟨rest, hrest, hio⟩
  · cases hnext

/-- A connect is reported by an attempt only. -/
theorem isAttempt_of_connected {o : RunObjects} {w : Work} (h : .connected ∈ (o.exec w).2) :
    w.isAttempt = true := by
  cases w with
  | attempt failure => rfl
  | task task => simp [RunObjects.exec] at h
  | heartbeat aborted =>
      cases aborted with
      | false => simp [RunObjects.exec] at h
      | true => simp [RunObjects.exec] at h
  | conn e =>
      cases hc : o.conn with
      | none =>
          rw [RunObjects.exec_conn_of_none hc] at h
          cases h
      | some c =>
          rw [RunObjects.exec_conn_of_some hc] at h
          obtain ⟨eff, -, heff⟩ := List.mem_filterMap.1 h
          cases eff with
          | asyncWrite frame => cases heff
          | onFrame type flags payload => exact absurd (Option.some.inj heff) (by simp)
          | onClose ec => exact absurd (Option.some.inj heff) (by simp)

/-- The loop takes a handler of the run that is on. -/
theorem Clean.taken_own (hs : s.Clean) {h : Handler} (hrun : h.run = s.run) :
    (s.taken h).Clean where
  queued := by
    unfold taken
    dsimp only
    rw [hrun]
    exact hs.queued.tail.update _
  done := by
    intro r hr
    have hlt : r < s.run := hr
    unfold taken
    dsimp only
    rw [hrun, Function.update_of_ne (Nat.ne_of_lt hlt)]
    exact hs.done r hlt
  own := hs.own
  tasks := fun hne a ha => hs.tasks hne a (List.mem_of_mem_tail ha)

/-- The loop takes a handler of an earlier run. -/
theorem Clean.taken_earlier (hs : s.Clean) {h : Handler} {rest : List Handler}
    (hqueue : s.queue = h :: rest) (hlt : h.run < s.run) : (s.taken h).Clean where
  queued := by
    have hqueued := hs.queued
    unfold taken
    rw [hqueue] at hqueued ⊢
    exact hqueued.take hlt (hs.done h.run hlt)
  done := by
    intro r hr
    unfold taken
    dsimp only
    by_cases hsame : r = h.run
    · rw [hsame, Function.update_self]
      exact RunObjects.isDone_exec (hs.done h.run hlt)
        (hs.queued.inert h (by simp [hqueue]) hlt)
    · rw [Function.update_of_ne hsame]
      exact hs.done r hr
  own := hs.own
  tasks := fun hne a ha => hs.tasks hne a (List.mem_of_mem_tail ha)

variable (lost : ErrorCode → Option Bytes)

/-- The handler of an earlier run is taken off the queue, and that is all. -/
theorem Clean.handle_earlier (hs : s.Clean) {h : Handler} {rest : List Handler}
    (hqueue : s.queue = h :: rest) (hlt : h.run < s.run) (now later : Int) :
    (s.taken h).callAll lost now later h.run (s.calls h) = (s.taken h, []) := by
  cases htask : h.work.isTask with
  | false =>
      have hnone : s.calls h = [] := RunObjects.calls_of_done (hs.done h.run hlt)
        (hs.queued.inert h (by simp [hqueue]) hlt) htask
      rw [hnone, ClientRuns.callAll]
  | true =>
      have hconn : s.connection = none := by
        by_contra hne
        have hown := hs.tasks hne h (by simp [hqueue]) htask
        omega
      obtain ⟨run, work⟩ := h
      cases work with
      | task task =>
          have hnothing : (s.taken ⟨run, .task task⟩).runTask task =
              (s.taken ⟨run, .task task⟩, []) := by
            have hconn' : (s.taken ⟨run, .task task⟩).connection = none := hconn
            unfold runTask
            rw [hconn']
          simp [calls, RunObjects.exec, ClientRuns.callAll, ClientRuns.call, hnothing]
      | _ => cases htask

/-- **A handler of an earlier run**: nothing of the session notices it. -/
theorem Clean.unaffected (hs : s.Clean) {h : Handler} (hnext : s.next = some h)
    (hlt : h.run < s.run) (now later : Int) :
    s.Unaffected h (s.handle lost (.runHandler now later)) := by
  obtain ⟨rest, hqueue, -⟩ := next_eq_some hnext
  have hhandle : s.handle lost (.runHandler now later) = (s.taken h, []) := by
    simp only [handle, hnext]
    exact hs.handle_earlier lost hqueue hlt now later
  rw [hhandle]
  constructor
  · rfl
  · rfl
  · exact Function.update_of_ne (Nat.ne_of_gt hlt) _ _
  · rfl
  · rfl
  · rfl
  · intro c hc
    cases htask : h.work.isTask with
    | false =>
        rw [calls, RunObjects.calls_of_done (hs.done h.run hlt)
          (hs.queued.inert h (by simp [hqueue]) hlt) htask] at hc
        cases hc
    | true =>
        obtain ⟨run, work⟩ := h
        cases work with
        | task task => exact ⟨task, List.mem_singleton.1 hc⟩
        | _ => cases htask

theorem Clean.runHandler (hs : s.Clean) (now later : Int) :
    (s.handle lost (.runHandler now later)).1.Clean := by
  unfold handle
  dsimp only
  split
  · exact hs
  · next h hnext =>
      obtain ⟨rest, hqueue, -⟩ := next_eq_some hnext
      rcases Nat.lt_or_eq_of_le (hs.queued.bound h (by simp [hqueue])) with hlt | hrun
      · rw [hs.handle_earlier lost hqueue hlt]
        exact hs.taken_earlier hqueue hlt
      · have hrest := (hs.taken_own hrun).callAll lost now later (s.calls h) (by
          intro hmem a ha htask
          have horder := hs.queued.order
          rw [hqueue] at horder
          have hmem' : a ∈ rest := by simpa [taken, hqueue] using ha
          exact List.rel_of_pairwise_cons horder hmem' hrun (isAttempt_of_connected hmem) htask)
        rw [hrun]
        exact hrest

/-! ## The other events -/

theorem isSettled_iff (s : ClientRuns) :
    s.isSettled = true ↔ (∀ r ≤ s.run, (s.objects r).isDone = true) ∧
      ∀ h ∈ s.queue, h.work.isInert (s.objects h.run) = true := by
  simp only [isSettled, Bool.and_eq_true, List.all_eq_true, List.mem_range, Nat.lt_succ_iff]

theorem Clean.completed (hs : s.Clean) {h : Handler} (hbound : h.run ≤ s.run)
    (htask : h.work.isTask = false)
    (hinert : h.run < s.run → h.work.isInert (s.objects h.run) = true)
    (hread : h.work.isRead = true → ∀ a ∈ s.queue, a.work.isRead = true → a.run ≠ h.run) :
    (s.post h).Clean where
  queued := hs.queued.completed hbound htask hinert hread
  done := hs.done
  own := hs.own
  tasks := by
    intro hne a ha hisTask
    rcases List.mem_append.1 ha with hold | hin
    · exact hs.tasks hne a hold hisTask
    · obtain rfl := List.mem_singleton.1 hin
      exact absurd hisTask (by simp [htask])

/-- No read of a closed connection completes without an error. -/
theorem isInert_of_canRead {run : Nat} {ec : ErrorCode} {buf : Bytes}
    (hcan : s.canRead run ec buf = true) (hdone : (s.objects run).isDone = true) :
    (Work.conn (.readDone ec buf)).isInert (s.objects run) = true := by
  obtain ⟨-, hclosed⟩ := (RunObjects.isDone_iff _).1 hdone
  cases ec with
  | success =>
      simp only [canRead, Bool.and_eq_true, Option.any_eq_true] at hcan
      obtain ⟨⟨c, hc, r, hr, hopen⟩, -⟩ := hcan
      have hcl := hclosed c hc
      simp [hcl] at hopen
  | _ => rfl

theorem Clean.readEnds (hs : s.Clean) {run : Nat} (hrun : run ≤ s.run) {ec : ErrorCode}
    {buf : Bytes} (hcan : s.canRead run ec buf = true) :
    (s.post ⟨run, .conn (.readDone ec buf)⟩).Clean := by
  refine hs.completed hrun rfl ?_ ?_
  · intro hlt
    exact isInert_of_canRead hcan (hs.done run hlt)
  · intro _ a ha hread hsame
    simp only [canRead, Bool.and_eq_true, List.all_eq_true] at hcan
    have hfree := hcan.2 a ha
    simp [hread, hsame] at hfree

theorem Clean.start (hs : s.Clean) (params : ClientSessionParams) (relay : Bool)
    (hsettled : s.restarts (.start params relay) = true → s.isSettled = true) :
    (s.start params relay).1.Clean := by
  have hjoin := onward_join s
  unfold ClientRuns.start
  split
  · exact hs
  split
  · exact hjoin.clean hs
  · next hstop hrun =>
      obtain ⟨hdone, hinert⟩ := s.isSettled_iff.1 (hsettled (by simp [restarts, hstop, hrun]))
      have hclean := hjoin.clean hs
      have hqueue : ∀ h ∈ s.join.queue, h.work.isInert (s.objects h.run) = true := by
        intro h hmem
        unfold join cancelWait at hmem
        dsimp only at hmem
        split at hmem
        · rcases List.mem_append.1 hmem with hold | hin
          · exact hinert h hold
          · obtain rfl := List.mem_singleton.1 hin
            rfl
        · exact hinert h hmem
      constructor
      · have hqueued := hclean.queued
        rw [hjoin.run, hjoin.objects] at hqueued
        exact (hqueued.restart hqueue).update _
      · intro r hr
        have hle : r ≤ s.run := Nat.lt_succ_iff.1 hr
        have hne : r ≠ s.run + 1 := by omega
        dsimp only
        rw [Function.update_of_ne hne]
        exact hdone r hle
      · intro r hr
        cases hr
      · intro hne
        exact absurd rfl hne

/-- **What one event preserves.** -/
theorem Clean.step (hs : s.Clean) (e : ClientRunEvent)
    (hsettled : s.restarts e = true → s.isSettled = true) : (s.step lost e).Clean := by
  unfold ClientRuns.step
  cases e with
  | start params relay => exact hs.start params relay hsettled
  | beginStop =>
      simp only [handle, beginStop]
      split
      · exact hs
      split
      · obtain ⟨hrun, hobjects, hqueue, hconn⟩ := onward_enter hs.own .beginStop
        exact Onward.clean ⟨hrun, hobjects, hqueue, hconn⟩ hs
      · exact (onward_join s).clean hs
  | endStop =>
      simp only [handle, endStop]
      split
      · exact hs
      · obtain ⟨hrun, hobjects, hqueue, hconn⟩ := onward_join s
        exact Onward.clean ⟨hrun, hobjects, hqueue, hconn⟩ hs
  | sendAppMessage type payload => exact (onward_enter hs.own _).clean hs
  | attemptEnds run failure =>
      simp only [handle]
      split
      · next hbound =>
          refine hs.completed hbound.2 rfl (fun _ => rfl) fun hread => ?_
          exact absurd hread (by simp [Work.isRead])
      · exact hs
  | readEnds run ec buf =>
      simp only [handle]
      split
      · next hcan => exact hs.readEnds hcan.1 hcan.2
      · exact hs
  | writeEnds run ec =>
      simp only [handle]
      split
      · next hcan =>
          refine hs.completed hcan.1 rfl (fun _ => rfl) fun hread => ?_
          exact absurd hread (by simp [Work.isRead])
      · exact hs
  | expire =>
      simp only [handle]
      split
      · obtain ⟨hrun, hobjects, hqueue, hconn⟩ := onward_post s (h := ⟨s.run, .heartbeat false⟩)
          rfl rfl
        exact Onward.clean ⟨hrun, hobjects, hqueue, hconn⟩ hs
      · exact hs
  | runHandler now later => exact hs.runHandler lost now later

theorem created_clean (appHandler : Bool) : (created appHandler).Clean where
  queued := ⟨by simp [created], by simp [created], List.Pairwise.nil, List.Pairwise.nil⟩
  done := fun r hr => absurd hr (Nat.not_lt_zero r)
  own := fun r hr => nomatch hr
  tasks := fun hne => absurd rfl hne

/-- Every start of the run finds what came before it settled. -/
def StartsSettled (appHandler : Bool) (es : List ClientRunEvent) : Prop :=
  ∀ p ∈ history (step lost) (created appHandler) es, p.1.restarts p.2 = true → p.1.isSettled = true

instance (appHandler : Bool) (es : List ClientRunEvent) :
    Decidable (StartsSettled lost appHandler es) :=
  inferInstanceAs (Decidable (∀ p ∈ _, _))

/-- No handler of an earlier run ever affects the session. -/
def Independent (appHandler : Bool) (es : List ClientRunEvent) : Prop :=
  ∀ p ∈ history (step lost) (created appHandler) es, ∀ now later h,
    p.2 = .runHandler now later → p.1.next = some h → h.run < p.1.run →
      p.1.Unaffected h (p.1.handle lost p.2)

/-- **Runs.** A session whose starts find everything settled is clean throughout. -/
theorem run_clean (appHandler : Bool) (es : List ClientRunEvent)
    (hsettled : StartsSettled lost appHandler es) :
    (runFrom (step lost) (created appHandler) es).Clean :=
  runFrom_invariant (step lost) Clean (fun s e => s.restarts e = true → s.isSettled = true)
    (fun _ e hs hsettled => hs.step lost e hsettled) _ es (created_clean appHandler) hsettled

theorem independent_of_settled (appHandler : Bool) (es : List ClientRunEvent)
    (hsettled : StartsSettled lost appHandler es) : Independent lost appHandler es := by
  intro p hp now later h he hnext hlt
  obtain ⟨pre, post, rfl, hstate⟩ := (mem_history_iff _ _ _ p.1 p.2).1 hp
  have hpre : StartsSettled lost appHandler pre := by
    intro q hq
    refine hsettled q ?_
    rw [history_append]
    exact List.mem_append_left _ hq
  have hclean := run_clean lost appHandler pre hpre
  rw [← hstate] at hclean
  rw [he]
  exact hclean.unaffected lost hnext hlt now later

end ClientRuns

end RemotePlay.Client
