import RemotePlay.Host.Confinement
import RemotePlay.Lib.Runs

set_option autoImplicit false

/-! # The published client table (`clients()`, `rebuildSnapshot`)

`snapshot_` is a copy of what the rows show of `clients_`, kept for the other threads. A handler
that changes what a row shows makes the copy anew before it returns, through `rebuildSnapshot` or,
in `handleClientClosed`, by hand. The task of `setClientInput` does not: it leaves the table behind
when it turns a client's input off or on as a whole, and the button of the host's window, which asks
the table what to do next, then repeats the last request. -/

namespace RemotePlay.Host.HostSession

open Proto (Envelope Body Reason decodeMessage knownId)

/-- The projection of `clients_` to rows. -/
def rows (s : HostSession) : List ClientRow :=
  s.clients.toList.map (fun entry => rowOf entry.1 entry.2)

/-- What `clients()` returns is current. -/
structure Current (s : HostSession) : Prop where
  snapshot : s.snapshot = s.rows
  ascending : s.snapshot.Pairwise (fun row row' => row.id < row'.id)

/-- The permissions the task of `setClientInput` gives a client. -/
def givenInput (s : HostSession) (enableAll : Bool) : InputPermissions :=
  if enableAll then s.params.inputDefaults
  else { controller := false, keyboard := false, mouse := false, vibration := false }

/-- The task changes whether all input of a client is off. -/
def togglesInput (s : HostSession) : HostTask → Bool
  | .setClientInput clientId enableAll => (s.clients[clientId]?).any (fun rec =>
      rec.input.allDisabled != (s.givenInput enableAll).allDisabled)
  | _ => false

/-- The event is the execution of such a task. -/
def runsToggle (s : HostSession) : HostEvent → Bool
  | .runTask _ => s.running && (s.tasks.head?).any s.togglesInput
  | _ => false

/-! ## The table and the records -/

section Table

variable {s t : HostSession} {id : UInt32} {rec rec' : ClientRecord}

theorem rows_ascending (s : HostSession) :
    s.rows.Pairwise (fun row row' => row.id < row'.id) := by
  have hkeys := s.clients.ordered_keys
  rw [← Std.TreeMap.map_fst_toList_eq_keys, List.pairwise_map] at hkeys
  rw [rows, List.pairwise_map]
  refine hkeys.imp fun hlt => ?_
  exact Std.compare_eq_lt.1 hlt

theorem current_of_eq (h : s.snapshot = s.rows) : Current s := ⟨h, h ▸ s.rows_ascending⟩

theorem current_rebuildSnapshot (s : HostSession) : Current s.rebuildSnapshot := current_of_eq rfl

/-- The table stays current while neither it nor what a row would show changes. -/
theorem Current.of_rows (h : Current s) (hsnapshot : t.snapshot = s.snapshot)
    (hrows : ∀ a, (t.clients[a]?).map (rowOf a) = (s.clients[a]?).map (rowOf a)) : Current t :=
  current_of_eq ((hsnapshot.trans h.snapshot).trans (map_toList_congr rowOf hrows).symm)

theorem Current.post (h : Current s) (task : HostTask) : Current (s.post task) :=
  ⟨h.snapshot, h.ascending⟩

theorem Current.insert (h : Current s) (hrec : s.clients[id]? = some rec) (stored : ClientRecord)
    (hrow : rowOf id stored = rowOf id rec) :
    Current (s.withClients (s.clients.insert id stored)) := by
  refine h.of_rows rfl fun a => ?_
  rw [lookup_withClients_insert]
  split
  · next heq => rw [← heq, hrec, Option.map_some, Option.map_some, hrow]
  · rfl

/-- Conversely, storing a record that shows another row leaves the table behind. -/
theorem Current.rowOf_eq (h : Current s) (hrec : s.clients[id]? = some rec)
    (h' : Current (s.withClients (s.clients.insert id rec'))) : rowOf id rec' = rowOf id rec := by
  have hfound := find_map_toList s.clients rowOf ClientRow.id (fun _ _ => rfl) hrec
  have hfound' := find_map_toList (s.clients.insert id rec') rowOf ClientRow.id (fun _ _ => rfl)
    (by rw [lookup_insert, if_pos rfl] : _ = some rec')
  have hrows : (s.clients.insert id rec').toList.map (fun entry => rowOf entry.1 entry.2)
      = s.clients.toList.map (fun entry => rowOf entry.1 entry.2) :=
    h'.snapshot.symm.trans h.snapshot
  rw [hrows, hfound] at hfound'
  exact (Option.some.inj hfound').symm

/-! ## The small steps -/

theorem Current.setState (h : Current s) (st : ConnectionState) :
    Current (s.setState id st).1 := by
  unfold HostSession.setState
  split
  · exact h
  · exact current_rebuildSnapshot _

theorem current_dropClient (hrec : s.clients[id]? = some rec) (sendReject : Bool) (reason : Reason)
    (text : Bytes) : Current (s.dropClient id sendReject reason text).1 := by
  unfold dropClient
  split
  · next hnone => exact absurd (hnone.symm.trans hrec) (by simp)
  · exact current_rebuildSnapshot _

theorem Current.dropClient (h : Current s) (sendReject : Bool) (reason : Reason) (text : Bytes) :
    Current (s.dropClient id sendReject reason text).1 := by
  cases hrec : s.clients[id]? with
  | none =>
      unfold HostSession.dropClient
      rw [hrec]
      exact h
  | some rec => exact current_dropClient hrec sendReject reason text

/-! ## Frames -/

theorem current_admitHello (hrec : s.clients[id]? = some rec) (record : ClientRecord)
    (hello : Proto.Msg.ClientHello) : Current (s.admitHello id record hello).1 := by
  unfold admitHello
  split
  · exact current_dropClient hrec _ _ _
  split
  · exact current_dropClient hrec _ _ _
  dsimp only
  split
  · exact (current_rebuildSnapshot _).post _
  · exact current_rebuildSnapshot _

theorem Current.handleClientHello (h : Current s) (hello : Proto.Msg.ClientHello) :
    Current (s.handleClientHello id hello).1 := by
  unfold HostSession.handleClientHello
  split
  · exact h
  split
  · exact h
  -- the name changes the row, and whatever becomes of the hello rebuilds the table
  · exact current_admitHello (by rw [lookup_withClients_insert, if_pos rfl]) _ hello

theorem Current.handleClientCapabilities (h : Current s) (caps : Proto.Msg.ClientCapabilities) :
    Current (s.handleClientCapabilities id caps).1 := by
  unfold HostSession.handleClientCapabilities
  split
  · exact h
  split
  · exact h
  dsimp only
  split
  · exact h.dropClient _ _ _
  · exact h.setState _

theorem Current.handlePong (h : Current s) (pong : Proto.Msg.Pong) (now : Int) :
    Current (s.handlePong id pong now) := by
  unfold HostSession.handlePong
  split
  · exact h
  · exact current_rebuildSnapshot _

theorem Current.handleOther (h : Current s) (type : UInt16) (payload : Bytes) :
    Current (s.handleOther id type payload).1 := by
  unfold HostSession.handleOther
  dsimp only
  split
  · exact h
  · exact h.dropClient _ _ _

theorem Current.dispatch (h : Current s) (type : UInt16) (payload : Bytes) (now : Int)
    (body : Body) : Current (s.dispatch id type payload now body).1 := by
  unfold HostSession.dispatch
  split
  · exact h.handleClientHello _
  · exact h.handleClientCapabilities _
  · exact h
  · exact h.handlePong _ _
  · exact h.dropClient _ _ _
  · exact h.handleOther _ _

theorem Current.handleFrame (h : Current s) (type : UInt16) (payload : Bytes) (now later : Int) :
    Current (s.handleFrame id type payload now later).1 := by
  unfold HostSession.handleFrame
  split
  · exact h
  split
  · exact h.dropClient _ _ _
  split
  · exact h
  · next rec hrec =>
      -- no row shows the time of the last activity
      have hstored := h.insert hrec { rec with lastActivity := now } rfl
      dsimp only
      split
      · exact hstored.dropClient _ _ _
      · exact hstored.dispatch _ _ _ _

/-! ## Tasks, connections and the timer -/

theorem Current.runApproveClient (h : Current s) (accept : Bool) (now : Int) :
    Current (s.runApproveClient id accept now).1 := by
  unfold HostSession.runApproveClient
  split
  · exact h
  · next rec hrec =>
      split
      · exact h
      split
      · exact h.dropClient _ _ _
      · exact h.insert hrec _ rfl

theorem Current.runKickClient (h : Current s) (reason : Bytes) :
    Current (s.runKickClient id reason).1 := by
  unfold HostSession.runKickClient
  split
  · exact h
  · exact h.setState _

/-- The task of `setClientInput` keeps the table current exactly if it changes no row. -/
theorem Current.runSetClientInput_iff (h : Current s) (enableAll : Bool) :
    Current (s.runSetClientInput id enableAll).1 ↔
      s.togglesInput (.setClientInput id enableAll) = false := by
  cases hrec : s.clients[id]? with
  | none => simpa [runSetClientInput, togglesInput, hrec] using h
  | some rec =>
      have hrun : (s.runSetClientInput id enableAll).1 = s.withClients
          (s.clients.insert id { rec with input := s.givenInput enableAll }) := by
        simp only [runSetClientInput, hrec, givenInput]
      have htoggles : s.togglesInput (.setClientInput id enableAll) = false ↔
          rec.input.allDisabled = (s.givenInput enableAll).allDisabled := by
        simp [togglesInput, hrec]
      rw [hrun, htoggles]
      constructor
      · intro h'
        have hinput := congrArg ClientRow.inputEnabled (h.rowOf_eq hrec h')
        exact (Bool.not_inj hinput).symm
      · intro hsame
        exact h.insert hrec _ (by simp only [rowOf, hsame])

theorem Current.handleNewConnection (h : Current s) (address : Bytes) (now : Int) :
    Current (s.handleNewConnection address now).1 := by
  unfold HostSession.handleNewConnection
  split
  · exact h
  · exact current_rebuildSnapshot _

theorem Current.handleClientClosed (h : Current s) : Current (s.handleClientClosed id).1 := by
  unfold HostSession.handleClientClosed
  split
  · exact h
  split
  · exact h
  · exact current_rebuildSnapshot _

theorem Current.probe (h : Current s) (now : Int) : Current (s.probe now id).1 := by
  unfold HostSession.probe
  split
  · exact h
  · next rec hrec =>
      split
      · exact h.insert hrec _ rfl
      · exact h

theorem Current.housekeeping (h : Current s) (now : Int) : Current (s.housekeeping now).1 :=
  (s.housekeeping_rule Current (fun _ => True) now
    (fun _ _ ht => ⟨ht.probe now, fun _ _ => trivial⟩)
    (fun _ _ ht => ⟨ht.dropClient _ _ _, fun _ _ => trivial⟩) h).1

theorem Current.runTask_iff (h : Current s) (task : HostTask) (now : Int) :
    Current (s.runTask task now).1 ↔ s.togglesInput task = false := by
  cases task with
  | approveClient clientId accept => exact iff_of_true (h.runApproveClient accept now) rfl
  | kickClient clientId reason => exact iff_of_true (h.runKickClient reason) rfl
  | setClientInput clientId enableAll => exact h.runSetClientInput_iff enableAll
  | sendAppMessage clientId type payload => exact iff_of_true h rfl
  | attachConnection address => exact iff_of_true (h.handleNewConnection address now) rfl
  | shutdown => exact iff_of_true h rfl

end Table

/-! ## Runs -/

/-- The network thread's handlers run only while it does. -/
theorem Current.whenRunning {s : HostSession} (h : Current s) {r : HostSession × List HostEffect}
    (hr : Current r.1) : Current (if !s.running then (s, []) else r).1 := by
  split
  · exact h
  · exact hr

/-- **One step.** A current table stays current exactly if the step is not the execution of a task
    that turns a client's input off or on. -/
theorem Current.step_iff {s : HostSession} (h : Current s) (e : HostEvent) :
    Current (s.step e) ↔ s.runsToggle e = false := by
  cases e with
  | approveClient clientId accept => exact iff_of_true (h.post _) rfl
  | kickClient clientId reason => exact iff_of_true (h.post _) rfl
  | setClientInput clientId enableAll => exact iff_of_true (h.post _) rfl
  | sendAppMessage clientId type payload =>
      refine iff_of_true ?_ rfl
      unfold step handle
      dsimp only
      split
      · exact h.post _
      · exact h
  | attachConnection address => exact iff_of_true (h.post _) rfl
  | runTask now =>
      by_cases hrunning : s.running = true
      · rcases htasks : s.tasks with _ | ⟨task, rest⟩
        · have hstep : s.step (.runTask now) = s := by simp [step, handle, htasks]
          rw [hstep]
          exact iff_of_true h (by simp [runsToggle, htasks])
        · have hstep : s.step (.runTask now) = ({ s with tasks := rest }.runTask task now).1 := by
            simp [step, handle, hrunning, htasks]
          have hruns : s.runsToggle (.runTask now) = s.togglesInput task := by
            simp [runsToggle, hrunning, htasks]
          have hrest : Current { s with tasks := rest } := ⟨h.snapshot, h.ascending⟩
          rw [hstep, hruns]
          exact hrest.runTask_iff task now
      · have hstep : s.step (.runTask now) = s := by simp [step, handle, hrunning]
        rw [hstep]
        exact iff_of_true h (by simp [runsToggle, hrunning])
  | newConnection address now =>
      exact iff_of_true (h.whenRunning (h.handleNewConnection address now)) rfl
  | frame clientId type payload now later =>
      exact iff_of_true (h.whenRunning (h.handleFrame type payload now later)) rfl
  | closed clientId => exact iff_of_true (h.whenRunning h.handleClientClosed) rfl
  | tick now => exact iff_of_true (h.whenRunning (h.housekeeping now)) rfl
  | beginStop =>
      refine iff_of_true ?_ rfl
      unfold step handle
      dsimp only
      split
      · exact h
      · exact ⟨h.snapshot, h.ascending⟩
  | endStop =>
      refine iff_of_true ?_ rfl
      unfold step handle
      dsimp only
      split
      · exact current_of_eq rfl
      · exact h

/-- **The published table is current after every step of a run** exactly if the run executes no task
    that turns a client's input off or on. -/
theorem published_table_current_iff (params : HostSessionParams) (sessionCode : Bytes)
    (appHandler : Bool) (es : List HostEvent) :
    (∀ p ∈ history step (started params sessionCode appHandler) es, Current (p.1.step p.2)) ↔
      ∀ p ∈ history step (started params sessionCode appHandler) es,
        p.1.runsToggle p.2 = false := by
  have hfresh : Current (started params sessionCode appHandler) := current_of_eq rfl
  exact invariant_history_iff step Current (fun s e => s.runsToggle e = false)
    (fun s e h => h.step_iff e) _ es hfresh

/-- The host turns the input of its only client off: the table still shows it on. -/
theorem published_table_stale :
    ¬ ∀ (params : HostSessionParams) (sessionCode : Bytes) (appHandler : Bool)
        (es : List HostEvent),
      ∀ p ∈ history step (started params sessionCode appHandler) es, Current (p.1.step p.2) := by
  intro hall
  have hcurrent := hall {} [] false
    [.newConnection [] 0, .setClientInput 1 false, .runTask 0] _ (List.mem_of_getLast? rfl)
  exact absurd hcurrent.snapshot (by decide +kernel)

end RemotePlay.Host.HostSession
