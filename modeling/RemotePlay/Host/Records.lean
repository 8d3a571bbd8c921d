import RemotePlay.Host.Confinement

set_option autoImplicit false

/-! # What an event can do to a client's record

`RecordChange s e id` lists everything an event can do to the record under `id`, with the callbacks
about it and the guards of the handler that does it, and `step_record` proves the list complete. A
client's state, its permissions and its clock are read off this list, not off the handlers. -/

namespace RemotePlay.Host

open Proto (Envelope Body Reason decodeMessage knownId)

namespace HostSession

/-! ## The changes of a record -/

/-- The event is a capabilities frame of `id` that the host answers with an accepted negotiation,
    provided the record is `Authenticating`: the message decodes and names a common codec. -/
def Admits (s : HostSession) (e : HostEvent) (id : UInt32) : Prop :=
  ∃ type payload now later env caps, e = .frame id type payload now later ∧
    decodeMessage type payload = some env ∧ env.body = .clientCapabilities caps ∧
    (negotiated s.params caps).isSome ∧ s.running = true ∧ s.stopping = false

/-- The event gives the next id to a new connection. -/
def assigns (s : HostSession) (e : HostEvent) : Bool :=
  s.running && !s.stopping &&
    match e with
    | .newConnection _ _ => true
    | .runTask _ =>
        match s.tasks.head? with
        | some (.attachConnection _) => true
        | _ => false
    | _ => false

/-- The body of a frame that a record in this state takes without moving on. -/
def leaves (st : ConnectionState) : Body → Bool
  | .ping _ => true
  | .pong _ => true
  | .clientHello _ => st ≠ .Connecting
  | .clientCapabilities _ => st ≠ .Authenticating
  | _ => false

/-- The host's approval of the client is the next task. -/
def Deciding (s : HostSession) (e : HostEvent) (id : UInt32) : Prop :=
  (∃ now, e = .runTask now) ∧ s.running = true ∧ s.tasks.head? = some (.approveClient id true)

/-- The record under `id` after an event, with the callbacks about it. -/
inductive RecordChange (s : HostSession) (e : HostEvent) (id : UInt32) :
    Option ClientRecord → List Report → Prop where
  | stay (hnew : s.assigns e = true → id ≠ s.nextClientId)
      (hdecided : s.Deciding e id →
        ∀ rec, s.clients[id]? = some rec → rec.state ≠ .Authenticating) :
      RecordChange s e id s.clients[id]? []
  | connection (address : Bytes) (now : Int)
      (he : e = .newConnection address now ∨ e = .runTask now)
      (hassigns : s.assigns e = true) (hid : id = s.nextClientId) :
      RecordChange s e id
        (some { id := id, name := ascii "pending", state := .Connecting, lastActivity := now,
                address := address }) []
  | approved (rec : ClientRecord) (now : Int) (he : e = .runTask now) (hdeciding : s.Deciding e id)
      (hrec : s.clients[id]? = some rec) (hstate : rec.state = .Authenticating) :
      RecordChange s e id (some { rec with lastActivity := now }) []
  | setInput (rec : ClientRecord) (now : Int) (enableAll : Bool) (he : e = .runTask now)
      (htask : s.tasks.head? = some (.setClientInput id enableAll))
      (hrec : s.clients[id]? = some rec) (input : InputPermissions)
      (hinput : input = if enableAll then s.params.inputDefaults
        else { controller := false, keyboard := false, mouse := false, vibration := false }) :
      RecordChange s e id (some { rec with input := input }) [.input input]
  | kick (rec : ClientRecord) (now : Int) (reason : Bytes) (he : e = .runTask now)
      (htask : s.tasks.head? = some (.kickClient id reason)) (hrec : s.clients[id]? = some rec) :
      RecordChange s e id (some { rec with state := .Disconnected }) [.updated .Disconnected]
  | hello (rec : ClientRecord) (hello : Proto.Msg.ClientHello) (type : UInt16) (payload : Bytes)
      (now later : Int) (he : e = .frame id type payload now later)
      (hrec : s.clients[id]? = some rec) (hstate : rec.state = .Connecting)
      (hroom : s.clients.size ≤ s.params.maxClients) :
      RecordChange s e id
        (some { rec with name := helloName hello, state := .Authenticating, lastActivity := now,
                         input := s.params.inputDefaults }) []
  | capabilities (rec : ClientRecord) (type : UInt16) (payload : Bytes) (now later : Int)
      (he : e = .frame id type payload now later) (hrec : s.clients[id]? = some rec)
      (hstate : rec.state = .Authenticating) (hadmits : s.Admits e id) :
      RecordChange s e id (some { rec with state := .Connected, lastActivity := now })
        [.updated .Connected, .input rec.input]
  /-- The frame is taken, and the client stays where it is. -/
  | heard (rec : ClientRecord) (env : Envelope) (type : UInt16) (payload : Bytes) (now later : Int)
      (he : e = .frame id type payload now later) (hrun : s.running = true)
      (hstop : s.stopping = false) (hdec : decodeMessage type payload = some env)
      (hrec : s.clients[id]? = some rec) (hleaves : leaves rec.state env.body = true)
      (rttMs : UInt32) :
      RecordChange s e id (some { rec with lastActivity := now, rttMs := rttMs }) []
  | forward (rec : ClientRecord) (type : UInt16) (payload : Bytes) (now later : Int)
      (he : e = .frame id type payload now later) (hrec : s.clients[id]? = some rec)
      (hstate : rec.state = .Connected) :
      RecordChange s e id (some { rec with lastActivity := now }) [.message type payload]
  | probed (rec : ClientRecord) (now : Int) (he : e = .tick now)
      (hrec : s.clients[id]? = some rec) :
      RecordChange s e id (some { rec with lastHostPing := now }) []
  | dropped (rec : ClientRecord) (hrec : s.clients[id]? = some rec) :
      RecordChange s e id none [.updated .Disconnected]
  | stopped (he : e = .endStop) : RecordChange s e id none []

/-- What a handler yields is one of these. -/
def Yields (s : HostSession) (e : HostEvent) (id : UInt32) (r : HostSession × List HostEffect) :
    Prop := RecordChange s e id r.1.clients[id]? (reports id r.2)

/-- What the handler of a decoded frame does to its sender's record, which has the activity time of
    the frame already. -/
inductive FrameOutcome (s : HostSession) (rec : ClientRecord) (type : UInt16) (payload : Bytes)
    (body : Body) : Option ClientRecord → List Report → Prop where
  | heard (hleaves : leaves rec.state body = true) (rttMs : UInt32) :
      FrameOutcome s rec type payload body (some { rec with rttMs := rttMs }) []
  | hello (hello : Proto.Msg.ClientHello) (hstate : rec.state = .Connecting)
      (hroom : s.clients.size ≤ s.params.maxClients) :
      FrameOutcome s rec type payload body
        (some { rec with name := helloName hello, state := .Authenticating,
                         input := s.params.inputDefaults }) []
  | capabilities (caps : Proto.Msg.ClientCapabilities) (hbody : body = .clientCapabilities caps)
      (hstate : rec.state = .Authenticating) (hcodec : (negotiated s.params caps).isSome) :
      FrameOutcome s rec type payload body (some { rec with state := .Connected })
        [.updated .Connected, .input rec.input]
  | forward (hstate : rec.state = .Connected) :
      FrameOutcome s rec type payload body (some rec) [.message type payload]
  | dropped : FrameOutcome s rec type payload body none [.updated .Disconnected]

section Frames

variable {s : HostSession} {c : UInt32} {rec : ClientRecord} {type : UInt16} {payload : Bytes}
variable {body : Body}

theorem FrameOutcome.same (h : s.clients[c]? = some rec) (hleaves : leaves rec.state body = true)
    {out : List HostEffect} (hout : reports c out = []) :
    FrameOutcome s rec type payload body s.clients[c]? (reports c out) := by
  rw [h, hout]
  exact .heard hleaves rec.rttMs

theorem FrameOutcome.of_drop {t : HostSession} {rec' : ClientRecord} (h : t.clients[c]? = some rec')
    (sendReject : Bool) (reason : Reason) (text : Bytes) :
    FrameOutcome s rec type payload body (t.dropClient c sendReject reason text).1.clients[c]?
      (reports c (t.dropClient c sendReject reason text).2) := by
  rw [lookup_dropClient, reports_dropClient, if_pos rfl, if_pos rfl, h]
  exact .dropped

theorem frameOutcome_handleClientHello (h : s.clients[c]? = some rec)
    (hello : Proto.Msg.ClientHello) (hbody : body = .clientHello hello) :
    FrameOutcome s rec type payload body (s.handleClientHello c hello).1.clients[c]?
      (reports c (s.handleClientHello c hello).2) := by
  unfold handleClientHello
  rw [h]
  dsimp only
  split
  · next hstate => exact .same h (by simp [hbody, leaves, hstate]) rfl
  next hstate =>
  rw [not_not] at hstate
  have hnamed := lookup_withClients_insert s c c { rec with name := helloName hello }
  rw [if_pos rfl] at hnamed
  unfold admitHello
  split
  · exact .of_drop hnamed _ _ _
  next hroom =>
  split
  · exact .of_drop hnamed _ _ _
  have hsize : (s.clients.insert c { rec with name := helloName hello }).size = s.clients.size :=
    size_insert_of_some s.clients h
  rw [withClients, hsize, Nat.not_lt] at hroom
  -- admitted: the record is the same, with the approval requested or already posted
  dsimp only
  split
  · rw [clients_post, clients_rebuildSnapshot, lookup_withClients_insert, if_pos rfl]
    exact .hello hello hstate hroom
  · rw [clients_rebuildSnapshot, lookup_withClients_insert, if_pos rfl]
    exact .hello hello hstate hroom

theorem frameOutcome_handleClientCapabilities (h : s.clients[c]? = some rec)
    (caps : Proto.Msg.ClientCapabilities) (hbody : body = .clientCapabilities caps) :
    FrameOutcome s rec type payload body (s.handleClientCapabilities c caps).1.clients[c]?
      (reports c (s.handleClientCapabilities c caps).2) := by
  unfold handleClientCapabilities
  rw [h]
  dsimp only
  split
  · next hstate => exact .same h (by simp [hbody, leaves, hstate]) rfl
  next hstate =>
  rw [not_not] at hstate
  split
  · -- no common codec: the refusal goes out before the drop
    rw [reports_append, reports_sendTo, List.nil_append]
    exact .of_drop h _ _ _
  · next codec hcodec =>
      rw [reports_append, reports_append, reports_sendTo, List.nil_append, reports_setState,
        reports_pushInputPermissions, lookup_setState, if_pos rfl, if_pos rfl, if_pos rfl, h]
      exact .capabilities caps hbody hstate (by rw [hcodec]; rfl)

/-- Acceptable capabilities connect a client that is authenticating. -/
theorem lookup_handleClientCapabilities (h : s.clients[c]? = some rec)
    (hstate : rec.state = .Authenticating) {caps : Proto.Msg.ClientCapabilities}
    {codec : VideoCodec} (hcodec : negotiated s.params caps = some codec) :
    (s.handleClientCapabilities c caps).1.clients[c]?
      = some { rec with state := .Connected } := by
  simp only [handleClientCapabilities, h, hstate, hcodec, ne_eq, not_true, if_false]
  rw [lookup_setState, if_pos rfl, h, Option.map_some]

theorem frameOutcome_handlePong (h : s.clients[c]? = some rec) (pong : Proto.Msg.Pong)
    (hbody : body = .pong pong) (now : Int) :
    FrameOutcome s rec type payload body (s.handlePong c pong now).clients[c]? [] := by
  unfold handlePong
  rw [h]
  dsimp only
  rw [clients_rebuildSnapshot, lookup_withClients_insert, if_pos rfl]
  exact .heard (by rw [hbody]; rfl) _

theorem frameOutcome_handleOther (h : s.clients[c]? = some rec) :
    FrameOutcome s rec type payload body (s.handleOther c type payload).1.clients[c]?
      (reports c (s.handleOther c type payload).2) := by
  unfold handleOther
  dsimp only
  split
  · next hforward =>
      have hconn := hforward.2.1
      rw [h, Option.any_some, beq_iff_eq] at hconn
      rw [reports_onAppMessage, if_pos rfl, h]
      exact .forward hconn
  · exact .of_drop h _ _ _

theorem frameOutcome_dispatch (h : s.clients[c]? = some rec) (now : Int) :
    FrameOutcome s rec type payload body (s.dispatch c type payload now body).1.clients[c]?
      (reports c (s.dispatch c type payload now body).2) := by
  unfold dispatch
  split
  · exact frameOutcome_handleClientHello h _ rfl
  · exact frameOutcome_handleClientCapabilities h _ rfl
  · exact .same h rfl (reports_sendTo _ _ _ _)
  · exact frameOutcome_handlePong h _ rfl now
  · exact .of_drop h _ _ _
  · exact frameOutcome_handleOther h

end Frames

section Yields

variable {s : HostSession} {e : HostEvent} {id c : UInt32}

/-- An event that neither brings a connection nor carries out a task. -/
theorem RecordChange.stay_of_idle (hassigns : s.assigns e = false)
    (htask : ∀ now, e ≠ .runTask now) : RecordChange s e id s.clients[id]? [] := by
  refine .stay ?_ ?_
  · intro h
    cases hassigns.symm.trans h
  · rintro ⟨⟨now, he⟩, -⟩
    exact absurd he (htask now)

theorem Yields.stay {t : HostSession} {out : List HostEffect} (hassigns : s.assigns e = false)
    (htask : ∀ now, e ≠ .runTask now) (hclients : t.clients[id]? = s.clients[id]?)
    (hout : reports id out = []) : Yields s e id (t, out) := by
  rw [Yields, hclients, hout]
  exact .stay_of_idle hassigns htask

theorem yields_dropClient {rec : ClientRecord} (h : s.clients[c]? = some rec)
    (sendReject : Bool) (reason : Reason) (text : Bytes) :
    Yields s e c (s.dropClient c sendReject reason text) := by
  rw [Yields, lookup_dropClient, reports_dropClient, if_pos rfl, if_pos rfl, h]
  exact .dropped rec h

/-- A frame is handled in the state with the activity time stored. -/
theorem yields_handleFrame (type : UInt16) (payload : Bytes) (now later : Int)
    (hrun : s.running = true) :
    Yields s (.frame c type payload now later) id (s.handleFrame c type payload now later) := by
  have hassigns : s.assigns (.frame c type payload now later) = false := by simp [assigns]
  have htask : ∀ now', HostEvent.frame c type payload now later ≠ .runTask now' := by simp
  by_cases hid : id = c
  swap
  · have hlocal := local_handleFrame (s := s) (c := c) type payload now later
    exact .stay hassigns htask (hlocal.clients id hid) (hlocal.silent id hid)
  subst hid
  unfold handleFrame
  split
  · exact .stay hassigns htask rfl rfl
  next hstop =>
  rw [Bool.not_eq_true] at hstop
  cases hrec : s.clients[id]? with
  | none =>
      have hstay : RecordChange s (.frame id type payload now later) id none [] :=
        hrec ▸ .stay_of_idle hassigns htask
      split
      · rw [Yields, lookup_dropClient, reports_dropClient, if_pos rfl, if_pos rfl, hrec]
        exact hstay
      · rw [Yields, hrec]
        exact hstay
  | some rec =>
  split
  · exact yields_dropClient hrec _ _ _
  dsimp only
  have hstored := lookup_withClients_insert s id id { rec with lastActivity := now }
  rw [if_pos rfl] at hstored
  have hsize : (s.clients.insert id { rec with lastActivity := now }).size = s.clients.size :=
    size_insert_of_some s.clients hrec
  split
  · rw [Yields, lookup_dropClient, reports_dropClient, if_pos rfl, if_pos rfl, hstored]
    exact .dropped rec hrec
  next env hdec =>
  have houtcome : FrameOutcome _ _ type payload env.body _ _ := frameOutcome_dispatch hstored later
  rw [Yields]
  generalize ((s.withClients (s.clients.insert id { rec with lastActivity := now })).dispatch id
    type payload later env.body).1.clients[id]? = v at houtcome ⊢
  generalize reports id ((s.withClients (s.clients.insert id
    { rec with lastActivity := now })).dispatch id type payload later env.body).2 = rs
    at houtcome ⊢
  cases houtcome with
  | heard hleaves rttMs =>
      exact .heard rec env type payload now later rfl hrun hstop hdec hrec hleaves rttMs
  | hello hello hstate hroom =>
      exact .hello rec hello type payload now later rfl hrec hstate (hsize ▸ hroom)
  | capabilities caps hbody hstate hcodec =>
      exact .capabilities rec type payload now later rfl hrec hstate
        ⟨type, payload, now, later, env, caps, rfl, hdec, hbody, hcodec, hrun, hstop⟩
  | forward hstate => exact .forward rec type payload now later rfl hrec hstate
  | dropped => exact .dropped rec hrec

/-! ### Tasks -/

theorem yields_handleNewConnection {t : HostSession} (address : Bytes) (now : Int)
    (hclients : t.clients = s.clients) (hnext : t.nextClientId = s.nextClientId)
    (he : e = .newConnection address now ∨ e = .runTask now)
    (hassigns : s.assigns e = !t.stopping) (hdeciding : ¬ s.Deciding e id) :
    Yields s e id (t.handleNewConnection address now) := by
  unfold handleNewConnection
  split
  · next hstop =>
      rw [Yields, hclients]
      refine .stay ?_ fun h => absurd h hdeciding
      rw [hassigns, hstop]
      intro h
      cases h
  next hstop =>
  rw [Bool.not_eq_true] at hstop
  rw [Yields, reports_nil, clients_rebuildSnapshot]
  -- the id counter is no part of the table
  show RecordChange s e id (t.clients.insert t.nextClientId _)[id]? []
  rw [lookup_insert]
  split
  · next hid =>
      rw [hid]
      exact .connection address now he (by rw [hassigns, hstop]; rfl) (hid.symm.trans hnext)
  · next hid =>
      rw [hclients]
      exact .stay (fun _ h => hid (hnext.trans h.symm)) fun h => absurd h hdeciding

/-- A task that neither brings a connection nor decides on the client. -/
theorem RecordChange.stay_of_task {task : HostTask} {rest : List HostTask} {now : Int}
    (htasks : s.tasks = task :: rest) (hattach : ∀ address, task ≠ .attachConnection address)
    (hdecides : task ≠ .approveClient id true) :
    RecordChange s (.runTask now) id s.clients[id]? [] := by
  refine .stay ?_ ?_
  · intro hassigns
    cases task with
    | attachConnection address => exact absurd rfl (hattach address)
    | _ => simp [assigns, htasks] at hassigns
  · rintro ⟨-, -, hhead⟩
    rw [htasks] at hhead
    exact absurd (Option.some.inj hhead) hdecides

theorem yields_approveClient {accept : Bool} {rest : List HostTask} {now : Int}
    (htasks : s.tasks = .approveClient c accept :: rest) (hrun : s.running = true) :
    Yields s (.runTask now) id ({ s with tasks := rest }.runApproveClient c accept now) := by
  by_cases hid : id = c
  swap
  · have hlocal := local_runApproveClient (s := { s with tasks := rest }) (c := c) accept now
    rw [Yields, hlocal.clients id hid, hlocal.silent id hid]
    refine .stay_of_task htasks (by simp) ?_
    rintro ⟨⟩
    exact hid rfl
  subst hid
  have hnew : s.assigns (.runTask now) = true → id ≠ s.nextClientId := by simp [assigns, htasks]
  unfold runApproveClient
  cases hrec : s.clients[id]? with
  | none =>
      rw [Yields, reports_nil]
      refine .stay hnew ?_
      intro _ rec h
      cases hrec.symm.trans h
  | some rec =>
  dsimp only
  split
  · next hstate =>
      rw [Yields, reports_nil]
      refine .stay hnew ?_
      intro _ rec' h
      rwa [← Option.some.inj (hrec.symm.trans h)]
  next hstate =>
  rw [not_not] at hstate
  cases accept with
  | false =>
      rw [if_pos (by simp), Yields, lookup_dropClient, reports_dropClient, if_pos rfl, if_pos rfl]
      show RecordChange s _ id none ((s.clients[id]?).map _).toList
      rw [hrec]
      exact .dropped rec hrec
  | true =>
      have hlookup := lookup_insert s.clients id id { rec with lastActivity := now }
      rw [if_pos rfl] at hlookup
      rw [if_neg (by simp), Yields, reports_append, reports_sendTo, reports_sendTo]
      show RecordChange s _ id (s.clients.insert id { rec with lastActivity := now })[id]? []
      rw [hlookup]
      exact .approved rec now rfl ⟨⟨now, rfl⟩, hrun, by rw [htasks]; rfl⟩ hrec hstate

theorem yields_kickClient {reason : Bytes} {rest : List HostTask} {now : Int}
    (htasks : s.tasks = .kickClient c reason :: rest) :
    Yields s (.runTask now) id ({ s with tasks := rest }.runKickClient c reason) := by
  have hstay : RecordChange s (.runTask now) id s.clients[id]? [] :=
    .stay_of_task htasks (by simp) (by simp)
  by_cases hid : id = c
  swap
  · have hlocal := local_runKickClient (s := { s with tasks := rest }) (c := c) reason
    rw [Yields, hlocal.clients id hid, hlocal.silent id hid]
    exact hstay
  subst hid
  unfold runKickClient
  cases hrec : s.clients[id]? with
  | none => exact hstay
  | some rec =>
      dsimp only
      rw [Yields, reports_append, reports_sendAndClose, List.nil_append, lookup_setState,
        reports_setState, if_pos rfl, if_pos rfl]
      show RecordChange s _ id ((s.clients[id]?).map _) ((s.clients[id]?).map _).toList
      rw [hrec]
      exact .kick rec now reason rfl (by rw [htasks]; rfl) hrec

theorem yields_setClientInput {enableAll : Bool} {rest : List HostTask} {now : Int}
    (htasks : s.tasks = .setClientInput c enableAll :: rest) :
    Yields s (.runTask now) id ({ s with tasks := rest }.runSetClientInput c enableAll) := by
  have hstay : RecordChange s (.runTask now) id s.clients[id]? [] :=
    .stay_of_task htasks (by simp) (by simp)
  by_cases hid : id = c
  swap
  · have hlocal := local_runSetClientInput (s := { s with tasks := rest }) (c := c) enableAll
    rw [Yields, hlocal.clients id hid, hlocal.silent id hid]
    exact hstay
  subst hid
  unfold runSetClientInput
  cases hrec : s.clients[id]? with
  | none => exact hstay
  | some rec =>
      dsimp only
      rw [Yields, reports_pushInputPermissions, lookup_withClients_insert, if_pos rfl, if_pos rfl]
      exact .setInput rec now enableAll rfl (by rw [htasks]; rfl) hrec _ rfl

/-- The task at the head of the queue, which is taken off it first. -/
theorem yields_runTask {task : HostTask} {rest : List HostTask} (now : Int)
    (htasks : s.tasks = task :: rest) (hrun : s.running = true) :
    Yields s (.runTask now) id ({ s with tasks := rest }.runTask task now) := by
  cases task with
  | approveClient c accept => exact yields_approveClient htasks hrun
  | kickClient c reason => exact yields_kickClient htasks
  | setClientInput c enableAll => exact yields_setClientInput htasks
  | sendAppMessage c type payload =>
      have hout : reports id ({ s with tasks := rest }.runSendAppMessage c type payload) = [] := by
        unfold runSendAppMessage
        split
        · rfl
        · rfl
      rw [runTask, Yields, hout]
      exact .stay_of_task htasks (by simp) (by simp)
  | attachConnection address =>
      refine yields_handleNewConnection address now rfl rfl (.inr rfl) ?_ ?_
      · simp [assigns, hrun, htasks]
      · rintro ⟨-, -, hhead⟩
        rw [htasks] at hhead
        cases hhead
  | shutdown =>
      have hout : reports id (.stopListening :: s.clients.keys.map .close) = [] := by
        simp [reports, reportOf]
      show RecordChange s _ id s.clients[id]?
        (reports id (.stopListening :: s.clients.keys.map .close))
      rw [hout]
      exact .stay_of_task htasks (by simp) (by simp)

/-! ### Timers and closed connections -/

/-- What `housekeeping` and the two calls its loops make do to a record. -/
inductive TickChange (now : Int) (v : Option ClientRecord) :
    Option ClientRecord → List Report → Prop where
  | stay : TickChange now v v []
  | probed (rec : ClientRecord) (hrec : v = some rec) :
      TickChange now v (some { rec with lastHostPing := now }) []
  | dropped (rec : ClientRecord) (hrec : v = some rec) :
      TickChange now v none [.updated .Disconnected]

theorem TickChange.append {now : Int} {v v' v'' : Option ClientRecord} {rs rs' : List Report}
    (h : TickChange now v v' rs) (h' : TickChange now v' v'' rs') :
    TickChange now v v'' (rs ++ rs') := by
  cases h with
  | stay => exact h'
  | probed rec hrec =>
      cases h' with
      | stay => exact .probed rec hrec
      | probed rec' hrec' =>
          obtain rfl := Option.some.inj hrec'
          exact .probed rec hrec
      | dropped rec' hrec' => exact .dropped rec hrec
  | dropped rec hrec =>
      -- a client that is gone is not dropped again
      cases h' with
      | stay => exact .dropped rec hrec
      | probed rec' hrec' => cases hrec'
      | dropped rec' hrec' => cases hrec'

theorem tickChange_forIds (s : HostSession) (id : UInt32) (now : Int)
    (f : HostSession → UInt32 → HostSession × List HostEffect)
    (hf : ∀ s c, TickChange now s.clients[id]? (f s c).1.clients[id]? (reports id (f s c).2))
    (ids : List UInt32) :
    TickChange now s.clients[id]? (forIds f s ids).1.clients[id]?
      (reports id (forIds f s ids).2) := by
  induction ids generalizing s with
  | nil => exact .stay
  | cons c ids ih =>
      rw [forIds, reports_append]
      exact (hf s c).append (ih (f s c).1)

theorem tickChange_probe (now : Int) :
    TickChange now s.clients[id]? (s.probe now c).1.clients[id]?
      (reports id (s.probe now c).2) := by
  unfold probe
  split
  · exact .stay
  next rec hrec =>
  split
  · dsimp only
    rw [reports_sendTo, lookup_withClients_insert]
    split
    · next hid => exact .probed rec (hid ▸ hrec)
    · exact .stay
  · exact .stay

theorem tickChange_dropClient (now : Int) (sendReject : Bool) (reason : Reason) (text : Bytes) :
    TickChange now s.clients[id]? (s.dropClient c sendReject reason text).1.clients[id]?
      (reports id (s.dropClient c sendReject reason text).2) := by
  rw [lookup_dropClient, reports_dropClient]
  split
  · next hid =>
      subst hid
      cases hrec : s.clients[c]? with
      | none => exact .stay
      | some rec => exact .dropped rec rfl
  · exact .stay

theorem yields_housekeeping (now : Int) : Yields s (.tick now) id (s.housekeeping now) := by
  have hassigns : s.assigns (.tick now) = false := by simp [assigns]
  have htask : ∀ now', HostEvent.tick now ≠ .runTask now' := by simp
  unfold housekeeping
  split
  · exact .stay hassigns htask rfl rfl
  have hprobes := tickChange_forIds s id now (fun s id => s.probe now id)
    (fun _ _ => tickChange_probe now) s.clients.keys
  have hdrops := tickChange_forIds (forIds (fun s id => s.probe now id) s s.clients.keys).1 id now
    (fun s id => s.dropClient id true .InactivityTimeout (ascii "Connection timed out."))
    (fun _ _ => tickChange_dropClient now _ _ _)
    (s.clients.keys.filter fun id => (s.clients[id]?).any (fun rec => timedOut rec now))
  have hchange := hprobes.append hdrops
  rw [Yields]
  dsimp only
  rw [reports_append]
  generalize (forIds _ (forIds _ s _).1 _).1.clients[id]? = v at hchange ⊢
  generalize reports id _ ++ reports id _ = rs at hchange ⊢
  cases hchange with
  | stay => exact .stay_of_idle hassigns htask
  | probed rec hrec => exact .probed rec now rfl hrec
  | dropped rec hrec => exact .dropped rec hrec

theorem yields_handleClientClosed : Yields s (.closed c) id (s.handleClientClosed c) := by
  have hassigns : s.assigns (.closed c) = false := by simp [assigns]
  have htask : ∀ now, HostEvent.closed c ≠ .runTask now := by simp
  unfold handleClientClosed
  split
  · exact .stay hassigns htask rfl rfl
  split
  · exact .stay hassigns htask rfl rfl
  next rec hrec =>
  rw [Yields, clients_rebuildSnapshot, reports_onClientUpdated, withClients, lookup_erase]
  dsimp only
  by_cases hid : c = id
  · rw [if_pos hid, if_pos hid]
    exact .dropped rec (hid ▸ hrec)
  · rw [if_neg hid, if_neg hid]
    exact .stay_of_idle hassigns htask

end Yields

/-- **What an event can do to a client's record.** -/
theorem step_record (s : HostSession) (e : HostEvent) (id : UInt32) :
    RecordChange s e id (s.step e).clients[id]? (reports id (s.handle e).2) := by
  unfold step
  show Yields s e id (s.handle e)
  unfold handle
  cases e with
  | approveClient c accept => exact .stay (by simp [assigns]) (by simp) rfl rfl
  | kickClient c reason => exact .stay (by simp [assigns]) (by simp) rfl rfl
  | setClientInput c enableAll => exact .stay (by simp [assigns]) (by simp) rfl rfl
  | sendAppMessage c type payload =>
      dsimp only
      split
      · exact .stay (by simp [assigns]) (by simp) rfl rfl
      · exact .stay (by simp [assigns]) (by simp) rfl rfl
  | attachConnection address => exact .stay (by simp [assigns]) (by simp) rfl rfl
  | runTask now =>
      dsimp only
      split
      · next hrun =>
          rw [Bool.not_eq_true'] at hrun
          refine RecordChange.stay ?_ ?_
          · simp [assigns, hrun]
          · rintro ⟨-, h, -⟩
            cases hrun.symm.trans h
      next hrun =>
      split
      · next htasks =>
          refine RecordChange.stay ?_ ?_
          · simp [assigns, htasks]
          · rintro ⟨-, -, h⟩
            rw [htasks] at h
            cases h
      · next task rest htasks => exact yields_runTask now htasks (by simpa using hrun)
  | newConnection address now =>
      have hdeciding : ¬ s.Deciding (.newConnection address now) id := by
        rintro ⟨⟨now', h⟩, -⟩
        cases h
      dsimp only
      split
      · next hrun =>
          rw [Bool.not_eq_true'] at hrun
          exact RecordChange.stay (by simp [assigns, hrun]) fun h => absurd h hdeciding
      · next hrun =>
          refine yields_handleNewConnection address now rfl rfl (.inl rfl) ?_ hdeciding
          have hrun : s.running = true := by simpa using hrun
          simp [assigns, hrun]
  | frame c type payload now later =>
      dsimp only
      split
      · exact .stay (by simp [assigns]) (by simp) rfl rfl
      · next hrun => exact yields_handleFrame type payload now later (by simpa using hrun)
  | closed c =>
      dsimp only
      split
      · exact .stay (by simp [assigns]) (by simp) rfl rfl
      · exact yields_handleClientClosed
  | tick now =>
      dsimp only
      split
      · exact .stay (by simp [assigns]) (by simp) rfl rfl
      · exact yields_housekeeping now
  | beginStop =>
      dsimp only
      split
      · exact .stay (by simp [assigns]) (by simp) rfl rfl
      · exact .stay (by simp [assigns]) (by simp) rfl rfl
  | endStop =>
      dsimp only
      split
      · rw [Yields, Std.TreeMap.getElem?_emptyc]
        exact .stopped rfl
      · exact .stay (by simp [assigns]) (by simp) rfl rfl

end HostSession

end RemotePlay.Host
