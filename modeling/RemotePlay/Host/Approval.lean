import RemotePlay.Host.Lifecycle

set_option autoImplicit false

/-! # The approval gate

A client that has shown the session code waits in `Authenticating` for the host's decision, and
stays there after it: `approveClient` only announces the host's capabilities.
`handleClientCapabilities` checks the state and nothing else, so the gate is in the client's hands.
A run keeps it exactly if no client sends acceptable capabilities before its approval
(`gate_holds_iff`). -/

namespace RemotePlay.Host

open Proto (Envelope Body Id Reason encodeMessage decodeMessage knownId)

namespace HostSession

/-! ## What is sent -/

/-- The effect hands an accepted negotiation result to the client. -/
def AcceptedResultTo (id : UInt32) (eff : HostEffect) : Prop :=
  ∃ result : Proto.Msg.NegotiationResult, result.accepted = true ∧
    eff = .send id Id.NegotiationResult.code
      (encodeMessage { type := .NegotiationResult, body := .negotiationResult result })

/-- None of the effects does. -/
def Quiet (id : UInt32) (out : List HostEffect) : Prop := ∀ eff ∈ out, ¬ AcceptedResultTo id eff

section Quiet

variable (s : HostSession) (id c : UInt32)

theorem quiet_nil : Quiet id [] := fun _ h => absurd h (by simp)

theorem Quiet.append {id : UInt32} {out out' : List HostEffect} (h : Quiet id out)
    (h' : Quiet id out') : Quiet id (out ++ out') := fun eff hmem =>
  (List.mem_append.1 hmem).elim (h eff) (h' eff)

theorem quiet_send {type : UInt16} (payload : Bytes) (h : type ≠ Id.NegotiationResult.code) :
    Quiet id [.send c type payload] := by
  rintro eff hmem ⟨result, -, rfl⟩
  simp only [List.mem_singleton, HostEffect.send.injEq] at hmem
  exact h hmem.2.1.symm

/-- Every other effect is of another kind. -/
theorem quiet_other {eff : HostEffect} (h : ∀ c type payload, eff ≠ .send c type payload) :
    Quiet id [eff] := by
  rintro eff' hmem ⟨result, -, rfl⟩
  exact h _ _ _ (List.mem_singleton.1 hmem).symm

theorem quiet_sendTo (type : Id) (body : Body) (h : type.code ≠ Id.NegotiationResult.code) :
    Quiet id (s.sendTo c { type := type, body := body }) := by
  unfold sendTo
  split
  · exact quiet_send id c _ h
  · exact quiet_nil id

theorem quiet_sendAndClose (msg : Envelope) : Quiet id (s.sendAndClose c msg) := by
  unfold sendAndClose
  split
  · exact quiet_other id (by simp)
  · exact quiet_nil id

theorem quiet_setState (st : ConnectionState) : Quiet id (s.setState c st).2 := by
  unfold setState
  split
  · exact quiet_nil id
  · exact quiet_other id (by simp)

theorem quiet_pushInputPermissions : Quiet id (s.pushInputPermissions c) := by
  unfold pushInputPermissions
  split
  · exact quiet_nil id
  · exact (s.quiet_sendTo id c _ _ (by decide)).append (quiet_other id (by simp))

theorem quiet_dropClient (sendReject : Bool) (reason : Reason) (text : Bytes) :
    Quiet id (s.dropClient c sendReject reason text).2 := by
  unfold dropClient
  split
  · exact quiet_nil id
  · refine Quiet.append ?_ (s.quiet_setState id c _)
    split
    · exact s.quiet_sendAndClose id c _
    · exact quiet_other id (by simp)

theorem quiet_handleNewConnection (address : Bytes) (now : Int) :
    Quiet id (s.handleNewConnection address now).2 := by
  unfold handleNewConnection
  split
  · exact quiet_other id (by simp)
  · exact quiet_nil id

theorem quiet_runTask (task : HostTask) (now : Int) : Quiet id (s.runTask task now).2 := by
  cases task with
  | approveClient c accept =>
      show Quiet id (s.runApproveClient c accept now).2
      unfold runApproveClient
      split
      · exact quiet_nil id
      · split
        · exact quiet_nil id
        · split
          · exact s.quiet_dropClient id c _ _ _
          · exact (s.quiet_sendTo id c _ _ (by decide)).append
              (s.quiet_sendTo id c _ _ (by decide))
  | kickClient c reason =>
      show Quiet id (s.runKickClient c reason).2
      unfold runKickClient
      split
      · exact quiet_nil id
      · exact (s.quiet_sendAndClose id c _).append (s.quiet_setState id c _)
  | setClientInput c enableAll =>
      show Quiet id (s.runSetClientInput c enableAll).2
      unfold runSetClientInput
      split
      · exact quiet_nil id
      · exact quiet_pushInputPermissions _ id c
  | sendAppMessage c type payload =>
      show Quiet id (s.runSendAppMessage c type payload)
      unfold runSendAppMessage
      split
      · -- application messages start at 0x0010, above every negotiation message
        refine quiet_send id c payload ?_
        intro heq
        have hrange := type.2
        rw [heq] at hrange
        exact absurd hrange (by decide)
      · exact quiet_nil id
  | attachConnection address => exact s.quiet_handleNewConnection id address now
  | shutdown =>
      rintro eff hmem ⟨result, -, rfl⟩
      simp [runTask] at hmem

theorem quiet_handleClientHello (hello : Proto.Msg.ClientHello) :
    Quiet id (s.handleClientHello c hello).2 := by
  unfold handleClientHello
  split
  · exact quiet_nil id
  · split
    · exact quiet_nil id
    · dsimp only
      unfold admitHello
      split
      · exact quiet_dropClient _ id c _ _ _
      · split
        · exact quiet_dropClient _ id c _ _ _
        · dsimp only
          split
          · exact quiet_nil id
          · exact quiet_other id (by simp)

theorem quiet_handleOther (type : UInt16) (payload : Bytes) :
    Quiet id (s.handleOther c type payload).2 := by
  unfold handleOther
  dsimp only
  split
  · exact quiet_other id (by simp)
  · exact s.quiet_dropClient id c _ _ _

theorem quiet_probe (now : Int) : Quiet id (s.probe now c).2 := by
  unfold probe
  split
  · exact quiet_nil id
  · split
    · exact quiet_sendTo _ id c _ _ (by decide)
    · exact quiet_nil id

theorem quiet_housekeeping (now : Int) : Quiet id (s.housekeeping now).2 :=
  (s.housekeeping_rule (fun _ => True) (fun eff => ¬ AcceptedResultTo id eff) now
    (fun t c _ => ⟨trivial, t.quiet_probe id c now⟩)
    (fun t c _ => ⟨trivial, t.quiet_dropClient id c _ _ _⟩) trivial).2

end Quiet

/-- The first byte of a negotiation result is its `accepted` flag. -/
theorem accepted_eq_of_encode {m m' : Proto.Msg.NegotiationResult}
    (h : encodeMessage { type := .NegotiationResult, body := .negotiationResult m }
      = encodeMessage { type := .NegotiationResult, body := .negotiationResult m' }) :
    m.accepted = m'.accepted := by
  have hhead := congrArg List.head? h
  simp only [encodeMessage, Proto.writeMsg, Net.ByteWriter.boolean, List.append_assoc,
    List.singleton_append] at hhead
  cases hm : m.accepted
  · cases hm' : m'.accepted
    · rfl
    · simp [hm, hm'] at hhead
  · cases hm' : m'.accepted
    · simp [hm, hm'] at hhead
    · rfl

theorem accepted_of_handleClientCapabilities {s : HostSession} {id c : UInt32}
    {caps : Proto.Msg.ClientCapabilities} {eff : HostEffect}
    (hmem : eff ∈ (s.handleClientCapabilities c caps).2) (hacc : AcceptedResultTo id eff) :
    c = id ∧ s.stateOf id = some .Authenticating ∧ (negotiated s.params caps).isSome := by
  unfold handleClientCapabilities at hmem
  split at hmem
  · exact absurd hmem (by simp)
  next record h =>
  split at hmem
  · exact absurd hmem (by simp)
  next hstate =>
  -- the answer is the only effect that can be an accepted result
  have hanswer : eff ∈ s.sendTo c
      { type := .NegotiationResult
        body := .negotiationResult (negotiationResult s.params (negotiated s.params caps)) } := by
    dsimp only at hmem
    split at hmem
    · rcases List.mem_append.1 hmem with hout | hdrop
      · exact hout
      · exact absurd hacc (s.quiet_dropClient id c _ _ _ _ hdrop)
    · rcases List.mem_append.1 hmem with hout | hpush
      · rcases List.mem_append.1 hout with hout | hupd
        · exact hout
        · exact absurd hacc (s.quiet_setState id c _ _ hupd)
      · exact absurd hacc (quiet_pushInputPermissions _ id c _ hpush)
  unfold sendTo at hanswer
  split at hanswer
  · obtain ⟨result, haccepted, rfl⟩ := hacc
    simp only [List.mem_singleton, HostEffect.send.injEq] at hanswer
    obtain ⟨rfl, -, hencode⟩ := hanswer
    refine ⟨rfl, by rw [s.stateOf_of_lookup id h, not_not.1 hstate], ?_⟩
    rw [accepted_eq_of_encode hencode] at haccepted
    cases hneg : negotiated s.params caps with
    | none =>
        rw [hneg] at haccepted
        exact absurd haccepted (by simp [negotiationResult])
    | some codec => rfl
  · exact absurd hanswer (by simp)

/-- Among the frames, only an admission sends an accepted result. -/
theorem admits_of_accepted_frame {s : HostSession} {id c : UInt32} {type : UInt16}
    {payload : Bytes} {now later : Int} {eff : HostEffect} (hrun : s.running = true)
    (hmem : eff ∈ (s.handleFrame c type payload now later).2) (hacc : AcceptedResultTo id eff) :
    s.stateOf id = some .Authenticating ∧ s.Admits (.frame c type payload now later) id := by
  have hquiet : ∀ out, eff ∈ out → Quiet id out →
      s.stateOf id = some .Authenticating ∧ s.Admits (.frame c type payload now later) id :=
    fun out hout hq => absurd hacc (hq eff hout)
  unfold handleFrame at hmem
  split at hmem
  · exact hquiet _ hmem (quiet_nil id)
  next hstop =>
  split at hmem
  · exact hquiet _ hmem (s.quiet_dropClient id c _ _ _)
  split at hmem
  · exact hquiet _ hmem (quiet_nil id)
  next rec h =>
  have hsame := s.stateOf_insert_same c id { rec with lastActivity := now } h rfl
  dsimp only at hmem
  split at hmem
  · exact hquiet _ hmem (quiet_dropClient _ id c _ _ _)
  next env hdec =>
  unfold dispatch at hmem
  split at hmem
  · exact hquiet _ hmem (quiet_handleClientHello _ id c _)
  · next caps hbody =>
      obtain ⟨rfl, hauth, hneg⟩ := accepted_of_handleClientCapabilities hmem hacc
      exact ⟨hsame ▸ hauth, type, payload, now, later, env, caps, rfl, hdec, hbody, hneg, hrun,
        by simpa using hstop⟩
  · exact hquiet _ hmem (quiet_sendTo _ id c _ _ (by decide))
  · exact hquiet _ hmem (quiet_nil id)
  · exact hquiet _ hmem (quiet_dropClient _ id c _ _ _)
  · exact hquiet _ hmem (quiet_handleOther _ id c type payload)

/-- **Only an admission sends an accepted result.** -/
theorem admits_of_accepted {s : HostSession} {e : HostEvent} {id : UInt32} {eff : HostEffect}
    (hmem : eff ∈ (s.handle e).2) (hacc : AcceptedResultTo id eff) :
    s.stateOf id = some .Authenticating ∧ s.Admits e id := by
  have hquiet : ∀ out, eff ∈ out → Quiet id out →
      s.stateOf id = some .Authenticating ∧ s.Admits e id := fun out hout hq =>
    absurd hacc (hq eff hout)
  unfold handle at hmem
  cases e with
  | approveClient c accept => exact hquiet _ hmem (quiet_nil id)
  | kickClient c reason => exact hquiet _ hmem (quiet_nil id)
  | setClientInput c enableAll => exact hquiet _ hmem (quiet_nil id)
  | sendAppMessage c type payload =>
      dsimp only at hmem
      split at hmem
      · exact hquiet _ hmem (quiet_nil id)
      · exact hquiet _ hmem (quiet_nil id)
  | attachConnection address => exact hquiet _ hmem (quiet_nil id)
  | runTask now =>
      dsimp only at hmem
      split at hmem
      · exact hquiet _ hmem (quiet_nil id)
      · split at hmem
        · exact hquiet _ hmem (quiet_nil id)
        · exact hquiet _ hmem (quiet_runTask _ id _ now)
  | newConnection address now =>
      dsimp only at hmem
      split at hmem
      · exact hquiet _ hmem (quiet_nil id)
      · exact hquiet _ hmem (s.quiet_handleNewConnection id address now)
  | frame c type payload now later =>
      dsimp only at hmem
      split at hmem
      · exact hquiet _ hmem (quiet_nil id)
      · next hrun => exact admits_of_accepted_frame (by simpa using hrun) hmem hacc
  | closed c =>
      dsimp only at hmem
      split at hmem
      · exact hquiet _ hmem (quiet_nil id)
      · unfold handleClientClosed at hmem
        split at hmem
        · exact hquiet _ hmem (quiet_nil id)
        · split at hmem
          · exact hquiet _ hmem (quiet_nil id)
          · exact hquiet _ hmem (quiet_other id (by simp))
  | tick now =>
      dsimp only at hmem
      split at hmem
      · exact hquiet _ hmem (quiet_nil id)
      · exact hquiet _ hmem (s.quiet_housekeeping id now)
  | beginStop =>
      dsimp only at hmem
      split at hmem
      · exact hquiet _ hmem (quiet_nil id)
      · exact hquiet _ hmem (quiet_nil id)
  | endStop =>
      dsimp only at hmem
      split at hmem
      · exact hquiet _ hmem (quiet_other id (by simp))
      · exact hquiet _ hmem (quiet_nil id)

/-! ## Runs -/

/-- The step executes `approveClient(id, true)` while the record is `Authenticating`. -/
def Approves (s : HostSession) (e : HostEvent) (id : UInt32) : Prop :=
  (∃ now, e = .runTask now) ∧ s.running = true ∧
    s.tasks.head? = some (.approveClient id true) ∧ s.stateOf id = some .Authenticating

variable (s₀ : HostSession)

/-- The client was approved in the course of the run. -/
def Approved (es : List HostEvent) (id : UInt32) : Prop :=
  ∃ p ∈ history step s₀ es, p.1.Approves p.2 id

/-- An accepted negotiation result was sent in the course of the run. -/
def ResultSent (es : List HostEvent) (id : UInt32) : Prop :=
  ∃ p ∈ history step s₀ es, ∃ eff ∈ (p.1.handle p.2).2, AcceptedResultTo id eff

/-- In every state of the run, a connected client and one that was sent an accepted result has been
    approved. -/
def GateHolds (es : List HostEvent) : Prop :=
  ∀ pre post, es = pre ++ post → ∀ id,
    ((runFrom step s₀ pre).stateOf id = some .Connected → Approved s₀ pre id) ∧
      (ResultSent s₀ pre id → Approved s₀ pre id)

/-- No client that is still waiting for the host's decision sends capabilities the host would
    accept. -/
def ClientsWait (es : List HostEvent) : Prop :=
  ∀ pre e post, es = pre ++ e :: post → ∀ id,
    (runFrom step s₀ pre).stateOf id = some .Authenticating → (runFrom step s₀ pre).Admits e id →
      Approved s₀ pre id

variable {s₀} {pre : List HostEvent} {e : HostEvent} {id : UInt32}

theorem Approved.concat (h : Approved s₀ pre id) : Approved s₀ (pre ++ [e]) id := by
  obtain ⟨p, hp, happroves⟩ := h
  rw [Approved, history_concat]
  exact ⟨p, List.mem_append_left _ hp, happroves⟩

/-- A frame is not an approval. -/
theorem Approved.of_concat_admits (h : Approved s₀ (pre ++ [e]) id) {t : HostSession}
    (hadmits : t.Admits e id) : Approved s₀ pre id := by
  obtain ⟨p, hp, happroves⟩ := h
  rw [history_concat, List.mem_append, List.mem_singleton] at hp
  rcases hp with hp | rfl
  · exact ⟨p, hp, happroves⟩
  · obtain ⟨⟨now, rfl⟩, -⟩ := happroves
    obtain ⟨_, _, _, _, _, _, he, -⟩ := hadmits
    exact absurd he (by simp)

/-- One step keeps the gate, unless it admits a client that was not approved. -/
theorem gate_step (hconn : (runFrom step s₀ pre).stateOf id = some .Connected → Approved s₀ pre id)
    (hwait : (runFrom step s₀ pre).stateOf id = some .Authenticating →
      (runFrom step s₀ pre).Admits e id → Approved s₀ pre id) :
    (runFrom step s₀ (pre ++ [e])).stateOf id = some .Connected → Approved s₀ (pre ++ [e]) id := by
  rw [runFrom_concat]
  intro h
  refine Approved.concat ?_
  generalize hst : ((runFrom step s₀ pre).step e).stateOf id = st at h
  have htrans := (runFrom step s₀ pre).step_transition e id
  rw [hst] at htrans
  cases htrans with
  | stay => exact hconn h
  | capabilities hauth hadmits => exact hwait hauth hadmits
  | connection => exact absurd h (by simp)
  | hello => exact absurd h (by simp)
  | kick => exact absurd h (by simp)
  | gone => exact absurd h (by simp)

/-- An admission connects the client. -/
theorem stateOf_step_of_admits {s : HostSession} (hauth : s.stateOf id = some .Authenticating)
    (hadmits : s.Admits e id) : (s.step e).stateOf id = some .Connected := by
  obtain ⟨type, payload, now, later, env, caps, rfl, hdec, hbody, hneg, hrun, hstop⟩ := hadmits
  obtain ⟨rec, hrec, hstate⟩ := Option.map_eq_some_iff.1 hauth
  have hknown := Proto.knownId_of_decodeMessage hdec
  have hstored := lookup_withClients_insert s id id { rec with lastActivity := now }
  rw [if_pos rfl] at hstored
  obtain ⟨codec, hcodec⟩ := Option.isSome_iff_exists.1 hneg
  simp only [step, handle, hrun, Bool.not_true, Bool.false_eq_true, if_false, handleFrame, hstop,
    hknown, hrec, hdec, dispatch, hbody]
  rw [stateOf, lookup_handleClientCapabilities hstored hstate hcodec]
  rfl

/-- **The approval gate of a run.** For every number of clients and every order of events, approval
    comes before connection and before the accepted result, if and only if the clients wait for
    it. -/
theorem gate_holds_iff (params : HostSessionParams) (sessionCode : Bytes) (appHandler : Bool)
    (es : List HostEvent) :
    GateHolds (started params sessionCode appHandler) es ↔
      ClientsWait (started params sessionCode appHandler) es := by
  set s₀ := started params sessionCode appHandler
  constructor
  · intro hgate pre e post hes id hauth hadmits
    have hconn := (hgate (pre ++ [e]) post (by simp [hes]) id).1
    rw [runFrom_concat] at hconn
    exact (hconn (stateOf_step_of_admits hauth hadmits)).of_concat_admits hadmits
  · -- induction on the run: what connects or announces is an admission, and the clients waited
    intro hwait pre
    induction pre using List.reverseRecOn with
    | nil =>
        intro post _ id
        refine ⟨?_, fun ⟨p, hp, _⟩ => absurd hp (by simp)⟩
        intro h
        exact absurd h (by simp [s₀, started, stateOf])
    | append_singleton pre e ih =>
        intro post hes id
        have hes' : es = pre ++ e :: post := by simp [hes]
        obtain ⟨hconn, hsent⟩ := ih (e :: post) hes' id
        refine ⟨gate_step hconn (hwait pre e post hes' id), ?_⟩
        rintro ⟨p, hp, eff, heff, hacc⟩
        rw [history_concat, List.mem_append, List.mem_singleton] at hp
        rcases hp with hp | rfl
        · exact (hsent ⟨p, hp, eff, heff, hacc⟩).concat
        · obtain ⟨hauth, hadmits⟩ := admits_of_accepted heff hacc
          exact (hwait pre e post hes' id hauth hadmits).concat

/-- A client that sends its capabilities right after its hello. -/
def impatientClient : List HostEvent :=
  [.newConnection (ascii "203.0.113.7:4000") 0,
    .frame 1 Id.ClientHello.code (encodeMessage
      { type := .ClientHello, body := .clientHello { sessionCode := ascii "ABCD-EFGH" } }) 1 1,
    .frame 1 Id.ClientCapabilities.code (encodeMessage
      { type := .ClientCapabilities
        body := .clientCapabilities { supportedCodecs := [.H264] } }) 2 2]

/-- The impatient client is connected, and was told so, without any approval. -/
theorem impatient_client_connected :
    (runFrom step (started {} (ascii "ABCD-EFGH") true) impatientClient).stateOf 1
        = some .Connected ∧
      ¬ GateHolds (started {} (ascii "ABCD-EFGH") true) impatientClient := by
  have hconn : (runFrom step (started {} (ascii "ABCD-EFGH") true) impatientClient).stateOf 1
      = some .Connected := by decide +kernel
  refine ⟨hconn, ?_⟩
  intro hgate
  obtain ⟨p, hp, ⟨now, hrun⟩, -⟩ := (hgate impatientClient [] (by simp) 1).1 hconn
  obtain ⟨pre, post, hes, -⟩ := (mem_history_iff step _ _ p.1 p.2).1 hp
  have hmem : HostEvent.runTask now ∈ impatientClient := by
    rw [hes, hrun]
    simp
  exact absurd hmem (by simp [impatientClient])

end HostSession

end RemotePlay.Host
