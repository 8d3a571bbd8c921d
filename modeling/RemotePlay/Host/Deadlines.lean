import RemotePlay.Host.Isolation

set_option autoImplicit false

/-! # Handshake deadlines

`housekeeping` drops a client that has been `Connecting` for more than 10 s or `Authenticating` for
more than 75 s, measured from `lastActivity`. The same member is refreshed by every frame, so a
client extends both deadlines with frames that do not move it on. `clockOf` is what the deadlines
are computed from; `Aging` lists what an event can do to it, beside the milestones of the handshake
that a run leaves behind. -/

namespace RemotePlay.Host

open Proto (Body Reason decodeMessage knownId)

namespace HostSession

/-! ## The clock of a record -/

/-- The state of a record and its activity time. -/
def clockOf (s : HostSession) (id : UInt32) : Option (ConnectionState × Int) :=
  (s.clients[id]?).map fun rec => (rec.state, rec.lastActivity)

section ClockOf

variable (s : HostSession) (id a : UInt32)

theorem stateOf_eq_clockOf : s.stateOf id = (s.clockOf id).map Prod.fst := by
  rw [stateOf, clockOf, Option.map_map]
  rfl

theorem clockOf_of_lookup {rec : ClientRecord} (h : s.clients[id]? = some rec) :
    s.clockOf id = some (rec.state, rec.lastActivity) := by
  rw [clockOf, h]
  rfl

/-- Rewriting a record without touching its clock. -/
theorem clockOf_insert_same {rec : ClientRecord} (rec' : ClientRecord)
    (h : s.clients[id]? = some rec)
    (hclock : (rec'.state, rec'.lastActivity) = (rec.state, rec.lastActivity)) :
    (s.withClients (s.clients.insert id rec')).clockOf a = s.clockOf a := by
  rw [clockOf, lookup_withClients_insert]
  split
  · next heq => rw [← heq, s.clockOf_of_lookup id h, Option.map_some, hclock]
  · rfl

theorem clockOf_eq_none_iff : s.clockOf id = none ↔ s.clients[id]? = none := by
  rw [clockOf, Option.map_eq_none_iff]

theorem clockOf_dropClient (sendReject : Bool) (reason : Reason) (text : Bytes) :
    (s.dropClient id sendReject reason text).1.clockOf a
      = if id = a then none else s.clockOf a := by
  rw [clockOf, lookup_dropClient]
  split
  · rfl
  · rfl

theorem clockOf_probe (now : Int) : (s.probe now id).1.clockOf a = s.clockOf a := by
  unfold probe
  split
  · rfl
  · next rec h =>
      split
      · exact s.clockOf_insert_same id a _ h rfl
      · rfl

/-! ### Housekeeping -/

theorem clockOf_probes (now : Int) (ids : List UInt32) :
    (forIds (fun s id => s.probe now id) s ids).1.clockOf a = s.clockOf a := by
  induction ids generalizing s with
  | nil => rfl
  | cons c ids ih => exact (ih (s.probe now c).1).trans (s.clockOf_probe c a now)

theorem clockOf_drops (sendReject : Bool) (reason : Reason) (text : Bytes) (ids : List UInt32) :
    (forIds (fun s id => s.dropClient id sendReject reason text) s ids).1.clockOf a
      = if a ∈ ids then none else s.clockOf a := by
  induction ids generalizing s with
  | nil => rfl
  | cons c ids ih =>
      refine (ih (s.dropClient c sendReject reason text).1).trans ?_
      rw [clockOf_dropClient]
      by_cases hc : c = a
      · simp [hc]
      · simp [hc, Ne.symm hc]

/-- Whether a clock is past its deadline. -/
def overdue (clock : ConnectionState × Int) (now : Int) : Bool :=
  timedOut { state := clock.1, lastActivity := clock.2 } now

/-- **What `housekeeping` leaves**: the clocks that are not overdue. -/
theorem clockOf_housekeeping (hrun : s.stopping = false) (now : Int) :
    (s.housekeeping now).1.clockOf a = (s.clockOf a).filter fun clock => !overdue clock now := by
  unfold housekeeping
  rw [if_neg (by simp [hrun])]
  dsimp only
  rw [clockOf_drops, clockOf_probes]
  simp only [List.mem_filter, Std.TreeMap.mem_keys]
  cases h : s.clients[a]? with
  | none =>
      rw [(s.clockOf_eq_none_iff a).2 h]
      simp
  | some rec =>
      rw [s.clockOf_of_lookup a h]
      have hmem := mem_of_lookup _ h
      have hlate : timedOut rec now = overdue (rec.state, rec.lastActivity) now := rfl
      simp only [hmem, Option.any_some, hlate, true_and, Option.filter_some]
      cases overdue (rec.state, rec.lastActivity) now
      · rfl
      · rfl

end ClockOf

/-! ## Milestones of a handshake -/

/-- What the deadlines are meant to run from. -/
inductive Milestone where
  /-- The connection was accepted. -/
  | accepted (time : Int)
  /-- The client's hello was admitted. -/
  | entered (time : Int)
  /-- The host's approval was carried out. -/
  | decided
deriving DecidableEq, Repr

/-- The milestone that an event is for a client. -/
def milestoneOf (id : UInt32) (s : HostSession) (e : HostEvent) : Option Milestone :=
  match e with
  | .newConnection _ now =>
      if s.assigns e ∧ id = s.nextClientId then some (.accepted now) else none
  | .runTask now =>
      if s.assigns e then if id = s.nextClientId then some (.accepted now) else none
      else if s.running ∧ s.tasks.head? = some (.approveClient id true) ∧
          s.stateOf id = some .Authenticating then some .decided
      else none
  | .frame c _ _ now _ =>
      if c = id ∧ s.stateOf id = some .Connecting ∧
          (s.step e).stateOf id = some .Authenticating then some (.entered now)
      else none
  | _ => none

/-- The latest milestone of a client in a run. -/
def lastMilestone (s₀ : HostSession) (es : List HostEvent) (id : UInt32) : Option Milestone :=
  lastOutcome (fun _ _ => false) (milestoneOf id) (history step s₀ es)

theorem lastMilestone_concat (s₀ : HostSession) (es : List HostEvent) (e : HostEvent)
    (id : UInt32) :
    lastMilestone s₀ (es ++ [e]) id
      = (milestoneOf id (runFrom step s₀ es) e).or (lastMilestone s₀ es id) := by
  rw [lastMilestone, history_concat, lastOutcome, List.foldl_append]
  rfl

/-- The event is a frame of a client in its handshake that refreshes the deadline and nothing
    else. -/
def prolongs (s : HostSession) (e : HostEvent) (id : UInt32) : Bool :=
  match e with
  | .frame c type payload _ _ =>
      c = id && s.running && !s.stopping && knownId type &&
        match decodeMessage type payload, s.stateOf id with
        | some env, some st => (st = .Connecting || st = .Authenticating) && leaves st env.body
        | _, _ => false
  | _ => false

/-- **Everything an event can do to a clock**, with the milestone it is. -/
inductive Aging (s : HostSession) (e : HostEvent) (id : UInt32) :
    Option (ConnectionState × Int) → Option Milestone → Prop where
  | stay : Aging s e id (s.clockOf id) none
  | accepted (now : Int) : Aging s e id (some (.Connecting, now)) (some (.accepted now))
  | entered (now : Int) : Aging s e id (some (.Authenticating, now)) (some (.entered now))
  | decided (now : Int) : Aging s e id (some (.Authenticating, now)) (some .decided)
  | prolonged (st : ConnectionState) (now : Int) (hstate : s.stateOf id = some st)
      (hext : s.prolongs e id = true) : Aging s e id (some (st, now)) none
  | past (st : ConnectionState) (t : Int)
      (hst : st ≠ .Connecting ∧ st ≠ .Authenticating) : Aging s e id (some (st, t)) none
  | gone (m : Option Milestone) : Aging s e id none m

/-! ## Everything an event does to a clock -/

section Aging

variable {s : HostSession} {e : HostEvent} {id : UInt32} {now : Int}

theorem Aging.stay_of {clock : Option (ConnectionState × Int)} {m : Option Milestone}
    (hclock : clock = s.clockOf id) (hm : m = none) : Aging s e id clock m := by
  rw [hclock, hm]
  exact .stay

/-- A frame is a milestone only as the step from `Connecting` to `Authenticating`. -/
theorem milestoneOf_frame_eq_none {c : UInt32} {type : UInt16} {payload : Bytes} {now later : Int}
    (h : (s.step (.frame c type payload now later)).stateOf id ≠ some .Authenticating ∨
      s.stateOf id ≠ some .Connecting) :
    milestoneOf id s (.frame c type payload now later) = none := by
  refine if_neg ?_
  rintro ⟨-, hfrom, hto⟩
  rcases h with h | h
  · exact h hto
  · exact h hfrom

/-- An event that leaves the record alone is no milestone. -/
theorem milestoneOf_eq_none (hnew : s.assigns e = true → id ≠ s.nextClientId)
    (hdecided : s.Deciding e id → s.stateOf id ≠ some .Authenticating)
    (hstate : (s.step e).stateOf id = s.stateOf id) : milestoneOf id s e = none := by
  cases e with
  | newConnection address now => exact if_neg fun h => hnew h.1 h.2
  | runTask now =>
      unfold milestoneOf
      dsimp only
      split
      · next hassigns => exact if_neg (hnew hassigns)
      · exact if_neg fun h => hdecided ⟨⟨now, rfl⟩, h.1, h.2.1⟩ h.2.2
  | frame c type payload now later =>
      refine milestoneOf_frame_eq_none ?_
      rw [hstate]
      by_cases h : s.stateOf id = some .Connecting
      · exact .inl (by simp [h])
      · exact .inr h
  | _ => rfl

/-- A task that neither brings a connection nor decides on the client is no milestone. -/
theorem milestoneOf_task {task : HostTask} (htask : s.tasks.head? = some task)
    (hattach : ∀ address, task ≠ .attachConnection address)
    (hdecides : task ≠ .approveClient id true) : milestoneOf id s (.runTask now) = none := by
  have hassigns : s.assigns (.runTask now) = false := by
    cases task with
    | attachConnection address => exact absurd rfl (hattach address)
    | _ => simp [assigns, htask]
  have hhead : ¬ s.tasks.head? = some (.approveClient id true) := by
    rw [htask]
    exact fun h => hdecides (Option.some.inj h)
  simp [milestoneOf, hassigns, hhead]

end Aging

/-- **What an event does to a clock.** -/
theorem step_aging (s : HostSession) (e : HostEvent) (id : UInt32) :
    Aging s e id ((s.step e).clockOf id) (milestoneOf id s e) := by
  have hchange := s.step_record e id
  have hclock : ∀ rec : ClientRecord, s.clients[id]? = some rec →
      some (rec.state, rec.lastActivity) = s.clockOf id :=
    fun _ h => (s.clockOf_of_lookup id h).symm
  have hafter : (s.step e).stateOf id = ((s.step e).clients[id]?).map ClientRecord.state := rfl
  unfold clockOf
  generalize (s.step e).clients[id]? = v at hchange hafter ⊢
  generalize reports id (s.handle e).2 = rs at hchange
  cases hchange with
  | stay hnew hdecided =>
      refine .stay_of rfl (milestoneOf_eq_none hnew ?_ hafter)
      intro hdeciding hauth
      obtain ⟨rec, hrec, hstate⟩ := Option.map_eq_some_iff.1 hauth
      exact hdecided hdeciding rec hrec hstate
  | connection address now he hassigns hid =>
      have hm : milestoneOf id s e = some (.accepted now) := by
        rcases he with rfl | rfl
        · simp [milestoneOf, hassigns, hid]
        · simp [milestoneOf, hassigns, hid]
      rw [hm]
      exact .accepted now
  | approved rec now he hdeciding hrec hstate =>
      obtain ⟨-, hrun, hhead⟩ := hdeciding
      have hauth : s.stateOf id = some .Authenticating := by
        rw [s.stateOf_of_lookup id hrec, hstate]
      have hm : milestoneOf id s e = some .decided := by
        subst he
        simp [milestoneOf, assigns, hrun, hhead, hauth]
      rw [hm, Option.map_some, hstate]
      exact .decided now
  | setInput rec now enableAll he htask hrec input hinput =>
      subst he
      exact .stay_of (hclock rec hrec) (milestoneOf_task htask (by simp) (by simp))
  | kick rec now reason he htask hrec =>
      subst he
      rw [milestoneOf_task htask (by simp) (by simp)]
      exact .past .Disconnected rec.lastActivity (by decide)
  | hello rec hello type payload now later he hrec hstate hroom =>
      subst he
      have hconn : s.stateOf id = some .Connecting := by rw [s.stateOf_of_lookup id hrec, hstate]
      rw [milestoneOf, if_pos ⟨rfl, hconn, hafter⟩]
      exact .entered now
  | capabilities rec type payload now later he hrec hstate hadmits =>
      subst he
      rw [milestoneOf_frame_eq_none (.inl (by simp [hafter]))]
      exact .past .Connected now (by decide)
  | heard rec env type payload now later he hrun hstop hdec hrec hleaves rttMs =>
      subst he
      have hbefore := s.stateOf_of_lookup id hrec
      have hknown := Proto.knownId_of_decodeMessage hdec
      rw [milestoneOf_frame_eq_none (by rw [hafter, hbefore]; cases rec.state <;> simp)]
      by_cases hst : rec.state ≠ .Connecting ∧ rec.state ≠ .Authenticating
      · exact .past rec.state now hst
      · refine .prolonged rec.state now hbefore ?_
        have hwaits : rec.state = .Connecting ∨ rec.state = .Authenticating := by
          by_contra hboth
          exact hst (not_or.1 hboth)
        simp [prolongs, hrun, hstop, hknown, hdec, hbefore, hleaves, hwaits]
  | forward rec type payload now later he hrec hstate =>
      subst he
      rw [milestoneOf_frame_eq_none (.inl (by simp [hafter, hstate]))]
      exact .past rec.state now (by rw [hstate]; decide)
  | probed rec now he hrec =>
      subst he
      exact .stay_of (hclock rec hrec) rfl
  | dropped rec hrec => exact .gone _
  | stopped he => exact .gone _

/-! ## Runs -/

section Runs

variable (s₀ : HostSession)

/-- No client that still owes its hello, or still waits for the host's decision, sends a frame that
    only refreshes its deadline. -/
def NoneProlonged (es : List HostEvent) : Prop :=
  ∀ pre e post, es = pre ++ e :: post → ∀ id, (runFrom step s₀ pre).prolongs e id = true →
    lastMilestone s₀ pre id = some .decided

/-- After every call of `housekeeping`, a connecting client was accepted at most 10 s ago, and an
    undecided one entered `Authenticating` at most 75 s ago. -/
def DeadlinesHold (es : List HostEvent) : Prop :=
  ∀ pre now post, es = pre ++ .tick now :: post → (runFrom step s₀ pre).running = true →
    (runFrom step s₀ pre).stopping = false → ∀ id,
      ((runFrom step s₀ (pre ++ [.tick now])).stateOf id = some .Connecting →
        ∃ t, lastMilestone s₀ pre id = some (.accepted t) ∧ now - t ≤ kHelloTimeout) ∧
      ((runFrom step s₀ (pre ++ [.tick now])).stateOf id = some .Authenticating →
        lastMilestone s₀ pre id = some .decided ∨
          ∃ t, lastMilestone s₀ pre id = some (.entered t) ∧ now - t ≤ kApprovalTimeout)

/-- The clock of a client in its handshake is the time of its latest milestone. -/
def Faithful (clock : Option (ConnectionState × Int)) (last : Option Milestone) : Prop :=
  ∀ t, (clock = some (.Connecting, t) → last = some (.accepted t)) ∧
    (clock = some (.Authenticating, t) → last = some .decided ∨ last = some (.entered t))

variable {s₀} {s : HostSession} {e : HostEvent} {id : UInt32}

/-- One event keeps a clock faithful, unless it only prolongs a handshake. -/
theorem Faithful.step {clock : Option (ConnectionState × Int)} {m last : Option Milestone}
    (h : Faithful (s.clockOf id) last) (haging : Aging s e id clock m)
    (hext : s.prolongs e id = true → last = some .decided) : Faithful clock (m.or last) := by
  intro t
  cases haging with
  | stay => exact h t
  | accepted now => simp
  | entered now => simp
  | decided now => simp
  | past st t' hst => simp [hst]
  | gone m => simp
  | prolonged st now hstate hp =>
      have hdecided := hext hp
      refine ⟨?_, fun _ => .inl hdecided⟩
      -- a decided client is past `Connecting`
      intro hclock
      obtain ⟨rfl, -⟩ := Prod.mk.inj (Option.some.inj hclock)
      rw [stateOf_eq_clockOf] at hstate
      obtain ⟨⟨st, t'⟩, hbefore, rfl⟩ := Option.map_eq_some_iff.1 hstate
      exact absurd (((h t').1 hbefore).symm.trans hdecided) (by simp)

theorem faithful_run {pre : List HostEvent} (hempty : s₀.clockOf id = none)
    (hwait : NoneProlonged s₀ pre) :
    Faithful ((runFrom step s₀ pre).clockOf id) (lastMilestone s₀ pre id) := by
  induction pre using List.reverseRecOn with
  | nil => simp [Faithful, hempty]
  | append_singleton pre e ih =>
      rw [runFrom_concat, lastMilestone_concat]
      refine (ih ?_).step (step_aging _ e id) (hwait pre e [] rfl id)
      intro pre' e' post hpre
      exact hwait pre' e' (post ++ [e]) (by simp [hpre])

/-- **The deadlines of a handshake.** In every run in which no waiting client sends frames that only
    refresh its deadline, `housekeeping` enforces both. -/
theorem handshake_deadlines_hold (params : HostSessionParams) (sessionCode : Bytes)
    (appHandler : Bool) (es : List HostEvent)
    (hwait : NoneProlonged (started params sessionCode appHandler) es) :
    DeadlinesHold (started params sessionCode appHandler) es := by
  intro pre now post hes hrun hstop id
  set s₀ := started params sessionCode appHandler
  have hfaithful : Faithful ((runFrom step s₀ pre).clockOf id) (lastMilestone s₀ pre id) := by
    refine faithful_run (by simp [s₀, started, clockOf]) ?_
    intro pre' e post' hpre
    exact hwait pre' e (post' ++ .tick now :: post) (by simp [hes, hpre])
  -- what is left after the call is a clock of before that is not overdue
  have hleft : ∀ st, (runFrom step s₀ (pre ++ [.tick now])).stateOf id = some st →
      ∃ t, (runFrom step s₀ pre).clockOf id = some (st, t) ∧ overdue (st, t) now = false := by
    intro st hst
    rw [runFrom_concat, stateOf_eq_clockOf] at hst
    obtain ⟨⟨st, t⟩, hclock, rfl⟩ := Option.map_eq_some_iff.1 hst
    have hstep : (runFrom step s₀ pre).step (.tick now)
        = ((runFrom step s₀ pre).housekeeping now).1 := by
      simp [step, handle, hrun]
    rw [hstep, clockOf_housekeeping _ id hstop, Option.filter_eq_some_iff] at hclock
    exact ⟨t, hclock.1, by simpa using hclock.2⟩
  constructor
  · intro hst
    obtain ⟨t, hclock, hdue⟩ := hleft _ hst
    exact ⟨t, (hfaithful t).1 hclock, by simpa [overdue, timedOut] using hdue⟩
  · intro hst
    obtain ⟨t, hclock, hdue⟩ := hleft _ hst
    rcases (hfaithful t).2 hclock with hdecided | hentered
    · exact .inl hdecided
    · exact .inr ⟨t, hentered, by simpa [overdue, timedOut] using hdue⟩

theorem frame_of_prolongs (h : s.prolongs e id = true) :
    ∃ type payload now later, e = .frame id type payload now later := by
  cases e with
  | frame c type payload now later =>
      simp only [prolongs, Bool.and_eq_true, decide_eq_true_eq] at h
      exact ⟨type, payload, now, later, by rw [h.1.1.1.1]⟩
  | _ => simp [prolongs] at h

def pingFrame (id : UInt32) (now : Int) : HostEvent :=
  .frame id Proto.Id.Ping.code (Proto.encodeMessage
    { type := .Ping, body := .ping { epochMs := 0 } }) now now

/-- A client that says hello after 5 s and then waits in silence. -/
def silentClient : List HostEvent :=
  [.newConnection (ascii "203.0.113.7:4000") 0,
    helloFrame 1 (ascii "ABCD-EFGH") (seconds 5), .tick (seconds 80)]

theorem handshake_deadlines_hold_silent :
    DeadlinesHold (started {} (ascii "ABCD-EFGH") true) silentClient ∧
      (runFrom step (started {} (ascii "ABCD-EFGH") true) silentClient).stateOf 1
        = some .Authenticating := by
  refine ⟨handshake_deadlines_hold {} (ascii "ABCD-EFGH") true _ ?_, by decide +kernel⟩
  intro pre e post hes id hp
  obtain ⟨type, payload, now, later, rfl⟩ := frame_of_prolongs hp
  -- the hello is the only frame of the run
  rcases pre with _ | ⟨first, _ | ⟨second, pre⟩⟩
  · simp [silentClient] at hes
  · obtain ⟨rfl, htail⟩ := List.cons.inj hes
    obtain ⟨hframe, -⟩ := List.cons.inj htail
    obtain ⟨rfl, -⟩ := HostEvent.frame.inj hframe
    rw [← hframe] at hp
    exact absurd hp (by decide +kernel)
  · rcases pre with _ | ⟨third, pre⟩
    · simp [silentClient] at hes
    · simp [silentClient] at hes

/-- A client that pings after 9 s and never says hello. -/
def pingingStranger : List HostEvent :=
  [.newConnection (ascii "203.0.113.7:4000") 0, pingFrame 1 (seconds 9)]

/-- A client whose request nobody answers, and that pings after 60 s. -/
def pingingApplicant : List HostEvent :=
  [.newConnection (ascii "203.0.113.7:4000") 0,
    helloFrame 1 (ascii "ABCD-EFGH") (seconds 1), pingFrame 1 (seconds 60)]

/-- The first is still there after 15 s, the second undecided after 100 s. -/
theorem pinging_client_outstays :
    (runFrom step (started {} (ascii "ABCD-EFGH") true)
        (pingingStranger ++ [.tick (seconds 15)])).stateOf 1 = some .Connecting ∧
      ¬ DeadlinesHold (started {} (ascii "ABCD-EFGH") true)
        (pingingStranger ++ [.tick (seconds 15)]) ∧
    (runFrom step (started {} (ascii "ABCD-EFGH") true)
        (pingingApplicant ++ [.tick (seconds 100)])).stateOf 1 = some .Authenticating ∧
      ¬ DeadlinesHold (started {} (ascii "ABCD-EFGH") true)
        (pingingApplicant ++ [.tick (seconds 100)]) := by
  have hconn : (runFrom step (started {} (ascii "ABCD-EFGH") true)
      (pingingStranger ++ [.tick (seconds 15)])).stateOf 1 = some .Connecting := by
    decide +kernel
  have hauth : (runFrom step (started {} (ascii "ABCD-EFGH") true)
      (pingingApplicant ++ [.tick (seconds 100)])).stateOf 1 = some .Authenticating := by
    decide +kernel
  refine ⟨hconn, fun hhold => ?_, hauth, fun hhold => ?_⟩
  · have haccepted : lastMilestone (started {} (ascii "ABCD-EFGH") true) pingingStranger 1
        = some (.accepted 0) := by decide +kernel
    obtain ⟨t, hlast, hdue⟩ :=
      (hhold _ _ [] rfl (by decide +kernel) (by decide +kernel) 1).1 hconn
    obtain ⟨rfl⟩ := haccepted.symm.trans hlast
    exact absurd hdue (by decide)
  · have hentered : lastMilestone (started {} (ascii "ABCD-EFGH") true) pingingApplicant 1
        = some (.entered (seconds 1)) := by decide +kernel
    rcases (hhold _ _ [] rfl (by decide +kernel) (by decide +kernel) 1).2 hauth with
      hdecided | ⟨t, hlast, hdue⟩
    · exact absurd (hentered.symm.trans hdecided) (by decide)
    · obtain ⟨rfl⟩ := hentered.symm.trans hlast
      exact absurd hdue (by decide)

end Runs

end HostSession

end RemotePlay.Host
