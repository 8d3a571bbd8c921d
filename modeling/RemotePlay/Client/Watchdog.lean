import RemotePlay.Client.ClientSession
import RemotePlay.Host.HostSession
import RemotePlay.Lib.Runs

set_option autoImplicit false

/-! # The client's watchdog during the handshake

`startHeartbeat` runs two seconds after the start and every two seconds from then on, and ends a
session whose `lastActivity_` is more than 12 s back. That member is set by `handleConnected` and by
frames. Before the connect completes it still holds its initial value, the clock's epoch (or what an
earlier session of the same object left); while the host decides nothing refreshes it, since the
host sends nothing to a client that waits. -/

namespace RemotePlay.Client

open Proto (Id Body decodeMessage)

def kHeartbeatPeriod : Int := Host.seconds 2

/-- `connectTimeoutMs` of `ClientSessionParams`, by default. -/
def kConnectTimeout : Int := Host.seconds 5

/-- What the watchdog ends a session with. -/
def timedOut : ClientEffect := .onDisconnected (ascii "Connection timed out (no data from host)")

/-! ## Signs of the host -/

/-- The clock reading that a connect or a frame leaves in `lastActivity_`. -/
def ClientEvent.sign : ClientEvent → Option Int
  | .connected now => some now
  | .frame _ _ now _ => some now
  | _ => none

/-- The latest sign of the host in a run; `lastActivity` is from before the run. -/
def lastSign (lastActivity : Int) (es : List ClientEvent) : Int :=
  es.foldl (fun last e => e.sign.getD last) lastActivity

/-- The frame that tells the client of the host's decision. -/
def ClientEvent.decides : ClientEvent → Bool
  | .frame type _ _ _ => type = Id.HostApproved.code || type = Id.HostReject.code
  | _ => false

/-- The session's thread runs and nobody has asked it to stop. -/
def ClientSession.Live (s : ClientSession) : Prop := s.ioRunning = true ∧ s.stopping = false

instance (s : ClientSession) : Decidable s.Live := inferInstanceAs (Decidable (_ ∧ _))

/-- After the events `es` the session still connects, or waits for the host's decision. -/
def Pending (s₀ : ClientSession) (es : List ClientEvent) : Prop :=
  (runFrom ClientSession.step s₀ es).Live ∧ ∀ e ∈ es, e.decides = false

instance (s₀ : ClientSession) (es : List ClientEvent) : Decidable (Pending s₀ es) :=
  inferInstanceAs (Decidable (_ ∧ _))

/-! ## `lastActivity_` along a run -/

namespace ClientSession

/-- `t` has the activity time and the stop flag of `s`. -/
def SameClock (s t : ClientSession) : Prop :=
  t.lastActivity = s.lastActivity ∧ t.stopping = s.stopping

theorem send_sameClock (s : ClientSession) (msg : Proto.Envelope) : s.SameClock (s.send msg).1 := by
  unfold send
  split
  · exact ⟨rfl, rfl⟩
  · exact ⟨rfl, rfl⟩

theorem dispatch_sameClock (s : ClientSession) (type : UInt16) (payload : Bytes) (now : Int)
    (body : Body) : s.SameClock (s.dispatch type payload now body).1 := by
  cases body with
  | hostCapabilities m => exact send_sameClock _ _
  | ping m => exact send_sameClock _ _
  | negotiationResult m =>
      simp only [dispatch, handleNegotiation]
      split
      · exact ⟨rfl, rfl⟩
      · exact ⟨rfl, rfl⟩
  | _ => exact ⟨rfl, rfl⟩

theorem handleFrame_spec (s : ClientSession) (hlive : s.stopping = false) (type : UInt16)
    (payload : Bytes) (now later : Int) :
    (s.handleFrame type payload now later).1.lastActivity = now ∧
      (s.handleFrame type payload now later).1.stopping = false := by
  unfold handleFrame
  rw [if_neg (by simp [hlive])]
  dsimp only
  split
  · exact ⟨rfl, hlive⟩
  split
  · exact ⟨rfl, hlive⟩
  · obtain ⟨htime, hstop⟩ := dispatch_sameClock { s with lastActivity := now } type payload later _
    exact ⟨htime, hstop.trans hlive⟩

theorem startHeartbeat_sameClock (s : ClientSession) (now later : Int) :
    s.SameClock (s.startHeartbeat now later).1 := by
  unfold startHeartbeat
  split
  · exact ⟨rfl, rfl⟩
  split
  · exact ⟨rfl, rfl⟩
  split
  · exact send_sameClock _ _
  · exact ⟨rfl, rfl⟩

theorem handleConnected_spec (s : ClientSession) (now : Int) :
    (s.handleConnected now).1.lastActivity = now ∧
      (s.handleConnected now).1.stopping = s.stopping := by
  obtain ⟨htime, hstop⟩ := send_sameClock
    { s with
      connection := true
      lastActivity := now
      status := { s.status with bytesIn := 0, bytesOut := 0 } }
    { type := .ClientHello
      body := .clientHello
        { clientName := s.params.clientName
          sessionCode := s.params.sessionCode
          appVersion := kAppVersion } }
  exact ⟨htime, hstop⟩

/-- A step of a live session stores the sign that comes with it. -/
theorem step_lastActivity (s : ClientSession) (hlive : s.Live) (e : ClientEvent) :
    (s.step e).lastActivity = e.sign.getD s.lastActivity := by
  obtain ⟨hio, hstop⟩ := hlive
  have hrun : ¬ (!s.ioRunning) = true := by simp [hio]
  unfold step handle
  cases e with
  | sendAppMessage type payload =>
      dsimp only
      split
      · rfl
      · rfl
  | runTask =>
      dsimp only
      rw [if_neg hrun]
      split
      · rfl
      · rfl
  | connected now =>
      dsimp only
      rw [if_neg hrun]
      exact (s.handleConnected_spec now).1
  | connectFailed message =>
      dsimp only
      rw [if_neg hrun]
      rfl
  | frame type payload now later =>
      dsimp only
      rw [if_neg hrun]
      exact (s.handleFrame_spec hstop type payload now later).1
  | closed lost =>
      dsimp only
      rw [if_neg hrun]
      unfold handleClosed
      split
      · rfl
      split
      · rfl
      · rfl
  | heartbeat now later =>
      dsimp only
      rw [if_neg hrun]
      exact (s.startHeartbeat_sameClock now later).1
  | beginStop =>
      dsimp only
      split
      · rfl
      · rfl
  | endStop =>
      dsimp only
      split
      · rfl
      split
      · rfl
      · rfl

/-- A session that is over stays so. -/
theorem live_of_step (s : ClientSession) (e : ClientEvent) (h : (s.step e).Live) : s.Live := by
  by_contra hdead
  -- the io thread of a dead session can only be running while it stops
  have hstop : ¬ (!s.ioRunning) = true → s.stopping = true := by
    intro hio
    rw [Bool.not_eq_true', Bool.not_eq_false] at hio
    rw [← Bool.not_eq_false]
    exact fun hgoes => hdead ⟨hio, hgoes⟩
  apply hdead
  revert h
  unfold step handle Live
  cases e with
  | sendAppMessage type payload =>
      dsimp only
      split
      · exact id
      · exact id
  | runTask =>
      dsimp only
      split
      · exact id
      split
      · exact id
      · exact id
  | connected now =>
      dsimp only
      split
      · exact id
      next hio =>
      rw [(s.handleConnected_spec now).2]
      exact fun h => ⟨by simpa using hio, h.2⟩
  | connectFailed message =>
      dsimp only
      split
      · exact id
      · exact fun h => absurd h.1 (by simp [failWith, finish])
  | frame type payload now later =>
      dsimp only
      split
      · exact id
      next hio =>
      simp only [handleFrame, hstop hio, if_true]
      exact id
  | closed lost =>
      dsimp only
      split
      · exact id
      next hio =>
      simp only [handleClosed, hstop hio, if_true]
      exact id
  | heartbeat now later =>
      dsimp only
      split
      · exact id
      next hio =>
      simp only [startHeartbeat, hstop hio, if_true]
      exact id
  | beginStop =>
      dsimp only
      split
      · exact fun h => absurd h.2 (by simp [post])
      · exact id
  | endStop =>
      dsimp only
      split
      · exact id
      split
      · exact fun h => absurd h.1 (by simp [withStatus])
      · exact fun h => absurd h.1 (by simp)

/-- **What the watchdog measures from.** As long as the session is live, `lastActivity_` is the
    latest sign of the run. -/
theorem run_lastActivity (s₀ : ClientSession) (es : List ClientEvent)
    (hlive : (runFrom step s₀ es).Live) :
    (runFrom step s₀ es).lastActivity = lastSign s₀.lastActivity es := by
  induction es using List.reverseRecOn with
  | nil => rfl
  | append_singleton es e ih =>
      rw [runFrom_concat] at hlive ⊢
      have hbefore := live_of_step _ e hlive
      rw [step_lastActivity _ hbefore, ih hbefore, lastSign, lastSign, List.foldl_append]
      rfl

/-- The watchdog fires on a live session exactly when the limit has passed. -/
theorem timedOut_mem_heartbeat_iff (s : ClientSession) (hlive : s.Live) (now later : Int) :
    timedOut ∈ (s.handle (.heartbeat now later)).2 ↔ kHeartbeatTimeout < now - s.lastActivity := by
  obtain ⟨hio, hstop⟩ := hlive
  have hrun : ¬ (!s.ioRunning) = true := by simp [hio]
  simp only [handle, if_neg hrun, startHeartbeat, hstop, Bool.false_eq_true, if_false]
  split
  · next hlate => exact iff_of_true (by simp [finish, timedOut]) hlate
  next hsoon =>
  refine iff_of_false ?_ hsoon
  split
  · unfold send
    split
    · simp
    · simp [timedOut]
  · simp

end ClientSession

/-! ## Pending sessions -/

/-- The watchdog does not end the session while it connects or waits for the host's decision. -/
def SparesPending (s₀ : ClientSession) (es : List ClientEvent) : Prop :=
  ∀ pre now later post, es = pre ++ .heartbeat now later :: post → Pending s₀ pre →
    timedOut ∉ ((runFrom ClientSession.step s₀ pre).handle (.heartbeat now later)).2

/-- **When the watchdog spares a pending session.** For every run of a session that was started with
    any activity time: no heartbeat ends it before the connect has completed or while the host
    decides, exactly when each such heartbeat reads the clock at most 12 s after the latest sign of
    the host, which before the connect is the activity time from before the start. -/
theorem watchdog_spares_pending_iff (params : ClientSessionParams) (appHandler : Bool)
    (lastActivity : Int) (es : List ClientEvent) :
    SparesPending { ClientSession.started params appHandler with lastActivity := lastActivity } es ↔
      ∀ pre now later post, es = pre ++ .heartbeat now later :: post →
        Pending { ClientSession.started params appHandler with lastActivity := lastActivity } pre →
          now - lastSign lastActivity pre ≤ kHeartbeatTimeout := by
  generalize hs : ({ ClientSession.started params appHandler with
    lastActivity := lastActivity } : ClientSession) = s₀
  have hsign : ∀ pre, Pending s₀ pre →
      (runFrom ClientSession.step s₀ pre).lastActivity = lastSign lastActivity pre := by
    intro pre hpending
    rw [ClientSession.run_lastActivity s₀ pre hpending.1, ← hs]
  constructor
  · intro hspares pre now later post hes hpending
    have hnot := hspares pre now later post hes hpending
    rw [ClientSession.timedOut_mem_heartbeat_iff _ hpending.1, hsign pre hpending] at hnot
    omega
  · intro hsoon pre now later post hes hpending
    have hle := hsoon pre now later post hes hpending
    rw [ClientSession.timedOut_mem_heartbeat_iff _ hpending.1, hsign pre hpending]
    omega

/-! ## Two healthy attempts -/

def ClientEvent.tick : ClientEvent → Option Int
  | .heartbeat now _ => some now
  | _ => none

def ClientEvent.connectTime : ClientEvent → Option Int
  | .connected now => some now
  | _ => none

/-- When the host's decision arrives. -/
def ClientEvent.decisionTime (e : ClientEvent) : Option Int := if e.decides then e.sign else none

/-- A healthy attempt: the clock does not go back, the timer fires no earlier than it was set to,
    the connect completes within its timeout and the host decides within its approval window. -/
def Healthy (start connectTimeout : Int) (es : List ClientEvent) : Prop :=
  (start :: es.filterMap (fun e => e.sign.or e.tick)).Pairwise (· ≤ ·) ∧
    (start :: es.filterMap ClientEvent.tick).Pairwise (fun a b => a + kHeartbeatPeriod ≤ b) ∧
    ∃ connect ∈ es.filterMap ClientEvent.connectTime, connect ≤ start + connectTimeout ∧
      ∃ decision ∈ es.filterMap ClientEvent.decisionTime,
        connect ≤ decision ∧ decision ≤ connect + Host.kApprovalTimeout

instance (start connectTimeout : Int) (es : List ClientEvent) :
    Decidable (Healthy start connectTimeout es) :=
  inferInstanceAs (Decidable (_ ∧ _ ∧ _))

/-- Approval at a time in seconds. -/
def approvedAt (t : Int) : ClientEvent :=
  .frame Id.HostApproved.code [] (Host.seconds t) (Host.seconds t)

def tickAt (t : Int) : ClientEvent := .heartbeat (Host.seconds t) (Host.seconds t)

/-- Started 100 s after the clock's epoch, connected 3 s later. -/
def slowConnect : List ClientEvent :=
  [tickAt 102, .connected (Host.seconds 103), tickAt 104, approvedAt 105]

/-- Connected 1 s after the start, approved 20 s after that. -/
def slowApproval : List ClientEvent :=
  [.connected (Host.seconds 101), tickAt 102, tickAt 104, tickAt 106, tickAt 108, tickAt 110,
    tickAt 112, tickAt 114, tickAt 116, tickAt 118, tickAt 120, approvedAt 121]

/-- The watchdog ends a session while it connects, and another one while the host decides. -/
theorem watchdog_ends_pending :
    (Healthy (Host.seconds 100) kConnectTimeout slowConnect ∧
      ¬ SparesPending (ClientSession.started {} true) slowConnect) ∧
    (Healthy (Host.seconds 100) kConnectTimeout slowApproval ∧
      ¬ SparesPending (ClientSession.started {} true) slowApproval) := by
  refine ⟨⟨by decide +kernel, ?_⟩, by decide +kernel, ?_⟩
  · intro hspares
    exact absurd (hspares [] _ _ _ rfl (by decide +kernel)) (by decide +kernel)
  · intro hspares
    exact absurd (hspares [.connected (Host.seconds 101), tickAt 102, tickAt 104, tickAt 106,
      tickAt 108, tickAt 110, tickAt 112] _ _ _ rfl (by decide +kernel)) (by decide +kernel)

end RemotePlay.Client
