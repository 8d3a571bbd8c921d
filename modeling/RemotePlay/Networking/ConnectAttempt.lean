import RemotePlay.Lib.Runs
import RemotePlay.Networking.RelayAdoption

set_option autoImplicit false

/-! # Connecting (`networking/TcpTransport.cpp`, `TcpClient`)

An attempt has a timer and a chain of operations, one outstanding at a time: resolve, connect, and
for a relay the handshake line and the replies. Whatever completes first with an outcome sets
`finished`, and later handlers look at it. An event is the handler of an outstanding operation, with
any error, or a call of `TcpClient::cancel`.

`ConnectAttempt` and `RelayConnectAttempt` share everything up to the connected socket, so they are
one structure here, with what tells them apart in `kind`; `TcpClient::cancel` takes the attempt for
a `ConnectAttempt` whichever it is. -/

namespace RemotePlay.Net

/-- `asio::error::operation_aborted`, which is `ERROR_OPERATION_ABORTED`. -/
def ErrorCode.operationAborted : ErrorCode := .other 995

/-- Which of the two attempts it is. -/
inductive AttemptKind where
  | direct
  | relay (token role : Bytes)
deriving DecidableEq, Repr

/-- The operations of an attempt, besides the timer's. -/
inductive AttemptOperation where
  | resolve
  | connect
  | sendHandshake
  | readReply
deriving DecidableEq, Repr

/-- `ConnectAttempt` or `RelayConnectAttempt`, after `start`. -/
structure ConnectAttempt where
  kind : AttemptKind
  /-- `timer.async_wait` is outstanding. -/
  timer : Bool := true
  /-- The outstanding operation of the chain. -/
  operation : Option AttemptOperation := some .resolve
  replyBuf : Bytes := []
  finished : Bool := false
deriving DecidableEq, Repr

inductive AttemptEvent where
  | timer (ec : ErrorCode)
  | resolved (ec : ErrorCode)
  | connected (ec : ErrorCode)
  | handshakeSent (ec : ErrorCode)
  /-- `async_read_until` completes; `received` is what it has added to the buffer. -/
  | replyRead (ec : ErrorCode) (received : Bytes)
  /-- `TcpClient::cancel`. -/
  | cancel
deriving DecidableEq, Repr

inductive AttemptEffect where
  /-- `result`, with the label of the connection if there is one. -/
  | result (ec : ErrorCode) (conn : Option Bytes)
  | asyncWrite (line : Bytes)
deriving DecidableEq, Repr

/-- The line of `sendHandshake`. -/
def handshakeLine (token role : Bytes) : Bytes :=
  ascii "\x7b\"type\":\"relay\",\"token\":\"" ++ token ++ ascii "\",\"role\":\"" ++ role ++
    ascii "\"\x7d\n"

namespace ConnectAttempt

/-- `finish`; what it cancels completes later, with any error. -/
def finish (ec : ErrorCode) (conn : Option Bytes) (a : ConnectAttempt) :
    ConnectAttempt × List AttemptEffect :=
  if a.finished then (a, []) else ({ a with finished := true }, [.result ec conn])

/-- `cancel`. -/
def cancel (a : ConnectAttempt) : ConnectAttempt :=
  if a.finished then a else { a with finished := true }

/-- The handler of the timer. -/
def timerDone (ec : ErrorCode) (a : ConnectAttempt) : ConnectAttempt × List AttemptEffect :=
  if ec = .operationAborted then (a, []) -- finished in time
  else if a.finished then (a, [])
  else a.finish .timedOut none

/-- The handler of `async_resolve`. -/
def resolveDone (ec : ErrorCode) (a : ConnectAttempt) : ConnectAttempt × List AttemptEffect :=
  if a.finished then (a, [])
  else if ec ≠ .success then a.finish ec none
  else ({ a with operation := some .connect }, [])

/-- The handler of `async_connect`; for a relay it goes on with `sendHandshake`. The source gives
    `async_write` a buffer over a local string there, which is gone when the write goes on later; here
    the line is taken to be written as it was. -/
def connectDone (ec : ErrorCode) (a : ConnectAttempt) : ConnectAttempt × List AttemptEffect :=
  if a.finished then (a, [])
  else if ec ≠ .success then a.finish ec none
  else
    match a.kind with
    | .direct => a.finish .success (some (ascii "client"))
    | .relay token role =>
        ({ a with operation := some .sendHandshake }, [.asyncWrite (handshakeLine token role)])

/-- `readReply`. -/
def readReply (a : ConnectAttempt) : ConnectAttempt := { a with operation := some .readReply }

/-- The handler of `sendHandshake`. -/
def handshakeDone (ec : ErrorCode) (a : ConnectAttempt) : ConnectAttempt × List AttemptEffect :=
  if a.finished then (a, [])
  else if ec ≠ .success then a.finish ec none
  else (a.readReply, [])

/-- The handler of `readReply`. -/
def replyDone (ec : ErrorCode) (received : Bytes) (a : ConnectAttempt) :
    ConnectAttempt × List AttemptEffect :=
  let a := { a with replyBuf := a.replyBuf ++ received }
  if a.finished then (a, [])
  else if ec ≠ .success then a.finish ec none
  else
    let (line, replyBuf) := getline a.replyBuf
    let a := { a with replyBuf := replyBuf }
    if finds line "relay_rejected" then a.finish .connectionRefused none
    else if finds line "relay_paired" then a.finish .success (some (ascii "relay"))
    -- relay_accepted: wait for the pairing line.
    else (a.readReply, [])

/-- The handler of `operation`, if it is the outstanding one. -/
def complete (a : ConnectAttempt) (operation : AttemptOperation)
    (handler : ConnectAttempt → ConnectAttempt × List AttemptEffect) :
    ConnectAttempt × List AttemptEffect :=
  if a.operation = some operation then handler { a with operation := none } else (a, [])

/-- A completed operation. -/
def handle (a : ConnectAttempt) : AttemptEvent → ConnectAttempt × List AttemptEffect
  | .timer ec => if a.timer then { a with timer := false }.timerDone ec else (a, [])
  | .resolved ec => a.complete .resolve (resolveDone ec)
  | .connected ec => a.complete .connect (connectDone ec)
  | .handshakeSent ec => a.complete .sendHandshake (handshakeDone ec)
  | .replyRead ec received => a.complete .readReply (replyDone ec received)
  | .cancel => (a, [])

end ConnectAttempt

/-- The calls of `result`. -/
def resultsOf (out : List AttemptEffect) : List (ErrorCode × Option Bytes) :=
  out.filterMap (fun effect =>
    match effect with
    | .result ec conn => some (ec, conn)
    | .asyncWrite _ => none)

/-- `TcpClient` with the attempt it has made, and the calls of `result` so far. -/
structure TcpClient where
  attempt : ConnectAttempt
  /-- `attempt_` is set. -/
  held : Bool := true
  /-- The behaviour is undefined from here on. -/
  undefined : Bool := false
  results : List (ErrorCode × Option Bytes) := []
deriving DecidableEq, Repr

namespace TcpClient

/-- `TcpClient::connect` or `TcpClient::connectRelay`. -/
def connect (kind : AttemptKind) : TcpClient := { attempt := { kind := kind } }

/-- `TcpClient::cancel`. The `static_pointer_cast` makes a `ConnectAttempt` of what is a
    `RelayConnectAttempt`, and `cancel` then works on other members. -/
def cancel (c : TcpClient) : TcpClient :=
  if !c.held then c
  else
    match c.attempt.kind with
    | .direct => { c with attempt := c.attempt.cancel, held := false }
    | .relay _ _ => { c with undefined := true }

def step (c : TcpClient) (e : AttemptEvent) : TcpClient :=
  match e with
  | .cancel => c.cancel
  | _ =>
      let (attempt, out) := c.attempt.handle e
      { c with attempt := attempt, results := c.results ++ resultsOf out }

end TcpClient

/-! ## What a handler can do -/

namespace ConnectAttempt

/-- A handler leaves the attempt as far as it was, or finishes it and reports once. -/
inductive AttemptOutcome (a : ConnectAttempt) : ConnectAttempt × List AttemptEffect → Prop where
  | waits (a' : ConnectAttempt) (out : List AttemptEffect) (hkind : a'.kind = a.kind)
      (hfinished : a'.finished = a.finished) (hout : resultsOf out = [])
      (hgoes : a.finished = false → a.operation ≠ none → a'.operation ≠ none) :
      AttemptOutcome a (a', out)
  | reports (a' : ConnectAttempt) (ec : ErrorCode) (conn : Option Bytes) (hkind : a'.kind = a.kind)
      (hopen : a.finished = false) (hfinished : a'.finished = true)
      (hconn : conn.isSome = true → ec = .success) : AttemptOutcome a (a', [.result ec conn])

section Outcome

variable (a : ConnectAttempt)

/-- Nothing happens once the attempt has finished. -/
theorem AttemptOutcome.late (hfinished : a.finished = true) (timer : Bool)
    (operation : Option AttemptOperation) (replyBuf : Bytes) :
    a.AttemptOutcome
      ({ a with timer := timer, operation := operation, replyBuf := replyBuf }, []) := by
  refine .waits _ _ rfl rfl rfl ?_
  intro hopen
  rw [hfinished] at hopen
  cases hopen

theorem AttemptOutcome.goesOn (timer : Bool) (operation : AttemptOperation) (replyBuf : Bytes)
    {out : List AttemptEffect} (hout : resultsOf out = []) :
    a.AttemptOutcome
      ({ a with timer := timer, operation := some operation, replyBuf := replyBuf }, out) :=
  .waits _ _ rfl rfl hout (fun _ _ => Option.some_ne_none _)

theorem finish_outcome (ec : ErrorCode) (conn : Option Bytes)
    (hconn : conn.isSome = true → ec = .success) (timer : Bool)
    (operation : Option AttemptOperation) (replyBuf : Bytes) :
    a.AttemptOutcome ({ a with
      timer := timer, operation := operation, replyBuf := replyBuf }.finish ec conn) := by
  unfold finish
  split
  · next hfinished => exact .late a hfinished timer operation replyBuf
  · next hopen => exact .reports _ _ _ rfl (Bool.eq_false_iff.2 hopen) rfl hconn

theorem fail_outcome (ec : ErrorCode) (timer : Bool) (operation : Option AttemptOperation)
    (replyBuf : Bytes) : a.AttemptOutcome ({ a with
      timer := timer, operation := operation, replyBuf := replyBuf }.finish ec none) :=
  a.finish_outcome ec none nofun timer operation replyBuf

theorem succeed_outcome (label : Bytes) (timer : Bool) (operation : Option AttemptOperation)
    (replyBuf : Bytes) : a.AttemptOutcome ({ a with
      timer := timer, operation := operation, replyBuf := replyBuf }.finish .success (some label)) :=
  a.finish_outcome .success (some label) (fun _ => rfl) timer operation replyBuf

theorem timerDone_outcome (ec : ErrorCode) :
    a.AttemptOutcome ({ a with timer := false }.timerDone ec) := by
  have hstays : a.AttemptOutcome ({ a with timer := false }, []) :=
    .waits _ _ rfl rfl rfl (fun _ h => h)
  unfold timerDone
  split
  · exact hstays
  split
  · exact hstays
  · exact a.fail_outcome .timedOut false a.operation a.replyBuf

theorem resolveDone_outcome (ec : ErrorCode) :
    a.AttemptOutcome ({ a with operation := none }.resolveDone ec) := by
  unfold resolveDone
  split
  · next hfinished => exact .late a hfinished a.timer none a.replyBuf
  split
  · exact a.fail_outcome ec a.timer none a.replyBuf
  · exact .goesOn a a.timer .connect a.replyBuf rfl

theorem connectDone_outcome (ec : ErrorCode) :
    a.AttemptOutcome ({ a with operation := none }.connectDone ec) := by
  unfold connectDone
  split
  · next hfinished => exact .late a hfinished a.timer none a.replyBuf
  split
  · exact a.fail_outcome ec a.timer none a.replyBuf
  split
  · exact a.succeed_outcome _ a.timer none a.replyBuf
  · exact .goesOn a a.timer .sendHandshake a.replyBuf rfl

theorem handshakeDone_outcome (ec : ErrorCode) :
    a.AttemptOutcome ({ a with operation := none }.handshakeDone ec) := by
  unfold handshakeDone
  split
  · next hfinished => exact .late a hfinished a.timer none a.replyBuf
  split
  · exact a.fail_outcome ec a.timer none a.replyBuf
  · exact .goesOn a a.timer .readReply a.replyBuf rfl

theorem replyDone_outcome (ec : ErrorCode) (received : Bytes) :
    a.AttemptOutcome ({ a with operation := none }.replyDone ec received) := by
  unfold replyDone
  dsimp only
  split
  · next hfinished => exact .late a hfinished a.timer none _
  split
  · exact a.fail_outcome _ a.timer none _
  split
  · exact a.fail_outcome _ a.timer none _
  split
  · exact a.succeed_outcome _ a.timer none _
  · exact .goesOn a a.timer .readReply _ rfl

theorem complete_outcome (operation : AttemptOperation)
    {handler : ConnectAttempt → ConnectAttempt × List AttemptEffect}
    (hhandler : a.AttemptOutcome (handler { a with operation := none })) :
    a.AttemptOutcome (a.complete operation handler) := by
  unfold complete
  split
  · exact hhandler
  · exact .waits _ _ rfl rfl rfl (fun _ h => h)

/-- **What a handler can do.** -/
theorem handle_outcome (e : AttemptEvent) : a.AttemptOutcome (a.handle e) := by
  cases e with
  | timer ec =>
      unfold handle
      dsimp only
      split
      · exact a.timerDone_outcome ec
      · exact .waits _ _ rfl rfl rfl (fun _ h => h)
  | resolved ec => exact a.complete_outcome .resolve (a.resolveDone_outcome ec)
  | connected ec => exact a.complete_outcome .connect (a.connectDone_outcome ec)
  | handshakeSent ec => exact a.complete_outcome .sendHandshake (a.handshakeDone_outcome ec)
  | replyRead ec received => exact a.complete_outcome .readReply (a.replyDone_outcome ec received)
  | cancel => exact .waits _ _ rfl rfl rfl (fun _ h => h)

end Outcome

end ConnectAttempt

/-! ## Reporting exactly once -/

namespace TcpClient

/-- All operations of the attempt have completed. -/
def Completed (c : TcpClient) : Prop := c.attempt.timer = false ∧ c.attempt.operation = none

/-- `cancel` has nothing to do: `attempt_` has been let go, or is a `ConnectAttempt` that has
    finished. -/
def spent (c : TcpClient) : Bool :=
  !c.held || decide (c.attempt.kind = .direct) && c.attempt.finished

/-- The attempt reports when it finishes, and not before. -/
structure Reporting (c : TcpClient) : Prop where
  defined : c.undefined = false
  waiting : c.attempt.finished = false →
    c.results = [] ∧ c.held = true ∧ c.attempt.operation ≠ none
  reported : c.attempt.finished = true →
    ∃ ec conn, c.results = [(ec, conn)] ∧ (conn.isSome = true → ec = .success)

/-- The attempt is over and has not reported, or its behaviour is undefined. -/
def Lost (c : TcpClient) : Prop :=
  c.undefined = true ∨ c.attempt.finished = true ∧ c.results = []

/-- A completed operation. -/
theorem step_eq {c : TcpClient} {e : AttemptEvent} (he : e ≠ .cancel) :
    c.step e = { c with
      attempt := (c.attempt.handle e).1, results := c.results ++ resultsOf (c.attempt.handle e).2 } := by
  cases e with
  | cancel => exact absurd rfl he
  | _ => rfl

theorem reporting_handle {c : TcpClient} (h : c.Reporting) {e : AttemptEvent} (he : e ≠ .cancel) :
    (c.step e).Reporting := by
  rw [step_eq he]
  have hout := c.attempt.handle_outcome e
  generalize c.attempt.handle e = result at hout
  cases hout with
  | waits a' out hkind hfinished hout hgoes =>
      dsimp only
      rw [hout, List.append_nil]
      refine ⟨h.defined, fun hopen => ?_, fun hdone => h.reported (hfinished.symm.trans hdone)⟩
      have hopen := hfinished.symm.trans hopen
      obtain ⟨hresults, hheld, hoperation⟩ := h.waiting hopen
      exact ⟨hresults, hheld, hgoes hopen hoperation⟩
  | reports a' ec conn hkind hopen hfinished hconn =>
      refine ⟨h.defined, fun hopen' => ?_, fun _ => ⟨ec, conn, ?_, hconn⟩⟩
      · exact absurd (hfinished.symm.trans hopen') (by decide)
      · show c.results ++ [(ec, conn)] = [(ec, conn)]
        rw [(h.waiting hopen).1, List.nil_append]

theorem lost_handle {c : TcpClient} (h : c.Lost) {e : AttemptEvent} (he : e ≠ .cancel) :
    (c.step e).Lost := by
  rw [step_eq he]
  rcases h with hundefined | ⟨hfinished, hresults⟩
  · exact .inl hundefined
  · have hout := c.attempt.handle_outcome e
    generalize c.attempt.handle e = result at hout
    cases hout with
    | waits a' out hkind hsame hout hgoes =>
        refine .inr ⟨hsame.trans hfinished, ?_⟩
        show c.results ++ resultsOf out = []
        rw [hout, hresults, List.append_nil]
    | reports a' ec conn hkind hopen hsame hconn =>
        exact absurd (hopen.symm.trans hfinished) (by decide)

/-- A `cancel` that has nothing to do comes after the outcome. -/
theorem Reporting.finished_of_spent {c : TcpClient} (h : c.Reporting) (hspent : c.spent = true) :
    c.attempt.finished = true := by
  by_contra hopen
  obtain ⟨-, hheld, -⟩ := h.waiting (Bool.eq_false_iff.2 hopen)
  rw [spent, hheld, Bool.eq_false_iff.2 hopen, Bool.and_false] at hspent
  cases hspent

theorem reporting_cancel {c : TcpClient} (h : c.Reporting) (hspent : c.spent = true) :
    (c.step .cancel).Reporting := by
  have hfinished := h.finished_of_spent hspent
  show c.cancel.Reporting
  unfold cancel ConnectAttempt.cancel
  split
  · exact h
  · next hheld =>
      split
      · refine ⟨h.defined, fun hopen => ?_, h.reported⟩
        exact absurd (hfinished.symm.trans hopen) (by decide)
      · next token role hkind =>
          rw [Bool.not_eq_true', Bool.not_eq_false] at hheld
          rw [spent, hheld, hkind] at hspent
          cases hspent

/-- A `cancel` that has something to do loses the report. -/
theorem lost_cancel {c : TcpClient} (h : c.Reporting) (hspent : ¬ c.spent = true) :
    (c.step .cancel).Lost := by
  show c.cancel.Lost
  unfold cancel ConnectAttempt.cancel
  split
  · next hheld =>
      rw [spent, hheld, Bool.true_or] at hspent
      exact absurd rfl hspent
  · next hheld =>
      split
      · next hkind =>
          have hopen : c.attempt.finished = false := by
            rw [spent, Bool.eq_false_iff.2 hheld, hkind, decide_eq_true rfl, Bool.true_and,
              Bool.false_or] at hspent
            exact Bool.eq_false_iff.2 hspent
          rw [if_neg (Bool.eq_false_iff.1 hopen)]
          exact .inr ⟨rfl, (h.waiting hopen).1⟩
      · exact .inl rfl

theorem lost_step {c : TcpClient} (h : c.Lost) (e : AttemptEvent) : (c.step e).Lost := by
  by_cases he : e = .cancel
  · subst he
    show c.cancel.Lost
    unfold cancel ConnectAttempt.cancel
    split
    · exact h
    split
    · rcases h with hundefined | ⟨hfinished, hresults⟩
      · exact .inl hundefined
      · rw [if_pos hfinished]
        exact .inr ⟨hfinished, hresults⟩
    · exact .inl rfl
  · exact lost_handle h he

/-- A step that has nothing to cancel. -/
theorem reporting_step {c : TcpClient} (h : c.Reporting) {e : AttemptEvent}
    (hspent : e = .cancel → c.spent = true) : (c.step e).Reporting := by
  by_cases he : e = .cancel
  · subst he
    exact reporting_cancel h (hspent rfl)
  · exact reporting_handle h he

theorem reporting_connect (kind : AttemptKind) : (connect kind).Reporting :=
  ⟨rfl, fun _ => ⟨rfl, rfl, nofun⟩, nofun⟩

/-- The result of an attempt that has completed: one call of `result`, with `operation_aborted` if
    `cancel` came before any other outcome, and with a connection only on success. -/
def ReportsOnce (kind : AttemptKind) (es : List AttemptEvent) : Prop :=
  (runFrom step (connect kind) es).undefined = false ∧
    ∃ ec conn, (runFrom step (connect kind) es).results = [(ec, conn)] ∧
      (∀ p ∈ history step (connect kind) es,
        p.2 = .cancel → p.1.attempt.finished = false → ec = .operationAborted) ∧
      (conn.isSome = true → ec = .success)

/-- **A connect attempt reports exactly once** it has completed, exactly if `cancel` was only called
    when it had nothing to do. -/
theorem reports_once_iff (kind : AttemptKind) (es : List AttemptEvent)
    (hcompleted : (runFrom step (connect kind) es).Completed) :
    ReportsOnce kind es ↔
      ∀ p ∈ history step (connect kind) es, p.2 = .cancel → p.1.spent = true := by
  have hruns := runFrom_absorbed step Reporting Lost (fun c e => e = .cancel → c.spent = true)
    (fun c e h hspent => reporting_step h hspent)
    (fun c e h hnot => by
      obtain ⟨rfl, hspent⟩ := Classical.not_imp.1 hnot
      exact lost_cancel h hspent)
    (fun c e h => lost_step h e) (connect kind) es (reporting_connect kind)
  rcases hruns with ⟨hall, hreporting⟩ | ⟨hnot, hlost⟩
  · refine iff_of_true ⟨hreporting.defined, ?_⟩ hall
    have hfinished : (runFrom step (connect kind) es).attempt.finished = true := by
      by_contra hopen
      exact (hreporting.waiting (Bool.eq_false_iff.2 hopen)).2.2 hcompleted.2
    obtain ⟨ec, conn, hresults, hconn⟩ := hreporting.reported hfinished
    refine ⟨ec, conn, hresults, ?_, hconn⟩
    have hstates := history_invariant step Reporting (fun c e => e = .cancel → c.spent = true)
      (fun c e h hspent => reporting_step h hspent) (connect kind) es (reporting_connect kind) hall
    intro p hp hcancel hopen
    have hdone := (hstates p hp).finished_of_spent (hall p hp hcancel)
    exact absurd (hopen.symm.trans hdone) (by decide)
  · refine iff_of_false ?_ hnot
    rintro ⟨hdefined, ec, conn, hresults, -⟩
    rcases hlost with hundefined | ⟨-, hnone⟩
    · rw [hdefined] at hundefined
      cases hundefined
    · rw [hnone] at hresults
      cases hresults

/-- An attempt that is cancelled after it has connected has reported once. -/
theorem reports_once_iff_connected :
    ReportsOnce .direct
        [.resolved .success, .connected .success, .cancel, .timer .operationAborted] ↔
      ∀ p ∈ history step (connect .direct)
        [.resolved .success, .connected .success, .cancel, .timer .operationAborted],
        p.2 = .cancel → p.1.spent = true :=
  reports_once_iff .direct _ ⟨rfl, rfl⟩

/-- An attempt that is cancelled while it resolves never reports. -/
theorem cancelled_never_reports :
    ¬ ∀ (kind : AttemptKind) (es : List AttemptEvent),
      (runFrom step (connect kind) es).Completed → ReportsOnce kind es := by
  intro hall
  have honce := hall .direct [.cancel, .resolved .operationAborted, .timer .operationAborted]
    ⟨rfl, rfl⟩
  obtain ⟨ec, conn, hresults, -⟩ := honce.2
  cases hresults

end TcpClient

end RemotePlay.Net
