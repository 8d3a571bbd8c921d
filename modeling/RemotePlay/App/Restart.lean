import RemotePlay.Client.Restart
import RemotePlay.Host.Restart

set_option autoImplicit false

/-! # Sessions that are started again

Both coordinators keep one session object and start it again and again. A later run is independent of
the earlier ones if these have come to rest before it starts: `finish` and `stop` do not see to that,
since they stop the loop without waiting for what they have posted. -/

namespace RemotePlay.App

open Client Host Net

/-- **A restarted session.** If each start of the client's session finds the attempts, connections
    and timers of the earlier runs settled, then none of their handlers affects it; and if each start
    of the host's session finds the cleanup of `stop` executed, and no client gets an id whose earlier
    connection is still to be closed, then nothing that `stop` has queued affects the host. -/
theorem restarted_independent (lost : ErrorCode → Option Bytes) (clientApp hostApp : Bool)
    (es : List ClientRunEvent) (fs : List HostRunEvent)
    (hsettled : ClientRuns.StartsSettled lost clientApp es)
    (horderly : HostRuns.RunsOrderly hostApp fs) :
    ClientRuns.Independent lost clientApp es ∧ HostRuns.Independent hostApp fs :=
  ⟨ClientRuns.independent_of_settled lost clientApp es hsettled,
    HostRuns.independent_of_orderly hostApp fs horderly⟩

/-! ## Runs with two starts -/

/-- The client connects and sends its hello. -/
def connects : List ClientRunEvent :=
  [.start {} false, .attemptEnds 1 none, .runHandler 0 0, .runHandler 0 0, .runHandler 0 0]

/-- The client is stopped after its `BYE` went out, and started again. -/
def leavesAndReturns : List ClientRunEvent :=
  connects ++ [.writeEnds 1 .success, .runHandler 0 0, .beginStop, .runHandler 0 0,
    .runHandler 0 0, .writeEnds 1 .success, .runHandler 0 0, .readEnds 1 (.other 125) [], .endStop,
    .start {} false]

/-- The loop of the host executes what `stop` has posted before it stops. A client is connected. -/
def stopsInTime : List HostRunEvent :=
  [.start {} [] true, .session (.newConnection [] 0), .beginStop, .runHandler 0 true,
    .runHandler 0 true, .runHandler 0 true, .endStop, .start {} [] true]

/-- The client's second run executes the failed read of the first one, and the host's second run the
    close of a connection of the first one. -/
theorem restarted_independent_in_time :
    (runFrom (ClientRuns.step fun _ => none) (ClientRuns.created false) leavesAndReturns).next =
        some ⟨1, .conn (.readDone (.other 125) [])⟩ ∧
      (runFrom HostRuns.step (HostRuns.created false) stopsInTime).next =
        some ⟨1, .closeConn 1⟩ ∧
      ClientRuns.Independent (fun _ => none) false (leavesAndReturns ++ [.runHandler 0 0]) ∧
      HostRuns.Independent false (stopsInTime ++ [.runHandler 0 true]) :=
  ⟨by decide +kernel, by decide +kernel,
    restarted_independent (fun _ => none) false false (leavesAndReturns ++ [.runHandler 0 0])
      (stopsInTime ++ [.runHandler 0 true]) (by decide +kernel) (by decide +kernel)⟩

/-- The frame of a kick without a reason. -/
def kickFrame : Bytes :=
  makeFrame Proto.Id.Kick.code 0
    (Proto.encodeMessage { type := .Kick, body := .kick { reason := [] } })

/-- The client is kicked and started again. -/
def kickedAndReturns : List ClientRunEvent :=
  connects ++ [.readEnds 1 .success (kickFrame.take 10), .runHandler 0 0,
    .readEnds 1 .success (kickFrame.drop 10), .runHandler 0 0, .start {} false]

/-- The host is stopped and started again, before its loop has taken the task of `stop`. -/
def stopsTooSoon : List HostRunEvent :=
  [.start {} [] true, .beginStop, .endStop, .start {} [] true]

/-- The connection of the first run closes in the second run and ends it as disconnected; the task of
    the first `stop` stops the second server. -/
theorem restarted_not_independent :
    ¬ ClientRuns.Independent (fun _ => none) false (kickedAndReturns ++ [.runHandler 0 0]) ∧
      ¬ HostRuns.Independent false (stopsTooSoon ++ [.runHandler 0 true]) := by
  constructor
  · intro hindependent
    have hstep := hindependent
      (runFrom (ClientRuns.step fun _ => none) (ClientRuns.created false) kickedAndReturns,
        .runHandler 0 0)
      ((mem_history_iff _ _ _ _ _).2 ⟨kickedAndReturns, [], rfl, rfl⟩) 0 0 ⟨1, .conn .close⟩ rfl
      (by decide +kernel) (by decide +kernel)
    exact absurd hstep.silent (by decide +kernel)
  · intro hindependent
    have hstep := hindependent
      (runFrom HostRuns.step (HostRuns.created false) stopsTooSoon, .runHandler 0 true)
      ((mem_history_iff _ _ _ _ _).2 ⟨stopsTooSoon, [], rfl, rfl⟩) 0 true ⟨1, .task .shutdown⟩ rfl
      (by decide +kernel) (by decide +kernel) (by decide +kernel)
    exact absurd hstep.server (by decide +kernel)

end RemotePlay.App
