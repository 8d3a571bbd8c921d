import RemotePlay.Input.Arrivals
import RemotePlay.Input.ControllerReader

set_option autoImplicit false

/-! # What the virtual pad shows

The sender sends a controller's state when it has changed, or after half a second, and the host makes a
report for ViGEm of each. With one controller at the client, the last report is that of the last state
that the thread has polled (`pad_shows_last_poll`): leaving out what has not changed loses nothing, and
a controller that is unplugged is not polled any more and stays as it was. -/

namespace RemotePlay.Input

/-- The controller state that a payload carries, if it carries one. -/
def stateOf (payload : Bytes) : Option GameControllerState :=
  match unpackInput payload with
  | some (.controller s) => some s
  | _ => none

/-- The controller states among payloads. -/
def statesIn (payloads : List Bytes) : List GameControllerState := payloads.filterMap stateOf

theorem stateOf_packControllerState (s : GameControllerState) :
    stateOf (packControllerState s) = some s := by
  rw [stateOf, unpackInput_packControllerState]

theorem stateOf_packInputEvent (e : InputEvent) : stateOf (packInputEvent e) = none := by
  rw [stateOf, unpackInput_packInputEvent]

/-- States that are equal but for version and time make one report. -/
theorem xusbReport_of_stateEqual {a b : GameControllerState} (h : stateEqual a b = true) :
    xusbReport a = xusbReport b := by
  unfold stateEqual at h
  simp only [Bool.and_eq_true, beq_iff_eq] at h
  obtain ⟨⟨⟨⟨⟨⟨⟨-, hbuttons⟩, hleft⟩, hright⟩, hlx⟩, hly⟩, hrx⟩, hry⟩ := h
  rw [xusbReport, xusbReport, hbuttons, hleft, hright, hlx, hly, hrx, hry]

theorem stateEqual_self (a : GameControllerState) : stateEqual a a = true := by simp [stateEqual]

/-- The thread is given what a poll of at most one controller reports. -/
def SenderEvent.OnePad : SenderEvent → Prop
  | .thread _ states => states.length ≤ 1 ∧ ∃ answers, states = ControllerReader.poll answers
  | _ => True

namespace InputSender

/-- The states that a step of the thread looks at. -/
def polls (s : InputSender) : SenderEvent → List GameControllerState
  | .thread _ states =>
      if s.position = .loop ∧ s.running ∧ s.controllerEnabled ∧ s.transport then states else []
  | _ => []

/-- What a step does to the states that were sent last, with one controller. -/
inductive Mirrors (last last' : Vector GameControllerState 4) (sent : List GameControllerState) :
    List GameControllerState → Prop where
  | nothing (hlast : last' = last) (hsent : sent = []) : Mirrors last last' sent []
  | same (state : GameControllerState) (hlast : last' = last) (hsent : sent = [])
      (hequal : stateEqual last[0] state = true) : Mirrors last last' sent [state]
  | sends (state : GameControllerState) (hlast : last'[0] = state) (hsent : sent = [state]) :
      Mirrors last last' sent [state]

variable {s : InputSender}

/-- One state is sent if it has changed or to keep the pad alive. -/
theorem mirrors_sendStates (keepalive : Bool) {states : List GameControllerState}
    (hone : states.length ≤ 1) :
    Mirrors s.lastSent (sendStates keepalive s 0 states).1.lastSent
      (statesIn (sendStates keepalive s 0 states).2) states := by
  match states, hone with
  | [], _ => exact .nothing rfl rfl
  | [state], _ =>
      rw [sendStates, dif_pos (by decide)]
      split
      · refine .sends state (Vector.getElem_set_self _) ?_
        exact List.filterMap_cons_some (stateOf_packControllerState state)
      · next hsame =>
          rw [Bool.or_eq_true, not_or, Bool.not_eq_true, Bool.not_eq_false'] at hsame
          exact .same state rfl rfl hsame.1

theorem mirrors_sendControllers (now : UInt64) {states : List GameControllerState}
    (hone : states.length ≤ 1) :
    Mirrors s.lastSent (s.sendControllers now states).1.lastSent
      (statesIn (s.sendControllers now states).2)
      (if s.controllerEnabled && s.transport then states else []) := by
  unfold sendControllers
  split
  · have hmirrors := mirrors_sendStates (s := s) (decide (500000000 < now - s.lastKeepaliveNs)) hone
    dsimp only
    split
    · exact hmirrors
    · exact hmirrors
  · exact .nothing rfl rfl

/-- **One step**, with one controller: what is polled is sent, or is what was sent last. -/
theorem mirrors_handle {e : SenderEvent} (hone : e.OnePad) :
    Mirrors s.lastSent (s.step e).lastSent (statesIn (s.handle e).2) (s.polls e) := by
  cases e with
  | queueEvent e =>
      refine .nothing ?_ rfl
      show (s.queueEvent e).lastSent = s.lastSent
      unfold queueEvent
      split <;> rfl
  | setEnabled controller keyboard mouse => exact .nothing rfl rfl
  | stop => exact .nothing rfl rfl
  | joined =>
      unfold step handle polls
      dsimp only
      split
      · exact .nothing rfl rfl
      · exact .nothing rfl rfl
  | thread now states =>
      show Mirrors s.lastSent (s.senderThread now states).1.lastSent
        (statesIn (s.senderThread now states).2) (s.polls (.thread now states))
      unfold senderThread
      split
      · next hposition =>
          split
          · next hrun =>
              have hpolls : s.polls (.thread now states) = [] :=
                if_neg fun h => by simp [h.2.1] at hrun
              rw [hpolls]
              exact .nothing rfl rfl
          · next hrun =>
              have hpolls : s.polls (.thread now states) =
                  if s.controllerEnabled && s.transport then states else [] := by
                simp only [polls, hposition, Bool.and_eq_true]
                simp at hrun
                simp [hrun]
              rw [hpolls]
              exact mirrors_sendControllers now hone.1
      · next hposition =>
          have hpolls : s.polls (.thread now states) = [] := if_neg (by simp [hposition])
          rw [hpolls]
          split
          · exact .nothing rfl rfl
          · exact .nothing rfl rfl
      · next hposition =>
          have hpolls : s.polls (.thread now states) = [] := if_neg (by simp [hposition])
          rw [hpolls]
          exact .nothing rfl rfl
      · next e toSend hposition =>
          have hpolls : s.polls (.thread now states) = [] := if_neg (by simp [hposition])
          rw [hpolls]
          split
          · exact .nothing rfl (List.filterMap_cons_none (stateOf_packInputEvent e))
          · exact .nothing rfl rfl
      · next hposition =>
          have hpolls : s.polls (.thread now states) = [] := if_neg (by simp [hposition])
          rw [hpolls]
          exact .nothing rfl rfl

theorem mem_polls {e : SenderEvent} (hone : e.OnePad) {state : GameControllerState}
    (h : state ∈ s.polls e) : state.version = 1 ∧ state.connected = 1 := by
  cases e with
  | thread now states =>
      obtain ⟨-, answers, rfl⟩ := hone
      unfold polls at h
      dsimp only at h
      split at h
      · exact ControllerReader.mem_poll h
      · cases h
  | _ => cases h

end InputSender

/-! ## Runs of the sender -/

namespace SenderTrace

/-- The states that the thread polls over a run, one after the other. -/
def polled (t : SenderTrace) (es : List SenderEvent) : List GameControllerState :=
  (history step t es).flatMap (fun q => q.1.sender.polls q.2)

/-- What the sender knows of its one controller after it has polled `seen`. -/
structure Mirror (t : SenderTrace) (seen : List GameControllerState) : Prop where
  sent : (statesIn t.sent).getLast? = seen.getLast?.map (fun _ => t.sender.lastSent[0])
  equal : ∀ state ∈ seen.getLast?, stateEqual t.sender.lastSent[0] state = true
  connected : ∀ state ∈ statesIn t.sent, state.version = 1 ∧ state.connected = 1
  fresh : seen = [] → t.sender.lastSent[0].connected = 0

theorem mirror_step {t : SenderTrace} {seen : List GameControllerState} (h : t.Mirror seen)
    {e : SenderEvent} (hone : e.OnePad) : (t.step e).Mirror (seen ++ t.sender.polls e) := by
  have hsent : statesIn (t.step e).sent = statesIn t.sent ++ statesIn (t.sender.handle e).2 :=
    List.filterMap_append
  have hconnected : ∀ state ∈ t.sender.polls e, state.version = 1 ∧ state.connected = 1 :=
    fun state hmem => InputSender.mem_polls hone hmem
  have hmirrors := t.sender.mirrors_handle hone
  generalize t.sender.polls e = polled at hconnected hmirrors ⊢
  cases hmirrors with
  | nothing hlast hnone =>
      have hlast : (t.step e).sender.lastSent = t.sender.lastSent := hlast
      rw [hnone, List.append_nil] at hsent
      rw [List.append_nil]
      constructor
      · rw [hsent, hlast]
        exact h.sent
      · rw [hlast]
        exact h.equal
      · rw [hsent]
        exact h.connected
      · rw [hlast]
        exact h.fresh
  | same state hlast hnone hequal =>
      have hlast : (t.step e).sender.lastSent = t.sender.lastSent := hlast
      rw [hnone, List.append_nil] at hsent
      have hne : seen ≠ [] := by
        -- a connected controller is not what the sender starts with
        intro hnil
        have hconnect : t.sender.lastSent[0].connected = state.connected := by
          simp only [stateEqual, Bool.and_eq_true, beq_iff_eq] at hequal
          exact hequal.1.1.1.1.1.1.1
        rw [h.fresh hnil, (hconnected state List.mem_cons_self).2] at hconnect
        exact absurd hconnect (by decide)
      constructor
      · rw [hsent, hlast, List.getLast?_concat, h.sent, List.getLast?_eq_some_getLast hne]
        rfl
      · rw [hlast, List.getLast?_concat]
        exact fun _ hmem => Option.some.inj hmem ▸ hequal
      · rw [hsent]
        exact h.connected
      · exact fun hnil => absurd hnil (by simp)
  | sends state hlast hsome =>
      have hlast : (t.step e).sender.lastSent[0] = state := hlast
      rw [hsome] at hsent
      constructor
      · rw [hsent, hlast, List.getLast?_concat, List.getLast?_concat]
        rfl
      · rw [hlast, List.getLast?_concat]
        exact fun _ hmem => Option.some.inj hmem ▸ stateEqual_self state
      · rw [hsent]
        intro other hother
        rcases List.mem_append.1 hother with hbefore | hnow
        · exact h.connected other hbefore
        · exact hconnected other hnow
      · exact fun hnil => absurd hnil (by simp)

theorem mirror_run (controllerSlot : UInt8) (now : UInt64) (es : List SenderEvent)
    (hone : ∀ e ∈ es, e.OnePad) :
    (runFrom step (started controllerSlot now) es).Mirror
      ((started controllerSlot now).polled es) := by
  induction es using List.reverseRecOn with
  | nil =>
      exact ⟨rfl, fun _ h => absurd h (by simp [polled]), fun _ h => absurd h List.not_mem_nil,
        fun _ => rfl⟩
  | append_singleton es e ih =>
      have hlast := ih fun d hd => hone d (List.mem_append_left _ hd)
      have hpolled : (started controllerSlot now).polled (es ++ [e]) =
          (started controllerSlot now).polled es ++
            (runFrom step (started controllerSlot now) es).sender.polls e := by
        rw [polled, history_concat, List.flatMap_append, List.flatMap_singleton]
        rfl
      rw [runFrom_concat, hpolled]
      exact mirror_step hlast (hone e (List.mem_append_right _ List.mem_cons_self))

end SenderTrace

/-! ## The host -/

namespace InputInjector

variable {j : InputInjector} {p : UInt8}

/-- The reports that calls hand to ViGEm for a player's pad. -/
def padReports (j : InputInjector) (playerIndex : UInt8) (ops : List InjectorOp) : List XUsbReport :=
  (history step j ops).filterMap (fun q => reports playerIndex q.1 q.2)

/-- While the player has a pad and may use it, every controller state is reported that is not turned
    away. -/
theorem padReports_applies (hcontroller : (j.enforced p).controller = true)
    (hpad : j.pads.hasPlayer p = true) (hclient : j.pads.client = true)
    (arrivals : List (Bytes × PlatformResults)) :
    j.padReports p (applies p arrivals) =
      ((statesIn (arrivals.map Prod.fst)).filterMap padReport).map xusbReport := by
  induction arrivals generalizing j with
  | nil => rfl
  | cons a arrivals ih =>
      have hnext := ih (j := (j.applyInput p a.1 a.2).1)
        (by rw [enforced_applyInput]; exact hcontroller) (by rw [pads_applyInput]; exact hpad)
        (by rw [pads_applyInput]; exact hclient)
      have hfirst : reports p j (.applyInput p a.1 a.2) =
          ((stateOf a.1).bind padReport).map xusbReport := by
        have hdecides : ((j.ensureClient p).client p).controller = true := by
          rw [client_ensureClient]
          exact hcontroller
        unfold reports reportsPad stateOf
        dsimp only
        rw [if_pos (by simp [hpad, hclient]), hdecides]
        cases unpackInput a.1 with
        | none => rfl
        | some payload => cases payload <;> rfl
      have hsplit : j.padReports p (applies p (a :: arrivals)) =
          (reports p j (.applyInput p a.1 a.2)).toList ++
            (j.applyInput p a.1 a.2).1.padReports p (applies p arrivals) := by
        rw [padReports, applies, List.map_cons, history_cons, List.filterMap_cons]
        cases reports p j (.applyInput p a.1 a.2) <;> rfl
      have hstates : statesIn ((a :: arrivals).map Prod.fst) =
          (stateOf a.1).toList ++ statesIn (arrivals.map Prod.fst) := by
        rw [List.map_cons, statesIn, List.filterMap_cons]
        cases stateOf a.1 <;> rfl
      rw [hsplit, hnext, hfirst, hstates, List.filterMap_append, List.map_append]
      cases stateOf a.1 with
      | none => rfl
      | some s =>
          rw [Option.bind_some, Option.toList_some, List.filterMap_cons, List.filterMap_nil]
          cases padReport s <;> rfl

end InputInjector

/-- **The virtual pad shows the last poll.** In every run of the sender with at most one controller: once
    the datagrams sent have arrived in order at a host where the player has a pad and may use it, the last
    report that ViGEm got is that of the last state polled, and there is none if none was polled. -/
theorem pad_shows_last_poll (slot : UInt8) (started : UInt64) (es : List SenderEvent)
    (hone : ∀ e ∈ es, e.OnePad) (j : InputInjector) (p : UInt8)
    (hcontroller : (j.enforced p).controller = true) (hpad : j.pads.hasPlayer p = true)
    (hclient : j.pads.client = true) (arrivals : List (Bytes × PlatformResults))
    (harrive : arrivals.map Prod.fst =
      (runFrom SenderTrace.step (.started slot started) es).sent) :
    (j.padReports p (applies p arrivals)).getLast? =
      ((SenderTrace.started slot started).polled es).getLast?.map xusbReport := by
  have hmirror := SenderTrace.mirror_run slot started es hone
  have hall : (statesIn (arrivals.map Prod.fst)).filterMap InputInjector.padReport =
      statesIn (arrivals.map Prod.fst) := by
    rw [harrive]
    refine (List.filterMap_congr fun state hmem => ?_).trans List.filterMap_some
    obtain ⟨hversion, hconnected⟩ := hmirror.connected state hmem
    rw [InputInjector.padReport, if_neg (not_not.2 hversion), if_neg (by rw [hconnected]; decide)]
  rw [InputInjector.padReports_applies hcontroller hpad hclient, hall, List.getLast?_map, harrive,
    hmirror.sent]
  cases hlast : ((SenderTrace.started slot started).polled es).getLast? with
  | none => rfl
  | some state =>
      rw [Option.map_some, Option.map_some, Option.map_some]
      exact congrArg some (xusbReport_of_stateEqual (hmirror.equal state hlast))

/-- What an Xbox controller in the first slot shows while A and the left trigger are held. -/
def holding : PollAnswers where
  xinput := #v[some #v[7, 0, 0, 0, 0x00, 0x10, 200, 0, 0, 0, 0, 0, 0, 0, 0, 0], none, none, none]

/-- It is polled, and then unplugged. -/
def unplugged : List SenderEvent :=
  [.thread 1 (ControllerReader.poll holding), .thread 2 [], .thread 3 (ControllerReader.poll {})]

/-- A host where player 0 has a pad. -/
def withPad : InputInjector :=
  runFrom InputInjector.step (.started true)
    [.setPermissions 0 { controller := false, keyboard := false, mouse := false, vibration := false } {},
      .setPermissions 0 { controller := true, keyboard := false, mouse := false, vibration := true } {}]

theorem pad_shows_last_poll_unplugged :
    (withPad.padReports 0 (applies 0 ((runFrom SenderTrace.step (.started 0 0) unplugged).sent.map
        (fun data => (data, {}))))).getLast? =
      ((SenderTrace.started 0 0).polled unplugged).getLast?.map xusbReport := by
  refine pad_shows_last_poll 0 0 unplugged ?_ withPad 0 (by decide +kernel) (by decide +kernel)
    (by decide +kernel) _ (by decide +kernel)
  intro e he
  simp only [unplugged, List.mem_cons, List.not_mem_nil, or_false] at he
  rcases he with rfl | rfl | rfl
  · exact ⟨by decide +kernel, holding, rfl⟩
  · exact ⟨by decide +kernel, {}, rfl⟩
  · exact ⟨by decide +kernel, {}, rfl⟩

/-- The virtual pad goes on holding A and the trigger. -/
example : ((SenderTrace.started 0 0).polled unplugged).getLast?.map xusbReport =
    some ⟨0x1000, 200, 0, 0, 0, 0, 0⟩ := by decide +kernel

end RemotePlay.Input
