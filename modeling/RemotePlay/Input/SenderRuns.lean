import RemotePlay.Input.InputSender
import RemotePlay.Lib.LastByKey
import RemotePlay.Lib.Runs

set_option autoImplicit false

/-! # What the sender leaves behind for each key

A `SenderTrace` is a sender beside the events it has queued and the datagrams it has sent. What has
been sent, what is left of the batch in hand and the queue make up what the host gets once the
thread has drained the queue; the host's last event of each key and button is to be the last one
queued. Only the `clear` of `queueEvent` can break that, and it does when it drops the last event of
a key or button that the call is not for: 257 mouse moves push a key up out of the queue. -/

namespace RemotePlay.Input

/-- A key or a mouse button. -/
inductive Control where
  | key (code : UInt8)
  | button (code : UInt8)
deriving DecidableEq, Repr

/-- The key or button of a down or up event. -/
def InputEvent.control (e : InputEvent) : Option Control :=
  match InputEventType.ofCode e.type with
  | some .KeyDown | some .KeyUp => some (.key e.code)
  | some .MouseButtonDown | some .MouseButtonUp => some (.button e.code)
  | _ => none

/-- The event that a payload carries, if it carries one. -/
def eventOf (payload : Bytes) : Option InputEvent :=
  match unpackInput payload with
  | some (.event e) => some e
  | _ => none

/-- The events among the payloads of input datagrams. -/
def eventsIn (payloads : List Bytes) : List InputEvent := payloads.filterMap eventOf

@[simp] theorem eventsIn_nil : eventsIn [] = [] := rfl

@[simp] theorem eventsIn_append (ps qs : List Bytes) :
    eventsIn (ps ++ qs) = eventsIn ps ++ eventsIn qs := List.filterMap_append

theorem eventOf_packInputEvent (e : InputEvent) : eventOf (packInputEvent e) = some e := by
  rw [eventOf, unpackInput_packInputEvent]

theorem eventOf_packControllerState (s : GameControllerState) :
    eventOf (packControllerState s) = none := by
  rw [eventOf, unpackInput_packControllerState]

/-- The call takes place with keyboard and mouse enabled after it as before it. -/
def SenderEvent.keepsEnabled : SenderEvent → Bool
  | .setEnabled _ keyboard mouse => keyboard && mouse
  | _ => true

def SenderEvent.isThread : SenderEvent → Bool
  | .thread _ _ => true
  | _ => false

namespace InputSender

/-- What is left of the batch in hand. -/
def pending (s : InputSender) : List InputEvent :=
  match s.position with
  | .sending toSend => toSend
  | _ => []

/-- The event that the call appends to the queue. -/
def queues (s : InputSender) : SenderEvent → List InputEvent
  | .queueEvent e => if s.accepts e then [e] else []
  | _ => []

/-- While the thread runs it has a transport, and it only ends after `stop`. -/
structure Live (s : InputSender) : Prop where
  transport : s.position ≠ .ended → s.transport = true
  ended : s.position = .ended → s.running = false

section Thread

variable (s : InputSender)

/-- Controller states change neither the queue nor the thread's place. -/
theorem sendStates_frame (keepalive : Bool) (i : Nat) (states : List GameControllerState) :
    ∃ packetsSent lastSent, (sendStates keepalive s i states).1
      = { s with packetsSent := packetsSent, lastSent := lastSent } := by
  induction states generalizing s i with
  | nil => exact ⟨s.packetsSent, s.lastSent, rfl⟩
  | cons state states ih =>
      unfold sendStates
      split
      · split
        · obtain ⟨packetsSent, lastSent, h⟩ := ih _ (i + 1)
          exact ⟨packetsSent, lastSent, h⟩
        · exact ih s (i + 1)
      · exact ⟨s.packetsSent, s.lastSent, rfl⟩

theorem eventsIn_sendStates (keepalive : Bool) (i : Nat) (states : List GameControllerState) :
    eventsIn (sendStates keepalive s i states).2 = [] := by
  induction states generalizing s i with
  | nil => rfl
  | cons state states ih =>
      unfold sendStates
      split
      · split
        · dsimp only
          rw [eventsIn, List.filterMap_cons_none (eventOf_packControllerState state)]
          exact ih _ (i + 1)
        · exact ih s (i + 1)
      · rfl

theorem sendControllers_frame (now : UInt64) (states : List GameControllerState) :
    ∃ packetsSent lastSent lastKeepaliveNs, (s.sendControllers now states).1
      = { s with
          packetsSent := packetsSent
          lastSent := lastSent
          lastKeepaliveNs := lastKeepaliveNs } := by
  unfold sendControllers
  split
  · obtain ⟨packetsSent, lastSent, h⟩ :=
      s.sendStates_frame (decide (500000000 < now - s.lastKeepaliveNs)) 0 states
    dsimp only
    split
    · exact ⟨packetsSent, lastSent, now, by rw [h]⟩
    · exact ⟨packetsSent, lastSent, s.lastKeepaliveNs, h⟩
  · exact ⟨s.packetsSent, s.lastSent, s.lastKeepaliveNs, rfl⟩

theorem eventsIn_sendControllers (now : UInt64) (states : List GameControllerState) :
    eventsIn (s.sendControllers now states).2 = [] := by
  unfold sendControllers
  split
  · dsimp only
    split
    · exact s.eventsIn_sendStates _ 0 states
    · exact s.eventsIn_sendStates _ 0 states
  · rfl

variable {s}

/-- **A step of the thread** passes events on and loses none. -/
theorem senderThread_spec (h : s.Live) (now : UInt64) (states : List GameControllerState) :
    (s.senderThread now states).1.Live ∧ (s.senderThread now states).1.running = s.running ∧
      eventsIn (s.senderThread now states).2 ++ (s.senderThread now states).1.pending ++
        (s.senderThread now states).1.eventQueue = s.pending ++ s.eventQueue := by
  unfold senderThread
  split
  · next hposition =>
      have htransport := h.transport (by simp [hposition])
      split
      · next hrun =>
          refine ⟨⟨fun hne => absurd rfl hne, fun _ => by simpa using hrun⟩, rfl, ?_⟩
          simp [pending, hposition]
      · obtain ⟨packetsSent, lastSent, lastKeepaliveNs, hframe⟩ :=
          s.sendControllers_frame now states
        have hout := s.eventsIn_sendControllers now states
        dsimp only
        rw [hframe, hout]
        exact ⟨⟨fun _ => htransport, by simp⟩, rfl, by simp [pending, hposition]⟩
  · next hposition =>
      have htransport := h.transport (by simp [hposition])
      split
      · next hempty => exact ⟨⟨fun _ => htransport, by simp⟩, rfl, by simp [pending, hposition]⟩
      · exact ⟨⟨fun _ => htransport, by simp⟩, rfl, by simp [pending, hposition]⟩
  · next hposition =>
      have htransport := h.transport (by simp [hposition])
      exact ⟨⟨fun _ => htransport, by simp⟩, rfl, by simp [pending, hposition]⟩
  · next e toSend hposition =>
      have htransport := h.transport (by simp [hposition])
      rw [if_pos htransport]
      refine ⟨⟨fun _ => htransport, by simp⟩, rfl, ?_⟩
      simp [pending, hposition, eventsIn, eventOf_packInputEvent]
  · exact ⟨h, rfl, rfl⟩

end Thread

/-! ## Calls -/

theorem queueEvent_of_accepts {s : InputSender} {e : InputEvent} (h : s.accepts e = true) :
    s.queueEvent e = { s with
      eventQueue := (if 256 < s.eventQueue.length then [] else s.eventQueue) ++ [e]
      eventsQueued := s.eventsQueued + 1 } := by
  simp [queueEvent, h]

theorem running_of_accepts {s : InputSender} {e : InputEvent} (h : s.accepts e = true) :
    s.running = true := by
  by_contra hrun
  simp [accepts, hrun] at h

end InputSender

/-! ## Traces -/

/-- A sender beside the events it has queued and the payloads it has sent. -/
structure SenderTrace where
  sender : InputSender
  queued : List InputEvent := []
  sent : List Bytes := []

namespace SenderTrace

def started (controllerSlot : UInt8) (now : UInt64) : SenderTrace :=
  { sender := .started controllerSlot now }

def step (t : SenderTrace) (e : SenderEvent) : SenderTrace :=
  { sender := t.sender.step e
    queued := t.queued ++ t.sender.queues e
    sent := t.sent ++ (t.sender.handle e).2 }

/-- Everything queued has been dealt with. -/
def Idle (t : SenderTrace) : Prop := t.sender.pending = [] ∧ t.sender.eventQueue = []

/-- For each key and button, the last event sent is the last event queued. -/
def NetState (t : SenderTrace) : Prop := SameLast InputEvent.control (eventsIn t.sent) t.queued

/-- The events that are beyond the queue: sent, or in the batch in hand. -/
def taken (t : SenderTrace) : List InputEvent := eventsIn t.sent ++ t.sender.pending

/-- The events that will have been sent once the queue is drained. -/
def delivered (t : SenderTrace) : List InputEvent := t.taken ++ t.sender.eventQueue

/-- The call finds more than 256 events in the queue, and drops with them the last event of a key or
    button that it is not for. -/
def discards (t : SenderTrace) : SenderEvent → Bool
  | .queueEvent e =>
      t.sender.accepts e && decide (256 < t.sender.eventQueue.length) &&
        (t.sender.eventQueue.filterMap InputEvent.control).any (fun c =>
          decide (e.control ≠ some c) &&
            decide (lastFor InputEvent.control c t.taken
              ≠ lastFor InputEvent.control c t.delivered))
  | _ => false

/-- What is delivered leaves behind what is queued. -/
structure Faithful (t : SenderTrace) : Prop where
  live : t.sender.Live
  net : SameLast InputEvent.control t.delivered t.queued

section Steps

variable {t : SenderTrace}

theorem faithful_started (controllerSlot : UInt8) (now : UInt64) :
    (started controllerSlot now).Faithful where
  live := ⟨fun _ => rfl, fun h => by cases h⟩
  net := .refl []

theorem netState_of_idle (hidle : t.Idle) :
    t.NetState ↔ SameLast InputEvent.control t.delivered t.queued := by
  rw [NetState, delivered, taken, hidle.1, hidle.2, List.append_nil, List.append_nil]

/-- **A step of the thread** changes neither what is queued nor what is delivered. -/
theorem step_thread (h : t.sender.Live) {e : SenderEvent} (he : e.isThread = true) :
    (t.step e).sender.Live ∧ (t.step e).sender.running = t.sender.running ∧
      (t.step e).queued = t.queued ∧ (t.step e).delivered = t.delivered := by
  cases e with
  | thread now states =>
      obtain ⟨hlive, hrun, hevents⟩ := InputSender.senderThread_spec h now states
      refine ⟨hlive, hrun, List.append_nil _, ?_⟩
      have hsplit : (t.step (.thread now states)).delivered = eventsIn t.sent ++
          (eventsIn (t.sender.senderThread now states).2 ++
            (t.sender.senderThread now states).1.pending ++
            (t.sender.senderThread now states).1.eventQueue) := by
        simp [delivered, taken, step, InputSender.step, InputSender.handle]
      rw [hsplit, hevents, ← List.append_assoc]
      rfl
  | _ => cases he

/-- **A call of `queueEvent`** keeps the net state exactly if it discards no last event. -/
theorem queueEvent_net_iff (h : t.Faithful) (e : InputEvent) :
    SameLast InputEvent.control (t.step (.queueEvent e)).delivered (t.step (.queueEvent e)).queued ↔
      t.discards (.queueEvent e) = false := by
  cases haccepts : t.sender.accepts e with
  | false =>
      have hsender : t.sender.queueEvent e = t.sender := by
        simp [InputSender.queueEvent, haccepts]
      have hsame : t.step (.queueEvent e) = t := by
        simp [step, InputSender.step, InputSender.handle, InputSender.queues, hsender, haccepts]
      rw [hsame]
      exact iff_of_true h.net (by simp [discards, haccepts])
  | true =>
      have hqueued : (t.step (.queueEvent e)).queued = t.queued ++ [e] := by
        simp [step, InputSender.queues, haccepts]
      by_cases hfull : 256 < t.sender.eventQueue.length
      · have hdelivered : (t.step (.queueEvent e)).delivered = t.taken ++ [e] := by
          simp [delivered, taken, step, InputSender.step, InputSender.handle, InputSender.pending,
            InputSender.queueEvent_of_accepts haccepts, hfull]
        have hkept := h.net.append [e]
        rw [hdelivered, hqueued]
        have hdrop : SameLast InputEvent.control (t.taken ++ [e]) (t.delivered ++ [e]) ↔
            ∀ c ∈ t.sender.eventQueue.filterMap InputEvent.control, e.control = some c ∨
              lastFor InputEvent.control c t.taken
                = lastFor InputEvent.control c t.delivered := sameLast_drop_iff _ _ e
        have hdiscards : t.discards (.queueEvent e) = false ↔
            ∀ c ∈ t.sender.eventQueue.filterMap InputEvent.control, e.control = some c ∨
              lastFor InputEvent.control c t.taken
                = lastFor InputEvent.control c t.delivered := by
          simp only [discards, haccepts, hfull, decide_true, Bool.and_self, Bool.true_and,
            List.any_eq_false, Bool.and_eq_true, decide_eq_true_eq, not_and, not_not]
          exact forall₂_congr fun c _ => Decidable.imp_iff_not_or.trans (by simp)
        rw [hdiscards, ← hdrop]
        exact ⟨fun hlost => hlost.trans hkept.symm, fun hsame => hsame.trans hkept⟩
      · have hdelivered : (t.step (.queueEvent e)).delivered = t.delivered ++ [e] := by
          simp [delivered, taken, step, InputSender.step, InputSender.handle, InputSender.pending,
            InputSender.queueEvent_of_accepts haccepts, hfull]
        rw [hdelivered, hqueued]
        exact iff_of_true (h.net.append [e]) (by simp [discards, hfull])

/-- Calls change neither the thread's place nor its transport. -/
theorem live_step (h : t.sender.Live) (e : SenderEvent) : (t.step e).sender.Live := by
  cases e with
  | queueEvent e =>
      have hframe : (t.sender.queueEvent e).position = t.sender.position ∧
          (t.sender.queueEvent e).transport = t.sender.transport ∧
          (t.sender.queueEvent e).running = t.sender.running := by
        unfold InputSender.queueEvent
        split
        · exact ⟨rfl, rfl, rfl⟩
        · exact ⟨rfl, rfl, rfl⟩
      obtain ⟨hposition, htransport, hrun⟩ := hframe
      exact ⟨fun hne => htransport.trans (h.transport (hposition ▸ hne)),
        fun hended => hrun.trans (h.ended (hposition ▸ hended))⟩
  | setEnabled controller keyboard mouse => exact ⟨h.transport, h.ended⟩
  | stop => exact ⟨h.transport, fun _ => rfl⟩
  | joined =>
      unfold step InputSender.step InputSender.handle
      dsimp only
      split
      · next hended => exact ⟨fun hne => absurd hended hne, h.ended⟩
      · exact h
  | thread now states => exact (step_thread h rfl).1

/-- **One step** keeps a trace faithful exactly if it discards no last event. -/
theorem Faithful.step_iff (h : t.Faithful) (e : SenderEvent) :
    (t.step e).Faithful ↔ t.discards e = false := by
  have hlive := live_step h.live e
  have hnet : SameLast InputEvent.control (t.step e).delivered (t.step e).queued ↔
      t.discards e = false := by
    cases e with
    | queueEvent e => exact queueEvent_net_iff h e
    | setEnabled controller keyboard mouse =>
        refine iff_of_true ?_ rfl
        simpa [delivered, taken, step, InputSender.step, InputSender.handle, InputSender.queues,
          InputSender.setEnabled, InputSender.pending] using h.net
    | stop =>
        refine iff_of_true ?_ rfl
        simpa [delivered, taken, step, InputSender.step, InputSender.handle, InputSender.queues,
          InputSender.pending] using h.net
    | joined =>
        refine iff_of_true ?_ rfl
        unfold step InputSender.step InputSender.handle
        dsimp only
        split
        · simpa [delivered, taken, InputSender.queues, InputSender.pending] using h.net
        · simpa [delivered, taken, InputSender.queues] using h.net
    | thread now states =>
        obtain ⟨-, -, hqueued, hdelivered⟩ := step_thread (e := .thread now states) h.live rfl
        rw [hqueued, hdelivered]
        exact iff_of_true h.net rfl
  exact ⟨fun hf => hnet.1 hf.net, fun hd => ⟨hlive, hnet.2 hd⟩⟩

/-! ## Draining -/

/-- **Steps of the thread** alone change neither what is queued nor what is delivered. -/
theorem run_thread (h : t.sender.Live) (ds : List SenderEvent)
    (hds : ∀ d ∈ ds, d.isThread = true) :
    (runFrom step t ds).queued = t.queued ∧ (runFrom step t ds).delivered = t.delivered := by
  induction ds generalizing t with
  | nil => exact ⟨rfl, rfl⟩
  | cons d ds ih =>
      obtain ⟨hlive, -, hqueued, hdelivered⟩ := step_thread h (hds d List.mem_cons_self)
      obtain ⟨hrest, hrest'⟩ := ih hlive fun d' hd' => hds d' (List.mem_cons_of_mem d hd')
      exact ⟨hrest.trans hqueued, hrest'.trans hdelivered⟩

/-- A drained trace shows whether what is delivered leaves behind what is queued. -/
theorem netState_drained_iff (h : t.sender.Live) {ds : List SenderEvent}
    (hds : ∀ d ∈ ds, d.isThread = true) (hidle : (runFrom step t ds).Idle) :
    (runFrom step t ds).NetState ↔ SameLast InputEvent.control t.delivered t.queued := by
  obtain ⟨hqueued, hdelivered⟩ := run_thread h ds hds
  rw [netState_of_idle hidle, hqueued, hdelivered]

theorem sender_run (t : SenderTrace) (ds : List SenderEvent) :
    (runFrom step t ds).sender = runFrom InputSender.step t.sender ds := by
  induction ds generalizing t with
  | nil => rfl
  | cons d ds ih => exact ih (t.step d)

end Steps

end SenderTrace

namespace InputSender

/-- Steps of the thread alone lead from one state to the other. -/
def DrainsTo (s s' : InputSender) : Prop :=
  ∃ ds : List SenderEvent, (∀ d ∈ ds, d.isThread = true) ∧ runFrom step s ds = s'

section Drain

variable {s s' s'' : InputSender}

theorem DrainsTo.trans (h : DrainsTo s s') (h' : DrainsTo s' s'') : DrainsTo s s'' := by
  obtain ⟨ds, hds, rfl⟩ := h
  obtain ⟨ds', hds', rfl⟩ := h'
  refine ⟨ds ++ ds', fun d hd => ?_, runFrom_append step s ds ds'⟩
  exact (List.mem_append.1 hd).elim (hds d) (hds' d)

theorem drainsTo_step (s : InputSender) : DrainsTo s (s.senderThread 0 []).1 :=
  ⟨[.thread 0 []], fun _ hd => by rw [List.mem_singleton.1 hd]; rfl, rfl⟩

/-- The thread sends the batch in hand. -/
theorem drains_batch {toSend : List InputEvent} (hposition : s.position = .sending toSend) :
    ∃ s', DrainsTo s s' ∧ s'.position = .loop ∧ s'.eventQueue = s.eventQueue ∧
      s'.running = s.running := by
  induction toSend generalizing s with
  | nil =>
      have hstep : (s.senderThread 0 []).1 = { s with position := .loop } := by
        simp [senderThread, hposition]
      have hdone := s.drainsTo_step
      rw [hstep] at hdone
      exact ⟨_, hdone, rfl, rfl, rfl⟩
  | cons e toSend ih =>
      have hnext : (s.senderThread 0 []).1.position = .sending toSend ∧
          (s.senderThread 0 []).1.eventQueue = s.eventQueue ∧
          (s.senderThread 0 []).1.running = s.running := by
        unfold senderThread
        rw [hposition]
        dsimp only
        split
        · exact ⟨rfl, rfl, rfl⟩
        · exact ⟨rfl, rfl, rfl⟩
      obtain ⟨hposition', hqueue, hrun⟩ := hnext
      obtain ⟨s', hdrains, hloop, hqueue', hrun'⟩ := ih hposition'
      exact ⟨s', s.drainsTo_step.trans hdrains, hloop, hqueue'.trans hqueue, hrun'.trans hrun⟩

/-- The thread takes the queue and sends it. -/
theorem drains_queue (hposition : s.position = .queue) :
    ∃ s', DrainsTo s s' ∧ s'.pending = [] ∧ s'.eventQueue = [] := by
  cases hqueue : s.eventQueue with
  | nil => exact ⟨s, ⟨[], by simp, rfl⟩, by simp [pending, hposition], hqueue⟩
  | cons e rest =>
      have hstep : (s.senderThread 0 []).1
          = { s with eventQueue := [], position := .sending (e :: rest) } := by
        simp [senderThread, hposition, hqueue]
      have htaken := s.drainsTo_step
      rw [hstep] at htaken
      obtain ⟨s', hdrains, hloop, hempty, -⟩ := drains_batch
        (s := { s with eventQueue := [], position := .sending (e :: rest) }) rfl
      exact ⟨s', htaken.trans hdrains, by simp [pending, hloop], hempty⟩

/-- From the head of the loop. -/
theorem drains_loop (hposition : s.position = .loop) (hrun : s.running = true) :
    ∃ s', DrainsTo s s' ∧ s'.pending = [] ∧ s'.eventQueue = [] := by
  have hqueue : (s.senderThread 0 []).1.position = .queue := by
    simp [senderThread, hposition, hrun]
  obtain ⟨s', hdrains, hidle⟩ := drains_queue hqueue
  exact ⟨s', s.drainsTo_step.trans hdrains, hidle⟩

/-- **A running sender drains its queue.** -/
theorem exists_drain (h : s.Live) (hrun : s.running = true) :
    ∃ s', DrainsTo s s' ∧ s'.pending = [] ∧ s'.eventQueue = [] := by
  cases hposition : s.position with
  | loop => exact drains_loop hposition hrun
  | queue => exact drains_queue hposition
  | sending toSend =>
      obtain ⟨s', hdrains, hloop, -, hrun'⟩ := drains_batch hposition
      obtain ⟨s'', hdrains', hidle⟩ := drains_loop hloop (hrun'.trans hrun)
      exact ⟨s'', hdrains.trans hdrains', hidle⟩
  | ended => exact absurd (h.ended hposition) (by simp [hrun])

end Drain

end InputSender

namespace SenderTrace

/-- Whenever the queue has been drained from here, the net state is right. -/
def DrainsRight (t : SenderTrace) : Prop :=
  ∀ ds : List SenderEvent, (∀ d ∈ ds, d.isThread = true) → (runFrom step t ds).Idle →
    (runFrom step t ds).NetState

theorem Faithful.drainsRight {t : SenderTrace} (h : t.Faithful) : t.DrainsRight :=
  fun _ hds hidle => (netState_drained_iff h.live hds hidle).2 h.net

/-- A call that discards a last event is seen once the queue has been drained. -/
theorem Faithful.discards_of_drainsRight {t : SenderTrace} (h : t.Faithful) (e : SenderEvent)
    (hright : (t.step e).DrainsRight) : t.discards e = false := by
  cases hdiscards : t.discards e with
  | false => rfl
  | true =>
      have hlive := live_step h.live e
      have hrun : (t.step e).sender.running = true := by
        cases e with
        | queueEvent e =>
            have haccepts : t.sender.accepts e = true := by
              simp only [discards, Bool.and_eq_true] at hdiscards
              exact hdiscards.1.1
            have hstep : (t.step (.queueEvent e)).sender = t.sender.queueEvent e := rfl
            rw [hstep, InputSender.queueEvent_of_accepts haccepts]
            exact InputSender.running_of_accepts haccepts
        | _ => cases hdiscards
      obtain ⟨s', ⟨ds, hds, hreach⟩, hpending, hqueue⟩ := InputSender.exists_drain hlive hrun
      have hsender : (runFrom step (t.step e) ds).sender = s' :=
        (sender_run (t.step e) ds).trans hreach
      have hidle : (runFrom step (t.step e) ds).Idle := by
        rw [Idle, hsender]
        exact ⟨hpending, hqueue⟩
      have hnet := (netState_drained_iff hlive hds hidle).1 (hright ds hds hidle)
      exact absurd ((h.step_iff e).1 ⟨hlive, hnet⟩) (by simp [hdiscards])

/-- **The queue preserves the net state of keys and buttons**, whenever it has been drained in a run
    or after a part of it, exactly if no call of the run discards a last event. -/
theorem net_state_preserved_iff (controllerSlot : UInt8) (now : UInt64) (es : List SenderEvent) :
    (∀ p ∈ history step (started controllerSlot now) es, (p.1.step p.2).DrainsRight) ↔
      ∀ p ∈ history step (started controllerSlot now) es, p.1.discards p.2 = false := by
  refine forall_history_iff step Faithful (fun t e => (t.step e).DrainsRight)
    (fun t e => t.discards e = false) ?_ ?_ _ es (faithful_started controllerSlot now)
  · intro t e h hkept
    have hstep := (h.step_iff e).2 hkept
    exact ⟨hstep.drainsRight, hstep⟩
  · intro t e h hright
    exact h.discards_of_drainsRight e hright

/-- A key goes down and is sent; its up and 256 mouse moves fill the queue, and one move more clears
    it. With keyboard and mouse enabled throughout, the last event sent for the key is the down. -/
theorem key_left_down :
    ¬ ∀ (controllerSlot : UInt8) (now : UInt64) (controller : Bool) (es : List SenderEvent),
      (∀ e ∈ es, e.keepsEnabled = true) →
      (runFrom step (started controllerSlot now) (.setEnabled controller true true :: es)).Idle →
      (runFrom step (started controllerSlot now)
        (.setEnabled controller true true :: es)).NetState := by
  intro hall
  let down : InputEvent := { type := 1, code := 65 }
  let up : InputEvent := { type := 2, code := 65 }
  let move : InputEvent := { type := 3 }
  let tick : SenderEvent := .thread 0 []
  let es : List SenderEvent :=
    [.queueEvent down, tick, tick, tick, tick, tick, .queueEvent up] ++
      List.replicate 257 (.queueEvent move) ++ [tick, tick, tick, tick]
  have hnet := hall 0 0 true es (by decide +kernel) ⟨by decide +kernel, by decide +kernel⟩
  exact absurd (hnet (.key 65)) (by decide +kernel)

end SenderTrace

end RemotePlay.Input
