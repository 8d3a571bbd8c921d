import RemotePlay.App.InputForwarding
import RemotePlay.Input.Arrivals
import RemotePlay.Input.DeskState
import RemotePlay.Input.SenderDelivery

set_option autoImplicit false

/-! # From the window to the desktop

The coordinator never has an input sender (`nothing_is_forwarded`). With one that is there when a stream
starts, what Qt reports to the client's widget becomes events, the sender queues and sends them, and
the host makes `INPUT` records of them. When the datagrams arrive in the order in which they were sent, the
desktop gets a record for every event that was queued, in this order, as long as the queue does not
overflow (`desktop_gets_the_queue`). So a key of the desktop is down exactly if the last signal for it
was a press (`desktop_holds_key`); a release that Qt reports because the key repeats is such a signal,
and the press that repeats is none. -/

namespace RemotePlay.Input

/-! ## What a key shows -/

/-- What a record does to a key or button. -/
def SentInput.touches (k : DeskKey) (input : SentInput) : Option Bool :=
  if input.target = some k then some input.presses else none

/-- What the desktop shows of a key after the last record that was for it. -/
def DeskKey.shows (d : DeskState) (playerIndex : UInt8) (k : DeskKey) : Option Bool → Option UInt8
  | none => d k
  | some pressed => if pressed then some playerIndex else none

theorem DeskState.foldl_take_eq (p : UInt8) (out : List SentInput) (d : DeskState) (k : DeskKey) :
    out.foldl (DeskState.take p) d k = k.shows d p (out.filterMap (SentInput.touches k)).getLast? := by
  induction out using List.reverseRecOn with
  | nil => rfl
  | append_singleton out input ih =>
      rw [List.foldl_append, List.foldl_cons, List.foldl_nil, take_apply, List.filterMap_append]
      by_cases htarget : input.target = some k
      · have htouches : input.touches k = some input.presses := if_pos htarget
        rw [if_pos htarget, List.filterMap_cons_some htouches, List.filterMap_nil,
          List.getLast?_concat]
        rfl
      · have htouches : input.touches k = none := if_neg htarget
        rw [if_neg htarget, ih, List.filterMap_cons_none htouches, List.filterMap_nil,
          List.append_nil]

/-- The desktop after datagrams whose records `SendInput` takes. -/
theorem DeskHost.desk_applies (s : DeskHost) (p : UInt8) {arrivals : List (Bytes × PlatformResults)}
    (hio : ∀ a ∈ arrivals, a.2.sendInput = true) :
    (runFrom DeskHost.step s (applies p arrivals)).desk =
      (s.injector.records (applies p arrivals)).foldl (DeskState.take p) s.desk := by
  induction arrivals generalizing s with
  | nil => rfl
  | cons a arrivals ih =>
      have hsucceeds : (InjectorOp.applyInput p a.1 a.2).succeeds = true := hio a List.mem_cons_self
      have hnext : s.step (.applyInput p a.1 a.2) =
          { injector := (s.injector.applyInput p a.1 a.2).1
            desk := (s.injector.applyInput p a.1 a.2).2.2.foldl (DeskState.take p) s.desk } := by
        rw [DeskHost.step, if_pos hsucceeds]
        rfl
      have hfirst : s.injector.records (applies p (a :: arrivals)) =
          (s.injector.applyInput p a.1 a.2).2.2 ++
            (s.injector.applyInput p a.1 a.2).1.records (applies p arrivals) := rfl
      rw [hfirst, List.foldl_append]
      have hrest := ih (s.step (.applyInput p a.1 a.2)) fun b hb => hio b (List.mem_cons_of_mem _ hb)
      rw [hnext] at hrest
      exact (congrArg DeskHost.desk (congrArg (runFrom DeskHost.step · _) hnext)).trans hrest

end RemotePlay.Input

namespace RemotePlay.Input

/-! ## While the keyboard is enabled -/

/-- The call leaves the keyboard enabled and the sender running. -/
def SenderEvent.keepsKeyboard : SenderEvent → Bool
  | .setEnabled _ keyboard _ => keyboard
  | .stop => false
  | _ => true

/-- The event of a call of `queueEvent`. -/
def SenderEvent.call : SenderEvent → Option InputEvent
  | .queueEvent e => some e
  | _ => none

/-- The sender takes keyboard events. -/
structure InputSender.TakesKeys (s : InputSender) : Prop where
  running : s.running = true
  enabled : s.keyboardEnabled = true

namespace InputSender.TakesKeys

variable {s : InputSender}

theorem accepts (h : s.TakesKeys) {e : InputEvent} (hkey : InputInjector.keyboardEvent e = true) :
    s.accepts e = true := by
  simp [InputSender.accepts, h.running, h.enabled, hkey]

theorem step (h : s.TakesKeys) {e : SenderEvent} (hkeeps : e.keepsKeyboard = true) :
    (s.step e).TakesKeys := by
  cases e with
  | queueEvent e =>
      show (s.queueEvent e).TakesKeys
      unfold InputSender.queueEvent
      split
      · exact h
      · exact ⟨h.running, h.enabled⟩
  | setEnabled controller keyboard mouse => exact ⟨h.running, hkeeps⟩
  | stop => cases hkeeps
  | joined =>
      show ((if s.position = .ended then ({ s with transport := false }, []) else (s, []) :
        InputSender × List Bytes).1).TakesKeys
      split
      · exact ⟨h.running, h.enabled⟩
      · exact h
  | thread now states =>
      show (s.senderThread now states).1.TakesKeys
      obtain ⟨packetsSent, lastSent, lastKeepaliveNs, hframe⟩ := s.sendControllers_frame now states
      unfold InputSender.senderThread
      split
      · split
        · exact ⟨h.running, h.enabled⟩
        · dsimp only
          rw [hframe]
          exact ⟨h.running, h.enabled⟩
      · split
        · exact ⟨h.running, h.enabled⟩
        · exact ⟨h.running, h.enabled⟩
      · exact ⟨h.running, h.enabled⟩
      · split
        · exact ⟨h.running, h.enabled⟩
        · exact ⟨h.running, h.enabled⟩
      · exact h

theorem run (h : s.TakesKeys) {t : SenderTrace} (ht : t.sender = s) (es : List SenderEvent)
    (hkeeps : ∀ e ∈ es, e.keepsKeyboard = true) : (runFrom SenderTrace.step t es).sender.TakesKeys := by
  induction es generalizing s t with
  | nil => exact ht ▸ h
  | cons e es ih =>
      have hnext : (t.step e).sender = s.step e := congrArg (InputSender.step · e) ht
      exact ih (h.step (hkeeps e List.mem_cons_self)) hnext fun d hd =>
        hkeeps d (List.mem_cons_of_mem _ hd)

end InputSender.TakesKeys

/-- Nothing of the keyboard is turned away. -/
theorem SenderTrace.queued_keys {β : Type*} {g : InputEvent → Option β}
    (hg : ∀ e, InputInjector.keyboardEvent e = false → g e = none) {t : SenderTrace}
    (h : t.sender.TakesKeys) (es : List SenderEvent) (hkeeps : ∀ e ∈ es, e.keepsKeyboard = true) :
    (runFrom step t es).queued.filterMap g =
      t.queued.filterMap g ++ es.filterMap (fun e => e.call.bind g) := by
  induction es generalizing t with
  | nil => rw [runFrom_nil, List.filterMap_nil, List.append_nil]
  | cons e es ih =>
      have hfirst : (t.sender.queues e).filterMap g = (e.call.bind g).toList := by
        cases e with
        | queueEvent e =>
            show (if t.sender.accepts e then [e] else []).filterMap g = (g e).toList
            cases hkey : InputInjector.keyboardEvent e with
            | true =>
                rw [if_pos (h.accepts hkey)]
                cases hgive : g e <;> simp [hgive]
            | false =>
                rw [hg e hkey, Option.toList_none]
                split
                · rw [List.filterMap_cons_none (hg e hkey), List.filterMap_nil]
                · rfl
        | _ => rfl
      rw [runFrom_cons, ih (h.step (hkeeps e List.mem_cons_self)) fun d hd =>
        hkeeps d (List.mem_cons_of_mem _ hd)]
      show (t.queued ++ t.sender.queues e).filterMap g ++ _ = _
      rw [List.filterMap_append, hfirst, List.append_assoc, List.filterMap_cons]
      cases e.call.bind g <;> rfl

end RemotePlay.Input

namespace RemotePlay.App

open Input

/-! ## Key codes -/

/-- The code of a key in its events. -/
def keyCode (key : Int) : UInt8 := (qtKeyToVk key).toUInt8

/-- The key on the desktop. -/
def deskKey (key : Int) : DeskKey := .key (keyCode key) (isExtendedKey key)

/-- The keys that have a code. -/
def mappedKeys : List Int :=
  (List.range 26).map (fun i : Nat => 0x41 + (i : Int)) ++
    (List.range 10).map (fun i : Nat => 0x30 + (i : Int)) ++
    (List.range 24).map (fun i : Nat => Key_F1 + (i : Int)) ++ vkCases.map Prod.fst

theorem mem_mappedKeys {key : Int} (h : keyCode key ≠ 0) : key ∈ mappedKeys := by
  have hmem : ∀ (n : Nat) (a : Int), a ≤ key → key < a + n →
      key ∈ (List.range n).map (fun i : Nat => a + (i : Int)) := by
    intro n a hlo hhi
    have hindex : (key - a).toNat < n := by omega
    have hkey : a + ((key - a).toNat : Int) = key := by omega
    exact List.mem_map.2 ⟨(key - a).toNat, List.mem_range.2 hindex, hkey⟩
  unfold mappedKeys
  simp only [List.mem_append]
  unfold keyCode qtKeyToVk at h
  split at h
  · next hletter => exact .inl (.inl (.inl (hmem 26 0x41 hletter.1 (by omega))))
  split at h
  · next hdigit => exact .inl (.inl (.inr (hmem 10 0x30 hdigit.1 (by omega))))
  split at h
  · next hf =>
      unfold Key_F1 Key_F24 at hf
      exact .inl (.inr (hmem 24 Key_F1 hf.1 (by unfold Key_F1; omega)))
  · refine .inr (List.mem_map.2 ?_)
    cases hlookup : vkCases.lookup key with
    | none => exact absurd (by rw [hlookup]; rfl) h
    | some vk =>
        obtain ⟨before, after, hcases, -⟩ := List.lookup_eq_some_iff.1 hlookup
        rw [hcases]
        exact ⟨(key, vk), List.mem_append_right _ List.mem_cons_self, rfl⟩

/-- **No two keys have one code**, but for Return and Enter. -/
theorem keyCode_inj {key key' : Int} (h : keyCode key = keyCode key') (hne : keyCode key' ≠ 0)
    (hreturn : key' ≠ Key_Return) (henter : key' ≠ Key_Enter) : key = key' := by
  have hall : ∀ k ∈ mappedKeys, ∀ k' ∈ mappedKeys, keyCode k = keyCode k' →
      k' ≠ Key_Return → k' ≠ Key_Enter → k = k' := by decide +kernel
  exact hall key (mem_mappedKeys (h ▸ hne)) key' (mem_mappedKeys hne) h hreturn henter

/-! ## Signals -/

/-- What a signal says about a key: it goes down or up. A press that repeats says nothing. -/
def keySignal (key : Int) : WidgetSignal → Option Bool
  | .keyPressed k autorepeat => if k = key ∧ autorepeat = false then some true else none
  | .keyReleased k => if k = key then some false else none
  | _ => none

/-- What an event does to a key of the desktop. -/
def touchedBy (k : DeskKey) (e : InputEvent) : Option Bool := e.input.bind (SentInput.touches k)

theorem touchedBy_of_mouse (key : Int) {e : InputEvent}
    (h : InputInjector.keyboardEvent e = false) : touchedBy (deskKey key) e = none := by
  unfold touchedBy
  cases hinput : e.input with
  | none => rfl
  | some input =>
      have hclass := InputInjector.keyboardEvent_of_input hinput
      rw [h] at hclass
      cases input with
      | key vk down extended => cases hclass
      | mouseMove x y => rfl
      | mouseButton button down => rfl
      | mouseWheel delta => rfl

section Signals

variable {key : Int} (hne : keyCode key ≠ 0) (hreturn : key ≠ Key_Return) (henter : key ≠ Key_Enter)
include hne hreturn henter

/-- The event of a key touches the key on the desktop, and no other. -/
theorem touches_deskKey (k : Int) (down : Bool) {extended : Bool} (h : extended = isExtendedKey k) :
    (if keyCode k = 0 then none else some (.key (keyCode k) down extended) : Option SentInput).bind
        (SentInput.touches (deskKey key)) = if k = key then some down else none := by
  subst h
  by_cases hk : k = key
  · subst hk
    rw [if_neg hne, if_pos rfl, Option.bind_some]
    exact if_pos rfl
  · rw [if_neg hk]
    split
    · rfl
    · refine if_neg fun heq => hk ?_
      exact keyCode_inj (DeskKey.key.inj (Option.some.inj heq)).1 hne hreturn henter

/-- **One signal** does to the desktop's key what it says about the key. -/
theorem touchedBy_inputEvent (video : QRect) (now : UInt64) (signal : WidgetSignal) :
    (inputEvent video now signal).bind (touchedBy (deskKey key)) = keySignal key signal := by
  have hflag : ∀ k, ((if isExtendedKey k then 1 else 0 : UInt8) &&& 1 != 0) = isExtendedKey k := by
    intro k
    cases isExtendedKey k <;> rfl
  have hkey : ∀ k down, touchedBy (deskKey key)
      { type := if down then 1 else 2
        code := keyCode k
        flags := if isExtendedKey k then 1 else 0
        timestampNs := now } = if k = key then some down else none := by
    intro k down
    cases down with
    | true => exact touches_deskKey hne hreturn henter k true (hflag k)
    | false => exact touches_deskKey hne hreturn henter k false (hflag k)
  cases signal with
  | keyPressed k autorepeat =>
      cases autorepeat with
      | true => exact (if_neg fun h => Bool.false_ne_true h.2.symm).symm
      | false =>
          rw [keySignal]
          simp only [and_true]
          exact hkey k true
  | keyReleased k => exact hkey k false
  | mouseMoved x y =>
      rw [inputEvent, Option.bind_some]
      exact touchedBy_of_mouse key rfl
  | mouseButtonPressed button =>
      rw [inputEvent, Option.bind_some]
      exact touchedBy_of_mouse key rfl
  | mouseButtonReleased button =>
      rw [inputEvent, Option.bind_some]
      exact touchedBy_of_mouse key rfl
  | mouseWheel delta =>
      rw [inputEvent, Option.bind_some]
      exact touchedBy_of_mouse key rfl
  | toggleFullscreenRequested => rfl
  | escapePressed => rfl

end Signals

/-! ## Runs -/

/-- The event leaves the keyboard enabled and the sender running. -/
def ForwardEvent.keepsKeyboard : ForwardEvent → Bool
  | .setKeyboardMouseEnabled kb _ => kb
  | .inputPermissions _ keyboard _ => keyboard
  | .streamStop | .stop | .joined _ => false
  | .widget .. | .streaming .. | .thread .. => true

/-- The calls of a sender that is wired and runs, and the steps of its thread. -/
def senderEvents : VideoWidget → List ForwardEvent → List SenderEvent
  | _, [] => []
  | w, .widget e video now :: es =>
      (forwards w e video now).map .queueEvent ++ senderEvents (w.handle e).1 es
  | w, .setKeyboardMouseEnabled kb mouse :: es => .setEnabled true kb mouse :: senderEvents w es
  | w, .inputPermissions controller keyboard mouse :: es =>
      .setEnabled controller keyboard mouse :: senderEvents w es
  | w, .streaming .. :: es => senderEvents w es
  | w, .streamStop :: es | w, .stop :: es => .stop :: senderEvents w es
  | w, .joined _ :: es => .joined :: senderEvents w es
  | w, .thread now states :: es => .thread now states :: senderEvents w es

/-- The signals of a run. -/
def signals : VideoWidget → List ForwardEvent → List WidgetSignal
  | _, [] => []
  | w, .widget e _ _ :: es => (w.handle e).2 ++ signals (w.handle e).1 es
  | w, _ :: es => signals w es

/-- **A wired coordinator** drives its sender by these calls, as long as the keyboard stays enabled. -/
theorem run_wired {t : SenderTrace} (h : t.sender.TakesKeys) (w : VideoWidget)
    (es : List ForwardEvent) (hkeeps : ∀ e ∈ es, e.keepsKeyboard = true) :
    (runFrom InputForwarding.step
      { videoWidget := some w, inputSender := some t, inputWired := true } es).inputSender =
      some (runFrom SenderTrace.step t (senderEvents w es)) := by
  induction es generalizing t w with
  | nil => rfl
  | cons e es ih =>
      have hrest := fun e' he' => hkeeps e' (List.mem_cons_of_mem _ he')
      have hfirst := hkeeps e List.mem_cons_self
      rw [runFrom_cons]
      cases e with
      | widget e video now =>
          have hnow : ∀ d ∈ (forwards w e video now).map SenderEvent.queueEvent,
              d.keepsKeyboard = true := by
            intro d hd
            obtain ⟨event, -, rfl⟩ := List.mem_map.1 hd
            rfl
          rw [senderEvents, runFrom_append]
          exact ih (h.run rfl _ hnow) (w.handle e).1 hrest
      | setKeyboardMouseEnabled kb mouse =>
          exact ih (h.step (e := .setEnabled true kb mouse) hfirst) w hrest
      | inputPermissions controller keyboard mouse =>
          exact ih (h.step (e := .setEnabled controller keyboard mouse) hfirst) w hrest
      | thread now states => exact ih (h.step (e := .thread now states) rfl) w hrest
      | streaming alive slot kb mouse discover now =>
          have hsame : InputForwarding.step
              { videoWidget := some w, inputSender := some t, inputWired := true }
              (.streaming alive slot kb mouse discover now) =
                { videoWidget := some w, inputSender := some t, inputWired := true } := by
            simp [InputForwarding.step, InputForwarding.streaming, h.running]
          rw [hsame]
          exact ih h w hrest
      | streamStop | stop | joined => cases hfirst

/-- What the events of a run do to a key is what the signals say. -/
theorem filterMap_senderEvents {key : Int} (hne : keyCode key ≠ 0) (hreturn : key ≠ Key_Return)
    (henter : key ≠ Key_Enter) (w : VideoWidget) (es : List ForwardEvent) :
    (senderEvents w es).filterMap (fun d => d.call.bind (touchedBy (deskKey key))) =
      (signals w es).filterMap (keySignal key) := by
  induction es generalizing w with
  | nil => rfl
  | cons e es ih =>
      cases e with
      | widget e video now =>
          have hnow : ((forwards w e video now).map SenderEvent.queueEvent).filterMap
              (fun d => d.call.bind (touchedBy (deskKey key))) =
              (w.handle e).2.filterMap (keySignal key) := by
            rw [forwards, List.filterMap_map, List.filterMap_filterMap]
            exact List.filterMap_congr fun signal _ =>
              touchedBy_inputEvent hne hreturn henter video now signal
          rw [senderEvents, signals, List.filterMap_append, List.filterMap_append, hnow, ih]
      | _ => exact ih w

theorem keepsKeyboard_senderEvents {es : List ForwardEvent}
    (h : ∀ e ∈ es, e.keepsKeyboard = true) (w : VideoWidget) :
    ∀ d ∈ senderEvents w es, d.keepsKeyboard = true := by
  induction es generalizing w with
  | nil => exact fun d hd => absurd hd List.not_mem_nil
  | cons e es ih =>
      have hfirst := h e List.mem_cons_self
      have hrest := ih fun e' he' => h e' (List.mem_cons_of_mem _ he')
      intro d hd
      cases e with
      | widget e video now =>
          rcases List.mem_append.1 hd with hnow | hlater
          · obtain ⟨event, -, rfl⟩ := List.mem_map.1 hnow
            rfl
          · exact hrest _ d hlater
      | streaming => exact hrest w d hd
      | streamStop | stop | joined => cases hfirst
      | setKeyboardMouseEnabled | inputPermissions | thread =>
          rcases List.mem_cons.1 hd with rfl | hlater
          · exact hfirst
          · exact hrest w d hlater

/-- The sender's side of a run that starts with the permissions being set. -/
def sending (w : VideoWidget) (controller keyboard mouse : Bool) (es : List ForwardEvent) :
    List SenderEvent := .setEnabled controller keyboard mouse :: senderEvents w es

/-- A coordinator that has been given an input sender. -/
def supplied (w : VideoWidget) : InputForwarding :=
  { videoWidget := some w, inputSender := some { sender := .created } }

/-- A stream starts, and then the run goes on. -/
def streamed (slot : UInt8) (mouse : Bool) (started : UInt64) (es : List ForwardEvent) :
    List ForwardEvent := .streaming true slot true mouse true started :: es

theorem run_supplied (w : VideoWidget) (slot : UInt8) (mouse : Bool) (started : UInt64)
    (es : List ForwardEvent) (hkeeps : ∀ e ∈ es, e.keepsKeyboard = true) :
    (runFrom InputForwarding.step (supplied w) (streamed slot mouse started es)).inputSender =
      some (runFrom SenderTrace.step (.started slot started) (sending w true true mouse es)) := by
  have hstart : (supplied w).step (.streaming true slot true mouse true started) =
      { videoWidget := some w
        inputSender := some (SenderTrace.step (.started slot started) (.setEnabled true true mouse))
        inputWired := true } := by
    simp only [supplied, InputForwarding.step, InputForwarding.streaming, InputSender.start_created]
    rfl
  rw [streamed, runFrom_cons, hstart]
  exact run_wired ⟨rfl, rfl⟩ w es hkeeps

/-- No call of a run overflows the queue. -/
def Unhurried (slot : UInt8) (started : UInt64) (es : List SenderEvent) : Prop :=
  ∀ q ∈ history SenderTrace.step (.started slot started) es, q.1.overflows q.2 = false

section Delivery

variable (slot : UInt8) (started : UInt64) (es : List SenderEvent)

theorem eventsIn_sent_of_idle
    (hidle : (runFrom SenderTrace.step (.started slot started) es).Idle) :
    eventsIn (runFrom SenderTrace.step (.started slot started) es).sent =
      (runFrom SenderTrace.step (.started slot started) es).delivered := by
  rw [SenderTrace.delivered, SenderTrace.taken, hidle.1, hidle.2, List.append_nil, List.append_nil]

/-- **The desktop gets what was queued.** Once the queue is drained and the datagrams have arrived in
    order at a host that permits the player keyboard and mouse, the records for `SendInput` are among
    those of the events that were queued, in their order; all events have been sent exactly if the queue
    never overflowed, and then the records are all of theirs. -/
theorem desktop_gets_the_queue (j : InputInjector) (p : UInt8)
    (hkeyboard : (j.enforced p).keyboard = true) (hmouse : (j.enforced p).mouse = true)
    (hidle : (runFrom SenderTrace.step (.started slot started) es).Idle)
    (arrivals : List (Bytes × PlatformResults))
    (harrive : arrivals.map Prod.fst = (runFrom SenderTrace.step (.started slot started) es).sent) :
    let t := runFrom SenderTrace.step (.started slot started) es
    (j.records (applies p arrivals)).Sublist (t.queued.filterMap InputEvent.input) ∧
      (eventsIn t.sent = t.queued ↔ Unhurried slot started es) ∧
      (Unhurried slot started es →
        j.records (applies p arrivals) = t.queued.filterMap InputEvent.input) := by
  intro t
  have hrecords : j.records (applies p arrivals) = t.delivered.filterMap InputEvent.input := by
    have hinjects : j.injects p = fun data => (eventOf data).bind InputEvent.input := by
      funext data
      rw [InputInjector.injects_eq, hkeyboard, hmouse]
      simp only [ite_self, if_true]
    rw [InputInjector.records_applies, harrive, hinjects, ← eventsIn_sent_of_idle slot started es hidle,
      eventsIn, List.filterMap_filterMap]
  have hall := SenderTrace.delivered_eq_queued_iff slot started es
  rw [hrecords, eventsIn_sent_of_idle slot started es hidle]
  refine ⟨(SenderTrace.delivered_sublist slot started es).filterMap _, hall, fun hcalm => ?_⟩
  exact congrArg (List.filterMap InputEvent.input) (hall.2 hcalm)

end Delivery

/-- **What the desktop shows of a key.** In every run of a coordinator that has been given a sender before
    a stream starts, with the keyboard enabled throughout and a queue that does not overflow: once the
    queue is drained, the datagrams have arrived in order and `SendInput` has taken their records, a key
    of the desktop is down exactly if the last signal for the key was a press, and as it was before if
    there was none. -/
theorem desktop_holds_key (w : VideoWidget) (slot : UInt8) (started : UInt64) (mouse : Bool)
    (es : List ForwardEvent) (hkeeps : ∀ e ∈ es, e.keepsKeyboard = true)
    (hcalm : Unhurried slot started (sending w true true mouse es)) {t : SenderTrace}
    (hrun : (runFrom InputForwarding.step (supplied w)
      (streamed slot mouse started es)).inputSender = some t)
    (hidle : t.Idle)
    (s : DeskHost) (p : UInt8) (hkeyboard : (s.injector.enforced p).keyboard = true)
    (arrivals : List (Bytes × PlatformResults)) (hio : ∀ a ∈ arrivals, a.2.sendInput = true)
    (harrive : arrivals.map Prod.fst = t.sent)
    {key : Int} (hne : keyCode key ≠ 0) (hreturn : key ≠ Key_Return) (henter : key ≠ Key_Enter) :
    (runFrom DeskHost.step s (applies p arrivals)).desk (deskKey key) =
      (deskKey key).shows s.desk p ((signals w es).filterMap (keySignal key)).getLast? := by
  rw [run_supplied w slot mouse started es hkeeps] at hrun
  obtain rfl := Option.some.inj hrun
  rw [DeskHost.desk_applies s p hio, DeskState.foldl_take_eq, InputInjector.records_applies, harrive,
    List.filterMap_filterMap]
  refine congrArg (fun l : List Bool => (deskKey key).shows s.desk p l.getLast?) ?_
  -- the keyboard permission is enough for the key's events
  have hinjects : ∀ data, (s.injector.injects p data).bind (SentInput.touches (deskKey key)) =
      (eventOf data).bind (touchedBy (deskKey key)) := by
    intro data
    rw [InputInjector.injects_eq]
    cases eventOf data with
    | none => rfl
    | some e =>
        rw [Option.bind_some, Option.bind_some]
        cases hclass : InputInjector.keyboardEvent e with
        | true =>
            rw [if_pos (by exact hkeyboard)]
            rfl
        | false =>
            rw [touchedBy_of_mouse key hclass, if_neg Bool.false_ne_true]
            cases (s.injector.enforced p).mouse with
            | true => exact touchedBy_of_mouse key hclass
            | false => rfl
  calc (runFrom SenderTrace.step (.started slot started) (sending w true true mouse es)
        ).sent.filterMap (fun data =>
          (s.injector.injects p data).bind (SentInput.touches (deskKey key)))
    _ = (eventsIn (runFrom SenderTrace.step (.started slot started)
          (sending w true true mouse es)).sent).filterMap (touchedBy (deskKey key)) := by
        rw [eventsIn, List.filterMap_filterMap]
        exact List.filterMap_congr fun data _ => hinjects data
    _ = (runFrom SenderTrace.step (.started slot started)
          (sending w true true mouse es)).queued.filterMap (touchedBy (deskKey key)) := by
        rw [eventsIn_sent_of_idle _ _ _ hidle,
          (SenderTrace.delivered_eq_queued_iff slot started _).2 hcalm]
    _ = (senderEvents w es).filterMap (fun d => d.call.bind (touchedBy (deskKey key))) := by
        rw [sending, runFrom_cons]
        exact SenderTrace.queued_keys (fun e he => touchedBy_of_mouse key he) ⟨rfl, rfl⟩ _
          (keepsKeyboard_senderEvents hkeeps w)
    _ = (signals w es).filterMap (keySignal key) :=
        filterMap_senderEvents hne hreturn henter w es

/-- The A key goes down and is held until it repeats: Qt reports a release and a press. -/
def holdsA : List ForwardEvent :=
  [.widget (.keyPress 0x41 false) ⟨0, 0, 640, 360⟩ 1, .widget (.keyRelease 0x41) ⟨0, 0, 640, 360⟩ 2,
    .widget (.keyPress 0x41 true) ⟨0, 0, 640, 360⟩ 2, .thread 3 [], .thread 3 [], .thread 3 [],
    .thread 3 [], .thread 3 []]

/-- A host that permits player 0 everything. -/
def permitting : DeskHost :=
  (DeskHost.started true).step (.setPermissions 0
    { controller := true, keyboard := true, mouse := true, vibration := true } {})

/-- The datagrams of `holdsA` arrive. -/
def arrivalsOfA : List (Bytes × PlatformResults) :=
  (runFrom SenderTrace.step (.started 0 0) (sending {} true true true holdsA)).sent.map
    (fun data => (data, {}))

theorem desktop_gets_the_queue_holdsA :
    let t := runFrom SenderTrace.step (.started 0 0) (sending {} true true true holdsA)
    (permitting.injector.records (applies 0 arrivalsOfA)).Sublist
        (t.queued.filterMap InputEvent.input) ∧
      (eventsIn t.sent = t.queued ↔ Unhurried 0 0 (sending {} true true true holdsA)) ∧
      (Unhurried 0 0 (sending {} true true true holdsA) →
        permitting.injector.records (applies 0 arrivalsOfA) =
          t.queued.filterMap InputEvent.input) :=
  desktop_gets_the_queue 0 0 _ permitting.injector 0 rfl rfl ⟨by decide +kernel, by decide +kernel⟩
    arrivalsOfA (by decide +kernel)

theorem desktop_holds_key_A : ∃ t,
    (runFrom InputForwarding.step (supplied {}) (streamed 0 true 0 holdsA)).inputSender = some t ∧
      arrivalsOfA.map Prod.fst = t.sent ∧
      (runFrom DeskHost.step permitting (applies 0 arrivalsOfA)).desk (deskKey 0x41) =
        (deskKey 0x41).shows permitting.desk 0
          ((signals {} holdsA).filterMap (keySignal 0x41)).getLast? :=
  ⟨_, rfl, by decide +kernel,
    desktop_holds_key {} 0 0 true holdsA (by decide +kernel) (by unfold Unhurried; decide +kernel) rfl
      ⟨by decide +kernel, by decide +kernel⟩ permitting 0 rfl arrivalsOfA (by decide +kernel)
      (by decide +kernel) (by decide +kernel) (by decide +kernel) (by decide +kernel)⟩

/-- The key is up on the desktop while the player holds it. -/
example : (runFrom DeskHost.step permitting (applies 0 arrivalsOfA)).desk (deskKey 0x41) = none := by
  decide +kernel

end RemotePlay.App
