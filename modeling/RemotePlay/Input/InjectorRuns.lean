import RemotePlay.Input.InputInjector
import RemotePlay.Lib.Runs

set_option autoImplicit false

/-! # Runs of the input injector

The calls on an injector in any order, for any players and with any bytes. `applyInput` decides by
the player's entry: the datagram is turned away, or it becomes at most one `INPUT` record, which is
noted in the entry (`note`) and handed to `SendInput`, or one report for the player's pad.

The injection of a class of input thus needs the permission that was set last since the entry was
made (`injection_respects_permissions`). -/

namespace RemotePlay.Input

/-! ## What an event becomes -/

/-- The `INPUT` record that `applyEvent` builds for an event, if it accepts the event. -/
def InputEvent.input (e : InputEvent) : Option SentInput :=
  match InputEventType.ofCode e.type with
  | some .KeyDown => if e.code = 0 then none else some (.key e.code true (e.flags &&& 1 != 0))
  | some .KeyUp => if e.code = 0 then none else some (.key e.code false (e.flags &&& 1 != 0))
  | some .MouseMove => some (.mouseMove e.x e.y)
  | some .MouseButtonDown =>
      if h : e.code.toNat < 5 then some (.mouseButton ⟨e.code.toNat, h⟩ true) else none
  | some .MouseButtonUp =>
      if h : e.code.toNat < 5 then some (.mouseButton ⟨e.code.toNat, h⟩ false) else none
  | some .MouseWheel => some (.mouseWheel e.delta)
  | none => none

/-- What the record of an event can be. -/
inductive InputEvent.Becomes (e : InputEvent) : SentInput → Prop where
  | key (down : Bool)
      (htype : InputEventType.ofCode e.type = some (if down then .KeyDown else .KeyUp))
      (hcode : e.code ≠ 0) : Becomes e (.key e.code down (e.flags &&& 1 != 0))
  | move (htype : InputEventType.ofCode e.type = some .MouseMove) : Becomes e (.mouseMove e.x e.y)
  | button (down : Bool)
      (htype : InputEventType.ofCode e.type
        = some (if down then .MouseButtonDown else .MouseButtonUp))
      (button : Fin 5) (hcode : e.code.toNat = button) : Becomes e (.mouseButton button down)
  | wheel (htype : InputEventType.ofCode e.type = some .MouseWheel) :
      Becomes e (.mouseWheel e.delta)

theorem InputEvent.becomes_of_input {e : InputEvent} {input : SentInput}
    (h : e.input = some input) : e.Becomes input := by
  unfold InputEvent.input at h
  cases htype : InputEventType.ofCode e.type with
  | none => simp [htype] at h
  | some type =>
      cases type with
      | KeyDown =>
          simp only [htype, Option.ite_none_left_eq_some] at h
          rw [← Option.some.inj h.2]
          exact .key true htype h.1
      | KeyUp =>
          simp only [htype, Option.ite_none_left_eq_some] at h
          rw [← Option.some.inj h.2]
          exact .key false htype h.1
      | MouseMove =>
          simp only [htype] at h
          rw [← Option.some.inj h]
          exact .move htype
      | MouseButtonDown =>
          simp only [htype, Option.dite_none_right_eq_some] at h
          obtain ⟨_, h⟩ := h
          rw [← Option.some.inj h]
          exact .button true htype _ rfl
      | MouseButtonUp =>
          simp only [htype, Option.dite_none_right_eq_some] at h
          obtain ⟨_, h⟩ := h
          rw [← Option.some.inj h]
          exact .button false htype _ rfl
      | MouseWheel =>
          simp only [htype] at h
          rw [← Option.some.inj h]
          exact .wheel htype

/-- The record is one for the keyboard. -/
def SentInput.isKey : SentInput → Bool
  | .key _ _ _ => true
  | _ => false

/-- What an entry records as held. -/
@[ext] structure HeldInput where
  keys : UInt8 → Bool := fun _ => false
  buttons : Fin 5 → Bool := fun _ => false

/-- The record is noted as it is handed to `SendInput`. -/
def HeldInput.note (held : HeldInput) : SentInput → HeldInput
  | .key vk down _ => { held with keys := fun k => if k = vk then down else held.keys k }
  | .mouseButton button down =>
      { held with buttons := fun b => if b = button then down else held.buttons b }
  | .mouseMove _ _ => held
  | .mouseWheel _ => held

namespace InputInjector

/-- What is recorded as held by a player. -/
def held (j : InputInjector) (playerIndex : UInt8) : HeldInput :=
  ⟨(j.client playerIndex).keysDown, (j.client playerIndex).mouseButtons⟩

/-- Note a record in the player's entry. -/
def note (j : InputInjector) (playerIndex : UInt8) (input : SentInput) : InputInjector :=
  let c := j.client playerIndex
  match input with
  | .key vk down _ =>
      j.setClient { c with keysDown := fun k => if k = vk then down else c.keysDown k }
  | .mouseButton button down =>
      j.setClient { c with mouseButtons := fun b => if b = button then down else c.mouseButtons b }
  | .mouseMove _ _ => j
  | .mouseWheel _ => j

/-- The event that `applyInput` hands to `applyEvent`: the datagram is one, and permitted. -/
def permittedEvent (j : InputInjector) (playerIndex : UInt8) (data : Bytes) : Option InputEvent :=
  match unpackInput data with
  | some (.event e) => if allows (j.enforced playerIndex) (.event e) then some e else none
  | _ => none

/-- The `INPUT` record that `applyInput` hands to `SendInput`. -/
def injects (j : InputInjector) (playerIndex : UInt8) (data : Bytes) : Option SentInput :=
  (j.permittedEvent playerIndex data).bind InputEvent.input

section Held

variable (j : InputInjector) (p q : UInt8)

theorem held_setClient (c : PerClient) :
    (j.setClient c).held q = if c.playerIndex = q then ⟨c.keysDown, c.mouseButtons⟩
      else j.held q := by
  unfold held
  rw [client_setClient]
  split
  · rfl
  · rfl

/-- Rewriting an entry without touching what is held. -/
theorem held_setClient_same {c : PerClient} (hindex : c.playerIndex = p)
    (hheld : (⟨c.keysDown, c.mouseButtons⟩ : HeldInput) = j.held p) :
    (j.setClient c).held q = j.held q := by
  rw [held_setClient, hindex]
  split
  · next h => rw [hheld, h]
  · rfl

@[simp] theorem held_ensureClient : (j.ensureClient p).held q = j.held q :=
  j.held_setClient_same p q (j.client_playerIndex p) rfl

@[simp] theorem held_sendInput (input : SentInput) (io : PlatformResults) :
    (j.sendInput input io).1.held q = j.held q :=
  sendInput_frame (fun j => j.held q) (fun _ _ _ => rfl) j input io

theorem held_note (input : SentInput) :
    (j.note p input).held q = if p = q then (j.held p).note input else j.held q := by
  cases input with
  | key vk down extended =>
      rw [note, held_setClient, client_playerIndex]
      rfl
  | mouseMove x y =>
      show j.held q = if p = q then j.held p else j.held q
      split
      · next h => rw [h]
      · rfl
  | mouseButton button down =>
      rw [note, held_setClient, client_playerIndex]
      rfl
  | mouseWheel delta =>
      show j.held q = if p = q then j.held p else j.held q
      split
      · next h => rw [h]
      · rfl

/-- A controller state injects no event and holds nothing. -/
theorem applyController_held (state : GameControllerState) (io : PlatformResults) :
    (j.applyController p state io).2.2 = [] ∧
      ∀ q, (j.applyController p state io).1.held q = j.held q := by
  refine ⟨?_, fun q =>
    applyController_frame (fun j => j.held q) p (fun _ _ _ => rfl) j state io⟩
  unfold applyController
  split
  · rfl
  split
  · rfl
  split
  · rfl
  · rfl

/-- **What `applyEvent` does**: the event is rejected, or its record is noted and sent. -/
theorem applyEvent_eq (e : InputEvent) (io : PlatformResults) :
    j.applyEvent p e io = match e.input with
      | none => j.reject
      | some input => (j.note p input).sendInput input io := by
  have hkey : ∀ down, j.applyKey p e down io =
      match (if e.code = 0 then none else some (.key e.code down (e.flags &&& 1 != 0))) with
        | none => j.reject
        | some input => (j.note p input).sendInput input io := by
    intro down
    unfold applyKey
    by_cases hcode : e.code = 0
    · simp only [hcode, if_true]
    · simp only [hcode, if_false]
      rfl
  have hbutton : ∀ down, j.applyMouseButton p e down io =
      match (if h : e.code.toNat < 5 then some (.mouseButton ⟨e.code.toNat, h⟩ down) else none) with
        | none => j.reject
        | some input => (j.note p input).sendInput input io := by
    intro down
    unfold applyMouseButton
    by_cases hcode : e.code.toNat < 5
    · simp only [hcode, dite_true]
      rfl
    · simp only [hcode, dite_false]
  unfold applyEvent InputEvent.input
  cases htype : InputEventType.ofCode e.type with
  | none => rfl
  | some type =>
      cases type with
      | KeyDown => exact hkey true
      | KeyUp => exact hkey false
      | MouseMove => rfl
      | MouseButtonDown => exact hbutton true
      | MouseButtonUp => exact hbutton false
      | MouseWheel => rfl

/-- **What `applyInput` does with an event**: nothing, or one record is noted and sent. -/
theorem applyInput_injects (data : Bytes) (io : PlatformResults) :
    (∀ input, j.injects p data = some input → j.applyInput p data io
        = ((j.ensureClient p).note p input).sendInput input io) ∧
      (j.injects p data = none → (j.applyInput p data io).2.2 = [] ∧
        ∀ q, (j.applyInput p data io).1.held q = j.held q) := by
  unfold injects permittedEvent
  cases hpayload : unpackInput data with
  | none =>
      refine ⟨fun input h => absurd h (by simp), fun _ => ?_⟩
      have hreject : j.applyInput p data io = j.reject := by
        unfold applyInput
        rw [hpayload]
      rw [hreject]
      exact ⟨rfl, fun _ => rfl⟩
  | some payload =>
      rw [j.applyInput_eq p hpayload io]
      cases payload with
      | controller state =>
          refine ⟨fun input h => absurd h (by simp), fun _ => ?_⟩
          split
          · have hpad := applyController_held (j.ensureClient p) p state io
            refine ⟨hpad.1, ?_⟩
            intro q
            rw [← j.held_ensureClient p q]
            exact hpad.2 q
          · exact ⟨rfl, fun q => j.held_ensureClient p q⟩
      | event e =>
          dsimp only
          split
          · rw [applyPayload, applyEvent_eq, Option.bind_some]
            cases he : e.input with
            | none => exact ⟨fun input h => absurd h (by simp),
                fun _ => ⟨rfl, fun q => j.held_ensureClient p q⟩⟩
            | some input =>
                refine ⟨fun input' h => ?_, fun h => absurd h (by simp)⟩
                rw [← Option.some.inj h]
          · exact ⟨fun input h => absurd h (by simp),
              fun _ => ⟨rfl, fun q => j.held_ensureClient p q⟩⟩

end Held

/-! ## The report for a pad -/

/-- The report that `applyController` hands to `pads_.update`. -/
def padReport (state : GameControllerState) : Option GameControllerState :=
  if state.version ≠ 1 then none
  else if state.connected = 0 then none
  else some state

/-- The report that `applyInput` hands to `pads_.update`: the branches are its own. -/
def reportsPad (j : InputInjector) (playerIndex : UInt8) (data : Bytes) :
    Option GameControllerState :=
  match unpackInput data with
  | none => none
  | some (.controller state) =>
      if !((j.ensureClient playerIndex).client playerIndex).controller then none
      else padReport state
  | some (.event _) => none

section Pads

variable (j : InputInjector) (p : UInt8)

theorem client_ensureClient : (j.ensureClient p).client p = j.client p := by
  rw [ensureClient, client_setClient, client_playerIndex, if_pos rfl]

theorem applyController_eq (state : GameControllerState) (io : PlatformResults) :
    j.applyController p state io = match padReport state with
      | none => if state.version ≠ 1 then j.reject else (j, true, [])
      | some _ =>
          if j.pads.update p io.padUpdated then
            ({ j with injectedEvents := j.injectedEvents + 1 }, true, [])
          else j.reject := by
  unfold applyController padReport
  by_cases hversion : state.version ≠ 1
  · simp only [if_pos hversion]
  · by_cases hconnected : state.connected = 0
    · simp only [if_neg hversion, if_pos hconnected]
    · simp only [if_neg hversion, if_neg hconnected]

/-- `applyInput` hands a report to the pad of the player exactly as `reportsPad` says: its answer
    is the pad's then, and independent of the pads otherwise. -/
theorem applyInput_reportsPad (data : Bytes) (io : PlatformResults) :
    (∀ state, j.reportsPad p data = some state →
        (j.applyInput p data io).2.1 = j.pads.update p io.padUpdated) ∧
      (j.reportsPad p data = none → ∀ updated,
        j.applyInput p data { io with padUpdated := updated } = j.applyInput p data io) := by
  unfold applyInput reportsPad
  cases unpackInput data with
  | none => exact ⟨fun state h => absurd h (by simp), fun _ _ => rfl⟩
  | some payload =>
      cases payload with
      | event e => exact ⟨fun state h => absurd h (by simp), fun _ _ => rfl⟩
      | controller state =>
          dsimp only
          split
          · exact ⟨fun state h => absurd h (by simp), fun _ _ => rfl⟩
          · constructor
            · intro state' h
              rw [applyController_eq, h]
              show (if j.pads.update p io.padUpdated then _ else _
                : InputInjector × Bool × List SentInput).2.1 = _
              cases j.pads.update p io.padUpdated with
              | true => rfl
              | false => rfl
            · intro h updated
              rw [applyController_eq, applyController_eq, h]

end Pads

end InputInjector

/-! ## Calls on the injector -/

/-- A call on the injector, with what the platform returns to it. -/
inductive InjectorOp where
  | setPermissions (playerIndex : UInt8) (perms : InputPermissions) (io : PlatformResults)
  | applyInput (playerIndex : UInt8) (data : Bytes) (io : PlatformResults)
  | clientDisconnected (playerIndex : UInt8)
  | shutdown

namespace InjectorOp

/-- The call erases the player's entry. -/
def erases (playerIndex : UInt8) : InjectorOp → Bool
  | .clientDisconnected q => q == playerIndex
  | .shutdown => true
  | _ => false

/-- The permissions that the call sets for the player. -/
def grants (playerIndex : UInt8) : InjectorOp → Option InputPermissions
  | .setPermissions q perms _ => if q = playerIndex then some perms else none
  | _ => none

end InjectorOp

namespace InputInjector

/-- An injector after `init`; `client` is whether ViGEm is there. -/
def started (client : Bool) : InputInjector := { pads := { client := client } }

/-- A call, and what it hands to `SendInput`. -/
def call (j : InputInjector) : InjectorOp → InputInjector × List SentInput
  | .setPermissions p perms io => j.setPermissions p perms io
  | .applyInput p data io => ((j.applyInput p data io).1, (j.applyInput p data io).2.2)
  | .clientDisconnected p => j.clientDisconnected p
  | .shutdown => j.shutdown

/-- One step of a run. -/
def step (j : InputInjector) (op : InjectorOp) : InputInjector := (j.call op).1

theorem enforced_step (p : UInt8) (j : InputInjector) (op : InjectorOp) :
    (j.step op).enforced p = if op.erases p then {} else (op.grants p).getD (j.enforced p) := by
  cases op with
  | setPermissions q perms io =>
      show (j.setPermissions q perms io).1.enforced p
        = (if q = p then some perms else none).getD (j.enforced p)
      rw [enforced_setPermissions]
      split
      · rfl
      · rfl
  | applyInput q data io => exact j.enforced_applyInput q p data io
  | clientDisconnected q =>
      show (j.clientDisconnected q).1.enforced p = if (q == p) = true then {} else j.enforced p
      rw [enforced_clientDisconnected]
      simp only [beq_iff_eq]
  | shutdown => rfl

/-- The permissions that were set last for a player since its entry was made. -/
def lastGranted (playerIndex : UInt8) (steps : List (InputInjector × InjectorOp)) :
    Option InputPermissions :=
  lastOutcome (fun _ op => op.erases playerIndex) (fun _ op => op.grants playerIndex) steps

/-- **What counts is what was set last.** -/
theorem enforced_eq_lastGranted (client : Bool) (ops : List InjectorOp) (p : UInt8) :
    (runFrom step (started client) ops).enforced p
      = (lastGranted p (history step (started client) ops)).getD {} :=
  eq_lastOutcome_getD step _ _ (fun j => j.enforced p) {} (fun j op => j.enforced_step p op)
    (started client) rfl ops

/-- The datagram is malformed, not permitted, or an event of no known type. -/
def Refused (j : InputInjector) (playerIndex : UInt8) (data : Bytes) : Prop :=
  match unpackInput data with
  | none => True
  | some payload => allows (j.enforced playerIndex) payload = false ∨
      ∃ e, payload = .event e ∧ InputEventType.ofCode e.type = none

/-- The class that the permission check goes by is the class of the record. -/
theorem keyboardEvent_of_input {e : InputEvent} {input : SentInput} (h : e.input = some input) :
    keyboardEvent e = input.isKey := by
  unfold keyboardEvent
  cases InputEvent.becomes_of_input h with
  | key down htype hcode =>
      rw [htype]
      cases down
      · rfl
      · rfl
  | move htype =>
      rw [htype]
      rfl
  | button down htype button hcode =>
      rw [htype]
      cases down
      · rfl
      · rfl
  | wheel htype =>
      rw [htype]
      rfl

variable {j : InputInjector} {p : UInt8} {data : Bytes}

/-- What is permitted is an event that the datagram carries. -/
theorem permittedEvent_eq_some {e : InputEvent} (h : j.permittedEvent p data = some e) :
    unpackInput data = some (.event e) ∧ allows (j.enforced p) (.event e) = true := by
  unfold permittedEvent at h
  split at h
  · next e' hpayload =>
      split at h
      · next hallowed =>
          rw [← Option.some.inj h]
          exact ⟨hpayload, hallowed⟩
      · exact absurd h (by simp)
  · exact absurd h (by simp)

/-- A record needs the permission of its class. -/
theorem allowed_of_injects {input : SentInput} (h : j.injects p data = some input) :
    (if input.isKey then (j.enforced p).keyboard else (j.enforced p).mouse) = true := by
  obtain ⟨e, he, hinput⟩ := Option.bind_eq_some_iff.1 h
  have hallowed := (permittedEvent_eq_some he).2
  rw [← keyboardEvent_of_input hinput]
  exact hallowed

theorem mem_sent_applyInput {io : PlatformResults} {input : SentInput}
    (h : input ∈ (j.applyInput p data io).2.2) : j.injects p data = some input := by
  obtain ⟨hsome, hnone⟩ := j.applyInput_injects p data io
  cases hinjects : j.injects p data with
  | none =>
      rw [(hnone hinjects).1] at h
      exact absurd h (by simp)
  | some sent =>
      rw [hsome sent hinjects, sendInput] at h
      split at h
      · rw [List.mem_singleton.1 h]
      · rw [List.mem_singleton.1 h]

/-- A refused datagram injects nothing, reports to no pad, and is answered with `false`. -/
theorem Refused.nothing (h : j.Refused p data) (io : PlatformResults) :
    (j.applyInput p data io).2.1 = false ∧ j.injects p data = none ∧
      j.reportsPad p data = none := by
  unfold Refused at h
  unfold injects permittedEvent reportsPad
  cases hpayload : unpackInput data with
  | none =>
      unfold applyInput
      rw [hpayload]
      exact ⟨rfl, rfl, rfl⟩
  | some payload =>
      rw [hpayload] at h
      rw [j.applyInput_eq p hpayload io]
      cases payload with
      | controller state =>
          rcases h with hdenied | ⟨e, heq, -⟩
          · have hcontroller : ((j.ensureClient p).client p).controller = false := by
              rw [client_ensureClient]
              exact hdenied
            dsimp only
            rw [hdenied, hcontroller]
            exact ⟨rfl, rfl, rfl⟩
          · exact absurd heq (by simp)
      | event e =>
          rcases h with hdenied | ⟨e', heq, htype⟩
          · dsimp only
            rw [hdenied]
            exact ⟨rfl, rfl, rfl⟩
          · obtain rfl := InputPayload.event.inj heq
            have hinput : e.input = none := by
              unfold InputEvent.input
              rw [htype]
            dsimp only
            split
            · rw [applyPayload, applyEvent_eq, hinput]
              exact ⟨rfl, hinput, rfl⟩
            · exact ⟨rfl, rfl, rfl⟩

theorem controller_of_reportsPad (h : j.reportsPad p data ≠ none) :
    (j.client p).controller = true := by
  unfold reportsPad at h
  split at h
  · exact absurd rfl h
  · split at h
    · exact absurd rfl h
    · next hset =>
        rw [client_ensureClient] at hset
        simpa using hset
  · exact absurd rfl h

/-- A player's input changes nothing that another player holds. -/
theorem held_applyInput_of_ne {q : UInt8} (hne : q ≠ p) (io : PlatformResults) :
    (j.applyInput p data io).1.held q = j.held q := by
  obtain ⟨hsome, hnone⟩ := j.applyInput_injects p data io
  cases hinjects : j.injects p data with
  | none => exact (hnone hinjects).2 q
  | some input =>
      rw [hsome input hinjects, held_sendInput, held_note, if_neg (Ne.symm hne),
        held_ensureClient]

/-- **Injection respects the live permissions.** After any calls: `applyInput` sends a keyboard or a
    mouse record only if the permissions set last for the player, since its entry was made, allow
    it, and reports to a pad only if the controller flag is set, where its answer is the pad's exactly
    if it reports; what is refused sends and changes nothing; and nothing held by another player
    changes. -/
theorem injection_respects_permissions (client : Bool) (ops : List InjectorOp) (p : UInt8)
    (data : Bytes) (io : PlatformResults) :
    let j := runFrom step (started client) ops
    let granted := lastGranted p (history step (started client) ops)
    let result := j.applyInput p data io
    (∀ input ∈ result.2.2, input.isKey = true →
        ∃ perms, granted = some perms ∧ perms.keyboard = true) ∧
      (∀ input ∈ result.2.2, input.isKey = false →
        ∃ perms, granted = some perms ∧ perms.mouse = true) ∧
      (j.reportsPad p data ≠ none → (j.client p).controller = true ∧
        (granted.getD {}).controller = true) ∧
      (∀ state, j.reportsPad p data = some state → result.2.1 = j.pads.update p io.padUpdated) ∧
      (j.reportsPad p data = none → ∀ updated,
        j.applyInput p data { io with padUpdated := updated } = result) ∧
      (j.Refused p data → result.2.1 = false ∧ result.2.2 = [] ∧ j.reportsPad p data = none ∧
        result.1.pads = j.pads ∧ ∀ q, result.1.held q = j.held q) ∧
      ∀ q, q ≠ p → result.1.held q = j.held q := by
  intro j granted result
  have henforced : j.enforced p = granted.getD {} := enforced_eq_lastGranted client ops p
  obtain ⟨hpad, hnoPad⟩ := j.applyInput_reportsPad p data io
  refine ⟨?_, ?_, ?_, hpad, hnoPad, ?_, fun q hne => held_applyInput_of_ne hne io⟩
  · intro input hsent hkey
    have hallowed := allowed_of_injects (mem_sent_applyInput hsent)
    rw [hkey, if_pos rfl, henforced] at hallowed
    -- without a grant the default has the keyboard off
    cases hgranted : granted with
    | none =>
        rw [hgranted] at hallowed
        exact absurd hallowed (by decide)
    | some perms =>
        rw [hgranted] at hallowed
        exact ⟨perms, rfl, hallowed⟩
  · intro input hsent hmouse
    have hallowed := allowed_of_injects (mem_sent_applyInput hsent)
    rw [hmouse, if_neg (by simp), henforced] at hallowed
    cases hgranted : granted with
    | none =>
        rw [hgranted] at hallowed
        exact absurd hallowed (by decide)
    | some perms =>
        rw [hgranted] at hallowed
        exact ⟨perms, rfl, hallowed⟩
  · intro hreports
    have hcontroller := controller_of_reportsPad hreports
    refine ⟨hcontroller, ?_⟩
    rw [← henforced]
    exact hcontroller
  · intro hrefused
    obtain ⟨hanswer, hinjects, hreports⟩ := hrefused.nothing io
    obtain ⟨hsent, hheld⟩ := (j.applyInput_injects p data io).2 hinjects
    exact ⟨hanswer, hsent, hreports, j.pads_applyInput p data io, hheld⟩

end InputInjector

end RemotePlay.Input
