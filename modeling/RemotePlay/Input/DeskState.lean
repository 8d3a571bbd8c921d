import Mathlib.Logic.Function.Basic
import RemotePlay.Input.HeldKeys

set_option autoImplicit false

/-! # What stays down on the desktop

The operating system's view: a key, with or without its extended flag, or a mouse button is down if
the last `SendInput` for it that succeeded was a down event. `keysDown` is written before the result
of `SendInput` is known, by down and by up events, and does not record the extended flag, and the
release of a leaving player goes by `keysDown`. So what the player left behind is lifted exactly if
it is recorded, without the extended flag (`leavesNothing_iff`), and `nothing_stuck_iff` says which
calls keep it so. -/

namespace RemotePlay.Input

/-- A key or mouse button of the desktop. -/
inductive DeskKey where
  | key (vk : UInt8) (extended : Bool)
  | button (button : Fin 5)
deriving DecidableEq, Repr

/-- What a record presses or lifts. -/
def SentInput.target : SentInput → Option DeskKey
  | .key vk _ extended => some (.key vk extended)
  | .mouseButton button _ => some (.button button)
  | .mouseMove _ _ => none
  | .mouseWheel _ => none

/-- The record is a down event. -/
def SentInput.presses : SentInput → Bool
  | .key _ down _ => down
  | .mouseButton _ down => down
  | .mouseMove _ _ => false
  | .mouseWheel _ => false

/-- What is down, and the player who pressed it. -/
abbrev DeskState := DeskKey → Option UInt8

/-- A `SendInput` on behalf of a player succeeds. -/
def DeskState.take (playerIndex : UInt8) (d : DeskState) (input : SentInput) : DeskState :=
  match input.target with
  | none => d
  | some k => Function.update d k (if input.presses then some playerIndex else none)

/-- The player a call is for; `shutdown` sends up events only, which press for nobody. -/
def InjectorOp.player : InjectorOp → UInt8
  | .setPermissions p _ _ => p
  | .applyInput p _ _ => p
  | .clientDisconnected p => p
  | .shutdown => 0

/-- Whether the call's `SendInput` succeeds: those of `releaseAllKeys` do. -/
def InjectorOp.succeeds : InjectorOp → Bool
  | .applyInput _ _ io => io.sendInput
  | _ => true

/-- The injector and the desktop. -/
structure DeskHost where
  injector : InputInjector
  desk : DeskState := fun _ => none

namespace DeskHost

/-- A call reaches the desktop. -/
def step (s : DeskHost) (op : InjectorOp) : DeskHost :=
  { injector := s.injector.step op
    desk :=
      if op.succeeds then (s.injector.call op).2.foldl (DeskState.take op.player) s.desk
      else s.desk }

def started (client : Bool) : DeskHost := { injector := .started client }

/-- Were a player to leave now, nothing pressed by the player would stay down, and after `shutdown`
    nothing at all. -/
def LeavesNothing (s : DeskHost) : Prop :=
  (∀ p k, (s.step (.clientDisconnected p)).desk k ≠ some p) ∧ ∀ k, (s.step .shutdown).desk k = none

/-- What the call does to a player's keys and buttons can be undone later: a key is pressed without
    the extended flag, and the up event of what the player has down succeeds, without the flag. -/
def Undoable (s : DeskHost) : InjectorOp → Prop
  | .applyInput p data io => ∀ e, s.injector.permittedEvent p data = some e →
      match InputEventType.ofCode e.type with
      | some .KeyDown => e.code = 0 ∨ io.sendInput = false ∨ e.flags &&& 1 = 0
      | some .KeyUp => s.desk (.key e.code false) = some p →
          io.sendInput = true ∧ e.flags &&& 1 = 0
      | some .MouseButtonUp => ∀ b : Fin 5, e.code.toNat = b → s.desk (.button b) = some p →
          io.sendInput = true
      | _ => True
  | _ => True

end DeskHost

/-! ## Up events -/

/-- The entry has the key or button, in the form in which it is released. -/
def HeldInput.Covers (held : HeldInput) : DeskKey → Prop
  | .key vk extended => vk ≠ 0 ∧ extended = false ∧ held.keys vk = true
  | .button b => held.buttons b = true

theorem InputInjector.targets_releaseAllKeys (j : InputInjector) (p : UInt8) (k : DeskKey) :
    (∃ input ∈ (j.releaseAllKeys p).2, input.target = some k) ↔ (j.held p).Covers k := by
  constructor
  · rintro ⟨input, hmem, htarget⟩
    rcases (j.mem_releaseAllKeys p input).1 hmem with ⟨vk, hne, hheld, rfl⟩ | ⟨b, hheld, rfl⟩
    · rw [← Option.some.inj htarget]
      exact ⟨hne, rfl, hheld⟩
    · rw [← Option.some.inj htarget]
      exact hheld
  · intro hcovers
    cases k with
    | key vk extended =>
        obtain ⟨hne, rfl, hheld⟩ := hcovers
        exact ⟨_, (j.mem_releaseAllKeys p _).2 (Or.inl ⟨vk, hne, hheld, rfl⟩), rfl⟩
    | button b => exact ⟨_, (j.mem_releaseAllKeys p _).2 (Or.inr ⟨b, hcovers, rfl⟩), rfl⟩

theorem InputInjector.presses_releaseAllKeys {j : InputInjector} {p : UInt8} {input : SentInput}
    (h : input ∈ (j.releaseAllKeys p).2) : input.presses = false := by
  rcases (j.mem_releaseAllKeys p input).1 h with ⟨vk, -, -, rfl⟩ | ⟨b, -, rfl⟩
  · rfl
  · rfl

/-- The form in which a key or button is recorded and released. -/
def SentInput.noted : SentInput → Option DeskKey
  | .key vk _ _ => some (.key vk false)
  | .mouseButton button _ => some (.button button)
  | .mouseMove _ _ => none
  | .mouseWheel _ => none

theorem SentInput.target_eq_noted (input : SentInput) : input.target = input.noted ∨
    ∃ vk, input.target = some (.key vk true) ∧ input.noted = some (.key vk false) := by
  cases input with
  | key vk down extended =>
      cases extended with
      | false => exact Or.inl rfl
      | true => exact Or.inr ⟨vk, rfl, rfl⟩
  | mouseMove x y => exact Or.inl rfl
  | mouseButton button down => exact Or.inl rfl
  | mouseWheel delta => exact Or.inl rfl

theorem HeldInput.covers_note (held : HeldInput) {input : SentInput}
    (hzero : input.noted ≠ some (.key 0 false)) (k : DeskKey) : (held.note input).Covers k ↔
      if input.noted = some k then input.presses = true else held.Covers k := by
  cases input with
  | key vk down extended =>
      rw [SentInput.noted, ne_eq, Option.some.injEq, DeskKey.key.injEq] at hzero
      cases k with
      | key vk' extended' =>
          simp only [Covers, note, SentInput.noted, SentInput.presses, Option.some.injEq,
            DeskKey.key.injEq]
          by_cases hvk : vk = vk'
          · subst hvk
            cases extended' with
            | false =>
                have hne : vk ≠ 0 := fun h => hzero ⟨h, rfl⟩
                simp [hne]
            | true => simp
          · simp [hvk, Ne.symm hvk]
      | button b => simp [Covers, note, SentInput.noted]
  | mouseMove x y => simp [note, SentInput.noted]
  | mouseButton button down =>
      cases k with
      | key vk' extended' => simp [Covers, note, SentInput.noted]
      | button b =>
          simp only [Covers, note, SentInput.noted, SentInput.presses, Option.some.injEq,
            DeskKey.button.injEq]
          by_cases hb : button = b
          · simp [hb]
          · simp [hb, Ne.symm hb]
  | mouseWheel delta => simp [note, SentInput.noted]

theorem DeskState.take_apply (p : UInt8) (d : DeskState) (input : SentInput) (k : DeskKey) :
    d.take p input k = if input.target = some k then (if input.presses then some p else none)
      else d k := by
  unfold take
  cases htarget : input.target with
  | none => simp
  | some k' =>
      by_cases hk : k = k'
      · simp [hk]
      · simp [hk, Ne.symm hk]

/-- Up events lift what they name and leave the rest. -/
theorem DeskState.foldl_take (p : UInt8) (out : List SentInput) (d : DeskState)
    (hup : ∀ input ∈ out, input.presses = false) (k : DeskKey) :
    ((∃ input ∈ out, input.target = some k) → out.foldl (DeskState.take p) d k = none) ∧
      ((¬ ∃ input ∈ out, input.target = some k) → out.foldl (DeskState.take p) d k = d k) := by
  induction out generalizing d with
  | nil => exact ⟨fun h => absurd h (by simp), fun _ => rfl⟩
  | cons input out ih =>
      have hrest := ih (d.take p input) fun i hi => hup i (List.mem_cons_of_mem _ hi)
      have hfirst := hup input List.mem_cons_self
      rw [List.foldl_cons]
      simp only [List.mem_cons, exists_eq_or_imp]
      by_cases hlater : ∃ i ∈ out, i.target = some k
      · exact ⟨fun _ => hrest.1 hlater, fun hnone => absurd (Or.inr hlater) hnone⟩
      · rw [hrest.2 hlater, take_apply, hfirst]
        constructor
        · intro hsome
          rw [if_pos (hsome.resolve_right hlater)]
          rfl
        · intro hnone
          rw [if_neg fun h => hnone (Or.inl h)]

/-- Every turn of the loop in `shutdown` releases what its entry held at the start: the entries are
    of different players. -/
theorem InputInjector.mem_foldl_releaseClient (l : List PerClient)
    (s : InputInjector × List SentInput) (hnodup : (l.map PerClient.playerIndex).Nodup)
    (input : SentInput) : input ∈ (l.foldl releaseClient s).2 ↔
      input ∈ s.2 ∨ ∃ c ∈ l, input ∈ (s.1.releaseAllKeys c.playerIndex).2 := by
  induction l generalizing s with
  | nil => simp
  | cons c l ih =>
      rw [List.map_cons, List.nodup_cons] at hnodup
      obtain ⟨hnew, hnodup⟩ := hnodup
      have hother : ∀ c' ∈ l, (input ∈ ((releaseClient s c).1.releaseAllKeys c'.playerIndex).2 ↔
          input ∈ (s.1.releaseAllKeys c'.playerIndex).2) := by
        intro c' hmem
        have hne : c.playerIndex ≠ c'.playerIndex := fun h =>
          hnew (List.mem_map.2 ⟨c', hmem, h.symm⟩)
        have hheld : (releaseClient s c).1.held c'.playerIndex = s.1.held c'.playerIndex := by
          show (s.1.releaseAllKeys c.playerIndex).1.held c'.playerIndex = _
          rw [held_releaseAllKeys, if_neg hne]
        rw [mem_releaseAllKeys, mem_releaseAllKeys, hheld]
      rw [List.foldl_cons, ih _ hnodup]
      show input ∈ s.2 ++ (s.1.releaseAllKeys c.playerIndex).2 ∨ _ ↔ _
      rw [List.mem_append, List.exists_mem_cons_iff, or_assoc,
        exists_congr fun c' => and_congr_right (hother c')]

/-- `shutdown` releases what `releaseAllKeys` would for any player. -/
theorem InputInjector.mem_shutdown (j : InputInjector) (input : SentInput) :
    input ∈ j.shutdown.2 ↔ ∃ p, input ∈ (j.releaseAllKeys p).2 := by
  show input ∈ (j.clients.toList.foldl releaseClient (j, [])).2 ↔ _
  rw [mem_foldl_releaseClient _ _ j.clients.nodup]
  constructor
  · rintro (h | ⟨c, -, h⟩)
    · exact absurd h (by simp)
    · exact ⟨_, h⟩
  · rintro ⟨p, h⟩
    cases hfind : j.clients.find? p with
    | some c =>
        refine Or.inr ⟨c, List.mem_of_find?_eq_some hfind, ?_⟩
        rw [KeyedList.key_of_find? hfind]
        exact h
    | none =>
        -- without an entry nothing is held
        have hheld : j.held p = {} := by
          unfold held client
          rw [hfind]
          rfl
        rw [mem_releaseAllKeys, hheld] at h
        simp at h

namespace DeskHost

/-! ## What is down is recorded -/

/-- Whatever a player has down will be released when the player leaves. -/
def Recorded (s : DeskHost) : Prop := ∀ p k, s.desk k = some p → (s.injector.held p).Covers k

variable {s : DeskHost}

/-- A call that only sends up events lifts what they name. -/
theorem desk_step_of_up (op : InjectorOp) (hsucceeds : op.succeeds = true)
    (hup : ∀ input ∈ (s.injector.call op).2, input.presses = false) {k : DeskKey} {lifted : Prop}
    (hlifted : (∃ input ∈ (s.injector.call op).2, input.target = some k) ↔ lifted) :
    (lifted → (s.step op).desk k = none) ∧ (¬ lifted → (s.step op).desk k = s.desk k) := by
  rw [← hlifted]
  unfold step
  rw [if_pos hsucceeds]
  exact DeskState.foldl_take op.player _ s.desk hup k

theorem desk_clientDisconnected (p : UInt8) (k : DeskKey) :
    ((s.injector.held p).Covers k → (s.step (.clientDisconnected p)).desk k = none) ∧
      (¬ (s.injector.held p).Covers k → (s.step (.clientDisconnected p)).desk k = s.desk k) :=
  desk_step_of_up (.clientDisconnected p) rfl
    (fun _ h => InputInjector.presses_releaseAllKeys h) (s.injector.targets_releaseAllKeys p k)

theorem desk_shutdown (k : DeskKey) :
    ((∃ p, (s.injector.held p).Covers k) → (s.step .shutdown).desk k = none) ∧
      ((¬ ∃ p, (s.injector.held p).Covers k) → (s.step .shutdown).desk k = s.desk k) := by
  refine desk_step_of_up .shutdown rfl (fun input h => ?_) ?_
  · obtain ⟨p, hmem⟩ := (s.injector.mem_shutdown input).1 h
    exact InputInjector.presses_releaseAllKeys hmem
  · constructor
    · rintro ⟨input, hmem, htarget⟩
      obtain ⟨p, hmem⟩ := (s.injector.mem_shutdown input).1 hmem
      exact ⟨p, (s.injector.targets_releaseAllKeys p k).1 ⟨input, hmem, htarget⟩⟩
    · rintro ⟨p, hcovers⟩
      obtain ⟨input, hmem, htarget⟩ := (s.injector.targets_releaseAllKeys p k).2 hcovers
      exact ⟨input, (s.injector.mem_shutdown input).2 ⟨p, hmem⟩, htarget⟩

/-- Leaving lifts what is down exactly if it is recorded. -/
theorem leavesNothing_iff : s.LeavesNothing ↔ s.Recorded := by
  constructor
  · intro hleaves p k hdown
    by_contra hcovers
    have hkept := (desk_clientDisconnected p k).2 hcovers
    exact hleaves.1 p k (hkept.trans hdown)
  · intro hrecorded
    constructor
    · intro p k hdown
      by_cases hcovers : (s.injector.held p).Covers k
      · rw [(desk_clientDisconnected p k).1 hcovers] at hdown
        exact absurd hdown (by simp)
      · rw [(desk_clientDisconnected p k).2 hcovers] at hdown
        exact hcovers (hrecorded p k hdown)
    · intro k
      by_cases hcovers : ∃ p, (s.injector.held p).Covers k
      · exact (desk_shutdown k).1 hcovers
      · rw [(desk_shutdown k).2 hcovers]
        cases hdown : s.desk k with
        | none => rfl
        | some p => exact absurd ⟨p, hrecorded p k hdown⟩ hcovers

/-! ## One call -/

theorem desk_applyInput (p : UInt8) (data : Bytes) (io : PlatformResults) :
    (s.step (.applyInput p data io)).desk = match s.injector.injects p data with
      | none => s.desk
      | some input => if io.sendInput then s.desk.take p input else s.desk := by
  obtain ⟨hsome, hnone⟩ := s.injector.applyInput_injects p data io
  show (if io.sendInput then
    (s.injector.applyInput p data io).2.2.foldl (DeskState.take p) s.desk else s.desk) = _
  cases hinjects : s.injector.injects p data with
  | none => rw [(hnone hinjects).1, List.foldl_nil, ite_self]
  | some input =>
      rw [hsome input hinjects, InputInjector.sendInput]
      cases io.sendInput with
      | false => rfl
      | true => rfl

section Injects

variable {p : UInt8} {data : Bytes} {input : SentInput}
  (hinjects : s.injector.injects p data = some input) (io : PlatformResults)

include hinjects

theorem desk_of_injects (k : DeskKey) : (s.step (.applyInput p data io)).desk k =
    if io.sendInput = true ∧ input.target = some k then
      (if input.presses then some p else none) else s.desk k := by
  rw [desk_applyInput, hinjects]
  cases io.sendInput with
  | false => simp
  | true => simp [DeskState.take_apply]

theorem covers_of_injects (q : UInt8) (k : DeskKey) :
    ((s.step (.applyInput p data io)).injector.held q).Covers k ↔
      if p = q ∧ input.noted = some k then input.presses = true
      else (s.injector.held q).Covers k := by
  show ((s.injector.applyInput p data io).1.held q).Covers k ↔ _
  rw [s.injector.held_applyInput, hinjects]
  dsimp only
  by_cases hpq : p = q
  · have hzero : input.noted ≠ some (.key 0 false) := by
      cases input with
      | key vk down extended =>
          have hne := InputInjector.key_ne_zero_of_injects hinjects
          simpa [SentInput.noted] using hne
      | mouseMove x y => simp [SentInput.noted]
      | mouseButton button down => simp [SentInput.noted]
      | mouseWheel delta => simp [SentInput.noted]
    rw [if_pos hpq, HeldInput.covers_note _ hzero]
    simp only [hpq, true_and]
  · simp only [hpq, false_and, if_false]

/-- **What a record does to the invariant**: pressing keeps it unless the key goes down in another
    form than it is released in, and lifting what the player has down keeps it if it is lifted. -/
theorem Recorded.applyInput_iff (h : s.Recorded) :
    (s.step (.applyInput p data io)).Recorded ↔
      if input.presses then io.sendInput = true → input.target = input.noted
      else ∀ k, input.noted = some k → s.desk k = some p →
        io.sendInput = true ∧ input.target = some k := by
  unfold Recorded
  simp only [desk_of_injects hinjects, covers_of_injects hinjects]
  cases hpresses : input.presses with
  | true =>
      simp only [if_true]
      constructor
      · intro hrecorded hsent
        rcases input.target_eq_noted with heq | ⟨vk, htarget, hnoted⟩
        · exact heq
        · -- the extended form is recorded nowhere
          have hcovered := hrecorded p (.key vk true) (by rw [if_pos ⟨hsent, htarget⟩])
          rw [hnoted, if_neg (by simp)] at hcovered
          exact absurd hcovered.2.1 (by simp)
      · intro hform q k hdown
        split
        · trivial
        · next hother =>
            split at hdown
            · next hsent =>
                have hq := Option.some.inj hdown
                exact absurd ⟨hq, (hform hsent.1).symm.trans hsent.2⟩ hother
            · exact h q k hdown
  | false =>
      simp only [Bool.false_eq_true, if_false]
      constructor
      · intro hrecorded k hnoted hdown
        by_contra hkept
        have hcovered := hrecorded p k (by rw [if_neg hkept]; exact hdown)
        rw [if_pos ⟨rfl, hnoted⟩] at hcovered
        exact hcovered
      · intro hlifted q k hdown
        split at hdown
        · exact absurd hdown (by simp)
        · next hkept =>
            split
            · next hnoted =>
                obtain ⟨rfl, hnoted⟩ := hnoted
                exact hkept (hlifted k hnoted hdown)
            · exact h q k hdown

end Injects

/-- Input that injects no record. -/
theorem recorded_of_injects_none {p : UInt8} {data : Bytes}
    (hinjects : s.injector.injects p data = none) (io : PlatformResults) :
    (s.step (.applyInput p data io)).Recorded ↔ s.Recorded := by
  have hheld := ((s.injector.applyInput_injects p data io).2 hinjects).2
  unfold Recorded
  rw [desk_applyInput, hinjects]
  refine forall₂_congr fun q k => ?_
  show _ → ((s.injector.applyInput p data io).1.held q).Covers k ↔ _
  rw [hheld]

theorem Recorded.undoable_applyInput_iff (h : s.Recorded) (p : UInt8) (data : Bytes)
    (io : PlatformResults) :
    (s.step (.applyInput p data io)).Recorded ↔ s.Undoable (.applyInput p data io) := by
  unfold Undoable
  dsimp only
  cases hpermitted : s.injector.permittedEvent p data with
  | none =>
      have hinjects : s.injector.injects p data = none := by
        rw [InputInjector.injects, hpermitted]
        rfl
      rw [recorded_of_injects_none hinjects]
      exact iff_of_true h fun e he => absurd he (by simp)
  | some e =>
      simp only [Option.some.injEq, forall_eq']
      have hinjects : s.injector.injects p data = e.input := by
        rw [InputInjector.injects, hpermitted]
        rfl
      cases hinput : e.input with
      | none =>
          rw [recorded_of_injects_none (hinjects.trans hinput)]
          refine iff_of_true h ?_
          cases htype : InputEventType.ofCode e.type with
          | none => trivial
          | some type =>
              cases type with
              | KeyDown => exact Or.inl (by simpa [InputEvent.input, htype] using hinput)
              | KeyUp =>
                  have hcode : e.code = 0 := by simpa [InputEvent.input, htype] using hinput
                  intro hdown
                  exact absurd hcode (h p _ hdown).1
              | MouseMove => trivial
              | MouseButtonDown => trivial
              | MouseButtonUp =>
                  have hcode : ¬ e.code.toNat < 5 := by
                    simpa [InputEvent.input, htype] using hinput
                  intro b hb
                  exact absurd (hb ▸ b.isLt) hcode
              | MouseWheel => trivial
      | some input =>
          rw [h.applyInput_iff (hinjects.trans hinput) io]
          cases InputEvent.becomes_of_input hinput with
          | key down htype hcode =>
              cases down with
              | true => simp [htype, hcode, SentInput.presses, SentInput.target, SentInput.noted,
                  imp_iff_not_or]
              | false => simp [htype, SentInput.presses, SentInput.target, SentInput.noted]
          | move htype => simp [htype, SentInput.presses, SentInput.noted]
          | button down htype button hcode =>
              cases down with
              | true => simp [htype, SentInput.presses, SentInput.target, SentInput.noted]
              | false =>
                  simp [htype, hcode, SentInput.presses, SentInput.target, SentInput.noted,
                    Fin.val_inj]
          | wheel htype => simp [htype, SentInput.presses, SentInput.noted]

/-- Releasing what a player holds keeps the invariant, whatever becomes of the player's entry. -/
theorem Recorded.release (h : s.Recorded) {t : DeskHost} (p : UInt8)
    (hdesk : ∀ k, ((s.injector.held p).Covers k → t.desk k = none) ∧
      (¬ (s.injector.held p).Covers k → t.desk k = s.desk k))
    (hheld : ∀ q, p ≠ q → t.injector.held q = s.injector.held q) : t.Recorded := by
  intro q k hdown
  by_cases hcovers : (s.injector.held p).Covers k
  · rw [(hdesk k).1 hcovers] at hdown
    exact absurd hdown (by simp)
  · rw [(hdesk k).2 hcovers] at hdown
    have hne : p ≠ q := by
      rintro rfl
      exact hcovers (h p k hdown)
    rw [hheld q hne]
    exact h q k hdown

/-- **One call.** What is down stays recorded exactly if the call is undoable. -/
theorem Recorded.step_iff (h : s.Recorded) (op : InjectorOp) :
    (s.step op).Recorded ↔ s.Undoable op := by
  cases op with
  | applyInput p data io => exact h.undoable_applyInput_iff p data io
  | setPermissions p perms io =>
      refine iff_of_true ?_ trivial
      obtain ⟨hheld, hsent⟩ := s.injector.setPermissions_held p perms io
      have hup : ∀ input ∈ (s.injector.call (.setPermissions p perms io)).2,
          input.presses = false := fun input hmem =>
        InputInjector.presses_releaseAllKeys ((hsent input).1 hmem).2
      cases hkeyboard : perms.keyboard with
      | true =>
          intro q k hdown
          have hnone : (∃ input ∈ (s.injector.call (.setPermissions p perms io)).2,
              input.target = some k) ↔ False := by
            refine iff_false_intro ?_
            rintro ⟨input, hmem, -⟩
            exact absurd (((hsent input).1 hmem).1.symm.trans hkeyboard) (by simp)
          have hdesk := (desk_step_of_up (.setPermissions p perms io) rfl hup hnone).2 not_false
          show ((s.injector.setPermissions p perms io).1.held q).Covers k
          rw [hheld, hkeyboard, if_pos rfl]
          exact h q k (hdesk.symm.trans hdown)
      | false =>
          refine h.release p (fun k => desk_step_of_up _ rfl hup ?_) fun q hne => ?_
          · rw [← s.injector.targets_releaseAllKeys p k]
            exact exists_congr fun input =>
              and_congr_left' ((hsent input).trans (and_iff_right hkeyboard))
          · show (s.injector.setPermissions p perms io).1.held q = _
            rw [hheld, hkeyboard, if_neg (by simp), InputInjector.held_releaseAllKeys, if_neg hne]
  | clientDisconnected p =>
      refine iff_of_true (h.release p (desk_clientDisconnected p) fun q hne => ?_) trivial
      show (s.injector.clientDisconnected p).1.held q = _
      rw [InputInjector.held_clientDisconnected, if_neg hne]
  | shutdown =>
      refine iff_of_true (fun q k hdown => ?_) trivial
      rw [(leavesNothing_iff.2 h).2 k] at hdown
      exact absurd hdown (by simp)

/-- **When nothing stays stuck.** In every run, each call leaves a state in which a leaving player
    or `shutdown` would lift everything the player, or anyone, has down, exactly when every call is
    undoable in the state it meets. -/
theorem nothing_stuck_iff (client : Bool) (ops : List InjectorOp) :
    (∀ s ∈ history step (started client) ops, (s.1.step s.2).LeavesNothing) ↔
      ∀ s ∈ history step (started client) ops, s.1.Undoable s.2 := by
  refine forall_history_iff step Recorded (fun s op => (s.step op).LeavesNothing) Undoable
    (fun s op h hundoable => ?_) (fun s op h hleaves => ?_) (started client) ops
    fun p k hdown => absurd hdown (by simp [started])
  · have hafter := (h.step_iff op).2 hundoable
    exact ⟨leavesNothing_iff.2 hafter, hafter⟩
  · exact (h.step_iff op).1 (leavesNothing_iff.1 hleaves)

/-- A key event as a client sends it. -/
def keyDatagram (vk : UInt8) (down extended : Bool) : Bytes :=
  [1, if down then 1 else 2, vk] ++ List.replicate 7 0 ++ [if extended then 1 else 0] ++
    List.replicate 8 0

/-- Player 0 holds the right Ctrl key, an extended key, and disconnects: the up event is for the
    left one. -/
theorem extended_key_stuck :
    let s := runFrom step (started true)
      [.setPermissions 0 { keyboard := true } {}, .applyInput 0 (keyDatagram 0x11 true true) {}]
    (s.step (.clientDisconnected 0)).desk (.key 0x11 true) = some 0 ∧
      (s.injector.call (.clientDisconnected 0)).2 = [.key 0x11 false false] ∧
      ¬ s.LeavesNothing := by
  intro s
  have hstuck : (s.step (.clientDisconnected 0)).desk (.key 0x11 true) = some 0 := by
    decide +kernel
  exact ⟨hstuck, by decide +kernel, fun h => h.1 0 _ hstuck⟩

end DeskHost

end RemotePlay.Input
