import RemotePlay.Input.InjectorRuns

set_option autoImplicit false

/-! # What stays held when a class is revoked

`releaseAllKeys` sends an up event for every key and button that a player's entry records as held,
and forgets them. `setPermissions` calls it when the keyboard is revoked; when the mouse alone is
revoked the buttons stay recorded and down, and `applyInput` refuses their up events from then on.
`revocation_releases_iff` says when a revocation releases what it has to. -/

namespace RemotePlay.Input

namespace InputInjector

variable (j : InputInjector) (p q : UInt8)

/-! ## What is released -/

/-- `releaseAllKeys` forgets everything but the key code 0, which its loop does not reach. -/
theorem held_releaseAllKeys : (j.releaseAllKeys p).1.held q
    = if p = q then { keys := fun vk => (j.held p).keys vk && vk == 0 } else j.held q := by
  unfold releaseAllKeys
  dsimp only
  rw [held_setClient, client_playerIndex]
  rfl

/-- The up events of `releaseAllKeys` are those of what is held. -/
theorem mem_releaseAllKeys (input : SentInput) : input ∈ (j.releaseAllKeys p).2 ↔
    (∃ vk, vk ≠ 0 ∧ (j.held p).keys vk = true ∧ input = .key vk false false) ∨
      ∃ b, (j.held p).buttons b = true ∧ input = .mouseButton b false := by
  have hcodes : ∀ vk : UInt8, vk ∈ (List.range' 1 255).map UInt8.ofNat ↔ vk ≠ 0 := by
    intro vk
    rw [List.mem_map]
    constructor
    · rintro ⟨n, hn, rfl⟩ hzero
      have hn := List.mem_range'_1.1 hn
      have hval := congrArg UInt8.toNat hzero
      rw [UInt8.toNat_ofNat', UInt8.toNat_zero] at hval
      omega
    · intro hne
      have hlt := vk.toNat_lt
      have hpos : vk.toNat ≠ 0 := fun h => hne (UInt8.toNat_inj.1 h)
      exact ⟨vk.toNat, List.mem_range'_1.2 ⟨by omega, by omega⟩, UInt8.ofNat_toNat⟩
  unfold releaseAllKeys
  simp only [List.mem_append, List.mem_map, List.mem_filter]
  constructor
  · rintro (⟨vk, ⟨hmem, hheld⟩, rfl⟩ | ⟨b, ⟨-, hheld⟩, rfl⟩)
    · exact Or.inl ⟨vk, (hcodes vk).1 (List.mem_map.2 hmem), hheld, rfl⟩
    · exact Or.inr ⟨b, hheld, rfl⟩
  · rintro (⟨vk, hne, hheld, rfl⟩ | ⟨b, hheld, rfl⟩)
    · exact Or.inl ⟨vk, ⟨List.mem_map.1 ((hcodes vk).2 hne), hheld⟩, rfl⟩
    · exact Or.inr ⟨b, ⟨List.mem_finRange b, hheld⟩, rfl⟩

/-- What is released depends on nothing but what is held. -/
theorem releaseAllKeys_congr {j j' : InputInjector} (h : ∀ q, j'.held q = j.held q) (p : UInt8) :
    (∀ q, (j'.releaseAllKeys p).1.held q = (j.releaseAllKeys p).1.held q) ∧
      ∀ input, input ∈ (j'.releaseAllKeys p).2 ↔ input ∈ (j.releaseAllKeys p).2 := by
  constructor
  · intro q
    rw [held_releaseAllKeys, held_releaseAllKeys, h, h]
  · intro input
    rw [mem_releaseAllKeys, mem_releaseAllKeys, h]

/-- **What `setPermissions` does to what is held**: everything is released when the keyboard is
    off, and nothing otherwise. -/
theorem setPermissions_held (perms : InputPermissions) (io : PlatformResults) :
    (∀ q, (j.setPermissions p perms io).1.held q
        = if perms.keyboard then j.held q else (j.releaseAllKeys p).1.held q) ∧
      ∀ input, input ∈ (j.setPermissions p perms io).2 ↔
        perms.keyboard = false ∧ input ∈ (j.releaseAllKeys p).2 := by
  have hset : ∀ q, (j.setClient
      { j.client p with
        controller := perms.controller
        keyboard := perms.keyboard
        mouse := perms.mouse
        vibration := perms.vibration }).held q = j.held q := fun q =>
    j.held_setClient_same p q (j.client_playerIndex p) rfl
  unfold setPermissions
  dsimp only
  -- the pads hold no keys
  generalize hpads : (if (perms.controller && !(j.client p).controller) = true then _ else _
    : InputInjector) = j'
  have hheld : ∀ q, j'.held q = j.held q := by
    intro q
    rw [← hpads, ← hset q]
    split
    · rfl
    split
    · rfl
    · rfl
  obtain ⟨hreleased, hsent⟩ := releaseAllKeys_congr hheld p
  cases perms.keyboard with
  | false => exact ⟨hreleased, fun input => by simp [hsent]⟩
  | true => exact ⟨hheld, fun input => by simp⟩

/-! ## Key code 0 -/

/-- No entry records key code 0, which `applyEvent` rejects. -/
def NoKeyZero : Prop := ∀ p, (j.held p).keys 0 = false

variable {j p}

theorem key_ne_zero_of_injects {data : Bytes} {vk : UInt8} {down extended : Bool}
    (h : j.injects p data = some (.key vk down extended)) : vk ≠ 0 := by
  obtain ⟨e, -, hinput⟩ := Option.bind_eq_some_iff.1 h
  cases InputEvent.becomes_of_input hinput with
  | key down htype hcode => exact hcode

variable (j p)

theorem held_clientDisconnected (q : UInt8) :
    (j.clientDisconnected p).1.held q = if p = q then {} else j.held q := by
  unfold clientDisconnected
  simp only [held, client, KeyedList.find?_erase]
  split
  · rfl
  · next hne =>
      have hreleased := j.held_releaseAllKeys p q
      rw [if_neg hne] at hreleased
      exact hreleased

/-- What `applyInput` records: the record it injects. -/
theorem held_applyInput (data : Bytes) (io : PlatformResults) (q : UInt8) :
    (j.applyInput p data io).1.held q = match j.injects p data with
      | none => j.held q
      | some input => if p = q then (j.held q).note input else j.held q := by
  obtain ⟨hsome, hnone⟩ := j.applyInput_injects p data io
  cases hinjects : j.injects p data with
  | none => exact (hnone hinjects).2 q
  | some input =>
      rw [hsome input hinjects, held_sendInput, held_note, held_ensureClient, held_ensureClient]
      dsimp only
      split
      · next h => rw [h]
      · rfl

variable {j}

theorem NoKeyZero.step (h : j.NoKeyZero) (op : InjectorOp) : (j.step op).NoKeyZero := by
  have hreleased : ∀ p, (j.releaseAllKeys p).1.NoKeyZero := by
    intro p q
    rw [held_releaseAllKeys]
    split
    · simp [h p]
    · exact h q
  intro q
  cases op with
  | setPermissions p perms io =>
      show ((j.setPermissions p perms io).1.held q).keys 0 = false
      rw [(j.setPermissions_held p perms io).1]
      split
      · exact h q
      · exact hreleased p q
  | applyInput p data io =>
      show ((j.applyInput p data io).1.held q).keys 0 = false
      rw [held_applyInput]
      cases hinjects : j.injects p data with
      | none => exact h q
      | some input =>
          dsimp only
          split
          · cases input with
            | key vk down extended =>
                have hne := key_ne_zero_of_injects hinjects
                rw [HeldInput.note]
                dsimp only
                rw [if_neg (Ne.symm hne)]
                exact h q
            | mouseMove x y => exact h q
            | mouseButton button down => exact h q
            | mouseWheel delta => exact h q
          · exact h q
  | clientDisconnected p =>
      show ((j.clientDisconnected p).1.held q).keys 0 = false
      rw [held_clientDisconnected]
      split
      · rfl
      · exact h q
  | shutdown => rfl

theorem noKeyZero_of_mem_history (client : Bool) (ops : List InjectorOp) :
    ∀ s ∈ history step (started client) ops, s.1.NoKeyZero :=
  history_preserved step NoKeyZero (fun _ op h => h.step op) (started client) ops (fun _ => rfl)

/-! ## Revoking a class -/

/-- After the call no key is held if the keyboard is off, and no button if the mouse is off; what
    was held got its up event. -/
def ReleasesRevoked (j : InputInjector) (playerIndex : UInt8) (perms : InputPermissions)
    (io : PlatformResults) : Prop :=
  let result := j.setPermissions playerIndex perms io
  (perms.keyboard = false → ∀ vk, (result.1.held playerIndex).keys vk = false ∧
      ((j.held playerIndex).keys vk = true → .key vk false false ∈ result.2)) ∧
    (perms.mouse = false → ∀ b, (result.1.held playerIndex).buttons b = false ∧
      ((j.held playerIndex).buttons b = true → .mouseButton b false ∈ result.2))

theorem NoKeyZero.releasesRevoked_iff (h : j.NoKeyZero) (p : UInt8) (perms : InputPermissions)
    (io : PlatformResults) : j.ReleasesRevoked p perms io ↔
      (perms.keyboard = false ∨ perms.mouse = true ∨ ∀ b, (j.held p).buttons b = false) := by
  obtain ⟨hheld, hsent⟩ := j.setPermissions_held p perms io
  unfold ReleasesRevoked
  dsimp only
  simp only [hheld, hsent]
  cases hkeyboard : perms.keyboard with
  | false =>
      -- everything is released
      refine iff_of_true ⟨fun _ vk => ?_, fun _ b => ?_⟩ (Or.inl rfl)
      · rw [if_neg (by simp), held_releaseAllKeys, if_pos rfl]
        constructor
        · by_cases hzero : vk = 0
          · rw [hzero]
            simp [h p]
          · simp [hzero]
        · intro hdown
          refine ⟨rfl, (j.mem_releaseAllKeys p _).2 (Or.inl ⟨vk, ?_, hdown, rfl⟩)⟩
          rintro rfl
          rw [h p] at hdown
          exact absurd hdown (by simp)
      · rw [if_neg (by simp), held_releaseAllKeys, if_pos rfl]
        exact ⟨rfl, fun hdown => ⟨rfl, (j.mem_releaseAllKeys p _).2 (Or.inr ⟨b, hdown, rfl⟩)⟩⟩
  | true =>
      -- nothing is released
      simp only [if_true]
      cases hmouse : perms.mouse with
      | true => simp
      | false =>
          constructor
          · intro hrelease
            exact Or.inr (Or.inr fun b => (hrelease.2 rfl b).1)
          · intro hnone
            refine ⟨fun hc => absurd hc (by simp), fun _ b => ?_⟩
            have hup : (j.held p).buttons b = false := by
              rcases hnone with hc | hc | hup
              · exact absurd hc (by simp)
              · exact absurd hc (by simp)
              · exact hup b
            exact ⟨hup, fun hdown => absurd (hup.symm.trans hdown) (by simp)⟩

/-- **When revoking a class releases it.** In every run, every `setPermissions` for a player leaves
    nothing of a revoked class held, with an up event for all that was, exactly when none of them
    takes the mouse away and leaves the keyboard on while a mouse button is recorded as held. -/
theorem revocation_releases_iff (client : Bool) (ops : List InjectorOp) (p : UInt8) :
    (∀ s ∈ history step (started client) ops, ∀ perms io, s.2 = .setPermissions p perms io →
        s.1.ReleasesRevoked p perms io) ↔
      ∀ s ∈ history step (started client) ops, ∀ perms io, s.2 = .setPermissions p perms io →
        (perms.keyboard = false ∨ perms.mouse = true ∨ ∀ b, (s.1.held p).buttons b = false) := by
  refine forall₂_congr fun s hs => forall₂_congr fun perms io => forall_congr' fun _ => ?_
  exact (noKeyZero_of_mem_history client ops s hs).releasesRevoked_iff p perms io

/-- A mouse button event as a client sends it. -/
def buttonDatagram (button : UInt8) (down : Bool) : Bytes :=
  [1, if down then 4 else 5, button] ++ List.replicate 16 0

/-- Player 0 holds the left button when the mouse is taken away and the keyboard stays: the button
    is still held, no up event was sent, and the client's own one is refused. -/
theorem button_held_after_revocation :
    let j := runFrom step (started true)
      [.setPermissions 0 { keyboard := true, mouse := true } {},
        .applyInput 0 (buttonDatagram 0 true) {}]
    let revoked := j.setPermissions 0 { keyboard := true, mouse := false } {}
    ¬ j.ReleasesRevoked 0 { keyboard := true, mouse := false } {} ∧
      (revoked.1.held 0).buttons 0 = true ∧ revoked.2 = [] ∧
      (revoked.1.applyInput 0 (buttonDatagram 0 false) {}).2.1 = false := by
  intro j revoked
  have hheld : (revoked.1.held 0).buttons 0 = true := by decide +kernel
  refine ⟨?_, hheld, by decide +kernel, by decide +kernel⟩
  intro hrelease
  exact absurd ((hrelease.2 rfl 0).1.symm.trans hheld) (by simp)

end InputInjector

end RemotePlay.Input
