import Mathlib.Data.List.Perm.Subperm
import RemotePlay.Input.InjectorRuns

set_option autoImplicit false

/-! # Who has a virtual pad

`setPermissions` adds a pad when the controller permission goes from false to true, and a new entry
starts with the permission set, "mirrored from handshake", but without a pad. So the first
permission that grants the controller adds none: a pad needs a denial first (`padsFollow_run`), and
until then the player's controller states are rejected (`permitted_has_pad_iff`). -/

namespace RemotePlay.Input

/-- A call for one of the players, while ViGEm does what it is asked to. -/
def InjectorOp.ServedFor (players : List UInt8) : InjectorOp → Prop
  | .setPermissions p _ io => p ∈ players ∧ io.padAdded = true ∧ io.padUpdated = true
  | .applyInput p _ io => p ∈ players ∧ io.padAdded = true ∧ io.padUpdated = true
  | .clientDisconnected p => p ∈ players
  | .shutdown => False

/-- Whether the call leaves the player's controller denied, was it denied before. -/
def InjectorOp.denies (p : UInt8) (denied : Bool) : InjectorOp → Bool
  | .setPermissions q perms _ => if q = p then denied || !perms.controller else denied
  | .clientDisconnected q => if q = p then false else denied
  | .applyInput _ _ _ => denied
  | .shutdown => false

/-- A call has denied the player the controller since the player last disconnected. -/
def controllerDenied (p : UInt8) (ops : List InjectorOp) : Bool :=
  ops.foldl (InjectorOp.denies p) false

theorem controllerDenied_concat (p : UInt8) (ops : List InjectorOp) (op : InjectorOp) :
    controllerDenied p (ops ++ [op]) = op.denies p (controllerDenied p ops) := by
  rw [controllerDenied, List.foldl_append]
  rfl

namespace VirtualGamepad

variable {g : VirtualGamepad} {players : List UInt8} {p : UInt8}

/-- Of at most four players, one without a pad can be given one. -/
theorem addPlayer_of_room (hclient : g.client = true) (hnodup : g.pads.Nodup)
    (hknown : ∀ q ∈ g.pads, q ∈ players) (hfour : players.length ≤ 4) (hp : p ∈ players)
    (hnew : g.hasPlayer p = false) : (g.addPlayer p true).1 = { g with pads := g.pads ++ [p] } := by
  have hmem : p ∉ g.pads := by
    intro hin
    rw [hasPlayer, List.contains_eq_mem, decide_eq_true hin] at hnew
    cases hnew
  have hsub : (p :: g.pads).Subperm players := by
    refine List.subperm_of_subset (List.nodup_cons.2 ⟨hmem, hnodup⟩) ?_
    intro q hq
    rcases List.mem_cons.1 hq with rfl | hq
    · exact hp
    · exact hknown q hq
  have hlen := hsub.length_le
  rw [List.length_cons] at hlen
  unfold addPlayer
  rw [hclient, hnew]
  simp only [Bool.not_true, Bool.false_eq_true, if_false]
  rw [if_neg (by omega)]

theorem hasPlayer_append (q : UInt8) :
    ({ g with pads := g.pads ++ [p] } : VirtualGamepad).hasPlayer q
      = (g.hasPlayer q || decide (q = p)) := by
  simp [hasPlayer]

theorem hasPlayer_removePlayer (hnodup : g.pads.Nodup) (q : UInt8) :
    (g.removePlayer p).hasPlayer q = (g.hasPlayer q && !decide (q = p)) := by
  rw [hasPlayer, hasPlayer, removePlayer, List.contains_eq_mem, List.contains_eq_mem,
    Bool.eq_iff_iff]
  simp [hnodup.mem_erase_iff, and_comm]

end VirtualGamepad

namespace InputInjector

/-- The pads, after calls of which `denied` tells who was denied the controller. -/
structure PadsFollow (players : List UInt8) (denied : UInt8 → Bool) (j : InputInjector) :
    Prop where
  client : j.pads.client = true
  nodup : j.pads.pads.Nodup
  known : ∀ p ∈ j.pads.pads, p ∈ players
  /-- A pad is there for who is permitted after having been denied. -/
  follows : ∀ p, j.pads.hasPlayer p = ((j.enforced p).controller && denied p)
  denied : ∀ p, (j.enforced p).controller = false → denied p = true

theorem pads_setPermissions (j : InputInjector) (p : UInt8) (perms : InputPermissions)
    (io : PlatformResults) :
    (j.setPermissions p perms io).1.pads
      = if perms.controller && !(j.enforced p).controller then (j.pads.addPlayer p io.padAdded).1
        else if !perms.controller && (j.enforced p).controller then j.pads.removePlayer p
        else j.pads := by
  have hcontroller : (j.client p).controller = (j.enforced p).controller := rfl
  unfold setPermissions
  dsimp only
  rw [hcontroller]
  cases perms.controller && !(j.enforced p).controller with
  | true =>
      split
      · rfl
      · rfl
  | false =>
      cases !perms.controller && (j.enforced p).controller with
      | true =>
          split
          · rfl
          · rfl
      | false =>
          split
          · rfl
          · rfl

section Follow

variable {players : List UInt8} {denied : UInt8 → Bool} {j : InputInjector}

/-- From the pads `g` to `g'` only the player `p` may gain or lose a pad: `has` says whether there is
    one now. -/
structure PadChange (players : List UInt8) (g g' : VirtualGamepad) (p : UInt8) (has : Bool) :
    Prop where
  client : g'.client = true
  nodup : g'.pads.Nodup
  known : ∀ q ∈ g'.pads, q ∈ players
  self : g'.hasPlayer p = has
  others : ∀ q, p ≠ q → g'.hasPlayer q = g.hasPlayer q

/-- A change for one player. -/
theorem PadsFollow.change (h : PadsFollow players denied j) {j' : InputInjector}
    {denied' : UInt8 → Bool} {p : UInt8} {has : Bool}
    (hpads : PadChange players j.pads j'.pads p has)
    (hfollows : has = ((j'.enforced p).controller && denied' p))
    (hdenied : (j'.enforced p).controller = false → denied' p = true)
    (hothers : ∀ q, p ≠ q → j'.enforced q = j.enforced q ∧ denied' q = denied q) :
    PadsFollow players denied' j' := by
  refine ⟨hpads.client, hpads.nodup, hpads.known, fun q => ?_, fun q => ?_⟩
  · by_cases hq : p = q
    · rw [← hq, hpads.self, hfollows]
    · obtain ⟨henforced, hsame⟩ := hothers q hq
      rw [hpads.others q hq, henforced, hsame, h.follows]
  · by_cases hq : p = q
    · rw [← hq]
      exact hdenied
    · obtain ⟨henforced, hsame⟩ := hothers q hq
      rw [henforced, hsame]
      exact h.denied q

theorem PadsFollow.kept (h : PadsFollow players denied j) (p : UInt8) :
    PadChange players j.pads j.pads p ((j.enforced p).controller && denied p) where
  client := h.client
  nodup := h.nodup
  known := h.known
  self := h.follows p
  others := fun _ _ => rfl

theorem PadsFollow.removed (h : PadsFollow players denied j) (p : UInt8) :
    PadChange players j.pads (j.pads.removePlayer p) p false where
  client := h.client
  nodup := h.nodup.erase p
  known := fun q hq => h.known q (List.mem_of_mem_erase hq)
  self := by
    rw [VirtualGamepad.hasPlayer_removePlayer h.nodup]
    simp
  others := fun q hne => by
    rw [VirtualGamepad.hasPlayer_removePlayer h.nodup]
    simp [Ne.symm hne]

theorem PadsFollow.added (h : PadsFollow players denied j) (hfour : players.length ≤ 4) {p : UInt8}
    (hp : p ∈ players) (hnew : j.pads.hasPlayer p = false) :
    PadChange players j.pads (j.pads.addPlayer p true).1 p true := by
  have hmem : p ∉ j.pads.pads := by
    intro hin
    rw [VirtualGamepad.hasPlayer, List.contains_eq_mem, decide_eq_true hin] at hnew
    cases hnew
  rw [VirtualGamepad.addPlayer_of_room h.client h.nodup h.known hfour hp hnew]
  refine ⟨h.client, ?_, ?_, ?_, ?_⟩
  · exact List.nodup_append'.2 ⟨h.nodup, List.nodup_singleton p, by simpa using hmem⟩
  · intro q hq
    rcases List.mem_append.1 hq with hin | hlast
    · exact h.known q hin
    · rw [List.mem_singleton.1 hlast]
      exact hp
  · rw [VirtualGamepad.hasPlayer_append]
    simp
  · intro q hne
    rw [VirtualGamepad.hasPlayer_append]
    simp [Ne.symm hne]

/-- After `setPermissions` a pad is there for a permitted player that was denied before. -/
theorem PadsFollow.padChange (h : PadsFollow players denied j) (hfour : players.length ≤ 4)
    {p : UInt8} (hp : p ∈ players) (perms : InputPermissions) {io : PlatformResults}
    (hadded : io.padAdded = true) :
    PadChange players j.pads (j.setPermissions p perms io).1.pads p
      (perms.controller && denied p) := by
  have hfollows := h.follows p
  rw [j.pads_setPermissions, hadded]
  cases hold : (j.enforced p).controller with
  | true =>
      cases perms.controller with
      | true =>
          have hkept := h.kept p
          rw [hold] at hkept
          exact hkept
      | false => exact h.removed p
  | false =>
      rw [hold, Bool.false_and] at hfollows
      cases perms.controller with
      | true =>
          rw [h.denied p hold]
          exact h.added hfour hp hfollows
      | false =>
          have hkept := h.kept p
          rw [hold] at hkept
          exact hkept

theorem PadsFollow.setPermissions (h : PadsFollow players denied j) (hfour : players.length ≤ 4)
    {p : UInt8} (hp : p ∈ players) (perms : InputPermissions) {io : PlatformResults}
    (hadded : io.padAdded = true) :
    PadsFollow players (fun q => InjectorOp.denies q (denied q) (.setPermissions p perms io))
      (j.setPermissions p perms io).1 := by
  have henforced : (j.setPermissions p perms io).1.enforced p = perms := by
    rw [j.enforced_setPermissions, if_pos rfl]
  have hdenies : InjectorOp.denies p (denied p) (.setPermissions p perms io)
      = (denied p || !perms.controller) := if_pos rfl
  refine h.change (h.padChange hfour hp perms hadded) ?_ ?_ ?_
  · rw [henforced, hdenies]
    cases perms.controller with
    | true => simp
    | false => rfl
  · intro hfalse
    rw [henforced] at hfalse
    rw [hdenies, hfalse]
    simp
  · intro q hne
    exact ⟨by rw [j.enforced_setPermissions, if_neg hne], if_neg hne⟩

theorem PadsFollow.clientDisconnected (h : PadsFollow players denied j) (p : UInt8) :
    PadsFollow players (fun q => InjectorOp.denies q (denied q) (.clientDisconnected p))
      (j.clientDisconnected p).1 := by
  have hdenies : InjectorOp.denies p (denied p) (.clientDisconnected p) = false := if_pos rfl
  have henforced : ((j.clientDisconnected p).1.enforced p).controller = true := by
    rw [j.enforced_clientDisconnected, if_pos rfl]
  refine h.change (h.removed p) ?_ ?_ ?_
  · rw [hdenies, Bool.and_false]
  · intro hfalse
    rw [henforced] at hfalse
    cases hfalse
  · intro q hne
    exact ⟨by rw [j.enforced_clientDisconnected, if_neg hne], if_neg hne⟩

theorem PadsFollow.step (h : PadsFollow players denied j) (hfour : players.length ≤ 4)
    {op : InjectorOp} (hop : op.ServedFor players) :
    PadsFollow players (fun q => InjectorOp.denies q (denied q) op) (j.step op) := by
  cases op with
  | setPermissions p perms io => exact h.setPermissions hfour hop.1 perms hop.2.1
  | applyInput p data io =>
      have hpads : (j.step (.applyInput p data io)).pads = j.pads := j.pads_applyInput p data io
      have henforced : ∀ q, (j.step (.applyInput p data io)).enforced q = j.enforced q := fun q =>
        j.enforced_applyInput p q data io
      refine ⟨?_, ?_, ?_, fun q => ?_, fun q => ?_⟩
      · rw [hpads]
        exact h.client
      · rw [hpads]
        exact h.nodup
      · rw [hpads]
        exact h.known
      · rw [hpads, henforced]
        exact h.follows q
      · rw [henforced]
        exact h.denied q
  | clientDisconnected p => exact h.clientDisconnected p
  | shutdown => exact absurd hop id

/-- **The pads after any calls**: who is permitted, and was denied before, has one. -/
theorem padsFollow_run (hfour : players.length ≤ 4) (ops : List InjectorOp)
    (hops : ∀ op ∈ ops, op.ServedFor players) :
    PadsFollow players (fun p => controllerDenied p ops)
      (runFrom InputInjector.step (started true) ops) := by
  induction ops using List.reverseRecOn with
  | nil =>
      refine ⟨rfl, List.nodup_nil, nofun, fun p => ?_, nofun⟩
      rfl
  | append_singleton ops op ih =>
      have hbefore := ih (fun op hop => hops op (List.mem_append_left _ hop))
      have hserved := hops op (List.mem_append_right _ (List.mem_singleton_self op))
      have hlast := hbefore.step hfour hserved
      rw [runFrom_concat]
      simp only [controllerDenied_concat]
      exact hlast

end Follow

/-- The player has a pad if permitted, and connected states of the controller are injected then. -/
def PadMatches (j : InputInjector) (playerIndex : UInt8) (perms : InputPermissions) : Prop :=
  (j.pads.hasPlayer playerIndex = true ↔ perms.controller = true) ∧
    (perms.controller = true → ∀ data state io, unpackInput data = some (.controller state) →
      state.version = 1 → state.connected ≠ 0 → io.padUpdated = true →
        (j.applyInput playerIndex data io).2.1 = true)

/-- A permitted player with a pad is served. -/
theorem applyInput_of_pad {j : InputInjector} {p : UInt8} (hclient : j.pads.client = true)
    (hpad : j.pads.hasPlayer p = true) (hperm : (j.enforced p).controller = true) {data : Bytes}
    {state : GameControllerState} {io : PlatformResults}
    (hdata : unpackInput data = some (.controller state)) (hversion : state.version = 1)
    (hconnected : state.connected ≠ 0) (hupdated : io.padUpdated = true) :
    (j.applyInput p data io).2.1 = true := by
  have hreport : j.reportsPad p data = some state := by
    unfold reportsPad padReport
    rw [hdata]
    dsimp only
    rw [client_ensureClient, if_neg, if_neg (not_not.2 hversion), if_neg hconnected]
    rw [Bool.not_eq_true', Bool.not_eq_false]
    exact hperm
  rw [(j.applyInput_reportsPad p data io).1 state hreport, VirtualGamepad.update, hpad, hclient,
    hupdated]
  rfl

end InputInjector

/-- **When a permission comes with a pad.** ViGEm is there and does what it is asked to, and the
    calls are for at most four players. After any of them, `setPermissions` leaves the player with a
    pad exactly if it grants the controller, just in case it denies the controller, or a call has
    denied it since the player last disconnected. The first grant to a new entry adds no pad. -/
theorem permitted_has_pad_iff (players : List UInt8) (hfour : players.length ≤ 4)
    (ops : List InjectorOp) (hops : ∀ op ∈ ops, op.ServedFor players) (p : UInt8)
    (perms : InputPermissions) (io : PlatformResults)
    (hop : (InjectorOp.setPermissions p perms io).ServedFor players) :
    ((runFrom InputInjector.step (.started true) ops).setPermissions p perms io).1.PadMatches
        p perms ↔ (perms.controller = false ∨ controllerDenied p ops = true) := by
  set j := runFrom InputInjector.step (.started true) ops
  have hrun := InputInjector.padsFollow_run hfour ops hops
  have hfollow := hrun.setPermissions hfour hop.1 perms hop.2.1
  have henforced : (j.setPermissions p perms io).1.enforced p = perms := by
    rw [j.enforced_setPermissions, if_pos rfl]
  have hhas := hfollow.follows p
  have hdenies : InjectorOp.denies p (controllerDenied p ops) (.setPermissions p perms io)
      = (controllerDenied p ops || !perms.controller) := if_pos rfl
  rw [henforced, hdenies] at hhas
  constructor
  · rintro ⟨hmatch, -⟩
    cases hperm : perms.controller with
    | false => exact .inl rfl
    | true =>
        right
        rw [hmatch.2 hperm, hperm, Bool.true_and, Bool.not_true, Bool.or_false] at hhas
        exact hhas.symm
  · intro hcond
    have hpad : (j.setPermissions p perms io).1.pads.hasPlayer p = perms.controller := by
      rw [hhas]
      rcases hcond with hfalse | hdenied
      · rw [hfalse]
        rfl
      · rw [hdenied, Bool.true_or, Bool.and_true]
    refine ⟨by rw [hpad], ?_⟩
    intro hperm data state io' hdata hversion hconnected hupdated
    exact InputInjector.applyInput_of_pad hfollow.client (hpad.trans hperm)
      (by rw [henforced, hperm]) hdata hversion hconnected hupdated

/-- A player who was denied the controller once and is then permitted has a pad. -/
theorem permitted_has_pad_iff_denied_before :
    ((runFrom InputInjector.step (.started true)
        [.setPermissions 0 { controller := false } {}]).setPermissions 0 {} {}).1.PadMatches 0 {} ↔
      (({} : InputPermissions).controller = false ∨
        controllerDenied 0 [.setPermissions 0 { controller := false } {}] = true) :=
  permitted_has_pad_iff [0] (by decide) [.setPermissions 0 { controller := false } {}]
    (fun op hop => by rw [List.mem_singleton.1 hop]; exact ⟨by decide, rfl, rfl⟩) 0 {} {}
    ⟨by decide, rfl, rfl⟩

/-- The first permission of a session grants the controller, and the player has no pad. -/
theorem permitted_without_pad :
    ¬ ∀ (players : List UInt8), players.length ≤ 4 → ∀ ops : List InjectorOp,
      (∀ op ∈ ops, op.ServedFor players) → ∀ (p : UInt8) (perms : InputPermissions)
        (io : PlatformResults), (InjectorOp.setPermissions p perms io).ServedFor players →
          ((runFrom InputInjector.step (.started true) ops).setPermissions p perms io).1.PadMatches
            p perms := by
  intro hclaim
  have hmatch := hclaim [0] (by decide) [] (by simp) 0 {} {} ⟨by decide, rfl, rfl⟩
  have hnone : ((runFrom InputInjector.step (.started true) []).setPermissions 0 {} {}
      ).1.pads.hasPlayer 0 = false := by decide +kernel
  have hpad := hmatch.1.2 rfl
  rw [hnone] at hpad
  cases hpad

end RemotePlay.Input
