import RemotePlay.Adapt.AdaptiveBitrate
import RemotePlay.Lib.Streaks

set_option autoImplicit false

/-! # Hysteresis

The controller with everything that can be tuned as a parameter: what counts as a bad and as a good
sample, the fractional steps, the streaks and the cooldown. `Tuning.asBuilt` is the controller of
the source (`asBuilt_update`).

Whatever the tuning, the target stays in its bounds, moves only after a full streak, and not again
before the cooldown is over (`bounded_and_damped`). The integers are unbounded here; `Overflow` has those
of the source. -/

namespace RemotePlay.Media

/-- What the public members of `AdaptiveBitrate` decide. The fractional steps are the products
    `currentKbps_ * stepFraction` cut to an integer. -/
structure Tuning (β : Type*) where
  isBad : β → Bool
  isGood : β → Bool
  downFraction : β → Int → Int
  upFraction : β → Int → Int
  downStreakNeeded : Nat
  upStreakNeeded : Nat
  cooldownSamples : Nat

/-- The calls that can move the target. -/
inductive ControlEvent (β : Type*) where
  | update (s : β)
  | setManual (kbps : Int)
deriving DecidableEq, Repr

def ControlEvent.isUpdate {β : Type*} : ControlEvent β → Bool
  | .update _ => true
  | .setManual _ => false

namespace Tuning

open AdaptiveBitrate (clamp InBounds create)

section Hysteresis

variable {β : Type*} (t : Tuning β)

/-- `currentKbps_ = next` with what goes with a change. -/
def moveTo (a : AdaptiveBitrate) (next : Int) : Option Int × AdaptiveBitrate :=
  if next ≠ a.currentKbps then
    (some next, { a with currentKbps := next, cooldown := t.cooldownSamples })
  else (none, a)

/-- `AdaptiveBitrate::update`. -/
def update (a : AdaptiveBitrate) (s : β) : Option Int × AdaptiveBitrate :=
  let a := { a with cooldown := a.cooldown - 1 }
  if t.isBad s then
    let a := { a with downStreak := a.downStreak + 1, upStreak := 0 }
    if t.downStreakNeeded ≤ a.downStreak ∧ a.cooldown = 0 then
      t.moveTo { a with downStreak := 0 }
        (max a.minKbps (a.currentKbps - max 250 (t.downFraction s a.currentKbps)))
    else (none, a)
  else if t.isGood s then
    let a := { a with upStreak := a.upStreak + 1, downStreak := 0 }
    if t.upStreakNeeded ≤ a.upStreak ∧ a.cooldown = 0 ∧ a.currentKbps < a.maxKbps then
      t.moveTo { a with upStreak := 0 }
        (min a.maxKbps (a.currentKbps + max 250 (t.upFraction s a.currentKbps)))
    else (none, a)
  else (none, { a with downStreak := 0, upStreak := 0 })

/-- `AdaptiveBitrate::setManual`. -/
def setManual (a : AdaptiveBitrate) (kbps : Int) : AdaptiveBitrate :=
  { a with
    currentKbps := clamp kbps a.minKbps a.maxKbps
    downStreak := 0
    upStreak := 0
    cooldown := t.cooldownSamples }

/-- The controller as a machine. -/
def step (a : AdaptiveBitrate) : ControlEvent β → AdaptiveBitrate
  | .update s => (t.update a s).2
  | .setManual kbps => t.setManual a kbps

/-- The tuning of the source. -/
def asBuilt : Tuning LinkSample :=
  { isBad := AdaptiveBitrate.isBad
    isGood := AdaptiveBitrate.isGood
    downFraction := fun _ kbps => truncMul kbps 5404319552844595 55
    upFraction := fun _ kbps => truncMul kbps 3602879701896397 55
    downStreakNeeded := Media.downStreakNeeded
    upStreakNeeded := Media.upStreakNeeded
    cooldownSamples := Media.cooldownSamples }

theorem asBuilt_update (a : AdaptiveBitrate) (s : LinkSample) : asBuilt.update a s = a.update s :=
  rfl

/-! ## What a call can do -/

/-- What `update` returns and leaves behind: a step down, a step up, or new streaks. -/
inductive Outcome (a : AdaptiveBitrate) (s : β) : Option Int × AdaptiveBitrate → Prop where
  | down (next : Int) (hbad : t.isBad s = true) (hstreak : t.downStreakNeeded ≤ a.downStreak + 1)
      (hcool : a.cooldown ≤ 1)
      (hnext : next = max a.minKbps (a.currentKbps - max 250 (t.downFraction s a.currentKbps)))
      (hne : next ≠ a.currentKbps) :
      Outcome a s (some next, { a with
        currentKbps := next, downStreak := 0, upStreak := 0, cooldown := t.cooldownSamples })
  | up (next : Int) (hbad : t.isBad s = false) (hgood : t.isGood s = true)
      (hstreak : t.upStreakNeeded ≤ a.upStreak + 1) (hcool : a.cooldown ≤ 1)
      (hroom : a.currentKbps < a.maxKbps)
      (hnext : next = min a.maxKbps (a.currentKbps + max 250 (t.upFraction s a.currentKbps))) :
      Outcome a s (some next, { a with
        currentKbps := next, downStreak := 0, upStreak := 0, cooldown := t.cooldownSamples })
  | stays (down up : Nat) (hdown : down = 0 ∨ (t.isBad s = true ∧ down = a.downStreak + 1))
      (hup : up = 0 ∨ (t.isBad s = false ∧ t.isGood s = true ∧ up = a.upStreak + 1)) :
      Outcome a s (none, { a with
        downStreak := down, upStreak := up, cooldown := a.cooldown - 1 })

theorem update_outcome (a : AdaptiveBitrate) (s : β) : t.Outcome a s (t.update a s) := by
  unfold update
  dsimp only
  split
  · next hbad =>
      split
      · next hdue =>
          unfold moveTo
          split
          · next hne => exact .down _ hbad hdue.1 (by omega) rfl hne
          · exact .stays 0 0 (.inl rfl) (.inl rfl)
      · exact .stays _ 0 (.inr ⟨hbad, rfl⟩) (.inl rfl)
  next hbad =>
  have hbad := Bool.eq_false_iff.2 hbad
  split
  · next hgood =>
      split
      · next hdue =>
          unfold moveTo
          split
          · exact .up _ hbad hgood hdue.1 (by omega) hdue.2.2 rfl
          · exact .stays 0 0 (.inl rfl) (.inl rfl)
      · exact .stays 0 _ (.inl rfl) (.inr ⟨hbad, hgood, rfl⟩)
  · exact .stays 0 0 (.inl rfl) (.inl rfl)

/-! ## One step -/

/-- The call moves the target. -/
def Moves (a : AdaptiveBitrate) (e : ControlEvent β) : Prop :=
  (t.step a e).currentKbps ≠ a.currentKbps

instance (a : AdaptiveBitrate) (e : ControlEvent β) : Decidable (t.Moves a e) :=
  inferInstanceAs (Decidable (_ ≠ _))

/-- The call moves the target or sets it by hand. -/
def Disturbs (a : AdaptiveBitrate) (e : ControlEvent β) : Prop := e.isUpdate = false ∨ t.Moves a e

/-- The call brings a sample that meets `P`, and leaves the target where it is. -/
def Counts (P : β → Prop) (a : AdaptiveBitrate) (e : ControlEvent β) : Prop :=
  (∃ s, e = .update s ∧ P s) ∧ ¬ t.Moves a e

/-- A step down makes the target lower and a step up makes it higher. -/
theorem update_direction {a : AdaptiveBitrate} (h : a.InBounds) (s : β) :
    ((t.update a s).2.currentKbps < a.currentKbps →
      t.isBad s = true ∧ t.downStreakNeeded ≤ a.downStreak + 1) ∧
    (a.currentKbps < (t.update a s).2.currentKbps →
      (t.isBad s = false ∧ t.isGood s = true) ∧ t.upStreakNeeded ≤ a.upStreak + 1) ∧
    (t.Moves a (.update s) → a.cooldown ≤ 1) := by
  obtain ⟨hlo, hhi⟩ := h
  have hout := t.update_outcome a s
  unfold Moves step
  dsimp only
  generalize t.update a s = out at hout
  cases hout with
  | down next hbad hstreak hcool hnext hne =>
      refine ⟨fun _ => ⟨hbad, hstreak⟩, ?_, fun _ => hcool⟩
      intro hup
      dsimp only at hup
      omega
  | up next hbad hgood hstreak hcool hroom hnext =>
      refine ⟨?_, fun _ => ⟨⟨hbad, hgood⟩, hstreak⟩, fun _ => hcool⟩
      intro hdown
      dsimp only at hdown
      omega
  | stays down up hdown hup =>
      exact ⟨fun hlt => absurd hlt (Int.lt_irrefl _), fun hlt => absurd hlt (Int.lt_irrefl _),
        fun hne => absurd rfl hne⟩

/-- What `update` returns is the target it moved to. -/
theorem update_returns (a : AdaptiveBitrate) (s : β) :
    (t.update a s).1 = if t.Moves a (.update s) then some (t.update a s).2.currentKbps
      else none := by
  have hout : ∀ out, t.Outcome a s out → out.1
      = if out.2.currentKbps ≠ a.currentKbps then some out.2.currentKbps else none := by
    intro out hout
    cases hout with
    | down next hbad hstreak hcool hnext hne => exact (if_pos hne).symm
    | up next hbad hgood hstreak hcool hroom hnext =>
        have hne : next ≠ a.currentKbps := by omega
        exact (if_pos hne).symm
    | stays down up hdown hup => exact (if_neg (not_not.2 rfl)).symm
  exact hout _ (t.update_outcome a s)

theorem step_inBounds {a : AdaptiveBitrate} (h : a.InBounds) (e : ControlEvent β) :
    (t.step a e).InBounds ∧ (t.step a e).minKbps = a.minKbps ∧
      (t.step a e).maxKbps = a.maxKbps := by
  obtain ⟨hlo, hhi⟩ := h
  cases e with
  | update s =>
      have hout := t.update_outcome a s
      unfold step
      dsimp only
      generalize t.update a s = out at hout
      cases hout with
      | down next hbad hstreak hcool hnext hne =>
          exact ⟨⟨by dsimp only; omega, by dsimp only; omega⟩, rfl, rfl⟩
      | up next hbad hgood hstreak hcool hroom hnext =>
          exact ⟨⟨by dsimp only; omega, by dsimp only; omega⟩, rfl, rfl⟩
      | stays down up hdown hup => exact ⟨⟨hlo, hhi⟩, rfl, rfl⟩
  | setManual kbps =>
      exact ⟨AdaptiveBitrate.create_inBounds kbps _ _ (hlo.trans hhi), rfl, rfl⟩

/-- The streaks count samples, each of its kind, and only while the target stays. -/
theorem step_streaks (a : AdaptiveBitrate) (e : ControlEvent β) :
    ((t.step a e).downStreak = 0 ∨
      (t.Counts (fun s => t.isBad s = true) a e ∧ (t.step a e).downStreak ≤ a.downStreak + 1)) ∧
    ((t.step a e).upStreak = 0 ∨
      (t.Counts (fun s => t.isBad s = false ∧ t.isGood s = true) a e ∧
        (t.step a e).upStreak ≤ a.upStreak + 1)) := by
  cases e with
  | setManual kbps => exact ⟨.inl rfl, .inl rfl⟩
  | update s =>
      have hout := t.update_outcome a s
      unfold Counts Moves step
      dsimp only
      generalize t.update a s = out at hout
      cases hout with
      | down next hbad hstreak hcool hnext hne => exact ⟨.inl rfl, .inl rfl⟩
      | up next hbad hgood hstreak hcool hroom hnext => exact ⟨.inl rfl, .inl rfl⟩
      | stays down up hdown hup =>
          constructor
          · rcases hdown with hdown | ⟨hbad, hdown⟩
            · exact .inl hdown
            · exact .inr ⟨⟨⟨s, rfl, hbad⟩, not_not.2 rfl⟩, Nat.le_of_eq hdown⟩
          · rcases hup with hup | ⟨hbad, hgood, hup⟩
            · exact .inl hup
            · exact .inr ⟨⟨⟨s, rfl, hbad, hgood⟩, not_not.2 rfl⟩, Nat.le_of_eq hup⟩

/-- The cooldown ticks with the samples. -/
theorem step_cooldown (a : AdaptiveBitrate) (e : ControlEvent β) :
    t.cooldownSamples ≤ (t.step a e).cooldown ∨
      a.cooldown ≤ (t.step a e).cooldown + (if e.isUpdate then 1 else 0) := by
  cases e with
  | setManual kbps => exact .inl (Nat.le_refl _)
  | update s =>
      have hout := t.update_outcome a s
      unfold step
      dsimp only
      generalize t.update a s = out at hout
      cases hout with
      | down next hbad hstreak hcool hnext hne => exact .inl (Nat.le_refl _)
      | up next hbad hgood hstreak hcool hroom hnext => exact .inl (Nat.le_refl _)
      | stays down up hdown hup =>
          right
          show a.cooldown ≤ a.cooldown - 1 + 1
          omega

/-- After a change everything starts over. -/
theorem step_disturbed {a : AdaptiveBitrate} {e : ControlEvent β} (h : t.Disturbs a e) :
    (t.step a e).cooldown = t.cooldownSamples ∧ (t.step a e).downStreak = 0 ∧
      (t.step a e).upStreak = 0 := by
  cases e with
  | setManual kbps => exact ⟨rfl, rfl, rfl⟩
  | update s =>
      have hmoves := h.resolve_left (by simp [ControlEvent.isUpdate])
      have hout := t.update_outcome a s
      unfold Moves step at hmoves
      unfold step
      dsimp only at hmoves ⊢
      generalize t.update a s = out at hout hmoves
      cases hout with
      | down next hbad hstreak hcool hnext hne => exact ⟨rfl, rfl, rfl⟩
      | up next hbad hgood hstreak hcool hroom hnext => exact ⟨rfl, rfl, rfl⟩
      | stays down up hdown hup => exact absurd rfl hmoves

/-! ## Runs -/

/-- The run ends with `n` samples that meet `P`, none of which moved the target. -/
def EndsWith (P : β → Prop) (n : Nat) (a : AdaptiveBitrate) (es : List (ControlEvent β)) : Prop :=
  ∃ before streak, es = before ++ streak ∧ streak.length = n ∧
    ∀ p ∈ history t.step (runFrom t.step a before) streak, t.Counts P p.1 p.2

/-- The streak that a change of the target needs. -/
def streakNeeded (a : AdaptiveBitrate) (s : β) : Nat :=
  if (t.update a s).2.currentKbps < a.currentKbps then t.downStreakNeeded else t.upStreakNeeded

/-- What a controller that started in `a₀` does, after the calls `es`, with one more sample. -/
structure Damped (a₀ : AdaptiveBitrate) (es : List (ControlEvent β)) (s : β) : Prop where
  /-- A value is returned when the target moves, and it is the target. -/
  returns : (t.update (runFrom t.step a₀ es) s).1
    = if t.Moves (runFrom t.step a₀ es) (.update s)
      then some (t.update (runFrom t.step a₀ es) s).2.currentKbps else none
  down : (t.update (runFrom t.step a₀ es) s).2.currentKbps < (runFrom t.step a₀ es).currentKbps →
    t.isBad s = true ∧ ∃ n, n + 1 = t.downStreakNeeded ∧
      t.EndsWith (fun q => t.isBad q = true) n a₀ es
  up : (runFrom t.step a₀ es).currentKbps < (t.update (runFrom t.step a₀ es) s).2.currentKbps →
    (t.isBad s = false ∧ t.isGood s = true) ∧ ∃ n, n + 1 = t.upStreakNeeded ∧
      t.EndsWith (fun q => t.isBad q = false ∧ t.isGood q = true) n a₀ es
  /-- The sample is the `max`-th after any earlier change, or a later one. -/
  apart : ∀ before e between, es = before ++ e :: between →
    t.Disturbs (runFrom t.step a₀ before) e → t.Moves (runFrom t.step a₀ es) (.update s) →
      max t.cooldownSamples (t.streakNeeded (runFrom t.step a₀ es) s)
        ≤ between.countP ControlEvent.isUpdate + 1

theorem run_inBounds {a : AdaptiveBitrate} (h : a.InBounds) (es : List (ControlEvent β)) :
    (runFrom t.step a es).InBounds ∧ (runFrom t.step a es).minKbps = a.minKbps ∧
      (runFrom t.step a es).maxKbps = a.maxKbps := by
  refine runFrom_preserved t.step
    (fun b => b.InBounds ∧ b.minKbps = a.minKbps ∧ b.maxKbps = a.maxKbps) ?_ a es ⟨h, rfl, rfl⟩
  rintro b e ⟨hb, hmin, hmax⟩
  obtain ⟨hb', hmin', hmax'⟩ := t.step_inBounds hb e
  exact ⟨hb', hmin'.trans hmin, hmax'.trans hmax⟩

/-- Between a change and the next move both streaks and the cooldown have to pass. -/
theorem waits_after {a : AdaptiveBitrate} (h : a.InBounds) {e : ControlEvent β}
    (hdist : t.Disturbs a e) (between : List (ControlEvent β)) (s : β)
    (hmoves : t.Moves (runFrom t.step (t.step a e) between) (.update s)) :
    max t.cooldownSamples (t.streakNeeded (runFrom t.step (t.step a e) between) s)
      ≤ between.countP ControlEvent.isUpdate + 1 := by
  obtain ⟨hcool, hdown, hup⟩ := t.step_disturbed hdist
  obtain ⟨hin, -⟩ := t.run_inBounds (t.step_inBounds h e).1 between
  obtain ⟨hlower, hraise, hexpired⟩ := t.update_direction hin s
  have hticks := le_countdown_add t.step AdaptiveBitrate.cooldown ControlEvent.isUpdate
    t.cooldownSamples t.step_cooldown (t.step a e) (Nat.le_of_eq hcool.symm) between
  have hone : ∀ (count : AdaptiveBitrate → Nat) (P : β → Prop),
      (∀ b d, count (t.step b d) = 0 ∨ (t.Counts P b d ∧ count (t.step b d) ≤ count b + 1)) →
        ∀ b d, count (t.step b d) ≤ count b + (if ControlEvent.isUpdate d then 1 else 0) := by
    intro count P hcount b d
    rcases hcount b d with hzero | ⟨⟨⟨q, rfl, -⟩, -⟩, hle⟩
    · omega
    · exact hle
  have hdowns := count_le_countP t.step AdaptiveBitrate.downStreak ControlEvent.isUpdate
    (hone _ _ fun b d => (t.step_streaks b d).1) (t.step a e) hdown between
  have hups := count_le_countP t.step AdaptiveBitrate.upStreak ControlEvent.isUpdate
    (hone _ _ fun b d => (t.step_streaks b d).2) (t.step a e) hup between
  have hexpired := hexpired hmoves
  have hne : (t.update (runFrom t.step (t.step a e) between) s).2.currentKbps
      ≠ (runFrom t.step (t.step a e) between).currentKbps := hmoves
  unfold streakNeeded
  split
  · next hlt =>
      have hstreak := (hlower hlt).2
      omega
  · next hge =>
      have hstreak := (hraise (by omega)).2
      omega

end Hysteresis

/-- **Bounded, and never quick to change its mind.** Whatever counts as bad and good and however
    large the fractional steps are, after any calls of `update` and `setManual` the target is within
    the bounds, and the next sample is `Damped`: it moves the target only down after a full streak
    of bad samples or up after one of good samples, with no change among them, and only as long
    after the previous change as the cooldown and the streak ask for. -/
theorem bounded_and_damped {β : Type*} (t : Tuning β) (initialKbps minKbps maxKbps : Int)
    (hle : minKbps ≤ maxKbps) (hdown : 0 < t.downStreakNeeded) (hup : 0 < t.upStreakNeeded)
    (es : List (ControlEvent β)) :
    let a₀ := create initialKbps minKbps maxKbps
    (minKbps ≤ (runFrom t.step a₀ es).currentKbps ∧ (runFrom t.step a₀ es).currentKbps ≤ maxKbps) ∧
      ∀ s, t.Damped a₀ es s := by
  intro a₀
  have h₀ : a₀.InBounds := AdaptiveBitrate.create_inBounds _ _ _ hle
  obtain ⟨hin, hmin, hmax⟩ := t.run_inBounds h₀ es
  have hbounds := hin
  unfold InBounds at hbounds
  rw [hmin, hmax] at hbounds
  refine ⟨hbounds, fun s => ?_⟩
  obtain ⟨hlower, hraise, -⟩ := t.update_direction hin s
  constructor
  case returns => exact t.update_returns _ s
  case down =>
    intro hlt
    obtain ⟨hbad, hstreak⟩ := hlower hlt
    refine ⟨hbad, t.downStreakNeeded - 1, by omega, ?_⟩
    exact exists_streak t.step AdaptiveBitrate.downStreak _ (fun b d => (t.step_streaks b d).1) a₀
      rfl es _ (by omega)
  case up =>
    intro hlt
    obtain ⟨hgood, hstreak⟩ := hraise hlt
    refine ⟨hgood, t.upStreakNeeded - 1, by omega, ?_⟩
    exact exists_streak t.step AdaptiveBitrate.upStreak _ (fun b d => (t.step_streaks b d).2) a₀ rfl
      es _ (by omega)
  case apart =>
    rintro before e between rfl hdist hmoves
    rw [runFrom_append, runFrom_cons] at hmoves ⊢
    exact t.waits_after (t.run_inBounds h₀ before).1 hdist between s hmoves

end Tuning

end RemotePlay.Media
