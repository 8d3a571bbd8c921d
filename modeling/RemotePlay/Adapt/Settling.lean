import RemotePlay.Adapt.Hysteresis

set_option autoImplicit false

/-! # How long the controller takes

`Hysteresis` says that the target does not move too early. Here it moves in time: in any state that calls
can lead to, each full streak of bad samples (or cooldown, if that is longer) takes at least 250 kbit/s
off the target until it is at its lower bound, and good samples bring it up in the same way. -/

namespace RemotePlay.Media

namespace Tuning

open AdaptiveBitrate (InBounds create)

section Settling

variable {β : Type*} (t : Tuning β)

/-- In bounds, and with no more of a cooldown than there is. -/
structure Ready (a : AdaptiveBitrate) : Prop where
  bounds : a.InBounds
  cooldown : a.cooldown ≤ t.cooldownSamples

theorem ready_step {a : AdaptiveBitrate} (h : t.Ready a) (e : ControlEvent β) :
    t.Ready (t.step a e) := by
  refine ⟨(t.step_inBounds h.bounds e).1, ?_⟩
  have hcooldown := h.cooldown
  cases e with
  | setManual kbps => exact Nat.le_refl _
  | update s =>
      have hout := t.update_outcome a s
      unfold step
      dsimp only
      generalize t.update a s = out at hout
      cases hout with
      | down next hbad hstreak hcool hnext hne => exact Nat.le_refl _
      | up next hbad hgood hstreak hcool hroom hnext => exact Nat.le_refl _
      | stays down up hdown hup => exact Nat.le_trans (Nat.sub_le _ _) hcooldown

theorem ready_run (initialKbps : Int) {minKbps maxKbps : Int} (hle : minKbps ≤ maxKbps)
    (es : List (ControlEvent β)) : t.Ready (runFrom t.step (create initialKbps minKbps maxKbps) es) :=
  runFrom_preserved t.step t.Ready (fun _ e h => t.ready_step h e) _ es
    ⟨AdaptiveBitrate.create_inBounds _ _ _ hle, Nat.zero_le _⟩

theorem moveTo_currentKbps (a : AdaptiveBitrate) (next : Int) :
    (t.moveTo a next).2.currentKbps = next := by
  unfold moveTo
  split
  · rfl
  · next hsame => exact (not_not.1 hsame).symm

/-! ## Down -/

/-- How many bad samples the next step down takes. -/
def downWait (a : AdaptiveBitrate) : Nat := max (t.downStreakNeeded - a.downStreak) a.cooldown

/-- **A bad sample** makes the step down when it is due, and otherwise shortens the wait. -/
theorem step_bad {a : AdaptiveBitrate} {s : β} (hbad : t.isBad s = true) :
    (t.downWait a ≤ 1 → (t.step a (.update s)).currentKbps =
        max a.minKbps (a.currentKbps - max 250 (t.downFraction s a.currentKbps))) ∧
      (1 < t.downWait a → (t.step a (.update s)).currentKbps = a.currentKbps ∧
        t.downWait (t.step a (.update s)) < t.downWait a) := by
  unfold downWait step update
  dsimp only
  rw [if_pos hbad]
  constructor
  · intro hdue
    rw [if_pos (by omega), moveTo_currentKbps]
  · intro hearly
    rw [if_neg (by omega)]
    refine ⟨rfl, ?_⟩
    dsimp only
    omega

/-! ## Up -/

/-- How many good samples the next step up takes. -/
def upWait (a : AdaptiveBitrate) : Nat := max (t.upStreakNeeded - a.upStreak) a.cooldown

/-- **A good sample** makes the step up when it is due and there is room, and otherwise shortens the
    wait. -/
theorem step_good {a : AdaptiveBitrate} {s : β} (hbad : t.isBad s = false) (hgood : t.isGood s = true) :
    (t.upWait a ≤ 1 → a.currentKbps < a.maxKbps → (t.step a (.update s)).currentKbps =
        min a.maxKbps (a.currentKbps + max 250 (t.upFraction s a.currentKbps))) ∧
      (1 < t.upWait a → (t.step a (.update s)).currentKbps = a.currentKbps ∧
        t.upWait (t.step a (.update s)) < t.upWait a) ∧
      (a.currentKbps = a.maxKbps → (t.step a (.update s)).currentKbps = a.currentKbps) := by
  unfold upWait step update
  dsimp only
  rw [hbad, if_neg Bool.false_ne_true, if_pos hgood]
  refine ⟨?_, ?_, ?_⟩
  · intro hdue hroom
    rw [if_pos (by omega), moveTo_currentKbps]
  · intro hearly
    rw [if_neg (by omega)]
    refine ⟨rfl, ?_⟩
    dsimp only
    omega
  · intro hfull
    rw [if_neg (by omega)]

/-! ## Runs of samples of one kind -/

/-- What stays along a run. -/
structure Between (minKbps maxKbps : Int) (a : AdaptiveBitrate) : Prop where
  ready : t.Ready a
  min : a.minKbps = minKbps
  max : a.maxKbps = maxKbps

variable {minKbps maxKbps : Int}

theorem between_step {a : AdaptiveBitrate} (h : t.Between minKbps maxKbps a) (e : ControlEvent β) :
    t.Between minKbps maxKbps (t.step a e) := by
  obtain ⟨-, hmin, hmax⟩ := t.step_inBounds h.ready.bounds e
  exact ⟨t.ready_step h.ready e, hmin.trans h.min, hmax.trans h.max⟩

theorem bad_samples {a : AdaptiveBitrate} (h : t.Between minKbps maxKbps a)
    (hneeded : 0 < t.downStreakNeeded) (k : Nat) (es : List (ControlEvent β))
    (hbad : ∀ e ∈ es, ∃ s, e = .update s ∧ t.isBad s = true)
    (hlen : k * max t.downStreakNeeded t.cooldownSamples ≤ es.length) :
    ((runFrom t.step a es).currentKbps - minKbps).toNat ≤ (a.currentKbps - minKbps).toNat - k * 250 := by
  refine gap_settles t.step (t.Between minKbps maxKbps) (fun e => ∃ s, e = .update s ∧ t.isBad s = true)
    (fun b => (b.currentKbps - minKbps).toNat) t.downWait 250
    (fun b e hb _ => t.between_step hb e) ?due ?wait _ (by omega) ?long k a h es hlen hbad
  case due =>
    rintro b e hb ⟨s, rfl, hs⟩ hone
    have hlo := hb.ready.bounds.1
    have hmin := hb.min
    have hcurrent := (t.step_bad hs).1 hone
    omega
  case wait =>
    rintro b e hb ⟨s, rfl, hs⟩ hlong
    obtain ⟨hcurrent, hshorter⟩ := (t.step_bad hs).2 hlong
    rw [hcurrent]
    exact .inr ⟨Nat.le_refl _, hshorter⟩
  case long =>
    intro b hb
    have hcooldown := hb.ready.cooldown
    unfold downWait
    omega

theorem good_samples {a : AdaptiveBitrate} (h : t.Between minKbps maxKbps a)
    (hneeded : 0 < t.upStreakNeeded) (k : Nat) (es : List (ControlEvent β))
    (hgood : ∀ e ∈ es, ∃ s, e = .update s ∧ t.isBad s = false ∧ t.isGood s = true)
    (hlen : k * max t.upStreakNeeded t.cooldownSamples ≤ es.length) :
    (maxKbps - (runFrom t.step a es).currentKbps).toNat ≤ (maxKbps - a.currentKbps).toNat - k * 250 := by
  refine gap_settles t.step (t.Between minKbps maxKbps)
    (fun e => ∃ s, e = .update s ∧ t.isBad s = false ∧ t.isGood s = true)
    (fun b => (maxKbps - b.currentKbps).toNat) t.upWait 250
    (fun b e hb _ => t.between_step hb e) ?due ?wait _ (by omega) ?long k a h es hlen hgood
  case due =>
    rintro b e hb ⟨s, rfl, hs, hs'⟩ hone
    have hhi := hb.ready.bounds.2
    have hmax := hb.max
    obtain ⟨hdue, -, hfull⟩ := t.step_good hs hs' (a := b)
    by_cases hroom : b.currentKbps < b.maxKbps
    · have hcurrent := hdue hone hroom
      omega
    · have hcurrent := hfull (by omega)
      omega
  case wait =>
    rintro b e hb ⟨s, rfl, hs, hs'⟩ hlong
    obtain ⟨hcurrent, hshorter⟩ := (t.step_good hs hs').2.1 hlong
    rw [hcurrent]
    exact .inr ⟨Nat.le_refl _, hshorter⟩
  case long =>
    intro b hb
    have hcooldown := hb.ready.cooldown
    unfold upWait
    omega

end Settling

/-- **The target settles.** Whatever calls of `update` and `setManual` came before: after as many bad
    samples in a row as `k` full streaks (or cooldowns, if these are longer) take, the target is at its
    lower bound or at least `k` times 250 kbit/s lower, and after good samples at its upper bound or as
    much higher. -/
theorem settles {β : Type*} (t : Tuning β) (initialKbps minKbps maxKbps : Int)
    (hle : minKbps ≤ maxKbps) (hdown : 0 < t.downStreakNeeded) (hup : 0 < t.upStreakNeeded)
    (es : List (ControlEvent β)) (samples : List β) (k : Nat) :
    let a := runFrom t.step (create initialKbps minKbps maxKbps) es
    let b := runFrom t.step a (samples.map .update)
    ((∀ s ∈ samples, t.isBad s = true) →
      k * max t.downStreakNeeded t.cooldownSamples ≤ samples.length →
        b.currentKbps ≤ max minKbps (a.currentKbps - 250 * k)) ∧
    ((∀ s ∈ samples, t.isBad s = false ∧ t.isGood s = true) →
      k * max t.upStreakNeeded t.cooldownSamples ≤ samples.length →
        min maxKbps (a.currentKbps + 250 * k) ≤ b.currentKbps) := by
  intro a b
  have h₀ : (create initialKbps minKbps maxKbps).InBounds := AdaptiveBitrate.create_inBounds _ _ _ hle
  obtain ⟨hin, hmin, hmax⟩ := t.run_inBounds h₀ es
  have hbetween : t.Between minKbps maxKbps a := ⟨t.ready_run initialKbps hle es, hmin, hmax⟩
  have hlo : minKbps ≤ a.currentKbps := Int.le_trans (Int.le_of_eq hmin.symm) hin.1
  have hhi : a.currentKbps ≤ maxKbps := Int.le_trans hin.2 (Int.le_of_eq hmax)
  have hsamples : ∀ e ∈ samples.map ControlEvent.update, ∃ s ∈ samples, e = .update s := by
    intro e he
    obtain ⟨s, hs, rfl⟩ := List.mem_map.1 he
    exact ⟨s, hs, rfl⟩
  constructor
  · intro hbad hlen
    have hgap := t.bad_samples hbetween hdown k (samples.map .update) (fun e he => by
      obtain ⟨s, hs, rfl⟩ := hsamples e he
      exact ⟨s, rfl, hbad s hs⟩) (by rw [List.length_map]; exact hlen)
    have hgap : (b.currentKbps - minKbps).toNat ≤ (a.currentKbps - minKbps).toNat - k * 250 := hgap
    omega
  · intro hgood hlen
    have hgap := t.good_samples hbetween hup k (samples.map .update) (fun e he => by
      obtain ⟨s, hs, rfl⟩ := hsamples e he
      exact ⟨s, rfl, hgood s hs⟩) (by rw [List.length_map]; exact hlen)
    have hgap : (maxKbps - b.currentKbps).toNat ≤ (maxKbps - a.currentKbps).toNat - k * 250 := hgap
    omega

theorem settles_asBuilt :
    let a := runFrom asBuilt.step (create 8000 defaultMinKbps defaultMaxKbps) [.setManual 2500]
    let b := runFrom asBuilt.step a
      ((List.replicate 6 ({ rttMs := .finite 200 } : LinkSample)).map .update)
    ((∀ s ∈ List.replicate 6 ({ rttMs := .finite 200 } : LinkSample), asBuilt.isBad s = true) →
      2 * max asBuilt.downStreakNeeded asBuilt.cooldownSamples ≤
          (List.replicate 6 ({ rttMs := .finite 200 } : LinkSample)).length →
        b.currentKbps ≤ max defaultMinKbps (a.currentKbps - 250 * (2 : Nat))) ∧
    ((∀ s ∈ List.replicate 6 ({ rttMs := .finite 200 } : LinkSample),
        asBuilt.isBad s = false ∧ asBuilt.isGood s = true) →
      2 * max asBuilt.upStreakNeeded asBuilt.cooldownSamples ≤
          (List.replicate 6 ({ rttMs := .finite 200 } : LinkSample)).length →
        min defaultMaxKbps (a.currentKbps + 250 * (2 : Nat)) ≤ b.currentKbps) :=
  settles asBuilt 8000 defaultMinKbps defaultMaxKbps (by decide) (by decide) (by decide) _ _ 2

end Tuning

end RemotePlay.Media
