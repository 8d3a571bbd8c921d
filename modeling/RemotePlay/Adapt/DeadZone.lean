import RemotePlay.Adapt.Hysteresis

set_option autoImplicit false

/-! # The zone between good and bad

Each measure has a threshold from which it is bad and one up to which it is good, so that what lies
between moves the target neither way. `isGood` holds the round trip against the bad threshold:
`goodRttMs` is compared with nothing. A sample whose round trip lies between the two thresholds thus
counts as good, and the target climbs on such samples (`never_climbs_iff`).

The fields of a sample are only compared, so they may come from any linear order. -/

namespace RemotePlay.Media

/-- `LinkSample`. -/
structure OrderedSample (α : Type*) where
  rttMs : α
  lossPercent : α
  jitterMs : α
  decodeQueueFrames : α
  fpsRatio : α
deriving DecidableEq, Repr

/-- The thresholds of `AdaptiveBitrate` and the two literals of its comparisons. -/
structure Thresholds (α : Type*) where
  badRttMs : α
  badLossPercent : α
  badJitterMs : α
  badQueueFrames : α
  badFpsRatio : α
  goodRttMs : α
  goodLossPercent : α
  goodJitterMs : α
  goodFpsRatio : α
  zero : α
  two : α
deriving DecidableEq, Repr

namespace Thresholds

section Order

variable {α : Type*} [LinearOrder α] (th : Thresholds α)

/-- `AdaptiveBitrate::isBad`. -/
def isBad (s : OrderedSample α) : Bool :=
  decide (th.badLossPercent ≤ s.lossPercent) || decide (th.badRttMs ≤ s.rttMs) ||
    decide (th.badJitterMs ≤ s.jitterMs) || decide (th.badQueueFrames ≤ s.decodeQueueFrames) ||
      (decide (th.zero < s.fpsRatio) && decide (s.fpsRatio ≤ th.badFpsRatio))

/-- The part of `AdaptiveBitrate::isGood` that is not about the round trip. -/
def isGoodButRtt (s : OrderedSample α) : Bool :=
  !(decide (th.goodLossPercent < s.lossPercent) || decide (th.goodJitterMs < s.jitterMs) ||
    decide (th.two ≤ s.decodeQueueFrames) ||
      (decide (th.zero < s.fpsRatio) && decide (s.fpsRatio < th.goodFpsRatio)))

/-- `AdaptiveBitrate::isGood`; the round trip is compared with the bad threshold. -/
def isGood (s : OrderedSample α) : Bool :=
  !(decide (th.goodLossPercent < s.lossPercent) || decide (th.badRttMs < s.rttMs) ||
    decide (th.goodJitterMs < s.jitterMs) || decide (th.two ≤ s.decodeQueueFrames) ||
      (decide (th.zero < s.fpsRatio) && decide (s.fpsRatio < th.goodFpsRatio)))

theorem isGood_iff (s : OrderedSample α) :
    th.isGood s = true ↔ s.rttMs ≤ th.badRttMs ∧ th.isGoodButRtt s = true := by
  simp only [isGood, isGoodButRtt, Bool.not_eq_true', Bool.or_eq_false_iff, decide_eq_false_iff_not,
    not_lt]
  tauto

/-- A controller with these thresholds. -/
def tuning (downFraction upFraction : Int → Int)
    (downStreakNeeded upStreakNeeded cooldownSamples : Nat) : Tuning (OrderedSample α) :=
  { isBad := th.isBad
    isGood := th.isGood
    downFraction := fun _ => downFraction
    upFraction := fun _ => upFraction
    downStreakNeeded := downStreakNeeded
    upStreakNeeded := upStreakNeeded
    cooldownSamples := cooldownSamples }

end Order

/-- The thresholds of the source. -/
def asBuilt : Thresholds Rat :=
  { badRttMs := 150
    badLossPercent := 2
    badJitterMs := 15
    badQueueFrames := 4
    badFpsRatio := 3602879701896397 / 2 ^ 52
    goodRttMs := 80
    goodLossPercent := 5404319552844595 / 2 ^ 54
    goodJitterMs := 5
    goodFpsRatio := 4278419646001971 / 2 ^ 52
    zero := 0
    two := 2 }

end Thresholds

/-- A sample of finite doubles. -/
def OrderedSample.toDoubles (s : OrderedSample Rat) : LinkSample :=
  { rttMs := .finite s.rttMs
    lossPercent := .finite s.lossPercent
    jitterMs := .finite s.jitterMs
    decodeQueueFrames := .finite s.decodeQueueFrames
    fpsRatio := .finite s.fpsRatio }

theorem Double.lt_finite (a b : Rat) : (Double.finite a).lt (.finite b) = decide (a < b) := by
  rw [Double.lt, Double.le, Double.le, Bool.eq_iff_iff, Bool.and_eq_true, Bool.not_eq_true',
    decide_eq_true_eq, decide_eq_false_iff_not, decide_eq_true_eq, lt_iff_le_not_ge]

/-- The controller of the source, on finite doubles. -/
def asBuiltOverRat : Tuning (OrderedSample Rat) :=
  Thresholds.asBuilt.tuning (fun kbps => truncMul kbps 5404319552844595 55)
    (fun kbps => truncMul kbps 3602879701896397 55) downStreakNeeded upStreakNeeded cooldownSamples

theorem asBuiltOverRat_update (a : AdaptiveBitrate) (s : OrderedSample Rat) :
    asBuiltOverRat.update a s = a.update s.toDoubles := by
  have hbad : asBuiltOverRat.isBad s = AdaptiveBitrate.isBad s.toDoubles := by
    simp only [AdaptiveBitrate.isBad, OrderedSample.toDoubles, badFpsRatio, Double.lt_finite]
    rfl
  have hgood : asBuiltOverRat.isGood s = AdaptiveBitrate.isGood s.toDoubles := by
    simp only [AdaptiveBitrate.isGood, OrderedSample.toDoubles, goodLossPercent, badRttMs,
      goodJitterMs, goodFpsRatio, Double.lt_finite]
    rfl
  rw [Tuning.update, AdaptiveBitrate.update, hbad, hgood]
  rfl

/-! ## When the target climbs -/

namespace Tuning

variable {β : Type*} (t : Tuning β)

/-- One sample after the other. -/
def sampled (a : AdaptiveBitrate) (s : β) : AdaptiveBitrate := (t.update a s).2

/-- The sample makes the target higher. -/
def Climbs (a : AdaptiveBitrate) (s : β) : Prop := a.currentKbps < (t.update a s).2.currentKbps

/-- The streak is complete with one more good sample, the cooldown is over and there is room. -/
def DueUp (a : AdaptiveBitrate) : Prop :=
  t.upStreakNeeded ≤ a.upStreak + 1 ∧ a.cooldown ≤ 1 ∧ a.currentKbps < a.maxKbps

theorem climbs_iff {a : AdaptiveBitrate} (h : a.InBounds) (s : β) :
    t.Climbs a s ↔ (t.isBad s = false ∧ t.isGood s = true) ∧ t.DueUp a := by
  obtain ⟨hlo, hhi⟩ := h
  constructor
  · have hout := t.update_outcome a s
    unfold Climbs
    generalize t.update a s = out at hout
    intro hclimbs
    cases hout with
    | down next hbad hstreak hcool hnext hne =>
        dsimp only at hclimbs
        omega
    | up next hbad hgood hstreak hcool hroom hnext => exact ⟨⟨hbad, hgood⟩, hstreak, hcool, hroom⟩
    | stays down up hdown hup => exact absurd hclimbs (Int.lt_irrefl _)
  · rintro ⟨⟨hbad, hgood⟩, hstreak, hcool, hroom⟩
    unfold Climbs update moveTo
    dsimp only
    rw [if_neg (Bool.eq_false_iff.1 hbad), if_pos hgood, if_pos ⟨hstreak, by omega, hroom⟩,
      if_pos (by omega)]
    dsimp only
    omega

theorem sampled_inBounds {a : AdaptiveBitrate} (h : a.InBounds) (samples : List β) :
    (runFrom t.sampled a samples).InBounds := by
  refine runFrom_preserved t.sampled AdaptiveBitrate.InBounds ?_ a samples h
  intro b s hb
  exact (t.step_inBounds hb (.update s)).1

end Tuning

/-- **When the dead zone of the round trip is respected.** On samples that all have a round trip
    above `goodRttMs`, the target never climbs exactly as long as no sample comes that is neither
    bad nor above `badRttMs` and is good in the four other measures while a step up is due. -/
theorem never_climbs_iff {α : Type*} [LinearOrder α] (th : Thresholds α)
    (downFraction upFraction : Int → Int) (downStreakNeeded upStreakNeeded cooldownSamples : Nat)
    (a : AdaptiveBitrate) (h : a.InBounds) (samples : List (OrderedSample α))
    (hzone : ∀ s ∈ samples, th.goodRttMs < s.rttMs) :
    let t := th.tuning downFraction upFraction downStreakNeeded upStreakNeeded cooldownSamples
    (∀ p ∈ history t.sampled a samples, ¬ t.Climbs p.1 p.2) ↔
      ∀ p ∈ history t.sampled a samples, ¬ (th.goodRttMs < p.2.rttMs ∧ p.2.rttMs ≤ th.badRttMs ∧
        th.isBad p.2 = false ∧ th.isGoodButRtt p.2 = true ∧ t.DueUp p.1) := by
  intro t
  refine forall_congr' fun p => forall_congr' fun hp => not_congr ?_
  obtain ⟨before, after, hsplit, hstate⟩ := (mem_history_iff t.sampled a samples p.1 p.2).1 hp
  have hin : p.1.InBounds := by
    rw [hstate]
    exact t.sampled_inBounds h before
  have hgood : th.goodRttMs < p.2.rttMs := hzone p.2 (by rw [hsplit]; simp)
  have hverdict : t.isGood p.2 = true ↔ _ := th.isGood_iff p.2
  rw [t.climbs_iff hin, hverdict]
  constructor
  · rintro ⟨⟨hbad, hrtt, hothers⟩, hdue⟩
    exact ⟨hgood, hrtt, hbad, hothers, hdue⟩
  · rintro ⟨-, hrtt, hbad, hothers, hdue⟩
    exact ⟨⟨hbad, hrtt, hothers⟩, hdue⟩

/-- A sample in the dead zone of the round trip, and as good as can be otherwise. -/
def OrderedSample.midRtt : OrderedSample Rat :=
  { rttMs := 100, lossPercent := 0, jitterMs := 0, decodeQueueFrames := 0, fpsRatio := 1 }

theorem never_climbs_iff_ten :
    let t := Thresholds.asBuilt.tuning id id 3 10 2
    let a := AdaptiveBitrate.create 8000 defaultMinKbps defaultMaxKbps
    let samples := List.replicate 10 OrderedSample.midRtt
    (∀ p ∈ history t.sampled a samples, ¬ t.Climbs p.1 p.2) ↔
      ∀ p ∈ history t.sampled a samples, ¬ (Thresholds.asBuilt.goodRttMs < p.2.rttMs ∧
        p.2.rttMs ≤ Thresholds.asBuilt.badRttMs ∧ Thresholds.asBuilt.isBad p.2 = false ∧
          Thresholds.asBuilt.isGoodButRtt p.2 = true ∧ t.DueUp p.1) :=
  never_climbs_iff Thresholds.asBuilt id id 3 10 2 _
    (AdaptiveBitrate.create_inBounds 8000 _ _ (by decide)) _
    (fun s hs => by rw [List.eq_of_mem_replicate hs]; decide +kernel)

/-- Ten samples with a round trip of 100 ms, above `goodRttMs`, take a new controller from 8000 to
    8800 kbps. -/
theorem climbs_in_dead_zone :
    ¬ ∀ (a : AdaptiveBitrate) (samples : List (OrderedSample Rat)), a.InBounds →
      (∀ s ∈ samples, Thresholds.asBuilt.goodRttMs < s.rttMs) →
        ∀ p ∈ history asBuiltOverRat.sampled a samples, ¬ asBuiltOverRat.Climbs p.1 p.2 := by
  intro hclaim
  refine hclaim (AdaptiveBitrate.create 8000 defaultMinKbps defaultMaxKbps)
    (List.replicate 10 OrderedSample.midRtt)
    (AdaptiveBitrate.create_inBounds 8000 _ _ (by decide))
    (fun s hs => by rw [List.eq_of_mem_replicate hs]; decide +kernel)
    (runFrom asBuiltOverRat.sampled (AdaptiveBitrate.create 8000 defaultMinKbps defaultMaxKbps)
      (List.replicate 9 OrderedSample.midRtt), OrderedSample.midRtt)
    ((mem_history_iff ..).2 ⟨List.replicate 9 OrderedSample.midRtt, [], rfl, rfl⟩) ?_
  unfold Tuning.Climbs
  decide +kernel

end RemotePlay.Media
