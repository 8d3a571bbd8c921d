import Mathlib.Data.Rat.Defs
import Mathlib.Tactic.Common
import Mathlib.Tactic.Ring
import RemotePlay.Lib.Runs

set_option autoImplicit false

/-! # The adaptive bitrate controller (`adapt/AdaptiveBitrate.cpp`)

Once a second the controller gets a sample of the link and may move its target: down after three bad
samples in a row, up after ten good ones, and not within two samples of the last change. The sample
is made of doubles, which the controller only compares; the step is a double product cut to an
integer. The thresholds are public members that nothing in the repository sets. An `int` is an `Int` here;
`Overflow` has the same controller with its operations checked. -/

namespace RemotePlay.Media

/-! ## Doubles -/

/-- A `double`; a finite one is the rational it denotes. -/
inductive Double where
  | nan
  | negInf
  | finite (q : Rat)
  | posInf
deriving DecidableEq, Repr

/-- `a <= b`, false when either is not a number. -/
def Double.le : Double → Double → Bool
  | .nan, _ => false
  | _, .nan => false
  | .negInf, _ => true
  | _, .posInf => true
  | .finite a, .finite b => decide (a ≤ b)
  | _, _ => false

/-- `a < b`. -/
def Double.lt (a b : Double) : Bool := a.le b && !b.le a

/-- A product of naturals rounded to the 53 significant bits of a double, ties to even. -/
def roundToDouble (n : Nat) : Nat :=
  let dropped := n.log2 - 52
  let kept := n / 2 ^ dropped
  let rest := n % 2 ^ dropped
  let up := 2 ^ dropped < 2 * rest ∨ (2 * rest = 2 ^ dropped ∧ kept % 2 = 1)
  (if up then kept + 1 else kept) * 2 ^ dropped

/-- `static_cast<int>(kbps * f)` for the double `f = mantissa / 2 ^ exponent`. -/
def truncMul (kbps : Int) (mantissa exponent : Nat) : Int :=
  kbps.sign * (roundToDouble (kbps.natAbs * mantissa) / 2 ^ exponent : Nat)

/-! ## The controller -/

/-- `LinkSample`. -/
structure LinkSample where
  rttMs : Double := .finite 0
  lossPercent : Double := .finite 0
  jitterMs : Double := .finite 0
  decodeQueueFrames : Double := .finite 0
  fpsRatio : Double := .finite 1
deriving DecidableEq, Repr

def badRttMs : Double := .finite 150
def badLossPercent : Double := .finite 2
def badJitterMs : Double := .finite 15
def badQueueFrames : Double := .finite 4
/-- The double nearest to 0.80. -/
def badFpsRatio : Double := .finite (3602879701896397 / 2 ^ 52)
/-- The double nearest to 0.3. -/
def goodLossPercent : Double := .finite (5404319552844595 / 2 ^ 54)
def goodJitterMs : Double := .finite 5
/-- The double nearest to 0.95. -/
def goodFpsRatio : Double := .finite (4278419646001971 / 2 ^ 52)
def downStreakNeeded : Nat := 3
def upStreakNeeded : Nat := 10
def cooldownSamples : Nat := 2

/-- The constructor's default for `minKbps`. -/
def defaultMinKbps : Int := 2000

/-- The constructor's default for `maxKbps`. -/
def defaultMaxKbps : Int := 30000

/-- `AdaptiveBitrate`, its private members. -/
structure AdaptiveBitrate where
  currentKbps : Int
  minKbps : Int
  maxKbps : Int
  downStreak : Nat := 0
  upStreak : Nat := 0
  cooldown : Nat := 0
deriving DecidableEq, Repr

namespace AdaptiveBitrate

/-- `std::clamp(v, lo, hi)`. -/
def clamp (v lo hi : Int) : Int := if v < lo then lo else if hi < v then hi else v

/-- The constructor. -/
def create (initialKbps minKbps maxKbps : Int) : AdaptiveBitrate :=
  { currentKbps := clamp initialKbps minKbps maxKbps
    minKbps := minKbps
    maxKbps := maxKbps }

/-- `AdaptiveBitrate::isBad`. -/
def isBad (s : LinkSample) : Bool :=
  badLossPercent.le s.lossPercent || badRttMs.le s.rttMs || badJitterMs.le s.jitterMs ||
    badQueueFrames.le s.decodeQueueFrames ||
      ((Double.finite 0).lt s.fpsRatio && s.fpsRatio.le badFpsRatio)

/-- `AdaptiveBitrate::isGood`; the round trip is compared with the bad threshold. -/
def isGood (s : LinkSample) : Bool :=
  !(goodLossPercent.lt s.lossPercent || badRttMs.lt s.rttMs || goodJitterMs.lt s.jitterMs ||
    (Double.finite 2).le s.decodeQueueFrames ||
      ((Double.finite 0).lt s.fpsRatio && s.fpsRatio.lt goodFpsRatio))

/-- `currentKbps_ = next` with what goes with a change. -/
def moveTo (a : AdaptiveBitrate) (next : Int) : Option Int × AdaptiveBitrate :=
  if next ≠ a.currentKbps then
    (some next, { a with currentKbps := next, cooldown := cooldownSamples })
  else (none, a)

/-- -15% (the double nearest to 0.15), at least 250. -/
def downStep (a : AdaptiveBitrate) : Int := max 250 (truncMul a.currentKbps 5404319552844595 55)

/-- +10% (the double nearest to 0.10), at least 250. -/
def upStep (a : AdaptiveBitrate) : Int := max 250 (truncMul a.currentKbps 3602879701896397 55)

/-- `AdaptiveBitrate::update`. -/
def update (a : AdaptiveBitrate) (s : LinkSample) : Option Int × AdaptiveBitrate :=
  let a := { a with cooldown := a.cooldown - 1 }
  if isBad s then
    let a := { a with downStreak := a.downStreak + 1, upStreak := 0 }
    if downStreakNeeded ≤ a.downStreak ∧ a.cooldown = 0 then
      { a with downStreak := 0 }.moveTo (max a.minKbps (a.currentKbps - a.downStep))
    else (none, a)
  else if isGood s then
    let a := { a with upStreak := a.upStreak + 1, downStreak := 0 }
    if upStreakNeeded ≤ a.upStreak ∧ a.cooldown = 0 ∧ a.currentKbps < a.maxKbps then
      { a with upStreak := 0 }.moveTo (min a.maxKbps (a.currentKbps + a.upStep))
    else (none, a)
  else (none, { a with downStreak := 0, upStreak := 0 })

/-! ## What an update can do -/

/-- The target stays within its bounds. -/
def InBounds (a : AdaptiveBitrate) : Prop :=
  a.minKbps ≤ a.currentKbps ∧ a.currentKbps ≤ a.maxKbps

theorem create_inBounds (initialKbps lo hi : Int) (h : lo ≤ hi) :
    (create initialKbps lo hi).InBounds := by
  unfold create clamp InBounds
  dsimp only
  split
  · omega
  split
  · omega
  · omega

/-- A move keeps the bounds and the target is what it returns. -/
theorem moveTo_spec (a : AdaptiveBitrate) (next : Int) :
    (a.moveTo next).2.minKbps = a.minKbps ∧ (a.moveTo next).2.maxKbps = a.maxKbps ∧
      (a.moveTo next).2.currentKbps = next ∧
      ∀ kbps ∈ (a.moveTo next).1, kbps = next := by
  unfold moveTo
  split
  · refine ⟨rfl, rfl, rfl, ?_⟩
    rintro kbps ⟨⟩
    rfl
  · next h =>
      refine ⟨rfl, rfl, (not_not.1 h).symm, ?_⟩
      rintro kbps ⟨⟩

theorem le_downStep (a : AdaptiveBitrate) : 250 ≤ a.downStep := by
  unfold downStep
  omega

theorem le_upStep (a : AdaptiveBitrate) : 250 ≤ a.upStep := by
  unfold upStep
  omega

/-- **What a sample can do**: the bounds stay, the target stays within them, and a returned value is
    the new target. -/
theorem update_spec {a : AdaptiveBitrate} (h : a.InBounds) (s : LinkSample) :
    (a.update s).2.minKbps = a.minKbps ∧ (a.update s).2.maxKbps = a.maxKbps ∧
      (a.update s).2.InBounds ∧ ∀ kbps ∈ (a.update s).1, kbps = (a.update s).2.currentKbps := by
  obtain ⟨hlo, hhi⟩ := h
  unfold update
  dsimp only
  split
  · split
    · generalize hnext : max a.minKbps _ = next
      have hdown := le_downStep { a with
        cooldown := a.cooldown - 1, downStreak := a.downStreak + 1, upStreak := 0 }
      obtain ⟨hmin, hmax, hcur, hret⟩ := moveTo_spec { a with
        cooldown := a.cooldown - 1, downStreak := 0, upStreak := 0 } next
      refine ⟨hmin, hmax, ⟨?_, ?_⟩, ?_⟩
      · rw [hmin, hcur]
        dsimp only
        omega
      · rw [hmax, hcur]
        dsimp only
        omega
      · rw [hcur]
        exact hret
    · exact ⟨rfl, rfl, ⟨hlo, hhi⟩, by rintro kbps ⟨⟩⟩
  split
  · split
    · next hclimbs =>
        generalize hnext : min a.maxKbps _ = next
        have hup := le_upStep { a with
          cooldown := a.cooldown - 1, upStreak := a.upStreak + 1, downStreak := 0 }
        obtain ⟨hmin, hmax, hcur, hret⟩ := moveTo_spec { a with
          cooldown := a.cooldown - 1, upStreak := 0, downStreak := 0 } next
        refine ⟨hmin, hmax, ⟨?_, ?_⟩, ?_⟩
        · rw [hmin, hcur]
          dsimp only
          omega
        · rw [hmax, hcur]
          dsimp only
          omega
        · rw [hcur]
          exact hret
    · exact ⟨rfl, rfl, ⟨hlo, hhi⟩, by rintro kbps ⟨⟩⟩
  · exact ⟨rfl, rfl, ⟨hlo, hhi⟩, by rintro kbps ⟨⟩⟩

/-! ## Climbing -/

/-- A good sample either counts towards a step or makes it. -/
theorem update_good {a : AdaptiveBitrate} {s : LinkSample} (hbad : isBad s = false)
    (hgood : isGood s = true) (hroom : a.currentKbps < a.maxKbps) :
    (∃ next, (a.update s).1 = some next ∧ (a.update s).2.currentKbps = next ∧
      next = min a.maxKbps (a.currentKbps + a.upStep)) ∨
    ((a.update s).2.currentKbps = a.currentKbps ∧
      ((a.update s).2.upStreak = a.upStreak + 1 ∧ (a.update s).2.cooldown = a.cooldown - 1) ∧
        (a.upStreak + 1 < upStreakNeeded ∨ 1 < a.cooldown)) := by
  have hup := le_upStep a
  unfold update
  dsimp only
  rw [hbad, hgood]
  simp only [Bool.false_eq_true, if_false, if_true]
  split
  · left
    refine ⟨_, ?_, ?_, rfl⟩
    · unfold moveTo
      rw [if_pos]
      · rfl
      · show min a.maxKbps (a.currentKbps + a.upStep) ≠ a.currentKbps
        omega
    · exact (moveTo_spec _ _).2.2.1
  · next hwait =>
      right
      refine ⟨rfl, ⟨rfl, rfl⟩, ?_⟩
      by_contra hno
      apply hwait
      refine ⟨?_, ?_, hroom⟩
      · omega
      · omega

/-- The controller as a machine. -/
def step (a : AdaptiveBitrate) (s : LinkSample) : AdaptiveBitrate := (a.update s).2

/-- Enough good samples make a step. -/
theorem exists_step {s : LinkSample} (hbad : isBad s = false) (hgood : isGood s = true)
    (wait : Nat) (a : AdaptiveBitrate) (hin : a.InBounds) (hroom : a.currentKbps < a.maxKbps)
    (hwait : (upStreakNeeded - a.upStreak) + a.cooldown ≤ wait) :
    ∃ n next, ((runFrom step a (List.replicate n s)).update s).1 = some next ∧
      next = min a.maxKbps (a.currentKbps + a.upStep) := by
  induction wait generalizing a with
  | zero =>
      rcases update_good hbad hgood hroom with ⟨next, hnext, -, heq⟩ | ⟨-, -, hcount⟩
      · exact ⟨0, next, hnext, heq⟩
      · omega
  | succ wait ih =>
      rcases update_good hbad hgood hroom with ⟨next, hnext, -, heq⟩ | ⟨hcur, ⟨hup, hcool⟩, hcount⟩
      · exact ⟨0, next, hnext, heq⟩
      · obtain ⟨-, hmax, hin', -⟩ := update_spec hin s
        obtain ⟨n, next, hnext, heq⟩ := ih (a.update s).2 hin' (by omega) (by omega)
        refine ⟨n + 1, next, hnext, ?_⟩
        rw [heq, hmax, hcur, upStep, upStep, hcur]

theorem run_inBounds (a : AdaptiveBitrate) (hin : a.InBounds) (samples : List LinkSample) :
    (runFrom step a samples).InBounds ∧ (runFrom step a samples).maxKbps = a.maxKbps := by
  refine runFrom_preserved step (fun b => b.InBounds ∧ b.maxKbps = a.maxKbps) ?_ a samples
    ⟨hin, rfl⟩
  rintro b s ⟨hb, hmax⟩
  obtain ⟨-, hmax', hb', -⟩ := update_spec hb s
  exact ⟨hb', hmax'.trans hmax⟩

/-- **Good samples lead to the upper bound.** From any target below it, some number of good samples
    makes the controller return the bound itself. -/
theorem exists_reaches_max {s : LinkSample} (hbad : isBad s = false) (hgood : isGood s = true)
    (room : Nat) (a : AdaptiveBitrate) (hin : a.InBounds) (hroom : a.currentKbps < a.maxKbps)
    (hle : a.maxKbps - a.currentKbps ≤ room) :
    ∃ n, ((runFrom step a (List.replicate n s)).update s).1 = some a.maxKbps := by
  induction room generalizing a with
  | zero => omega
  | succ room ih =>
      obtain ⟨n, next, hnext, heq⟩ := exists_step hbad hgood _ a hin hroom (Nat.le_refl _)
      by_cases hdone : next = a.maxKbps
      · exact ⟨n, hnext.trans (congrArg some hdone)⟩
      · -- short of the bound: go on from the state after this step
        have hup := le_upStep a
        obtain ⟨hb, hbmax⟩ := run_inBounds a hin (List.replicate (n + 1) s)
        have hcur : (runFrom step a (List.replicate (n + 1) s)).currentKbps = next := by
          rw [List.replicate_succ', runFrom_concat]
          exact ((update_spec (run_inBounds a hin (List.replicate n s)).1 s).2.2.2 next hnext).symm
        obtain ⟨m, hm⟩ := ih (runFrom step a (List.replicate (n + 1) s)) hb (by omega) (by omega)
        rw [← runFrom_append, List.replicate_append_replicate, hbmax] at hm
        exact ⟨n + 1 + m, hm⟩

end AdaptiveBitrate

end RemotePlay.Media
