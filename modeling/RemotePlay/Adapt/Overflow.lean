import RemotePlay.Adapt.Hysteresis
import RemotePlay.Lib.Faults

set_option autoImplicit false

/-! # The controller on `int`

`Hysteresis` computes in unbounded integers. The source computes in `int`, where a step of the target, or
a streak, can overflow. Up to the first overflow the two agree, so a run behaves exactly if nothing in it
overflows (`behaves_iff`). That takes bounds near the ends of `int`, or `2 ^ 31` calls: the program's own
controllers are far from both (`behaves_of_default_bounds`). -/

namespace RemotePlay.Media

/-- Signed overflow, which is undefined. -/
inductive IntFault where
  | overflow
deriving DecidableEq, Repr

/-- An `int` holds it. -/
def FitsInt (n : Int) : Prop := -2 ^ 31 ≤ n ∧ n < 2 ^ 31

instance (n : Int) : Decidable (FitsInt n) := inferInstanceAs (Decidable (_ ∧ _))

/-- The result of an operation on `int`. -/
def inInt (n : Int) : Except IntFault Int := if FitsInt n then .ok n else .error .overflow

/-- `++streak`. -/
def increment (streak : Nat) : Except IntFault Nat :=
  if FitsInt (streak + 1) then .ok (streak + 1) else .error .overflow

theorem bind_inInt {α : Type} (n : Int) (k : Int → Except IntFault α) :
    (inInt n >>= k) = if FitsInt n then k n else .error .overflow := by
  unfold inInt
  split
  · rfl
  · rfl

theorem bind_increment {α : Type} (streak : Nat) (k : Nat → Except IntFault α) :
    (increment streak >>= k) =
      if FitsInt (streak + 1) then k (streak + 1) else .error .overflow := by
  unfold increment
  split
  · rfl
  · rfl

namespace Tuning

open AdaptiveBitrate (InBounds create)

section MachineIntegers

variable {β : Type*} (t : Tuning β)

/-! ## The checked controller -/

/-- `AdaptiveBitrate::update`, with every operation checked that can leave the range of `int`: the
    streaks, the cast of the fractional step and the sum or difference. -/
def updateInt (a : AdaptiveBitrate) (s : β) : Except IntFault (Option Int × AdaptiveBitrate) :=
  let a := { a with cooldown := a.cooldown - 1 }
  if t.isBad s then do
    let downStreak ← increment a.downStreak
    let a := { a with downStreak := downStreak, upStreak := 0 }
    if t.downStreakNeeded ≤ a.downStreak ∧ a.cooldown = 0 then
      let fraction ← inInt (t.downFraction s a.currentKbps)
      let lower ← inInt (a.currentKbps - max 250 fraction)
      return t.moveTo { a with downStreak := 0 } (max a.minKbps lower)
    else
      return (none, a)
  else if t.isGood s then do
    let upStreak ← increment a.upStreak
    let a := { a with upStreak := upStreak, downStreak := 0 }
    if t.upStreakNeeded ≤ a.upStreak ∧ a.cooldown = 0 ∧ a.currentKbps < a.maxKbps then
      let fraction ← inInt (t.upFraction s a.currentKbps)
      let higher ← inInt (a.currentKbps + max 250 fraction)
      return t.moveTo { a with upStreak := 0 } (min a.maxKbps higher)
    else
      return (none, a)
  else
    return (none, { a with downStreak := 0, upStreak := 0 })

/-- A call; `setManual` only compares. -/
def stepInt (a : AdaptiveBitrate) : ControlEvent β → Except IntFault AdaptiveBitrate
  | .update s => (t.updateInt a s).map Prod.snd
  | .setManual kbps => .ok (t.setManual a kbps)

/-- The sample overflows a streak, or the target in a step that is due. -/
def SampleOverflows (a : AdaptiveBitrate) (s : β) : Prop :=
  if t.isBad s then
    ¬ FitsInt (a.downStreak + 1) ∨
      ((t.downStreakNeeded ≤ a.downStreak + 1 ∧ a.cooldown ≤ 1) ∧
        ¬ (FitsInt (t.downFraction s a.currentKbps) ∧
          FitsInt (a.currentKbps - max 250 (t.downFraction s a.currentKbps))))
  else if t.isGood s then
    ¬ FitsInt (a.upStreak + 1) ∨
      ((t.upStreakNeeded ≤ a.upStreak + 1 ∧ a.cooldown ≤ 1 ∧ a.currentKbps < a.maxKbps) ∧
        ¬ (FitsInt (t.upFraction s a.currentKbps) ∧
          FitsInt (a.currentKbps + max 250 (t.upFraction s a.currentKbps))))
  else False

instance (a : AdaptiveBitrate) (s : β) : Decidable (t.SampleOverflows a s) := by
  delta SampleOverflows
  infer_instance

/-- The call overflows. -/
def Overflows (a : AdaptiveBitrate) : ControlEvent β → Prop
  | .update s => t.SampleOverflows a s
  | .setManual _ => False

instance (a : AdaptiveBitrate) : (e : ControlEvent β) → Decidable (t.Overflows a e)
  | .update s => inferInstanceAs (Decidable (t.SampleOverflows a s))
  | .setManual _ => inferInstanceAs (Decidable False)

/-! ## Up to an overflow nothing is different -/

/-- One side of `update`: the streak `n` is counted, and a step that is `due` ends at `next`. -/
theorem side_eq {α : Type} {n fraction next : Int} {due : Prop} [Decidable due] (moved stays : α) :
    (if FitsInt n then
        if due then
          if FitsInt fraction then if FitsInt next then Except.ok moved else .error .overflow
          else .error .overflow
        else .ok stays
      else .error .overflow) =
      if ¬ FitsInt n ∨ due ∧ ¬ (FitsInt fraction ∧ FitsInt next) then .error IntFault.overflow
      else .ok (if due then moved else stays) := by
  by_cases hn : FitsInt n
  · by_cases hdue : due
    · by_cases hfraction : FitsInt fraction
      · by_cases hnext : FitsInt next
        · simp [hn, hdue, hfraction, hnext]
        · simp [hn, hdue, hfraction, hnext]
      · simp [hn, hdue, hfraction]
    · simp [hn, hdue]
  · simp [hn]

/-- **The checked sample**: it overflows, or it is the sample of the unbounded controller. -/
theorem updateInt_eq (a : AdaptiveBitrate) (s : β) :
    t.updateInt a s = if t.SampleOverflows a s then .error .overflow else .ok (t.update a s) := by
  have hcool : a.cooldown - 1 = 0 ↔ a.cooldown ≤ 1 := Nat.sub_eq_zero_iff_le
  unfold updateInt SampleOverflows update
  simp only [hcool, bind_increment, bind_inInt]
  split
  · exact side_eq _ _
  split
  · exact side_eq _ _
  · exact (if_neg not_false).symm

/-- **The checked call.** -/
theorem stepInt_eq (a : AdaptiveBitrate) (e : ControlEvent β) :
    t.stepInt a e = if t.Overflows a e then .error .overflow else .ok (t.step a e) := by
  cases e with
  | update s =>
      show (t.updateInt a s).map Prod.snd = _
      rw [updateInt_eq]
      by_cases hover : t.SampleOverflows a s
      · rw [if_pos hover, if_pos (show t.Overflows a (.update s) from hover)]
        rfl
      · rw [if_neg hover, if_neg (show ¬ t.Overflows a (.update s) from hover)]
        rfl
  | setManual kbps => rfl

theorem stepInt_ok {a : AdaptiveBitrate} {e : ControlEvent β} (h : ¬ t.Overflows a e) :
    t.stepInt a e = .ok (t.step a e) := by
  rw [stepInt_eq, if_neg h]

/-- A run that has not overflowed is the run of the unbounded controller. -/
theorem run_eq {a b : AdaptiveBitrate} (es : List (ControlEvent β))
    (hrun : runFrom (faulting t.stepInt) (.ok a) es = .ok b) : b = runFrom t.step a es := by
  refine runFrom_faulting_induction t.stepInt (fun es b => b = runFrom t.step a es) rfl ?_ es hrun
  intro es b e b' _ hb hnext
  rw [stepInt_eq] at hnext
  split at hnext
  · cases hnext
  · rw [runFrom_concat, ← hb]
    exact (Except.ok.inj hnext).symm

/-- A run is defined exactly if no call of it overflows. -/
theorem exists_run_iff (a : AdaptiveBitrate) (es : List (ControlEvent β)) :
    runFrom (faulting t.stepInt) (.ok a) es = .ok (runFrom t.step a es) ↔
      ∀ p ∈ stepsOf t.stepInt a es, ¬ t.Overflows p.1 p.2 := by
  have hfault : (∃ p ∈ stepsOf t.stepInt a es, t.stepInt p.1 p.2 = .error .overflow) ↔
      ∃ p ∈ stepsOf t.stepInt a es, t.Overflows p.1 p.2 := by
    refine exists_congr fun p => and_congr_right fun _ => ?_
    rw [stepInt_eq]
    split
    · next hover => exact iff_of_true rfl hover
    · next hnot => exact iff_of_false nofun hnot
  rw [← exists_fault_iff] at hfault
  have hiff := not_congr hfault
  push Not at hiff
  rw [← hiff]
  cases hrun : runFrom (faulting t.stepInt) (.ok a) es with
  | error x => exact iff_of_false nofun (not_not.2 rfl)
  | ok b => exact iff_of_true (congrArg _ (t.run_eq es hrun)) nofun

/-! ## What a run does -/

/-- The run is defined and stays within the bounds, and each sample of it is `Damped`. -/
structure Behaves (a₀ : AdaptiveBitrate) (es : List (ControlEvent β)) : Prop where
  defined : runFrom (faulting t.stepInt) (.ok a₀) es = .ok (runFrom t.step a₀ es)
  bounds : a₀.minKbps ≤ (runFrom t.step a₀ es).currentKbps ∧
    (runFrom t.step a₀ es).currentKbps ≤ a₀.maxKbps
  samples : ∀ before s after, es = before ++ .update s :: after →
    t.updateInt (runFrom t.step a₀ before) s = .ok (t.update (runFrom t.step a₀ before) s) ∧
      t.Damped a₀ before s

end MachineIntegers

/-- **Bounded, and never quick to change its mind, until it overflows.** Whatever counts as bad and good
    and however large the fractional steps are, a run of `update` and `setManual` calls is defined, within
    the bounds and with each sample `Damped` exactly if none of its calls overflows. -/
theorem behaves_iff {β : Type*} (t : Tuning β) (initialKbps minKbps maxKbps : Int32)
    (hle : minKbps ≤ maxKbps) (hdown : 0 < t.downStreakNeeded) (hup : 0 < t.upStreakNeeded)
    (es : List (ControlEvent β)) :
    let a₀ := create initialKbps.toInt minKbps.toInt maxKbps.toInt
    t.Behaves a₀ es ↔ ∀ p ∈ stepsOf t.stepInt a₀ es, ¬ t.Overflows p.1 p.2 := by
  intro a₀
  have hle : minKbps.toInt ≤ maxKbps.toInt := Int32.le_iff_toInt_le.1 hle
  constructor
  · intro h
    exact (t.exists_run_iff a₀ es).1 h.defined
  · intro h
    refine ⟨(t.exists_run_iff a₀ es).2 h, ?_, ?_⟩
    · exact (t.bounded_and_damped initialKbps.toInt _ _ hle hdown hup es).1
    · rintro before s after rfl
      refine ⟨?_, (t.bounded_and_damped initialKbps.toInt _ _ hle hdown hup before).2 s⟩
      have hbefore : runFrom (faulting t.stepInt) (.ok a₀) before = .ok (runFrom t.step a₀ before) :=
        (t.exists_run_iff a₀ before).2 fun p hp => h p (mem_stepsOf_append t.stepInt hp _)
      have hmem : (runFrom t.step a₀ before, .update s)
          ∈ stepsOf t.stepInt a₀ (before ++ .update s :: after) := by
        rw [stepsOf_append t.stepInt hbefore, stepsOf]
        exact List.mem_append_right _ List.mem_cons_self
      rw [updateInt_eq]
      exact if_neg (h _ hmem)

theorem behaves_iff_asBuilt :
    asBuilt.Behaves (create (8000 : Int32).toInt (2000 : Int32).toInt (30000 : Int32).toInt)
      [.setManual 2100, .update { rttMs := .finite 200 }] :=
  (behaves_iff asBuilt 8000 2000 30000 (by decide) (by decide) (by decide) _).2 (by decide +kernel)

/-! Ten good samples: the tenth is due to add 200 Mbit/s to 2 Gbit/s. -/

theorem high_target_overflows :
    runFrom (faulting asBuilt.stepInt)
        (.ok (create (2000000000 : Int32).toInt (2000 : Int32).toInt (2147483647 : Int32).toInt))
        (List.replicate 10 (.update {})) = .error .overflow ∧
      ¬ asBuilt.Behaves
        (create (2000000000 : Int32).toInt (2000 : Int32).toInt (2147483647 : Int32).toInt)
        (List.replicate 10 (.update {})) := by
  have hfault : runFrom (faulting asBuilt.stepInt)
      (.ok (create (2000000000 : Int32).toInt (2000 : Int32).toInt (2147483647 : Int32).toInt))
      (List.replicate 10 (.update {})) = .error .overflow := by
    decide +kernel
  refine ⟨hfault, fun h => ?_⟩
  have hdefined := h.defined
  rw [hfault] at hdefined
  cases hdefined

/-! ## The program's own controllers -/

section Small

variable {β : Type*} (t : Tuning β)

/-- The fractional steps are fractions. -/
def StepsAreFractions : Prop :=
  ∀ s kbps, 0 ≤ kbps → (0 ≤ t.downFraction s kbps ∧ t.downFraction s kbps ≤ kbps) ∧
    0 ≤ t.upFraction s kbps ∧ t.upFraction s kbps ≤ kbps

/-- With a target of less than `2 ^ 30` only a streak can overflow. -/
theorem not_overflows_of_small (hfractions : t.StepsAreFractions) {a : AdaptiveBitrate} (hin : a.InBounds)
    (hmin : 0 ≤ a.minKbps) (hmax : a.maxKbps < 2 ^ 30) (hdown : a.downStreak + 1 < 2 ^ 31)
    (hup : a.upStreak + 1 < 2 ^ 31) (e : ControlEvent β) : ¬ t.Overflows a e := by
  obtain ⟨hlo, hhi⟩ := hin
  cases e with
  | setManual kbps => exact not_false
  | update s =>
      obtain ⟨hdowns, hups⟩ := hfractions s a.currentKbps (hmin.trans hlo)
      show ¬ t.SampleOverflows a s
      unfold SampleOverflows FitsInt
      split
      · omega
      split
      · omega
      · exact not_false

theorem not_overflows_run (hfractions : t.StepsAreFractions) (es : List (ControlEvent β))
    {a : AdaptiveBitrate} (hin : a.InBounds) (hmin : 0 ≤ a.minKbps) (hmax : a.maxKbps < 2 ^ 30)
    (hdown : a.downStreak + es.length < 2 ^ 31) (hup : a.upStreak + es.length < 2 ^ 31) :
    ∀ p ∈ stepsOf t.stepInt a es, ¬ t.Overflows p.1 p.2 := by
  induction es generalizing a with
  | nil => exact fun p hp => absurd hp List.not_mem_nil
  | cons e es ih =>
      rw [List.length_cons] at hdown hup
      have hfirst := t.not_overflows_of_small hfractions hin hmin hmax (by omega) (by omega) e
      obtain ⟨hin', hmin', hmax'⟩ := t.step_inBounds hin e
      obtain ⟨hdown', hup'⟩ := t.step_streaks a e
      rw [stepsOf_cons_ok t.stepInt (t.stepInt_ok hfirst)]
      intro p hp
      rcases List.mem_cons.1 hp with rfl | hlater
      · exact hfirst
      · exact ih hin' (by omega) (by omega) (by omega) (by omega) p hlater

end Small

theorem roundToDouble_le (n : Nat) : roundToDouble n ≤ 2 * n := by
  by_cases hn : n = 0
  · rw [hn]
    decide
  have hkept : n / 2 ^ (n.log2 - 52) * 2 ^ (n.log2 - 52) ≤ n := Nat.div_mul_le_self _ _
  have hulp : 2 ^ (n.log2 - 52) ≤ n :=
    Nat.le_trans (Nat.pow_le_pow_right (by decide) (Nat.sub_le _ _)) (Nat.log2_self_le hn)
  unfold roundToDouble
  dsimp only
  split
  · rw [Nat.add_mul]
    omega
  · omega

/-- Half of it at most is taken off or added. -/
theorem truncMul_le {kbps : Int} (h : 0 ≤ kbps) {mantissa exponent : Nat}
    (hhalf : 2 * mantissa ≤ 2 ^ exponent) :
    0 ≤ truncMul kbps mantissa exponent ∧ truncMul kbps mantissa exponent ≤ kbps := by
  obtain ⟨n, rfl⟩ := Int.eq_ofNat_of_zero_le h
  have hquotient : roundToDouble (n * mantissa) / 2 ^ exponent ≤ n := by
    refine Nat.div_le_of_le_mul ?_
    calc roundToDouble (n * mantissa) ≤ 2 * (n * mantissa) := roundToDouble_le _
      _ = (2 * mantissa) * n := by ring
      _ ≤ 2 ^ exponent * n := Nat.mul_le_mul_right _ hhalf
  unfold truncMul
  rcases Nat.eq_zero_or_pos n with rfl | hpos
  · exact ⟨by simp, by simp⟩
  · rw [Int.natAbs_natCast, Int.sign_natCast_of_ne_zero hpos.ne', Int.one_mul]
    exact ⟨Int.natCast_nonneg _, Int.ofNat_le.2 hquotient⟩

theorem asBuilt_stepsAreFractions : asBuilt.StepsAreFractions :=
  fun _ _ h => ⟨truncMul_le h (by decide), truncMul_le h (by decide)⟩

/-- **The program's controllers** have the default bounds, and do not overflow in fewer than `2 ^ 31`
    calls. -/
theorem behaves_of_default_bounds (initialKbps : Int32) (es : List (ControlEvent LinkSample))
    (hshort : es.length < 2 ^ 31) :
    asBuilt.Behaves (create initialKbps.toInt defaultMinKbps defaultMaxKbps) es := by
  have hin := AdaptiveBitrate.create_inBounds initialKbps.toInt defaultMinKbps defaultMaxKbps (by decide)
  have hrun := asBuilt.not_overflows_run asBuilt_stepsAreFractions es hin
    (show 0 ≤ defaultMinKbps by decide) (show defaultMaxKbps < 2 ^ 30 by decide)
    ((Nat.zero_add _).trans_lt hshort) ((Nat.zero_add _).trans_lt hshort)
  exact (behaves_iff asBuilt initialKbps 2000 30000 (by decide) (by decide) (by decide) es).2 hrun

end Tuning

end RemotePlay.Media
