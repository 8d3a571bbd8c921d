import RemotePlay.Encoding.VideoEncoder
import Mathlib.Algebra.Order.Field.Rat
import Mathlib.Algebra.Order.Field.Basic
import Mathlib.Tactic.Linarith

set_option autoImplicit false

/-! # Letterbox geometry

`letterbox` computes with unbounded integers, truncates once and then clamps. Here the same steps
are taken one machine operation at a time, without the clamps, and for every source and target of a
size that an `int` can hold they agree (`letterbox_in_bounds`). The rows that the blit loops copy are
inside the planes of the target. -/

namespace RemotePlay.Media

/-! ## Machine arithmetic -/

/-- The result of an operation on signed integers of this width, or `none` if it does not fit. -/
def checked (bits : Nat) (n : Int) : Option Int :=
  if -(2 ^ (bits - 1)) ≤ n ∧ n < 2 ^ (bits - 1) then some n else none

/-- A side before the clamps, rounded up. -/
def scaled (full s o : Int) : Int := (full * s + o - 1).tdiv o

/-- The side as it is computed: in 64 bits, and cut to an `int` that the clamps leave alone. -/
def scaledChecked (full s o limit : Int) : Option Int := do
  let product ← checked 64 (full * s)
  let sum ← checked 64 (product + o)
  let numerator ← checked 64 (sum - 1)
  let quotient ← if o = 0 then none else checked 64 (numerator.tdiv o)
  let side ← checked 32 quotient
  if limit < side ∨ side < 1 then none else some side

/-- `centred` with its subtractions checked. -/
def centredChecked (tw th fitW fitH : Int) : Option Fit := do
  let restX ← checked 32 (tw - even fitW)
  let restY ← checked 32 (th - even fitH)
  some
    { fitW := even fitW
      fitH := even fitH
      offX := even (restX.tdiv 2)
      offY := even (restY.tdiv 2) }

/-- The letterbox geometry, or `none` where an operation overflows, a side is truncated or a clamp
    would change one. -/
def letterboxChecked (tw th srcW srcH : Int) : Option Fit := do
  let wide ← checked 64 (srcW * th)
  let tall ← checked 64 (srcH * tw)
  if tall ≤ wide then
    let fitH ← scaledChecked tw srcH srcW th
    centredChecked tw th tw fitH
  else
    let fitW ← scaledChecked th srcW srcH tw
    centredChecked tw th fitW th

/-! ## The blit loops -/

/-- A `memcpy` into the frame: a row of a plane, counted in bytes. -/
structure RowCopy where
  plane : Nat
  row : Int
  column : Int
  length : Int
deriving DecidableEq, Repr

/-- The copies of the blit loops, the luma plane first. -/
def Fit.blit (fit : Fit) : List RowCopy :=
  (List.range fit.fitH.toNat).map (fun (y : Nat) =>
      { plane := 0, row := fit.offY + y, column := fit.offX, length := fit.fitW }) ++
    (List.range (fit.fitH.tdiv 2).toNat).flatMap (fun (y : Nat) =>
      [{ plane := 1, row := fit.offY.tdiv 2 + y, column := fit.offX.tdiv 2,
         length := fit.fitW.tdiv 2 },
       { plane := 2, row := fit.offY.tdiv 2 + y, column := fit.offX.tdiv 2,
         length := fit.fitW.tdiv 2 }])

/-- Columns and rows of a plane of the target. -/
def planeSize (tw th : Int) (plane : Nat) : Int × Int :=
  if plane = 0 then (tw, th) else (tw.tdiv 2, th.tdiv 2)

/-- The row is one of the plane's, and the copy stays in it. -/
structure RowCopy.Inside (c : RowCopy) (tw th : Int) : Prop where
  row : 0 ≤ c.row ∧ c.row < (planeSize tw th c.plane).2
  columns : 0 ≤ c.column ∧ 0 ≤ c.length ∧ c.column + c.length ≤ (planeSize tw th c.plane).1

/-- What the frame asks of a fit. -/
structure Fit.InBounds (fit : Fit) (tw th : Int) : Prop where
  even : 2 ∣ fit.fitW ∧ 2 ∣ fit.fitH ∧ 2 ∣ fit.offX ∧ 2 ∣ fit.offY
  nonneg : 0 ≤ fit.fitW ∧ 0 ≤ fit.fitH ∧ 0 ≤ fit.offX ∧ 0 ≤ fit.offY
  right : fit.offX + fit.fitW ≤ tw
  bottom : fit.offY + fit.fitH ≤ th
  rows : ∀ c ∈ fit.blit, c.Inside tw th

/-- One side is full, made even, and the other is less than two pixels from the side that keeps the
    source's aspect ratio. -/
def Fit.KeepsAspect (fit : Fit) (tw th srcW srcH : Int) : Prop :=
  fit.fitW = Media.even tw ∧ |(fit.fitH : ℚ) - tw * srcH / srcW| < 2 ∨
    fit.fitH = Media.even th ∧ |(fit.fitW : ℚ) - th * srcW / srcH| < 2

/-! ## Fitted sizes -/

theorem even_bounds {n limit : Int} (h : 0 ≤ n) (hle : n ≤ limit) : 0 ≤ even n ∧ even n ≤ limit := by
  unfold even
  omega

theorem clampFit_bounds (n : Int) {limit : Int} (h : 0 < limit) :
    0 ≤ clampFit n limit ∧ clampFit n limit ≤ limit := by
  unfold clampFit
  dsimp only
  split
  · split
    · omega
    · omega
  · split
    · omega
    · omega

/-- The fitted image is inside the target, for every source. -/
theorem letterbox_bounds {tw th srcW srcH : Int} (htw : 0 < tw) (hth : 0 < th) {fit : Fit}
    (h : letterbox tw th srcW srcH = some fit) :
    (0 ≤ fit.fitW ∧ fit.fitW ≤ tw) ∧ 0 ≤ fit.fitH ∧ fit.fitH ≤ th := by
  have hfull : 0 ≤ tw ∧ 0 ≤ th := ⟨Int.le_of_lt htw, Int.le_of_lt hth⟩
  unfold letterbox at h
  split at h
  · split at h
    · cases h
    · obtain rfl := Option.some.inj h
      have hclamp := clampFit_bounds (toInt ((tw * srcH + srcW - 1).tdiv srcW)) hth
      exact ⟨even_bounds hfull.1 (Int.le_refl _), even_bounds hclamp.1 hclamp.2⟩
  · split at h
    · cases h
    · obtain rfl := Option.some.inj h
      have hclamp := clampFit_bounds (toInt ((th * srcW + srcH - 1).tdiv srcH)) htw
      exact ⟨even_bounds hclamp.1 hclamp.2, even_bounds hfull.2 (Int.le_refl _)⟩

/-! ## One side -/

theorem checked_eq_some {bits : Nat} {n : Int} (hlow : 0 ≤ n) (hhigh : n < 2 ^ (bits - 1)) :
    checked bits n = some n := by
  have hpow : (0 : Int) ≤ 2 ^ (bits - 1) := Int.le_of_lt (Int.lt_of_le_of_lt hlow hhigh)
  exact if_pos ⟨by omega, hhigh⟩

theorem mul_lt_pow {a b : Int} (ha : 0 < a ∧ a < 2 ^ 31) (hb : 0 < b ∧ b < 2 ^ 31) :
    0 < a * b ∧ a * b < 2 ^ 62 := by
  refine ⟨Int.mul_pos ha.1 hb.1, ?_⟩
  calc a * b < 2 ^ 31 * b := Int.mul_lt_mul_of_pos_right ha.2 hb.1
    _ < 2 ^ 31 * 2 ^ 31 := Int.mul_lt_mul_of_pos_left hb.2 (by decide)
    _ = 2 ^ 62 := by decide

section Side

variable {full s o limit : Int}

/-- The other side fits, and it is the exact one rounded up. -/
theorem scaled_bounds (hproduct : 0 < full * s) (ho : 0 < o) (h : full * s ≤ o * limit) :
    (1 ≤ scaled full s o ∧ scaled full s o ≤ limit) ∧
      full * s ≤ scaled full s o * o ∧ scaled full s o * o < full * s + o := by
  have heq : scaled full s o = (full * s + o - 1) / o := Int.tdiv_eq_ediv_of_nonneg (by omega)
  rw [heq]
  have hlow := Int.ediv_mul_le (full * s + o - 1) (Int.ne_of_gt ho)
  have hhigh := Int.lt_ediv_add_one_mul_self (full * s + o - 1) ho
  rw [Int.add_mul, Int.one_mul] at hhigh
  refine ⟨⟨?_, ?_⟩, by omega, by omega⟩
  · apply Int.le_ediv_of_mul_le ho
    omega
  · apply Int.le_of_lt_add_one
    apply Int.ediv_lt_of_lt_mul ho
    rw [Int.add_mul, Int.one_mul, Int.mul_comm limit o]
    omega

/-- Nothing overflows on the way, and the clamps have nothing to do. -/
theorem scaledChecked_eq (hfull : 0 < full ∧ full < 2 ^ 31) (hs : 0 < s ∧ s < 2 ^ 31)
    (ho : 0 < o ∧ o < 2 ^ 31) (hlimit : limit < 2 ^ 31) (h : full * s ≤ o * limit) :
    scaledChecked full s o limit = some (scaled full s o) := by
  obtain ⟨hproduct, hsmall⟩ := mul_lt_pow hfull hs
  obtain ⟨⟨hone, hle⟩, -, -⟩ := scaled_bounds hproduct ho.1 h
  have hquotient : (full * s + o - 1).tdiv o = scaled full s o := rfl
  simp only [scaledChecked, Option.bind_eq_bind]
  rw [checked_eq_some (by omega) (by omega), Option.bind_some,
    checked_eq_some (by omega) (by omega), Option.bind_some,
    checked_eq_some (by omega) (by omega), Option.bind_some, if_neg (by omega), hquotient,
    checked_eq_some (by omega) (by omega), Option.bind_some,
    checked_eq_some (by omega) (by omega), Option.bind_some, if_neg (by omega)]

/-- Rounding up and then down to even stays close to the exact side. -/
theorem abs_even_scaled_sub_lt (hproduct : 0 < full * s) (ho : 0 < o) (h : full * s ≤ o * limit) :
    |(even (scaled full s o) : ℚ) - full * s / o| < 2 := by
  obtain ⟨-, hlow, hhigh⟩ := scaled_bounds hproduct ho h
  have ho' : (0 : ℚ) < o := by exact_mod_cast ho
  have hup : (full * s / o : ℚ) ≤ scaled full s o := by
    rw [div_le_iff₀ ho']
    exact_mod_cast hlow
  have hless : (scaled full s o : ℚ) < full * s / o + 1 := by
    rw [div_add_one (ne_of_gt ho'), lt_div_iff₀ ho']
    exact_mod_cast hhigh
  have heven : (scaled full s o : ℚ) - 1 ≤ even (scaled full s o) ∧
      (even (scaled full s o) : ℚ) ≤ scaled full s o := by
    have : scaled full s o - 1 ≤ even (scaled full s o) ∧
        even (scaled full s o) ≤ scaled full s o := by
      unfold even
      omega
    exact_mod_cast this
  rw [abs_lt]
  constructor
  · linarith [heven.1]
  · linarith [heven.2]

end Side

/-! ## The rectangle -/

/-- A side made even and centred, in a target of this size. -/
theorem centred_side {size side : Int} (h : 0 ≤ side ∧ side ≤ size) :
    (2 ∣ even side ∧ 2 ∣ even ((size - even side).tdiv 2)) ∧
      (0 ≤ even side ∧ 0 ≤ even ((size - even side).tdiv 2)) ∧
      even ((size - even side).tdiv 2) + even side ≤ size := by
  have hrest : 0 ≤ size - even side := Int.sub_nonneg_of_le (even_bounds h.1 h.2).2
  rw [Int.tdiv_eq_ediv_of_nonneg hrest]
  unfold even
  omega

/-- An even rectangle inside the target is copied to the inside of every plane. -/
theorem blit_inside {fit : Fit} {tw th : Int}
    (heven : 2 ∣ fit.fitW ∧ 2 ∣ fit.fitH ∧ 2 ∣ fit.offX ∧ 2 ∣ fit.offY)
    (hnonneg : 0 ≤ fit.fitW ∧ 0 ≤ fit.fitH ∧ 0 ≤ fit.offX ∧ 0 ≤ fit.offY)
    (hright : fit.offX + fit.fitW ≤ tw) (hbottom : fit.offY + fit.fitH ≤ th) :
    ∀ c ∈ fit.blit, c.Inside tw th := by
  intro c hc
  rcases List.mem_append.1 hc with hluma | hchroma
  · obtain ⟨y, hy, rfl⟩ := List.mem_map.1 hluma
    rw [List.mem_range] at hy
    constructor
    · show 0 ≤ fit.offY + y ∧ fit.offY + y < th
      omega
    · show 0 ≤ fit.offX ∧ 0 ≤ fit.fitW ∧ fit.offX + fit.fitW ≤ tw
      omega
  · obtain ⟨y, hy, hc⟩ := List.mem_flatMap.1 hchroma
    rw [List.mem_range, Int.tdiv_eq_ediv_of_nonneg hnonneg.2.1] at hy
    have hhalves : (0 ≤ fit.offY.tdiv 2 + y ∧ fit.offY.tdiv 2 + y < th.tdiv 2) ∧
        0 ≤ fit.offX.tdiv 2 ∧ 0 ≤ fit.fitW.tdiv 2 ∧
        fit.offX.tdiv 2 + fit.fitW.tdiv 2 ≤ tw.tdiv 2 := by
      rw [Int.tdiv_eq_ediv_of_nonneg hnonneg.1, Int.tdiv_eq_ediv_of_nonneg hnonneg.2.2.1,
        Int.tdiv_eq_ediv_of_nonneg hnonneg.2.2.2,
        Int.tdiv_eq_ediv_of_nonneg (show 0 ≤ tw by omega),
        Int.tdiv_eq_ediv_of_nonneg (show 0 ≤ th by omega)]
      omega
    rcases List.mem_pair.1 hc with rfl | rfl
    · exact ⟨hhalves.1, hhalves.2⟩
    · exact ⟨hhalves.1, hhalves.2⟩

theorem centred_inBounds {tw th fitW fitH : Int} (hw : 0 ≤ fitW ∧ fitW ≤ tw)
    (hh : 0 ≤ fitH ∧ fitH ≤ th) : (centred tw th fitW fitH).InBounds tw th := by
  obtain ⟨⟨hevenW, hevenX⟩, ⟨hposW, hposX⟩, hright⟩ := centred_side hw
  obtain ⟨⟨hevenH, hevenY⟩, ⟨hposH, hposY⟩, hbottom⟩ := centred_side hh
  have heven := And.intro hevenW (And.intro hevenH (And.intro hevenX hevenY))
  have hnonneg := And.intro hposW (And.intro hposH (And.intro hposX hposY))
  exact ⟨heven, hnonneg, hright, hbottom, blit_inside heven hnonneg hright hbottom⟩

theorem centredChecked_eq {tw th fitW fitH : Int} (htw : tw < 2 ^ 31) (hth : th < 2 ^ 31)
    (hw : 0 ≤ fitW ∧ fitW ≤ tw) (hh : 0 ≤ fitH ∧ fitH ≤ th) :
    centredChecked tw th fitW fitH = some (centred tw th fitW fitH) := by
  have hrest : (0 ≤ tw - even fitW ∧ tw - even fitW < 2 ^ 31) ∧
      0 ≤ th - even fitH ∧ th - even fitH < 2 ^ 31 := by
    have hevenW := even_bounds hw.1 hw.2
    have hevenH := even_bounds hh.1 hh.2
    omega
  simp only [centredChecked, Option.bind_eq_bind]
  rw [checked_eq_some hrest.1.1 hrest.1.2, Option.bind_some,
    checked_eq_some hrest.2.1 hrest.2.2, Option.bind_some]
  rfl

/-- The clamps and the cast leave a side alone that is in range. -/
theorem clampFit_toInt {n limit : Int} (hn : 1 ≤ n ∧ n ≤ limit) (hlimit : limit < 2 ^ 31) :
    clampFit (toInt n) limit = n := by
  have hcast : toInt n = n := by
    unfold toInt
    rw [Int.bmod_eq_of_le (by omega) (by omega)]
  rw [hcast, clampFit, if_neg (by omega), if_neg (by omega)]

/-! ## The letterbox -/

/-- **The letterbox geometry is in bounds.** For every source that has a pixel and every target of at
    least two pixels a side, the geometry is computed without overflow, truncation or need of the
    clamps, it is an even rectangle in the target, the blit stays inside the planes, and the aspect
    ratio is kept up to less than two pixels. -/
theorem letterbox_in_bounds {tw th srcW srcH : Int} (htw : 2 ≤ tw ∧ tw < 2 ^ 31)
    (hth : 2 ≤ th ∧ th < 2 ^ 31) (hsrcW : 1 ≤ srcW ∧ srcW < 2 ^ 31)
    (hsrcH : 1 ≤ srcH ∧ srcH < 2 ^ 31) :
    ∃ fit, letterbox tw th srcW srcH = some fit ∧ letterboxChecked tw th srcW srcH = some fit ∧
      fit.InBounds tw th ∧ fit.KeepsAspect tw th srcW srcH := by
  have hposW : 0 < tw ∧ tw < 2 ^ 31 := ⟨by omega, htw.2⟩
  have hposH : 0 < th ∧ th < 2 ^ 31 := ⟨by omega, hth.2⟩
  obtain ⟨hwide, hwideSmall⟩ := mul_lt_pow hsrcW hposH
  obtain ⟨htall, htallSmall⟩ := mul_lt_pow hsrcH hposW
  simp only [letterbox, letterboxChecked, Option.bind_eq_bind]
  rw [checked_eq_some (by omega) (by omega), Option.bind_some,
    checked_eq_some (by omega) (by omega), Option.bind_some]
  by_cases hbranch : srcH * tw ≤ srcW * th
  · -- as wide as the target
    rw [if_pos hbranch, if_pos hbranch, if_neg (by omega)]
    rw [Int.mul_comm srcH tw] at hbranch htall
    obtain ⟨hside, -⟩ := scaled_bounds htall hsrcW.1 hbranch
    have hw : 0 ≤ tw ∧ tw ≤ tw := ⟨by omega, Int.le_refl tw⟩
    have hh : 0 ≤ scaled tw srcH srcW ∧ scaled tw srcH srcW ≤ th := ⟨by omega, hside.2⟩
    refine ⟨centred tw th tw (scaled tw srcH srcW), ?_, ?_, centred_inBounds hw hh,
      Or.inl ⟨rfl, abs_even_scaled_sub_lt htall hsrcW.1 hbranch⟩⟩
    · exact congrArg (fun fitH => some (centred tw th tw fitH)) (clampFit_toInt hside hth.2)
    · rw [scaledChecked_eq hposW hsrcH hsrcW hth.2 hbranch, Option.bind_some,
        centredChecked_eq htw.2 hth.2 hw hh]
  · -- as high as the target
    rw [if_neg hbranch, if_neg hbranch, if_neg (by omega)]
    have hbranch : th * srcW ≤ srcH * tw := by
      rw [Int.mul_comm th srcW]
      omega
    rw [Int.mul_comm srcW th] at hwide
    obtain ⟨hside, -⟩ := scaled_bounds hwide hsrcH.1 hbranch
    have hw : 0 ≤ scaled th srcW srcH ∧ scaled th srcW srcH ≤ tw := ⟨by omega, hside.2⟩
    have hh : 0 ≤ th ∧ th ≤ th := ⟨by omega, Int.le_refl th⟩
    refine ⟨centred tw th (scaled th srcW srcH) th, ?_, ?_, centred_inBounds hw hh,
      Or.inr ⟨rfl, abs_even_scaled_sub_lt hwide hsrcH.1 hbranch⟩⟩
    · exact congrArg (fun fitW => some (centred tw th fitW th)) (clampFit_toInt hside htw.2)
    · rw [scaledChecked_eq hposH hsrcW hsrcH htw.2 hbranch, Option.bind_some,
        centredChecked_eq htw.2 hth.2 hw hh]

/-- An upright window in a landscape target, with three odd sides. -/
theorem letterbox_in_bounds_upright :
    ∃ fit, letterbox 1367 768 1023 2001 = some fit ∧ letterboxChecked 1367 768 1023 2001 = some fit ∧
      fit.InBounds 1367 768 ∧ fit.KeepsAspect 1367 768 1023 2001 :=
  letterbox_in_bounds (by decide) (by decide) (by decide) (by decide)

end RemotePlay.Media
