import Mathlib.Data.List.Induction
import Mathlib.Tactic.Ring

set_option autoImplicit false

/-! # A moving average of natural numbers

The average counts what it holds `k` times against the next sample once and divides with truncation.
Zero stands for "no sample yet", so the first sample seeds the average, and so does the sample after
the average has come down to zero. -/

namespace RemotePlay

section MovingAverage

variable (k : Nat)

/-- The average after the sample `x`. -/
def averageStep (r x : Nat) : Nat := if r = 0 then x else (r * k + x) / (k + 1)

/-- The average of a list of samples, the oldest first. -/
def movingAverage (xs : List Nat) : Nat := xs.foldl (averageStep k) 0

theorem movingAverage_concat (xs : List Nat) (x : Nat) :
    movingAverage k (xs ++ [x]) = averageStep k (movingAverage k xs) x := by
  rw [movingAverage, List.foldl_append]
  rfl

theorem le_averageStep {lo r x : Nat} (hr : lo ≤ r) (hx : lo ≤ x) : lo ≤ averageStep k r x := by
  unfold averageStep
  split
  · exact hx
  · rw [Nat.le_div_iff_mul_le (by omega)]
    calc lo * (k + 1) = lo * k + lo := by ring
      _ ≤ r * k + x := Nat.add_le_add (Nat.mul_le_mul_right k hr) hx

theorem averageStep_le {hi r x : Nat} (hr : r ≤ hi) (hx : x ≤ hi) : averageStep k r x ≤ hi := by
  unfold averageStep
  split
  · exact hx
  · refine Nat.div_le_of_le_mul ?_
    calc r * k + x ≤ hi * k + hi := Nat.add_le_add (Nat.mul_le_mul_right k hr) hx
      _ = (k + 1) * hi := by ring

/-- **The average lies between two of the samples.** -/
theorem movingAverage_between {xs : List Nat} (hxs : xs ≠ []) :
    (∃ x ∈ xs, x ≤ movingAverage k xs) ∧ ∃ x ∈ xs, movingAverage k xs ≤ x := by
  induction xs using List.reverseRecOn with
  | nil => exact absurd rfl hxs
  | append_singleton xs x ih =>
      rw [movingAverage_concat]
      by_cases hseed : xs = []
      · subst hseed
        have hfirst : averageStep k (movingAverage k []) x = x := rfl
        rw [hfirst]
        exact ⟨⟨x, by simp, le_rfl⟩, x, by simp, le_rfl⟩
      · obtain ⟨⟨lo, hlo, hle⟩, hi, hhi, hge⟩ := ih hseed
        constructor
        · by_cases h : lo ≤ x
          · exact ⟨lo, List.mem_append_left _ hlo, le_averageStep k hle h⟩
          · exact ⟨x, by simp, le_averageStep k (by omega) le_rfl⟩
        · by_cases h : x ≤ hi
          · exact ⟨hi, List.mem_append_left _ hhi, averageStep_le k hge h⟩
          · exact ⟨x, by simp, averageStep_le k (by omega) le_rfl⟩

end MovingAverage

end RemotePlay
