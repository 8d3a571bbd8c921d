import RemotePlay.Networking.JitterOrder

set_option autoImplicit false

/-! # How long the jitter buffer holds a frame

`pop` releases a frame that waited `targetMs`, one of more than eight, or one beyond a gap that
waited half the target. The last comparison takes `targetMs / 2` as nanoseconds, so behind a gap a
frame is held for a few nanoseconds only. `held_iff` says which pops keep to the hold time. -/

namespace RemotePlay.Net

namespace JitterBuffer

variable (b : JitterBuffer) (now : UInt64)

/-- How long an entry has waited, in nanoseconds; none when the clock went back. -/
def waitedNs (front : Entry) : Nat := now.toNat - front.arriveNs.toNat

/-- The frame at the front of `size` entries may be released: it waited `targetMs` milliseconds, or
    more than eight are queued, or it lies beyond a gap and waited half the target. -/
def Due (front : Entry) (size : Nat) : Prop :=
  b.targetMs.toNat * 1000000 ≤ waitedNs now front ∨ 8 < size ∨
    (b.initialized = true ∧ b.lastPoppedSequence.toNat + 1 < front.frame.sequence.toNat ∧
      b.targetMs.toNat * 1000000 ≤ 2 * waitedNs now front)

instance (front : Entry) (size : Nat) : Decidable (b.Due now front size) :=
  inferInstanceAs (Decidable (_ ∨ _ ∨ _))

/-- The source's gap condition, with `waited` in nanoseconds against a number of milliseconds. -/
def PastGap (front : Entry) : Prop :=
  b.initialized = true ∧ b.lastPoppedSequence + 1 < front.frame.sequence ∧
    b.targetMs.toNat / 2 ≤ waitedNs now front

instance (front : Entry) : Decidable (b.PastGap now front) :=
  inferInstanceAs (Decidable (_ ∧ _ ∧ _))

/-- The buffer once `front` is released. -/
def releasing (front : Entry) : JitterBuffer :=
  { b with lastPoppedSequence := front.frame.sequence, initialized := true }

/-- The entries that a pop releases, each with the buffer and the queue length it is released at. -/
def releases : JitterBuffer → List Entry → List (JitterBuffer × Entry × Nat)
  | _, [] => []
  | b, front :: rest =>
      if b.ready front (rest.length + 1) now then
        (b, front, rest.length + 1) :: releases (b.releasing front) rest
      else []

/-- The released entries are the frames `pop` returns. -/
theorem map_releases (q : List Entry) :
    (releases now b q).map (fun x => x.2.1.frame) = (b.popLoop now q).1 := by
  induction q generalizing b with
  | nil => rfl
  | cons front rest ih =>
      rw [releases, popLoop]
      split
      · exact congrArg (front.frame :: ·) (ih _)
      · rfl

/-- Every frame that the pop releases may be released. -/
def HoldsFrames : Prop := ∀ x ∈ releases now b b.queue, x.1.Due now x.2.1 x.2.2

instance : Decidable (b.HoldsFrames now) :=
  inferInstanceAs (Decidable (∀ x ∈ releases now b b.queue, x.1.Due now x.2.1 x.2.2))

/-- Once the frames that may be released are gone, the next one meets the source's gap condition. -/
def JumpsGap : JitterBuffer → List Entry → Prop
  | _, [] => False
  | b, front :: rest =>
      if b.Due now front (rest.length + 1) then JumpsGap (b.releasing front) rest
      else b.PastGap now front

/-! ## One pop -/

/-- The release condition of the source, in natural numbers. -/
theorem ready_iff (front : Entry) (size : Nat) : b.ready front size now = true ↔
    b.targetMs.toNat * 1000000 ≤ waitedNs now front ∨ 8 < size ∨ b.PastGap now front := by
  have htarget := b.targetMs.toNat_lt
  have hwaited : (if front.arriveNs < now then now - front.arriveNs else 0).toNat
      = waitedNs now front := by
    unfold waitedNs
    split
    · next hlt => exact UInt64.toNat_sub_of_le _ _ (UInt64.le_of_lt hlt)
    · next hle =>
        rw [UInt64.lt_iff_toNat_lt] at hle
        show 0 = _
        omega
  -- a 32-bit target in nanoseconds stays far below 64 bits
  have hfull : (b.targetMs.toUInt64 * 1000000).toNat = b.targetMs.toNat * 1000000 := by
    rw [UInt64.toNat_mul]
    exact Nat.mod_eq_of_lt (by show b.targetMs.toNat * 1000000 < 2 ^ 64; omega)
  have hhalf : (b.targetMs.toUInt64 / 2).toNat = b.targetMs.toNat / 2 := UInt64.toNat_div ..
  unfold ready PastGap
  simp only [decide_eq_true_eq, UInt64.le_iff_toNat_le, hwaited, hfull, hhalf, and_assoc]
  rfl

theorem ready_of_due {front : Entry} {size : Nat} (h : b.Due now front size) :
    b.ready front size now = true := by
  rw [ready_iff]
  rcases h with hwaited | hsize | ⟨hinit, hgap, hwaited⟩
  · exact Or.inl hwaited
  · exact Or.inr (Or.inl hsize)
  · refine Or.inr (Or.inr ⟨hinit, ?_, by omega⟩)
    have hlt := front.frame.sequence.toNat_lt
    have hsum : (b.lastPoppedSequence + 1).toNat = b.lastPoppedSequence.toNat + 1 := by
      rw [UInt64.toNat_add]
      exact Nat.mod_eq_of_lt (by rw [UInt64.toNat_one]; omega)
    rw [UInt64.lt_iff_toNat_lt, hsum]
    exact hgap

/-- **One pop keeps to the hold time** exactly when it does not come to a frame beyond a gap too
    early. -/
theorem releases_due_iff (q : List Entry) :
    (∀ x ∈ releases now b q, x.1.Due now x.2.1 x.2.2) ↔ ¬ JumpsGap now b q := by
  induction q generalizing b with
  | nil => simp [releases, JumpsGap]
  | cons front rest ih =>
      rw [releases, JumpsGap]
      by_cases hdue : b.Due now front (rest.length + 1)
      · rw [if_pos (b.ready_of_due now hdue), if_pos hdue, ← ih, List.forall_mem_cons]
        exact and_iff_right hdue
      · rw [if_neg hdue]
        by_cases hgap : b.PastGap now front
        · have hready : b.ready front (rest.length + 1) now = true :=
            (b.ready_iff now front _).2 (Or.inr (Or.inr hgap))
          rw [if_pos hready]
          refine iff_of_false ?_ (not_not.2 hgap)
          intro hall
          exact hdue (hall (b, front, rest.length + 1) List.mem_cons_self)
        · -- nothing else makes a frame ready that is not due
          have hready : ¬ b.ready front (rest.length + 1) now = true := by
            rw [ready_iff]
            rintro (hwaited | hsize | hpast)
            · exact hdue (Or.inl hwaited)
            · exact hdue (Or.inr (Or.inl hsize))
            · exact hgap hpast
          rw [if_neg hready]
          exact iff_of_true (fun x hx => absurd hx (by simp)) hgap

end JitterBuffer

/-! ## Runs -/

/-- **When the jitter buffer keeps to its hold time.** In every run, the frames that every pop returns
    are frames that may be released exactly when no pop comes to a frame that may not, beyond a gap,
    after `targetMs / 2` nanoseconds. -/
theorem hold_time_iff (initialTargetMs : UInt32) (ops : List JitterOp) :
    (∀ p ∈ history jitterStep ({ targetMs := initialTargetMs }, []) ops, ∀ now, p.2 = .pop now →
        (JitterBuffer.releases now p.1.1 p.1.1.queue).map (fun x => x.2.1.frame) = (p.1.1.pop now).1 ∧
          p.1.1.HoldsFrames now) ↔
      ∀ p ∈ history jitterStep ({ targetMs := initialTargetMs }, []) ops, ∀ now,
        p.2 = .pop now → ¬ JitterBuffer.JumpsGap now p.1.1 p.1.1.queue := by
  refine forall₂_congr fun p _ => forall₂_congr fun now _ => ?_
  rw [← p.1.1.releases_due_iff now p.1.1.queue]
  exact and_iff_right (p.1.1.map_releases now p.1.1.queue)

/-- A frame with this number. -/
def numberedFrame (sequence : UInt64) : AssembledFrame := { sequence := sequence }

/-- Frame 2 is lost: frame 3 is released a microsecond after it arrived, with a target of 30 ms. -/
theorem frame_released_past_gap :
    let s := jitterRun 30 [.push (numberedFrame 1) 0, .pop 100000000,
      .push (numberedFrame 3) 100000000]
    (s.1.pop 100001000).1 = [numberedFrame 3] ∧ s.1.queue.map (·.arriveNs) = [100000000] ∧
      ¬ s.1.HoldsFrames 100001000 := by
  refine ⟨?_, ?_, ?_⟩
  · decide +kernel
  · decide +kernel
  · decide +kernel

end RemotePlay.Net
