import Mathlib.Data.List.Basic
import Mathlib.Tactic.Common

set_option autoImplicit false

/-! # Sliding windows kept in a slot array

A receiver that must accept every counter at most once, without remembering all of them, keeps the
highest counter accepted and `w` slots, the slot of `c` being `c % w`. What it is *for* is stated
over the list of accepted counters: `Admissible w acc c` says that `c` was not accepted before and
lies less than `w` below every accepted counter. `SlotWindow.rejects` is the array test, and
`SlotWindow.rejects_eq_false_iff` says that the two agree on positive counters, in every window that
`Tracks` its accepted list.

Slots are never cleared when the highest counter jumps. That is sound because a slot can only be
overwritten by a counter of the same residue: a larger one pushes the old occupant out of the
window, and a smaller one is itself too old to be accepted. -/

namespace RemotePlay

/-- Two numbers of one residue lie a window apart. -/
theorem add_le_of_mod_eq {w a b : Nat} (hlt : a < b) (hmod : a % w = b % w) : a + w ≤ b := by
  have hdvd : w ∣ b - a := Nat.dvd_of_mod_eq_zero (Nat.sub_mod_eq_zero_of_mod_eq hmod.symm)
  have := Nat.le_of_dvd (by omega) hdvd
  omega

/-- `c` may be accepted after `acc`: it is new and less than `w` below everything accepted. -/
def Admissible (w : Nat) (acc : List Nat) (c : Nat) : Prop :=
  c ∉ acc ∧ ∀ a ∈ acc, a < c + w

/-- The highest accepted counter, if any, and the slot array. -/
structure SlotWindow (w : Nat) where
  highest : Option Nat
  slots : Nat → Nat

namespace SlotWindow

variable {w : Nat}

/-- The array test: too old, or present in its slot. -/
def rejects (W : SlotWindow w) (c : Nat) : Bool :=
  match W.highest with
  | none => false
  | some h => decide (c ≤ h) && (decide (w ≤ h - c) || W.slots (c % w) == c)

/-- Record an accepted counter. -/
def mark (W : SlotWindow w) (c : Nat) : SlotWindow w where
  highest := some (match W.highest with | none => c | some h => max h c)
  slots := Function.update W.slots (c % w) c

/-- The window stands for the accepted list `acc`. -/
structure Tracks (W : SlotWindow w) (acc : List Nat) : Prop where
  highest_none : W.highest = none → acc = []
  highest_mem : ∀ h, W.highest = some h → h ∈ acc
  le_highest : ∀ h, W.highest = some h → ∀ a ∈ acc, a ≤ h
  /-- A slot holds an accepted counter, or the zero it was initialised with. -/
  slots_mem : ∀ i, W.slots i = 0 ∨ W.slots i ∈ acc
  /-- Every accepted counter still inside the window is in its slot. -/
  slots_eq : ∀ a ∈ acc, (∀ b ∈ acc, b < a + w) → W.slots (a % w) = a

theorem tracks_nil (W : SlotWindow w) (hh : W.highest = none) (hs : ∀ i, W.slots i = 0) :
    W.Tracks [] where
  highest_none := fun _ => rfl
  highest_mem := fun h hw => by simp [hh] at hw
  le_highest := fun _ _ a ha => absurd ha (by simp)
  slots_mem := fun i => Or.inl (hs i)
  slots_eq := fun a ha => absurd ha (by simp)

/-- Only membership in the accepted list matters. -/
theorem Tracks.of_mem_iff {W : SlotWindow w} {acc acc' : List Nat} (hT : W.Tracks acc)
    (h : ∀ a, a ∈ acc' ↔ a ∈ acc) : W.Tracks acc' where
  highest_none := fun hn => List.eq_nil_iff_forall_not_mem.2 (fun a ha => by
    simpa [hT.highest_none hn] using (h a).1 ha)
  highest_mem := fun m hm => (h m).2 (hT.highest_mem m hm)
  le_highest := fun m hm a ha => hT.le_highest m hm a ((h a).1 ha)
  slots_mem := fun i => (hT.slots_mem i).imp id (h _).2
  slots_eq := fun a ha hwin =>
    hT.slots_eq a ((h a).1 ha) (fun b hb => hwin b ((h b).2 hb))

/-- **The array test is exact on positive counters.** -/
theorem rejects_eq_false_iff {W : SlotWindow w} {acc : List Nat} (hT : W.Tracks acc) {c : Nat}
    (hc : 0 < c) : W.rejects c = false ↔ Admissible w acc c := by
  unfold rejects Admissible
  cases hh : W.highest with
  | none => simp [hT.highest_none hh]
  | some h =>
      have hmem := hT.highest_mem h hh
      have hle := hT.le_highest h hh
      simp only [Bool.and_eq_false_iff, Bool.or_eq_false_iff, decide_eq_false_iff_not,
        beq_eq_false_iff_ne]
      constructor
      · rintro (habove | ⟨hfresh, hslot⟩)
        · exact ⟨fun hin => habove (hle c hin), fun a ha => by have := hle a ha; omega⟩
        · have hwin : ∀ a ∈ acc, a < c + w := fun a ha => by
            have := hle a ha
            omega
          exact ⟨fun hin => hslot (hT.slots_eq c hin hwin), hwin⟩
      · rintro ⟨hnew, hwin⟩
        have hhw := hwin h hmem
        by_cases hch : c ≤ h
        · refine Or.inr ⟨by omega, ?_⟩
          intro hslot
          -- a slot that holds a positive value holds an accepted counter
          rcases hT.slots_mem (c % w) with h0 | hin
          · omega
          · exact hnew (hslot ▸ hin)
        · exact Or.inl hch

/-- **Accepting an admissible counter keeps the correspondence.** -/
theorem Tracks.mark {W : SlotWindow w} {acc : List Nat} (hT : W.Tracks acc) {c : Nat}
    (hadm : Admissible w acc c) : (W.mark c).Tracks (c :: acc) where
  highest_none := fun h => by simp [SlotWindow.mark] at h
  highest_mem := by
    intro h hw
    cases hh : W.highest with
    | none =>
        simp only [SlotWindow.mark, hh, Option.some.injEq] at hw
        simp [← hw]
    | some h' =>
        simp only [SlotWindow.mark, hh, Option.some.injEq] at hw
        rcases Nat.le_total c h' with hle | hle
        · rw [Nat.max_eq_left hle] at hw
          exact List.mem_cons_of_mem _ (hw ▸ hT.highest_mem h' hh)
        · rw [Nat.max_eq_right hle] at hw
          simp [← hw]
  le_highest := by
    intro h hw a ha
    cases hh : W.highest with
    | none =>
        simp only [SlotWindow.mark, hh, Option.some.injEq] at hw
        rw [hT.highest_none hh, List.mem_singleton] at ha
        omega
    | some h' =>
        simp only [SlotWindow.mark, hh, Option.some.injEq] at hw
        rcases List.mem_cons.1 ha with rfl | ha
        · omega
        · have := hT.le_highest h' hh a ha
          omega
  slots_mem := by
    intro i
    simp only [SlotWindow.mark]
    by_cases hi : i = c % w
    · subst hi
      simp
    · rw [Function.update_of_ne hi]
      exact (hT.slots_mem i).imp id (List.mem_cons_of_mem _)
  slots_eq := by
    intro a ha hwin
    simp only [SlotWindow.mark]
    by_cases hi : a % w = c % w
    · -- same slot: either `a` is the counter just written, or they lie a window apart
      rw [hi, Function.update_self]
      rcases List.mem_cons.1 ha with rfl | ha
      · rfl
      · have hca := hwin c (List.mem_cons_self ..)
        have hac := hadm.2 a ha
        by_contra hne
        rcases Nat.lt_or_gt_of_ne hne with hlt | hlt
        · have := add_le_of_mod_eq hlt hi.symm
          omega
        · have := add_le_of_mod_eq hlt hi
          omega
    · rw [Function.update_of_ne hi]
      rcases List.mem_cons.1 ha with rfl | ha
      · exact absurd rfl hi
      · exact hT.slots_eq a ha (fun b hb => hwin b (List.mem_cons_of_mem _ hb))

end SlotWindow

end RemotePlay
