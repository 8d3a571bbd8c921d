import Mathlib.Data.List.Basic
import Mathlib.Data.List.Flatten
import Mathlib.Tactic.Common

set_option autoImplicit false

/-! # Chunks of a list

`chunk n j l` is the piece number `j` of `l` in pieces of length `n`. A list of whole pieces is the
sequence of its pieces, and two sequences of pieces of equal lengths are the same list exactly if they
are the same piece by piece. -/

namespace RemotePlay

variable {α : Type*}

/-- The piece number `j` in pieces of length `n`. -/
def chunk (n j : Nat) (l : List α) : List α := (l.drop (n * j)).take n

/-- The pieces that `f` gives, `k` of them. -/
def pieces (k : Nat) (f : Nat → List α) : List α := (List.range k).flatMap f

@[simp] theorem pieces_zero (f : Nat → List α) : pieces 0 f = [] := rfl

theorem pieces_succ (k : Nat) (f : Nat → List α) : pieces (k + 1) f = pieces k f ++ f k := by
  rw [pieces, List.range_succ, List.flatMap_append, List.flatMap_singleton]
  rfl

theorem pieces_succ' (k : Nat) (f : Nat → List α) :
    pieces (k + 1) f = f 0 ++ pieces k (fun j => f (j + 1)) := by
  rw [pieces, List.range_succ_eq_map, List.flatMap_cons, List.flatMap_map]
  rfl

theorem chunk_drop (n j : Nat) (l : List α) : chunk n j (l.drop n) = chunk n (j + 1) l := by
  rw [chunk, chunk, List.drop_drop, Nat.mul_succ, Nat.add_comm]

theorem length_chunk {n j : Nat} {l : List α} (h : n * (j + 1) ≤ l.length) :
    (chunk n j l).length = n := by
  rw [chunk, List.length_take, List.length_drop, Nat.min_eq_left]
  rw [Nat.mul_succ] at h
  omega

theorem chunk_take {n j k : Nat} (h : j < k) (l : List α) : chunk n j (l.take (n * k)) = chunk n j l := by
  have hinside : n * j + n ≤ n * k := Nat.mul_succ n j ▸ Nat.mul_le_mul_left n h
  rw [chunk, chunk, List.drop_take, List.take_take, Nat.min_eq_left (by omega)]

theorem pieces_chunk (n k : Nat) (l : List α) : pieces k (fun j => chunk n j l) = l.take (n * k) := by
  induction k with
  | zero => rfl
  | succ k ih => rw [pieces_succ, ih, Nat.mul_succ, List.take_add, chunk]

theorem pieces_chunk_of_length {n k : Nat} {l : List α} (h : l.length = n * k) :
    pieces k (fun j => chunk n j l) = l := by
  rw [pieces_chunk, ← h, List.take_length]

theorem length_pieces {k n : Nat} {f : Nat → List α} (h : ∀ j < k, (f j).length = n) :
    (pieces k f).length = n * k := by
  induction k with
  | zero => rfl
  | succ k ih =>
      rw [pieces_succ, List.length_append, h k (Nat.lt_succ_self k),
        ih (fun j hj => h j (Nat.lt_succ_of_lt hj)), Nat.mul_succ]

theorem pieces_congr {k : Nat} {f g : Nat → List α} (h : ∀ j < k, f j = g j) :
    pieces k f = pieces k g := by
  induction k with
  | zero => rfl
  | succ k ih =>
      rw [pieces_succ, pieces_succ, h k (Nat.lt_succ_self k),
        ih (fun j hj => h j (Nat.lt_succ_of_lt hj))]

/-- **Piece by piece.** -/
theorem pieces_inj {k n : Nat} {f g : Nat → List α} (hf : ∀ j < k, (f j).length = n)
    (hg : ∀ j < k, (g j).length = n) : pieces k f = pieces k g ↔ ∀ j < k, f j = g j := by
  refine ⟨fun h => ?_, pieces_congr⟩
  induction k with
  | zero => exact nofun
  | succ k ih =>
      rw [pieces_succ, pieces_succ] at h
      have hf' : ∀ j < k, (f j).length = n := fun j hj => hf j (Nat.lt_succ_of_lt hj)
      have hg' : ∀ j < k, (g j).length = n := fun j hj => hg j (Nat.lt_succ_of_lt hj)
      obtain ⟨hinit, hlast⟩ :=
        List.append_inj h ((length_pieces hf').trans (length_pieces hg').symm)
      intro j hj
      rcases Nat.lt_succ_iff_lt_or_eq.1 hj with hj | rfl
      · exact ih hf' hg' hinit j hj
      · exact hlast

/-- Two pieces at a time. -/
theorem pieces_two_mul (k : Nat) (f : Nat → List α) :
    pieces (2 * k) f = pieces k (fun j => f (2 * j) ++ f (2 * j + 1)) := by
  induction k with
  | zero => rfl
  | succ k ih => rw [Nat.mul_succ, pieces_succ, pieces_succ, pieces_succ, ih, List.append_assoc]

end RemotePlay
