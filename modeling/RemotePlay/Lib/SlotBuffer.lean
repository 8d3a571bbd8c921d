import RemotePlay.Lib.Bytes

set_option autoImplicit false

/-! # Buffers filled slot by slot

A buffer of `n` slots, each `w` elements wide, is filled with chunks that arrive in any order; a
mark per slot says which are there. `SlotsHold` ties buffer and marks to the partial map `got` of
the chunks received so far, which is what the buffer is for: a fresh buffer holds nothing, storing a
chunk updates the map at its index, and a slot's chunk can be read off the buffer element by
element. -/

namespace RemotePlay

section SlotBuffer

variable {α : Type} {w n : Nat} {data : List α} {marks : List Bool} {got : Nat → Option (List α)}

/-- The buffer `data` with marks `marks` holds exactly the chunks `got`, chunk `i` from position
    `i * w` on. -/
structure SlotsHold (w n : Nat) (data : List α) (marks : List Bool)
    (got : Nat → Option (List α)) : Prop where
  data_length : data.length = n * w
  marks_length : marks.length = n
  marks_eq : ∀ i < n, marks[i]? = some (got i).isSome
  fits : ∀ i p, got i = some p → i < n ∧ p.length ≤ w
  chunk : ∀ i p, got i = some p → ∀ j < p.length, data[i * w + j]? = p[j]?

theorem slotsHold_fresh (w n : Nat) (z : α) :
    SlotsHold w n (List.replicate (n * w) z) (List.replicate n false) (fun _ => none) where
  data_length := List.length_replicate
  marks_length := List.length_replicate
  marks_eq := fun i hi => by simp [hi]
  fits := fun i p h => absurd h (by simp)
  chunk := fun i p h => absurd h (by simp)

/-- A slot ends where the next one starts, inside the buffer. -/
theorem slot_end_le {i : Nat} (hi : i < n) : i * w + w ≤ n * w := by
  have := Nat.mul_le_mul_right w (Nat.succ_le_of_lt hi)
  rwa [Nat.succ_mul] at this

/-- Two different slots do not overlap. -/
theorem slots_disjoint {i k j : Nat} (hik : i ≠ k) (hj : j < w) :
    ¬ (k * w ≤ i * w + j ∧ i * w + j < k * w + w) := by
  rintro ⟨hlo, hhi⟩
  rcases Nat.lt_or_gt_of_ne hik with hlt | hgt
  · have := slot_end_le (w := w) hlt
    omega
  · have := slot_end_le (w := w) hgt
    omega

/-- **Storing a chunk in its slot updates the map at its index.** -/
theorem SlotsHold.store (hS : SlotsHold w n data marks got) {i : Nat} (hi : i < n) {p : List α}
    (hp : p.length ≤ w) :
    SlotsHold w n (overwrite data (i * w) p) (marks.set i true)
      (Function.update got i (some p)) := by
  have hend := slot_end_le (w := w) hi
  have hin : i * w + p.length ≤ data.length := by
    rw [hS.data_length]
    omega
  constructor
  case data_length =>
    rw [length_overwrite _ _ _ hin, hS.data_length]
  case marks_length =>
    rw [List.length_set, hS.marks_length]
  case marks_eq =>
    intro k hk
    by_cases hki : k = i
    · subst hki
      simp [hS.marks_length, hk]
    · rw [Function.update_of_ne hki, List.getElem?_set_ne (Ne.symm hki), hS.marks_eq k hk]
  case fits =>
    intro k q hq
    by_cases hki : k = i
    · subst hki
      rw [Function.update_self] at hq
      obtain rfl := Option.some.inj hq
      exact ⟨hi, hp⟩
    · rw [Function.update_of_ne hki] at hq
      exact hS.fits k q hq
  case chunk =>
    intro k q hq j hj
    rw [getElem?_overwrite _ _ _ hin]
    by_cases hki : k = i
    · subst hki
      rw [Function.update_self] at hq
      obtain rfl := Option.some.inj hq
      rw [if_pos ⟨by omega, by omega⟩]
      congr 1
      omega
    · rw [Function.update_of_ne hki] at hq
      have hjw : j < w := Nat.lt_of_lt_of_le hj (hS.fits k q hq).2
      -- the write stays in slot `i`, and slot `k` is another one
      have hdisj := slots_disjoint (w := w) hki hjw
      rw [if_neg (by omega)]
      exact hS.chunk k q hq j hj

/-- The marks are all set exactly when every chunk is there. -/
theorem SlotsHold.count_eq_iff (hS : SlotsHold w n data marks got) :
    marks.count true = n ↔ ∀ i < n, (got i).isSome := by
  constructor
  · intro hcount i hi
    rw [← hS.marks_length, List.count_eq_length] at hcount
    have hmem := List.mem_of_getElem? (hS.marks_eq i hi)
    exact (hcount _ hmem).symm
  · intro hall
    rw [← hS.marks_length, List.count_eq_length]
    intro b hb
    obtain ⟨i, hi⟩ := List.mem_iff_getElem?.1 hb
    have hin : i < n := by
      rw [← hS.marks_length]
      exact (List.getElem?_eq_some_iff.1 hi).1
    rw [hS.marks_eq i hin, hall i hin] at hi
    exact Option.some.inj hi

/-- Setting a mark that was clear raises the count by one. -/
theorem count_set_true {i : Nat} (h : marks[i]? = some false) :
    (marks.set i true).count true = marks.count true + 1 := by
  induction marks generalizing i with
  | nil => simp at h
  | cons b bs ih =>
      cases i with
      | zero =>
          obtain rfl : b = false := by simpa using h
          simp
      | succ i =>
          have hi : bs[i]? = some false := by simpa using h
          simp only [List.set_cons_succ, List.count_cons, ih hi]
          omega

/-- With every slot but the last full, the element at `k` of the first `(n - 1) * w + |last|` was
    brought by the chunk of slot `k / w`. -/
theorem SlotsHold.getElem?_of_complete (hS : SlotsHold w n data marks got) (hw : 0 < w)
    (hall : ∀ i < n, (got i).isSome) (hfull : ∀ i p, i + 1 < n → got i = some p → p.length = w)
    {last : List α} (hlast : got (n - 1) = some last) {k : Nat}
    (hk : k < (n - 1) * w + last.length) :
    ∃ p, got (k / w) = some p ∧ k % w < p.length ∧ data[k]? = p[k % w]? := by
  have hlastn := (hS.fits _ _ hlast)
  have hsplit : k / w * w + k % w = k := by
    rw [Nat.mul_comm]
    exact Nat.div_add_mod k w
  have hmod : k % w < w := Nat.mod_lt k hw
  have hslot : k / w < n := by
    rw [Nat.div_lt_iff_lt_mul hw]
    have := slot_end_le (w := w) hlastn.1
    omega
  obtain ⟨p, hp⟩ := Option.isSome_iff_exists.1 (hall _ hslot)
  have hlen : k % w < p.length := by
    by_cases hmid : k / w + 1 < n
    · rw [hfull _ p hmid hp]
      exact hmod
    · have heq : k / w = n - 1 := by omega
      rw [heq] at hp hsplit
      obtain rfl := Option.some.inj (hlast.symm.trans hp)
      omega
  refine ⟨p, hp, hlen, ?_⟩
  have := hS.chunk _ p hp (k % w) hlen
  rwa [hsplit] at this

end SlotBuffer

end RemotePlay
