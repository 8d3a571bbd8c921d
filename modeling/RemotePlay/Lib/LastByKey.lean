import Mathlib.Data.List.Basic
import Mathlib.Tactic.Common

set_option autoImplicit false

/-! # The last entry of each key

In a log whose entries may carry a key, the last entry of a key is what the log leaves behind for
it. The last rule says which part of a log may be left out without changing that for any key. -/

namespace RemotePlay

section LastByKey

variable {α κ : Type*} [DecidableEq κ] (key : α → Option κ)

/-- The last entry of the key `k`. -/
def lastFor (k : κ) (xs : List α) : Option α := (xs.filter (fun x => key x = some k)).getLast?

theorem lastFor_append (k : κ) (xs ys : List α) :
    lastFor key k (xs ++ ys) = (lastFor key k ys).or (lastFor key k xs) := by
  rw [lastFor, List.filter_append, List.getLast?_append]
  rfl

theorem lastFor_concat (k : κ) (xs : List α) (x : α) :
    lastFor key k (xs ++ [x]) = if key x = some k then some x else lastFor key k xs := by
  rw [lastFor_append]
  by_cases h : key x = some k
  · simp [lastFor, h]
  · simp [lastFor, h]

theorem lastFor_eq_none {k : κ} {xs : List α} (h : k ∉ xs.filterMap key) :
    lastFor key k xs = none := by
  rw [lastFor, List.getLast?_eq_none_iff, List.filter_eq_nil_iff]
  intro x hx hkey
  exact h (List.mem_filterMap.2 ⟨x, hx, of_decide_eq_true hkey⟩)

/-- Two logs leave the same behind. -/
def SameLast (xs ys : List α) : Prop := ∀ k, lastFor key k xs = lastFor key k ys

variable {key}

theorem SameLast.refl (xs : List α) : SameLast key xs xs := fun _ => rfl

theorem SameLast.trans {xs ys zs : List α} (h : SameLast key xs ys) (h' : SameLast key ys zs) :
    SameLast key xs zs := fun k => (h k).trans (h' k)

theorem SameLast.symm {xs ys : List α} (h : SameLast key xs ys) : SameLast key ys xs :=
  fun k => (h k).symm

theorem SameLast.append {xs ys : List α} (h : SameLast key xs ys) (zs : List α) :
    SameLast key (xs ++ zs) (ys ++ zs) := fun k => by
  rw [lastFor_append, lastFor_append, h k]

/-- **What may be left out in front of an entry `x`**: what holds no last entry of another key. -/
theorem sameLast_drop_iff (xs ys : List α) (x : α) :
    SameLast key (xs ++ [x]) (xs ++ ys ++ [x]) ↔
      ∀ k ∈ ys.filterMap key, key x = some k ∨ lastFor key k xs = lastFor key k (xs ++ ys) := by
  constructor
  · intro h k _
    have hk := h k
    rw [lastFor_concat, lastFor_concat] at hk
    by_cases hx : key x = some k
    · exact .inl hx
    · rw [if_neg hx, if_neg hx] at hk
      exact .inr hk
  · intro h k
    rw [lastFor_concat, lastFor_concat]
    by_cases hx : key x = some k
    · rw [if_pos hx, if_pos hx]
    · rw [if_neg hx, if_neg hx]
      by_cases hk : k ∈ ys.filterMap key
      · exact (h k hk).resolve_left hx
      · rw [lastFor_append, lastFor_eq_none key hk, Option.none_or]

end LastByKey

end RemotePlay
