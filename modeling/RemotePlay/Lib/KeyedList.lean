import Mathlib.Data.List.Nodup
import Mathlib.Tactic.Common

set_option autoImplicit false

/-! # Lists of records with a key

A vector that is searched by a key its records carry. No two records share a key, so that the first
match is the only one; `put` replaces the record of a key where it stands or appends it, and `erase`
removes it. -/

namespace RemotePlay

/-- A list of records with distinct keys. -/
structure KeyedList (α : Type*) {κ : Type*} (key : α → κ) where
  toList : List α := []
  nodup : (toList.map key).Nodup := by exact List.nodup_nil

namespace KeyedList

variable {α κ : Type*} {key : α → κ}

instance : Inhabited (KeyedList α key) := ⟨{}⟩

@[ext] theorem ext {l l' : KeyedList α key} (h : l.toList = l'.toList) : l = l' := by
  cases l
  cases l'
  congr

variable [DecidableEq κ]

instance [DecidableEq α] : DecidableEq (KeyedList α key) :=
  fun l l' => decidable_of_iff (l.toList = l'.toList) ⟨ext, fun h => h ▸ rfl⟩

def find? (l : KeyedList α key) (k : κ) : Option α := l.toList.find? (fun a => key a = k)

theorem map_replace (l : List α) (a : α) :
    (l.map (fun b => if key b = key a then a else b)).map key = l.map key := by
  rw [List.map_map]
  apply List.map_congr_left
  intro b _
  rw [Function.comp_apply]
  split
  · next h => exact h.symm
  · rfl

/-- Replace the record with the key of `a`, or append `a`. -/
def put (l : KeyedList α key) (a : α) : KeyedList α key :=
  if h : key a ∈ l.toList.map key then
    ⟨l.toList.map (fun b => if key b = key a then a else b), by
      rw [map_replace]
      exact l.nodup⟩
  else
    ⟨l.toList ++ [a], by
      rw [List.map_append, List.map_singleton]
      exact List.nodup_append'.2 ⟨l.nodup, List.nodup_singleton _, by simpa using h⟩⟩

def erase (l : KeyedList α key) (k : κ) : KeyedList α key :=
  ⟨l.toList.filter (fun a => key a ≠ k), l.nodup.sublist (List.filter_sublist.map key)⟩

theorem key_of_find? {l : KeyedList α key} {k : κ} {a : α} (h : l.find? k = some a) :
    key a = k := by
  simpa using List.find?_some h

theorem find?_eq_none {l : KeyedList α key} {k : κ} (h : k ∉ l.toList.map key) :
    l.find? k = none := by
  rw [find?, List.find?_eq_none]
  intro a ha
  have hne : key a ≠ k := fun heq => h (heq ▸ List.mem_map_of_mem ha)
  simpa using hne

theorem find?_map_replace (l : List α) (a : α) (k : κ) :
    (l.map (fun b => if key b = key a then a else b)).find? (fun b => key b = k)
      = if key a = k then (if key a ∈ l.map key then some a else none)
        else l.find? (fun b => key b = k) := by
  induction l with
  | nil => simp
  | cons b l ih =>
      rw [List.map_cons, List.find?_cons, List.find?_cons, ih]
      by_cases hb : key b = key a
      · by_cases ha : key a = k
        · simp [hb, ha]
        · simp [hb, ha]
      · by_cases ha : key a = k
        · have hne : key b ≠ k := fun h => hb (h.trans ha.symm)
          simp [ha, hne, Ne.symm hne]
        · simp [hb, ha]

theorem find?_put (l : KeyedList α key) (a : α) (k : κ) :
    (l.put a).find? k = if key a = k then some a else l.find? k := by
  unfold put
  split
  · next hmem =>
      rw [find?, find?_map_replace, if_pos hmem]
      rfl
  · next hmem =>
      by_cases hk : key a = k
      · have hnone := find?_eq_none (l := l) (hk ▸ hmem)
        rw [find?] at hnone
        simp [find?, hnone, hk]
      · simp [find?, hk]

theorem find?_erase (l : KeyedList α key) (k' k : κ) :
    (l.erase k').find? k = if k' = k then none else l.find? k := by
  rw [find?, erase, List.find?_filter]
  split
  · next h =>
      rw [List.find?_eq_none]
      intro a _
      simp [h]
  · next h =>
      rw [find?]
      congr 1
      funext a
      by_cases ha : key a = k
      · have hne : key a ≠ k' := fun heq => h (heq.symm.trans ha)
        simp [ha, Ne.symm h]
      · simp [ha]

end KeyedList

end RemotePlay
