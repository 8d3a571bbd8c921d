import Std.Data.TreeMap
import Mathlib.Data.List.Basic
import Mathlib.Order.Interval.Finset.Nat
import Mathlib.Tactic.Common

set_option autoImplicit false

/-! # Ordered maps

`std::map` is a `Std.TreeMap` over the keys' own order. The lookup lemmas are stated with `=` on
keys, and `begin()` is the head of the ascending key list. -/

namespace RemotePlay

section OrderedMap

variable {κ β : Type} [Ord κ] [Std.TransOrd κ] (m : Std.TreeMap κ β)

theorem mem_of_lookup {k : κ} {v : β} (h : m[k]? = some v) : k ∈ m :=
  Std.TreeMap.mem_iff_isSome_getElem?.2 (by simp [h])

theorem lookup_eq_none_iff (k : κ) : m[k]? = none ↔ k ∉ m := by
  rw [Std.TreeMap.mem_iff_isSome_getElem?, Option.not_isSome_iff_eq_none]

/-- Inserting a default under a key that is there changes no lookup. -/
theorem lookup_insertIfNew_of_some {k : κ} {v w : β} (h : m[k]? = some w) (a : κ) :
    (m.insertIfNew k v)[a]? = m[a]? := by
  rw [Std.TreeMap.getElem?_insertIfNew, if_neg (fun hc => hc.2 (mem_of_lookup m h))]

theorem size_insertIfNew_of_none {k : κ} {v : β} (h : m[k]? = none) :
    (m.insertIfNew k v).size = m.size + 1 := by
  rw [Std.TreeMap.size_insertIfNew, if_neg ((lookup_eq_none_iff m k).1 h)]

theorem size_insert_of_some {k : κ} {v w : β} (h : m[k]? = some w) :
    (m.insert k v).size = m.size := by
  rw [Std.TreeMap.size_insert, if_pos (Std.TreeMap.contains_iff_mem.2 (mem_of_lookup m h))]

theorem head_keys_eq_none_iff : m.keys.head? = none ↔ m.size = 0 := by
  rw [List.head?_eq_none_iff, ← Std.TreeMap.length_keys, List.length_eq_zero_iff]

variable [Std.LawfulEqOrd κ]

/-- The head of the key list is the least key. -/
theorem least_of_head_keys {k : κ} (h : m.keys.head? = some k) :
    k ∈ m ∧ ∀ a ∈ m, (compare k a).isLE := by
  obtain ⟨rest, hkeys⟩ := List.head?_eq_some_iff.1 h
  have hord := m.ordered_keys
  rw [hkeys, List.pairwise_cons] at hord
  refine ⟨Std.TreeMap.mem_keys.1 (by simp [hkeys]), ?_⟩
  intro a ha
  rw [← Std.TreeMap.mem_keys, hkeys, List.mem_cons] at ha
  rcases ha with rfl | ha
  · simp
  · rw [hord.1 a ha]
    rfl

theorem size_erase_of_some {k : κ} {v : β} (h : m[k]? = some v) :
    (m.erase k).size + 1 = m.size := by
  have hmem := mem_of_lookup m h
  have hpos := List.length_pos_of_mem (Std.TreeMap.mem_keys.2 hmem)
  rw [Std.TreeMap.length_keys] at hpos
  rw [Std.TreeMap.size_erase, if_pos (Std.TreeMap.contains_iff_mem.2 hmem)]
  omega

/-- A map whose keys have distinct numbers in an interval is no larger than the interval. -/
theorem size_le_of_interval {num : κ → Nat} (hnum : Function.Injective num) (lo w : Nat)
    (h : ∀ k ∈ m, lo ≤ num k ∧ num k ≤ lo + w) : m.size ≤ w + 1 := by
  have hnodup : (m.keys.map num).Nodup := List.Nodup.map hnum m.nodup_keys
  have hsub : (m.keys.map num).toFinset ⊆ Finset.Icc lo (lo + w) := by
    intro n hn
    obtain ⟨k, hk, rfl⟩ := List.mem_map.1 (List.mem_toFinset.1 hn)
    exact Finset.mem_Icc.2 (h k (Std.TreeMap.mem_keys.1 hk))
  have hcard := Finset.card_le_card hsub
  rw [List.toFinset_card_of_nodup hnodup, List.length_map, Std.TreeMap.length_keys,
    Nat.card_Icc] at hcard
  omega

theorem any_values_iff (p : β → Bool) :
    m.values.any p = true ↔ ∃ (k : κ) (v : β), m[k]? = some v ∧ p v = true := by
  have hvalues : m.values = m.toList.map Prod.snd := by
    have hfoldr : m.values = m.foldr (fun _ v vs => v :: vs) [] := rfl
    rw [hfoldr, Std.TreeMap.foldr_eq_foldr_toList]
    induction m.toList with
    | nil => rfl
    | cons entry entries ih => rw [List.foldr_cons, List.map_cons, ih]
  rw [hvalues, List.any_map, List.any_eq_true]
  constructor
  · rintro ⟨⟨k, v⟩, hmem, hp⟩
    exact ⟨k, v, Std.TreeMap.mem_toList_iff_getElem?_eq_some.1 hmem, hp⟩
  · rintro ⟨k, v, hk, hp⟩
    exact ⟨(k, v), Std.TreeMap.mem_toList_iff_getElem?_eq_some.2 hk, hp⟩

/-- A table built from a map row by row is known from the rows that the lookups show. -/
theorem map_toList_congr {γ : Type} (row : κ → β → γ) {m m' : Std.TreeMap κ β}
    (h : ∀ k : κ, (m[k]?).map (row k) = (m'[k]?).map (row k)) :
    m.toList.map (fun entry => row entry.1 entry.2)
      = m'.toList.map (fun entry => row entry.1 entry.2) := by
  have hequiv : (m.map row).Equiv (m'.map row) := by
    refine .of_forall_constGet?_eq fun k => ?_
    rw [Std.TreeMap.getElem?_map, Std.TreeMap.getElem?_map]
    exact h k
  have hlists := congrArg (List.map Prod.snd) (Std.TreeMap.equiv_iff_toList_eq.1 hequiv)
  rwa [Std.TreeMap.toList_map, Std.TreeMap.toList_map, List.map_map, List.map_map] at hlists

variable [DecidableEq κ]

theorem lookup_insert (k a : κ) (v : β) :
    (m.insert k v)[a]? = if k = a then some v else m[a]? := by
  rw [Std.TreeMap.getElem?_insert]
  simp

theorem lookup_erase (k a : κ) : (m.erase k)[a]? = if k = a then none else m[a]? := by
  rw [Std.TreeMap.getElem?_erase]
  simp

theorem lookup_insertIfNew_of_none {k : κ} {v : β} (h : m[k]? = none) (a : κ) :
    (m.insertIfNew k v)[a]? = if k = a then some v else m[a]? := by
  rw [Std.TreeMap.getElem?_insertIfNew]
  simp [(lookup_eq_none_iff m k).1 h]

/-- The row of a key is found in a table built from the map. -/
theorem find_map_toList {γ : Type} (row : κ → β → γ) (key : γ → κ)
    (hkey : ∀ k v, key (row k v) = k) {k : κ} {v : β} (h : m[k]? = some v) :
    (m.toList.map (fun entry => row entry.1 entry.2)).find? (fun r => key r == k)
      = some (row k v) := by
  have hmem : (k, v) ∈ m.toList := Std.TreeMap.mem_toList_iff_getElem?_eq_some.2 h
  cases hfind : (m.toList.map (fun entry => row entry.1 entry.2)).find? (fun r => key r == k) with
  | none =>
      have hnone := List.find?_eq_none.1 hfind (row k v) (List.mem_map_of_mem hmem)
      simp [hkey] at hnone
  | some r =>
      obtain ⟨⟨a, b⟩, hab, rfl⟩ := List.mem_map.1 (List.mem_of_find?_eq_some hfind)
      have hak : a = k := by simpa [hkey] using List.find?_some hfind
      subst hak
      have hb := Std.TreeMap.mem_toList_iff_getElem?_eq_some.1 hab
      rw [Option.some.inj (h.symm.trans hb)]

/-- The entries of a map, counted beside the entry of one key and by what they hold. -/
theorem size_eq_countP_beside (p : β → Bool) {k : κ} {v : β} (h : m[k]? = some v) :
    m.size = m.toList.countP (fun entry => p entry.2 && decide (entry.1 ≠ k)) +
      m.toList.countP (fun entry => !p entry.2 && decide (entry.1 ≠ k)) + 1 := by
  have hone : m.toList.countP (fun entry => decide (entry.1 = k)) = 1 := by
    have hcount : (m.toList.map Prod.fst).count k = 1 := by
      rw [Std.TreeMap.map_fst_toList_eq_keys, Std.TreeMap.nodup_keys.count,
        if_pos (Std.TreeMap.mem_keys.2 (mem_of_lookup m h))]
    rw [List.count, List.countP_map] at hcount
    exact hcount
  have hsplit : ∀ l : List (κ × β), l.length
      = l.countP (fun entry => p entry.2 && decide (entry.1 ≠ k)) +
        l.countP (fun entry => !p entry.2 && decide (entry.1 ≠ k)) +
        l.countP (fun entry => decide (entry.1 = k)) := by
    intro l
    induction l with
    | nil => rfl
    | cons entry l ih =>
        rw [List.length_cons, ih, List.countP_cons, List.countP_cons, List.countP_cons]
        by_cases hk : entry.1 = k
        · simp [hk]
          omega
        · cases p entry.2
          · simp [hk]
            omega
          · simp [hk]
            omega
  have hlength := hsplit m.toList
  rw [hone, Std.TreeMap.length_toList] at hlength
  exact hlength

variable {m} {k a : κ} {v w : β}

theorem of_lookup_insert (h : (m.insert k v)[a]? = some w) :
    a = k ∧ w = v ∨ a ≠ k ∧ m[a]? = some w := by
  rw [lookup_insert] at h
  split at h
  · next heq => exact Or.inl ⟨heq.symm, (Option.some.inj h).symm⟩
  · next hne => exact Or.inr ⟨Ne.symm hne, h⟩

theorem of_lookup_erase (h : (m.erase k)[a]? = some v) : a ≠ k ∧ m[a]? = some v := by
  rw [lookup_erase] at h
  split at h
  · exact absurd h (by simp)
  · next hne => exact ⟨Ne.symm hne, h⟩

theorem of_lookup_insertIfNew (h : (m.insertIfNew k v)[a]? = some w) (hne : a ≠ k) :
    m[a]? = some w := by
  cases hk : m[k]? with
  | none => rwa [lookup_insertIfNew_of_none m hk, if_neg (Ne.symm hne)] at h
  | some u => rwa [lookup_insertIfNew_of_some m hk] at h

end OrderedMap

end RemotePlay
