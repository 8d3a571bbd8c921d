import Mathlib.Data.List.Perm.Subperm
import RemotePlay.Lib.KeyedList

set_option autoImplicit false

/-! # Dictionaries in insertion order

A dictionary that enumerates its entries in the order in which their keys were inserted. Assigning
to a key that is there keeps its place, and popping a key that is not there does nothing. -/

namespace RemotePlay

/-- A dictionary, as the list of its items. -/
abbrev Dict (κ β : Type*) := KeyedList (κ × β) (Prod.fst : κ × β → κ)

namespace Dict

variable {κ β : Type*}

def size (d : Dict κ β) : Nat := d.toList.length

def values (d : Dict κ β) : List β := d.toList.map Prod.snd

variable [DecidableEq κ]

def get? (d : Dict κ β) (k : κ) : Option β := (d.find? k).map Prod.snd

/-- `d[k] = v`. -/
def assign (d : Dict κ β) (k : κ) (v : β) : Dict κ β := KeyedList.put d (k, v)

/-- `d.pop(k, None)`. -/
def pop (d : Dict κ β) (k : κ) : Dict κ β := KeyedList.erase d k

@[simp] theorem get?_empty (k : κ) : Dict.get? ({} : Dict κ β) k = none := rfl

theorem get?_assign (d : Dict κ β) (k : κ) (v : β) (k' : κ) :
    (d.assign k v).get? k' = if k = k' then some v else d.get? k' := by
  unfold get? assign
  rw [KeyedList.find?_put]
  split
  · rfl
  · rfl

theorem get?_pop (d : Dict κ β) (k k' : κ) :
    (d.pop k).get? k' = if k = k' then none else d.get? k' := by
  unfold get? pop
  rw [KeyedList.find?_erase]
  split
  · rfl
  · rfl

/-- The items are the pairs that lookup finds. -/
theorem mem_toList_iff (d : Dict κ β) (k : κ) (v : β) : (k, v) ∈ d.toList ↔ d.get? k = some v := by
  constructor
  · intro hmem
    cases hfind : d.find? k with
    | none =>
        rw [KeyedList.find?, List.find?_eq_none] at hfind
        exact absurd rfl (of_decide_eq_false (Bool.eq_false_iff.2 (hfind _ hmem)))
    | some item =>
        have hkey := KeyedList.key_of_find? hfind
        rw [KeyedList.find?] at hfind
        have hitem := List.mem_of_find?_eq_some hfind
        -- the keys are distinct, so there is one item with key `k`
        have heq : item = (k, v) := List.inj_on_of_nodup_map d.nodup hitem hmem hkey
        rw [get?, KeyedList.find?, hfind, heq]
        rfl
  · intro hget
    obtain ⟨item, hfind, rfl⟩ := Option.map_eq_some_iff.1 hget
    obtain rfl := KeyedList.key_of_find? hfind
    exact List.mem_of_find?_eq_some hfind

theorem mem_values_iff (d : Dict κ β) (v : β) : v ∈ d.values ↔ ∃ k, d.get? k = some v := by
  unfold values
  rw [List.mem_map]
  constructor
  · rintro ⟨⟨k, w⟩, hmem, rfl⟩
    exact ⟨k, (d.mem_toList_iff k w).1 hmem⟩
  · rintro ⟨k, hget⟩
    exact ⟨(k, v), (d.mem_toList_iff k v).2 hget, rfl⟩

/-- A dictionary whose keys are below `n` has at most `n` items. -/
theorem size_le_of_keys_lt {β : Type*} (d : Dict Nat β) (n : Nat)
    (h : ∀ k v, d.get? k = some v → k < n) : d.size ≤ n := by
  have hsub : d.toList.map Prod.fst ⊆ List.range n := by
    intro k hk
    obtain ⟨⟨k', v⟩, hmem, rfl⟩ := List.mem_map.1 hk
    exact List.mem_range.2 (h k' v ((d.mem_toList_iff k' v).1 hmem))
  have hle := (d.nodup.subperm hsub).length_le
  rwa [List.length_map, List.length_range] at hle

end Dict

/-! ## Indexes -/

section Indexes

variable {κ β : Type*}

/-- The lookup finds the listed objects and no others, each under its key. -/
def Indexes (find : κ → Option β) (listed : List β) (key : β → κ) : Prop :=
  ∀ k b, find k = some b ↔ b ∈ listed ∧ key b = k

variable {find : κ → Option β} {listed : List β} {key : β → κ}

theorem Indexes.empty (key : β → κ) : Indexes (fun _ => none) [] key := by
  intro k b
  simp

/-- Objects that are indexed have keys of their own. -/
theorem Indexes.injective (h : Indexes find listed key) :
    ∀ a ∈ listed, ∀ b ∈ listed, key a = key b → a = b := by
  intro a ha b hb heq
  have hfind := (h _ a).2 ⟨ha, rfl⟩
  rw [heq, (h _ b).2 ⟨hb, rfl⟩] at hfind
  exact (Option.some.inj hfind).symm

variable [DecidableEq κ]

/-- A new object comes in under a key that is free. -/
theorem Indexes.insert (h : Indexes find listed key) (key' : β → κ) {new : β}
    (hkey : ∀ b ∈ listed, b ≠ new ∧ key' b = key b) (hfree : find (key' new) = none) :
    Indexes (fun k => if key' new = k then some new else find k) (listed ++ [new]) key' := by
  intro k b
  dsimp only
  rw [List.mem_append, List.mem_singleton]
  by_cases hk : key' new = k
  · rw [if_pos hk]
    constructor
    · intro heq
      obtain rfl := Option.some.inj heq
      exact ⟨Or.inr rfl, hk⟩
    · rintro ⟨hb | rfl, heq⟩
      · rw [(hkey b hb).2, ← hk] at heq
        rw [(h _ b).2 ⟨hb, heq⟩] at hfree
        exact absurd hfree (by simp)
      · rfl
  · rw [if_neg hk, h k b]
    constructor
    · rintro ⟨hb, heq⟩
      exact ⟨Or.inl hb, (hkey b hb).2.trans heq⟩
    · rintro ⟨hb | rfl, heq⟩
      · exact ⟨hb, (hkey b hb).2.symm.trans heq⟩
      · exact absurd heq hk

/-- An object goes out that shares its key with no other one. -/
theorem Indexes.remove [DecidableEq β] (h : Indexes find listed key) {old : β}
    (hown : ∀ b ∈ listed, b ≠ old → key b ≠ key old) :
    Indexes (fun k => if key old = k then none else find k) (listed.filter (· ≠ old)) key := by
  intro k b
  dsimp only
  rw [List.mem_filter, decide_eq_true_eq]
  by_cases hk : key old = k
  · rw [if_pos hk]
    refine iff_of_false (by simp) ?_
    rintro ⟨⟨hb, hne⟩, heq⟩
    exact hown b hb hne (heq.trans hk.symm)
  · rw [if_neg hk, h k b]
    constructor
    · rintro ⟨hb, heq⟩
      exact ⟨⟨hb, fun hbo => hk (hbo ▸ heq)⟩, heq⟩
    · rintro ⟨⟨hb, -⟩, heq⟩
      exact ⟨hb, heq⟩

end Indexes

end RemotePlay
