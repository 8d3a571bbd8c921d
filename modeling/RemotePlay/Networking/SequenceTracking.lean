import Mathlib.Data.List.Basic
import RemotePlay.Lib.Runs
import RemotePlay.Lib.SlotWindow
import RemotePlay.Networking.UdpProtocol

set_option autoImplicit false

/-! # What the sequence tracker counts

`SequenceTracker::track` over any run of calls. The counters balance: every number in the span from
the first to the highest one was received or lost, and every call beyond those was a duplicate or
late (`tracker_balance`).

Which of the two a repeated number counts as is decided by 64 slots, while the window takes 65
numbers: `highest_ - 64` shares its slot with `highest_`, so each pushes the other out. For the last
64 numbers of all the window test itself wraps. `duplicates_exact_iff` says when a call is counted
for what it is. -/

namespace RemotePlay.Net

/-- A call whose result is not looked at. -/
def trackStep (t : SequenceTracker) (seq : UInt64) : SequenceTracker := (t.track seq).2

/-- The tracker after the calls `calls` since its construction. -/
def trackedBy (calls : List UInt64) : SequenceTracker := runFrom trackStep {} calls

theorem trackedBy_concat (calls : List UInt64) (seq : UInt64) :
    trackedBy (calls ++ [seq]) = trackStep (trackedBy calls) seq := runFrom_concat ..

namespace SequenceTracker

variable (t : SequenceTracker) (seq : UInt64)

/-! ## The slots -/

/-- The number that a slot was last filled with. -/
def held (i : Fin 64) : Option UInt64 :=
  if t.seenMask.toBitVec.getLsbD i then some t.seenWindow[i] else none

/-- The window takes the number: it is the first or the newest, or passes the test for late ones. -/
def admits : Bool :=
  !t.initialized || decide (t.highest < seq) || !decide (seq + kLateWindow < t.highest)

/-- A bit test of the source. -/
theorem bit_ne_zero_iff (mask : UInt64) :
    (mask >>> (seq % 64)) &&& 1 ≠ 0 ↔ mask.toBitVec.getLsbD (slot seq) = true := by
  have hone : (1 : UInt64).toBitVec = 1#64 := rfl
  have hzero : (0 : UInt64).toBitVec = 0#64 := rfl
  have hshift : ((seq % 64).toBitVec % 64).toNat = seq.toNat % 64 := by simp
  rw [ne_eq, ← UInt64.toBitVec_inj, UInt64.toBitVec_and, UInt64.toBitVec_shiftRight, hone, hzero,
    BitVec.and_one_eq_setWidth_ofBool_getLsbD, BitVec.ushiftRight_eq', BitVec.getLsbD_ushiftRight,
    hshift, Nat.add_zero]
  show _ ↔ mask.toBitVec.getLsbD (seq.toNat % 64) = true
  cases mask.toBitVec.getLsbD (seq.toNat % 64)
  · decide
  · decide

/-- Setting a bit sets no other one. -/
theorem getLsbD_set_bit (mask : UInt64) (i : Fin 64) :
    (mask ||| ((1 : UInt64) <<< (seq % 64))).toBitVec.getLsbD i
      = (mask.toBitVec.getLsbD i || decide (i = slot seq)) := by
  have hone : (1 : UInt64).toBitVec = 1#64 := rfl
  have hshift : ((seq % 64).toBitVec % 64).toNat = seq.toNat % 64 := by simp
  rw [UInt64.toBitVec_or, UInt64.toBitVec_shiftLeft, BitVec.getLsbD_or, BitVec.shiftLeft_eq',
    BitVec.getLsbD_shiftLeft, hshift, hone, BitVec.getLsbD_one]
  have hi := i.isLt
  have heq : i = slot seq ↔ i.val = seq.toNat % 64 := Fin.ext_iff
  congr 1
  simp only [heq, hi, decide_true, Bool.true_and]
  grind

theorem held_markSeen (i : Fin 64) :
    (t.markSeen seq).held i = if i = slot seq then some seq else t.held i := by
  unfold held markSeen
  dsimp only
  rw [getLsbD_set_bit]
  by_cases hi : i = slot seq
  · subst hi
    simp
  · have hne : (slot seq).val ≠ i.val := fun h => hi (Fin.ext h.symm)
    simp [hi, hne]

/-! ## One call -/

variable {t seq}

/-- The first call is in order. -/
theorem trackStep_first (h : t.initialized = false) : trackStep t seq
    = { t with
        received := t.received + 1
        initialized := true
        highest := seq }.markSeen seq := by
  unfold trackStep track
  dsimp only
  rw [if_pos (by simp [h])]

/-- A newer number adds the gap before it to `lost_`, which may be none. -/
theorem trackStep_newer (h : t.initialized = true) (hlt : t.highest < seq) : trackStep t seq
    = { t with
        received := t.received + 1
        lost := t.lost + (seq - t.highest - 1)
        highest := seq }.markSeen seq := by
  unfold trackStep track
  dsimp only
  rw [if_neg (by simp [h]), if_pos hlt]
  split
  · rfl
  · next hgap =>
      have hone : seq - t.highest = 1 := by
        have hsub := UInt64.toNat_sub_of_le seq t.highest (UInt64.le_of_lt hlt)
        have hle := UInt64.le_iff_toNat_le.1 (UInt64.not_lt.1 hgap)
        have hpos := UInt64.lt_iff_toNat_lt.1 hlt
        rw [UInt64.toNat_one] at hle
        apply UInt64.toNat_inj.1
        rw [UInt64.toNat_one]
        omega
      rw [hone, UInt64.sub_self, UInt64.add_zero]

/-- Any other number is a duplicate or late, and the slot decides; what the window takes as late
    fills its slot. -/
theorem trackStep_older (h : t.initialized = true) (hle : seq ≤ t.highest) : trackStep t seq
    = if t.admits seq = true then
        if t.held (slot seq) = some seq then
          { t with
            received := t.received + 1
            duplicates := t.duplicates + 1 }
        else
          { t with
            received := t.received + 1
            late := t.late + 1 }.markSeen seq
      else
        { t with
          received := t.received + 1
          late := t.late + 1 } := by
  have hnot : ¬ t.highest < seq := UInt64.not_lt.2 hle
  have hadmits : t.admits seq = true ↔ ¬ seq + kLateWindow < t.highest := by
    simp [admits, h, hnot]
  have hheld : t.held (slot seq) = some seq ↔
      (t.seenMask >>> (seq % 64)) &&& 1 ≠ 0 ∧ t.seenWindow[slot seq] = seq := by
    rw [bit_ne_zero_iff]
    unfold held
    cases t.seenMask.toBitVec.getLsbD (slot seq)
    · simp
    · simp
  unfold trackStep track
  dsimp only
  rw [if_neg (by simp [h]), if_neg hnot]
  split
  · next hlate => rw [if_neg (fun hin => hadmits.1 hin hlate)]
  next hin =>
  rw [if_pos (hadmits.2 hin)]
  split
  · next hseen => rw [if_pos (hheld.2 hseen)]
  · next hunseen =>
      rw [if_neg (fun hc => hunseen (hheld.1 hc))]
      rfl

variable (t seq)

@[simp] theorem initialized_trackStep : (trackStep t seq).initialized = true := by
  cases h : t.initialized with
  | false =>
      rw [trackStep_first h]
      rfl
  | true =>
      by_cases hle : seq ≤ t.highest
      · rw [trackStep_older h hle]
        split
        · split
          · exact h
          · exact h
        · exact h
      · rw [trackStep_newer h (UInt64.not_le.1 hle)]
        exact h

theorem received_trackStep : (trackStep t seq).received = t.received + 1 := by
  cases h : t.initialized with
  | false =>
      rw [trackStep_first h]
      rfl
  | true =>
      by_cases hle : seq ≤ t.highest
      · rw [trackStep_older h hle]
        split
        · split
          · rfl
          · rfl
        · rfl
      · rw [trackStep_newer h (UInt64.not_le.1 hle)]
        rfl

theorem highest_trackStep : (trackStep t seq).highest
    = if t.initialized = false ∨ t.highest < seq then seq else t.highest := by
  cases h : t.initialized with
  | false =>
      rw [trackStep_first h]
      rfl
  | true =>
      by_cases hle : seq ≤ t.highest
      · rw [trackStep_older h hle]
        have hkeep : ¬ (true = false ∨ t.highest < seq) := by simp [hle]
        rw [if_neg hkeep]
        split
        · split
          · rfl
          · rfl
        · rfl
      · have hlt := UInt64.not_le.1 hle
        rw [trackStep_newer h hlt, if_pos (Or.inr hlt)]
        rfl

theorem highest_le_trackStep {t : SequenceTracker} (h : t.initialized = true) (seq : UInt64) :
    t.highest.toNat ≤ (trackStep t seq).highest.toNat := by
  rw [highest_trackStep]
  split
  · next hnew =>
      rcases hnew with hinit | hlt
      · exact absurd (h.symm.trans hinit) (by simp)
      · exact (UInt64.lt_iff_toNat_lt.1 hlt).le
  · exact Nat.le_refl _

/-- A number the window takes fills its slot; a duplicate is there already. -/
theorem held_trackStep (i : Fin 64) : (trackStep t seq).held i
    = if t.admits seq = true ∧ i = slot seq then some seq else t.held i := by
  cases h : t.initialized with
  | false =>
      have hadmits : t.admits seq = true := by simp [admits, h]
      rw [trackStep_first h, held_markSeen]
      simp only [hadmits, true_and]
      rfl
  | true =>
      by_cases hle : seq ≤ t.highest
      · rw [trackStep_older h hle]
        by_cases hadmits : t.admits seq = true
        · rw [if_pos hadmits]
          simp only [hadmits, true_and]
          split
          · next hheld =>
              split
              · next hi =>
                  rw [hi]
                  exact hheld
              · rfl
          · rw [held_markSeen]
            rfl
        · rw [if_neg hadmits, if_neg (fun hc => hadmits hc.1)]
          rfl
      · have hlt := UInt64.not_le.1 hle
        have hadmits : t.admits seq = true := by simp [admits, hlt]
        rw [trackStep_newer h hlt, held_markSeen]
        simp only [hadmits, true_and]
        rfl

end SequenceTracker

/-! ## Runs -/

open SequenceTracker

/-- What the tracker knows of the numbers tracked so far. -/
structure Follows (calls : List UInt64) (t : SequenceTracker) : Prop where
  initialized : t.initialized = true
  highest_mem : t.highest ∈ calls
  le_highest : ∀ x ∈ calls, x ≤ t.highest
  held_mem : ∀ i x, t.held i = some x → x ∈ calls
  received : t.received = UInt64.ofNat calls.length

theorem follows_first (seq : UInt64) : Follows [seq] (trackedBy [seq]) where
  initialized := initialized_trackStep {} seq
  highest_mem := List.mem_singleton_self seq
  le_highest := by
    intro x hx
    rw [List.mem_singleton.1 hx]
    exact UInt64.le_refl seq
  held_mem := by
    intro i x hx
    have hx : (trackStep {} seq).held i = some x := hx
    rw [held_trackStep] at hx
    split at hx
    · exact List.mem_singleton.2 (Option.some.inj hx).symm
    · exact absurd hx (by simp [held])
  received := rfl

/-- One more call. -/
theorem Follows.step {calls : List UInt64} {t : SequenceTracker} (h : Follows calls t)
    (seq : UInt64) : Follows (calls ++ [seq]) (trackStep t seq) where
  initialized := initialized_trackStep t seq
  highest_mem := by
    rw [highest_trackStep]
    split
    · exact List.mem_append_right _ (List.mem_singleton_self seq)
    · exact List.mem_append_left _ h.highest_mem
  le_highest := by
    intro x hx
    rw [highest_trackStep]
    rcases List.mem_append.1 hx with hx | hx
    · have hle := h.le_highest x hx
      split
      · next hnew =>
          rcases hnew with hinit | hlt
          · exact absurd (h.initialized.symm.trans hinit) (by simp)
          · exact UInt64.le_trans hle (UInt64.le_of_lt hlt)
      · exact hle
    · rw [List.mem_singleton.1 hx]
      split
      · exact UInt64.le_refl seq
      · next hold => exact UInt64.not_lt.1 (fun hlt => hold (Or.inr hlt))
  held_mem := by
    intro i x hx
    rw [held_trackStep] at hx
    split at hx
    · rw [← Option.some.inj hx]
      exact List.mem_append_right _ (List.mem_singleton_self seq)
    · exact List.mem_append_left _ (h.held_mem i x hx)
  received := by
    rw [received_trackStep, h.received, List.length_append, List.length_singleton,
      UInt64.ofNat_add]
    rfl

theorem trackedBy_follows (first : UInt64) (rest : List UInt64) :
    Follows (first :: rest) (trackedBy (first :: rest)) := by
  induction rest using List.reverseRecOn with
  | nil => exact follows_first first
  | append_singleton rest seq ih =>
      rw [← List.cons_append, trackedBy_concat]
      exact ih.step seq

theorem follows_of_mem {calls : List UInt64} {seq : UInt64} (h : seq ∈ calls) :
    Follows calls (trackedBy calls) := by
  obtain ⟨first, rest, rfl⟩ := List.exists_cons_of_ne_nil (List.ne_nil_of_mem h)
  exact trackedBy_follows first rest

/-! ## The balance of the counters -/

/-- Received and lost numbers against the span since `first`, duplicates and late ones. -/
def Balanced (first : UInt64) (t : SequenceTracker) : Prop :=
  t.received + t.lost = (t.highest - first + 1) + t.duplicates + t.late

/-- Every call adds to both sides of the balance. -/
theorem Balanced.step {first : UInt64} {t : SequenceTracker} (h : Balanced first t)
    (hinit : t.initialized = true) (seq : UInt64) : Balanced first (trackStep t seq) := by
  unfold Balanced at h ⊢
  by_cases hle : seq ≤ t.highest
  · rw [trackStep_older hinit hle]
    split
    · split
      · dsimp only
        grind
      · show t.received + 1 + t.lost = t.highest - first + 1 + t.duplicates + (t.late + 1)
        grind
    · dsimp only
      grind
  · rw [trackStep_newer hinit (UInt64.not_le.1 hle)]
    show t.received + 1 + (t.lost + (seq - t.highest - 1))
      = seq - first + 1 + t.duplicates + t.late
    grind

/-- **The counters of the tracker balance** after any calls, modulo `2^64`: received and lost
    numbers make up the span from the first to the highest one, the duplicates and the late ones;
    the highest is the maximum, and every call was received. -/
theorem tracker_balance (first : UInt64) (rest : List UInt64) :
    let t : SequenceTracker := trackedBy (first :: rest)
    t.received + t.lost = (t.highest - first + 1) + t.duplicates + t.late ∧
      (t.highest ∈ first :: rest ∧ ∀ x ∈ first :: rest, x ≤ t.highest) ∧
      t.received = UInt64.ofNat (first :: rest).length := by
  have hfollows := trackedBy_follows first rest
  refine ⟨?_, ⟨hfollows.highest_mem, hfollows.le_highest⟩, hfollows.received⟩
  show Balanced first (trackedBy (first :: rest))
  induction rest using List.reverseRecOn with
  | nil =>
      show 1 + 0 = first - first + 1 + 0 + 0
      grind
  | append_singleton rest seq ih =>
      rw [← List.cons_append, trackedBy_concat]
      have hbefore := trackedBy_follows first rest
      exact (ih hbefore).step hbefore.initialized seq

/-! ## Which calls count as duplicates -/

/-- The call adds to `duplicates_` if its number was tracked before, and to `late_` otherwise. -/
def CountedExactly (calls : List UInt64) (seq : UInt64) : Prop :=
  (trackStep (trackedBy calls) seq).duplicates
      = (trackedBy calls).duplicates + (if seq ∈ calls then 1 else 0) ∧
    (trackStep (trackedBy calls) seq).late
      = (trackedBy calls).late + (if seq ∈ calls then 0 else 1)

instance (calls : List UInt64) (seq : UInt64) : Decidable (CountedExactly calls seq) :=
  inferInstanceAs (Decidable (_ ∧ _))

/-- At or below the highest number a call counts once: as a duplicate or as late. -/
theorem SequenceTracker.counts_older {t : SequenceTracker} {seq : UInt64}
    (h : t.initialized = true) (hle : seq ≤ t.highest) :
    (trackStep t seq).duplicates = t.duplicates +
        (if t.admits seq = true ∧ t.held (slot seq) = some seq then 1 else 0) ∧
      (trackStep t seq).late = t.late +
        (if t.admits seq = true ∧ t.held (slot seq) = some seq then 0 else 1) := by
  rw [trackStep_older h hle]
  by_cases hadmits : t.admits seq = true
  · by_cases hheld : t.held (slot seq) = some seq
    · simp [hadmits, hheld]
    · simp only [hadmits, hheld, and_false, if_true, if_false]
      exact ⟨(UInt64.add_zero _).symm, rfl⟩
  · simp [hadmits]

/-- A call that puts another number into the slot of `seq`, of those that can come while `seq` is in
    the window: the number 64 above it, if the window takes it, or the one 64 below it, while `seq`
    is the newest. -/
def SequenceTracker.Evicts (t : SequenceTracker) (x seq : UInt64) : Prop :=
  (x.toNat = seq.toNat + 64 ∧ t.admits x = true) ∨ (x.toNat + 64 = seq.toNat ∧ t.highest = seq)

instance (t : SequenceTracker) (x seq : UInt64) : Decidable (t.Evicts x seq) :=
  inferInstanceAs (Decidable (_ ∨ _))

/-- Since some call with `seq` nothing was put into its slot in its place. -/
def Undisturbed (calls : List UInt64) (seq : UInt64) : Prop :=
  ∃ before since, calls = before ++ seq :: since ∧
    ∀ p ∈ history trackStep (trackedBy (before ++ [seq])) since, ¬ p.1.Evicts p.2 seq

theorem undisturbed_concat_self (calls : List UInt64) (seq : UInt64) :
    Undisturbed (calls ++ [seq]) seq := by
  refine ⟨calls, [], rfl, ?_⟩
  intro p hp
  exact absurd hp (by simp)

theorem undisturbed_concat_iff {calls : List UInt64} {seq x : UInt64} (hx : x ≠ seq) :
    Undisturbed (calls ++ [x]) seq ↔
      Undisturbed calls seq ∧ ¬ (trackedBy calls).Evicts x seq := by
  have hrun : ∀ before since : List UInt64, runFrom trackStep (trackedBy (before ++ [seq])) since
      = trackedBy (before ++ seq :: since) := by
    intro before since
    rw [trackedBy, trackedBy, ← runFrom_append, List.append_assoc]
    rfl
  constructor
  · rintro ⟨before, since, hsplit, hkept⟩
    -- the last call is not one with `seq`, so it belongs to those since
    rcases List.eq_nil_or_concat' since with rfl | ⟨since, y, rfl⟩
    · obtain ⟨-, hlast⟩ := List.append_inj' hsplit rfl
      exact absurd (List.cons.inj hlast).1 hx
    · rw [← List.cons_append, ← List.append_assoc] at hsplit
      obtain ⟨rfl, hlast⟩ := List.append_inj' hsplit rfl
      obtain rfl := (List.cons.inj hlast).1
      rw [history_concat] at hkept
      refine ⟨⟨before, since, rfl, fun p hp => hkept p (List.mem_append_left _ hp)⟩, ?_⟩
      rw [← hrun]
      exact hkept _ (List.mem_append_right _ (List.mem_singleton_self _))
  · rintro ⟨⟨before, since, rfl, hkept⟩, hlast⟩
    refine ⟨before, since ++ [x], by simp, ?_⟩
    intro p hp
    rw [history_concat, List.mem_append, List.mem_singleton, hrun] at hp
    rcases hp with hp | rfl
    · exact hkept p hp
    · exact hlast

theorem SequenceTracker.toNat_lateBound {x : UInt64} (hfit : x.toNat + 64 < 2 ^ 64) :
    (x + kLateWindow).toNat = x.toNat + 64 := by
  rw [UInt64.toNat_add]
  exact Nat.mod_eq_of_lt hfit

/-- Inside the window only the numbers 64 above and 64 below share the slot. -/
theorem SequenceTracker.evicts_iff {t : SequenceTracker} {x seq : UInt64}
    (hinit : t.initialized = true) (hx : x ≠ seq) (hseq : seq ≤ t.highest)
    (hwin : (trackStep t x).highest.toNat ≤ seq.toNat + 64) :
    t.Evicts x seq ↔ t.admits x = true ∧ slot seq = slot x := by
  have hxle : x.toNat ≤ (trackStep t x).highest.toNat := by
    rw [highest_trackStep]
    split
    · exact Nat.le_refl _
    · next hold => exact UInt64.le_iff_toNat_le.1 (UInt64.not_lt.1 (fun h => hold (Or.inr h)))
  have hne : x.toNat ≠ seq.toNat := fun h => hx (UInt64.toNat_inj.1 h)
  have hseq := UInt64.le_iff_toNat_le.1 hseq
  have hadmits : x.toNat + 64 ≤ seq.toNat → (t.admits x = true ↔ t.highest.toNat ≤ x.toNat + 64) := by
    intro hbelow
    have hfit := seq.toNat_lt
    have hnot : ¬ t.highest < x := by
      rw [UInt64.lt_iff_toNat_lt]
      omega
    simp [admits, hinit, hnot, UInt64.le_iff_toNat_le, toNat_lateBound (hbelow.trans_lt hfit)]
  have hslot : slot seq = slot x ↔ seq.toNat % 64 = x.toNat % 64 := Fin.ext_iff
  rw [hslot]
  constructor
  · rintro (⟨habove, hin⟩ | ⟨hbelow, hhigh⟩)
    · exact ⟨hin, by omega⟩
    · refine ⟨(hadmits (by omega)).2 ?_, by omega⟩
      rw [hhigh]
      omega
  · rintro ⟨hin, hmod⟩
    rcases Nat.lt_or_gt_of_ne hne with hlt | hgt
    · have hbelow : x.toNat + 64 ≤ seq.toNat := add_le_of_mod_eq hlt hmod.symm
      have hhigh := (hadmits hbelow).1 hin
      exact Or.inr ⟨by omega, UInt64.toNat_inj.1 (by omega)⟩
    · have habove : seq.toNat + 64 ≤ x.toNat := add_le_of_mod_eq hgt hmod
      exact Or.inl ⟨by omega, hin⟩

/-- A number no more than 64 below the newest is admitted, where the test does not wrap. -/
theorem SequenceTracker.admits_of_near {t : SequenceTracker} {x : UInt64}
    (hfit : x.toNat + 64 < 2 ^ 64) (hwin : (trackStep t x).highest.toNat ≤ x.toNat + 64) :
    t.admits x = true := by
  rw [highest_trackStep] at hwin
  split at hwin
  · next hnew =>
      rcases hnew with hinit | hlt
      · simp [admits, hinit]
      · simp [admits, hlt]
  · have hle : t.highest ≤ x + kLateWindow := by
      rw [UInt64.le_iff_toNat_le, toNat_lateBound hfit]
      exact hwin
    simp [admits, hle]

/-- **What a slot holds**: a number in the window that was tracked before is in its slot exactly
    when nothing was put there since. -/
theorem held_iff_undisturbed {calls : List UInt64} {seq : UInt64} (hmem : seq ∈ calls)
    (hfit : seq.toNat + 64 < 2 ^ 64) (hwin : (trackedBy calls).highest.toNat ≤ seq.toNat + 64) :
    (trackedBy calls).held (slot seq) = some seq ↔ Undisturbed calls seq := by
  induction calls using List.reverseRecOn with
  | nil => exact absurd hmem (by simp)
  | append_singleton calls x ih =>
      rw [trackedBy_concat] at hwin ⊢
      rw [held_trackStep]
      by_cases hx : x = seq
      · subst hx
        rw [if_pos ⟨admits_of_near hfit hwin, rfl⟩]
        exact iff_of_true rfl (undisturbed_concat_self calls x)
      · have hmem : seq ∈ calls := by
          rcases List.mem_append.1 hmem with h | h
          · exact h
          · exact absurd (List.mem_singleton.1 h).symm hx
        have hfollows := follows_of_mem hmem
        have hseq := hfollows.le_highest seq hmem
        have hbefore : (trackedBy calls).highest.toNat ≤ seq.toNat + 64 :=
          Nat.le_trans (highest_le_trackStep hfollows.initialized x) hwin
        rw [undisturbed_concat_iff hx, ← ih hmem hbefore,
          evicts_iff hfollows.initialized hx hseq hwin]
        split
        · next hout => simp [hout, hx]
        · next hout => simp [hout]

/-- When the code's own test finds the number: it was tracked before, and its slot still says so. -/
theorem seen_iff {calls : List UInt64} {seq : UInt64} (h : Follows calls (trackedBy calls))
    (hle : seq ≤ (trackedBy calls).highest)
    (hwin : (trackedBy calls).highest.toNat ≤ seq.toNat + 64) :
    ((trackedBy calls).admits seq = true ∧ (trackedBy calls).held (slot seq) = some seq) ↔
      seq ∈ calls ∧ seq.toNat + 64 < 2 ^ 64 ∧ Undisturbed calls seq := by
  have hnot : ¬ (trackedBy calls).highest < seq := UInt64.not_lt.2 hle
  constructor
  · rintro ⟨hadmits, hheld⟩
    have hmem := h.held_mem _ _ hheld
    -- a sum that wraps is below everything in the window
    have hfit : seq.toNat + 64 < 2 ^ 64 := by
      by_contra hwrap
      have hlate : seq + kLateWindow < (trackedBy calls).highest := by
        have hlt := seq.toNat_lt
        have hle := UInt64.le_iff_toNat_le.1 hle
        have hsum : (seq + kLateWindow).toNat = (seq.toNat + 64) % 2 ^ 64 := UInt64.toNat_add ..
        rw [UInt64.lt_iff_toNat_lt, hsum]
        omega
      simp [admits, h.initialized, hnot, hlate] at hadmits
    exact ⟨hmem, hfit, (held_iff_undisturbed hmem hfit hwin).1 hheld⟩
  · rintro ⟨hmem, hfit, hund⟩
    refine ⟨admits_of_near hfit ?_, (held_iff_undisturbed hmem hfit hwin).2 hund⟩
    have hkeep : ¬ ((trackedBy calls).initialized = false ∨ (trackedBy calls).highest < seq) := by
      simp [h.initialized, hle]
    rw [highest_trackStep, if_neg hkeep]
    exact hwin

/-- **When the tracker tells duplicates from late numbers.** A call with a number at or below the
    highest and no more than 64 below it is counted for what it is exactly when its number is new,
    or the sum in the window test does not wrap and nothing was put into its slot since. -/
theorem duplicates_exact_iff (calls : List UInt64) (seq : UInt64) (hcalls : calls ≠ [])
    (hle : seq ≤ (trackedBy calls).highest)
    (hwin : (trackedBy calls).highest.toNat ≤ seq.toNat + 64) :
    CountedExactly calls seq ↔
      (seq ∈ calls → seq.toNat + 64 < 2 ^ 64 ∧ Undisturbed calls seq) := by
  obtain ⟨first, rest, rfl⟩ := List.exists_cons_of_ne_nil hcalls
  have hfollows := trackedBy_follows first rest
  obtain ⟨hdup, hlate⟩ := counts_older hfollows.initialized hle
  rw [CountedExactly, hdup, hlate]
  have hseen := seen_iff hfollows hle hwin
  by_cases hmem : seq ∈ first :: rest
  · by_cases hright : seq.toNat + 64 < 2 ^ 64 ∧ Undisturbed (first :: rest) seq
    · rw [if_pos (hseen.2 ⟨hmem, hright⟩), if_pos (hseen.2 ⟨hmem, hright⟩), if_pos hmem, if_pos hmem]
      exact iff_of_true ⟨rfl, rfl⟩ fun _ => hright
    · rw [if_neg (fun hc => hright (hseen.1 hc).2), if_pos hmem]
      refine iff_of_false (fun hc => ?_) (fun hc => hright (hc hmem))
      exact absurd ((UInt64.add_right_inj _).1 hc.1) (by decide)
  · rw [if_neg (fun hc => hmem (hseen.1 hc).1), if_neg (fun hc => hmem (hseen.1 hc).1),
      if_neg hmem, if_neg hmem]
    exact iff_of_true ⟨rfl, rfl⟩ fun hc => absurd hc hmem

theorem duplicates_exact_iff_repeated :
    CountedExactly [5, 6] 5 ↔
      ((5 : UInt64) ∈ [5, 6] → (5 : UInt64).toNat + 64 < 2 ^ 64 ∧ Undisturbed [5, 6] 5) :=
  duplicates_exact_iff [5, 6] 5 (by simp) (by decide +kernel) (by decide +kernel)

/-- Number 0, then number 64, then 0 again: the window takes it, and counts it as late. -/
theorem repeated_number_counted_late :
    (0 : UInt64) ∈ [0, 64] ∧ 0 ≤ (trackedBy [0, 64]).highest ∧
      (trackedBy [0, 64]).highest ≤ 0 + kLateWindow ∧ ¬ CountedExactly [0, 64] 0 ∧
      (trackedBy [0, 64, 0]).duplicates = 0 ∧ (trackedBy [0, 64, 0]).late = 1 := by
  refine ⟨by simp, ?_, ?_, ?_, ?_, ?_⟩
  · decide +kernel
  · decide +kernel
  · decide +kernel
  · decide +kernel
  · decide +kernel

end RemotePlay.Net
