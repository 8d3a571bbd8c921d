import RemotePlay.Lib.Runs

set_option autoImplicit false

/-! # Counters along a run

A controller that must not react to a single event counts events in a row and waits after each
reaction. `exists_streak` reads the events off a counter that grows by one at a time and is
otherwise reset; `le_countdown_add` bounds how fast a countdown can expire.

Nothing here depends on what is counted. -/

namespace RemotePlay

section Streaks

variable {σ ε : Type*} (step : σ → ε → σ)

/-- **The streak rule.** A counter that a step either resets or, if the step satisfies `B`, raises
    by at most one: as many steps as it shows, the last ones of the run, satisfy `B`. -/
theorem exists_streak (count : σ → Nat) (B : σ → ε → Prop)
    (hstep : ∀ s e, count (step s e) = 0 ∨ (B s e ∧ count (step s e) ≤ count s + 1)) (s : σ)
    (h0 : count s = 0) (es : List ε) (n : Nat) (hn : n ≤ count (runFrom step s es)) :
    ∃ before streak, es = before ++ streak ∧ streak.length = n ∧
      ∀ p ∈ history step (runFrom step s before) streak, B p.1 p.2 := by
  induction es using List.reverseRecOn generalizing n with
  | nil =>
      rw [runFrom_nil, h0] at hn
      exact ⟨[], [], rfl, (Nat.le_zero.1 hn).symm, by simp⟩
  | append_singleton es e ih =>
      cases n with
      | zero => exact ⟨es ++ [e], [], (List.append_nil _).symm, rfl, by simp⟩
      | succ n =>
          rw [runFrom_concat] at hn
          rcases hstep (runFrom step s es) e with hreset | ⟨hB, hcount⟩
          · omega
          · obtain ⟨before, streak, rfl, hlen, hall⟩ := ih n (by omega)
            refine ⟨before, streak ++ [e], List.append_assoc .., ?_, ?_⟩
            · rw [List.length_append, hlen, List.length_singleton]
            · rw [history_concat]
              intro p hp
              rcases List.mem_append.1 hp with hin | hlast
              · exact hall p hin
              · rw [List.mem_singleton.1 hlast, ← runFrom_append]
                exact hB

/-- **The countdown rule.** A countdown that only ticks lower, and by at most one each, has not
    expired before as many ticks as it stood at. -/
theorem le_countdown_add (left : σ → Nat) (tick : ε → Bool) (c : Nat)
    (hstep : ∀ s e, c ≤ left (step s e) ∨ left s ≤ left (step s e) + (if tick e then 1 else 0))
    (s : σ) (h0 : c ≤ left s) (es : List ε) : c ≤ left (runFrom step s es) + es.countP tick := by
  induction es using List.reverseRecOn with
  | nil => simpa using h0
  | append_singleton es e ih =>
      rw [runFrom_concat, List.countP_append, List.countP_singleton]
      have hlower := hstep (runFrom step s es) e
      omega

/-- A counter that only ticks raise, and by at most one each, shows no more than the ticks. -/
theorem count_le_countP (count : σ → Nat) (tick : ε → Bool)
    (hstep : ∀ s e, count (step s e) ≤ count s + (if tick e then 1 else 0)) (s : σ)
    (h0 : count s = 0) (es : List ε) : count (runFrom step s es) ≤ es.countP tick := by
  induction es using List.reverseRecOn with
  | nil => simp [h0]
  | append_singleton es e ih =>
      rw [runFrom_concat, List.countP_append, List.countP_singleton]
      have hraise := hstep (runFrom step s es) e
      omega

/-! ## Closing a gap -/

section Gap

variable (I : σ → Prop) (C : ε → Prop) (gap wait : σ → Nat) (d : Nat)
  (hkeep : ∀ s e, I s → C e → I (step s e))
  (hdue : ∀ s e, I s → C e → wait s ≤ 1 → gap (step s e) ≤ gap s - d)
  (hwait : ∀ s e, I s → C e → 1 < wait s →
    gap (step s e) ≤ gap s - d ∨ (gap (step s e) ≤ gap s ∧ wait (step s e) < wait s))
include hkeep hdue hwait

omit hkeep in
theorem gap_step_le (s : σ) (e : ε) (h : I s) (hC : C e) : gap (step s e) ≤ gap s := by
  by_cases hone : wait s ≤ 1
  · exact Nat.le_trans (hdue s e h hC hone) (Nat.sub_le _ _)
  · rcases hwait s e h hC (by omega) with hless | ⟨hle, -⟩
    · exact Nat.le_trans hless (Nat.sub_le _ _)
    · exact hle

theorem gap_run_le (s : σ) (h : I s) (es : List ε) (hC : ∀ e ∈ es, C e) :
    I (runFrom step s es) ∧ gap (runFrom step s es) ≤ gap s := by
  induction es generalizing s with
  | nil => exact ⟨h, Nat.le_refl _⟩
  | cons e es ih =>
      have he := hC e List.mem_cons_self
      obtain ⟨hI, hle⟩ := ih (step s e) (hkeep s e h he) fun d hd => hC d (List.mem_cons_of_mem _ hd)
      exact ⟨hI, Nat.le_trans hle (gap_step_le step I C gap wait d hdue hwait s e h he)⟩

/-- As many events as the wait is long close the gap by `d`. -/
theorem gap_after_wait (n : Nat) (s : σ) (h : I s) (hn : wait s ≤ n + 1) (es : List ε)
    (hlen : n + 1 ≤ es.length) (hC : ∀ e ∈ es, C e) : gap (runFrom step s es) ≤ gap s - d := by
  induction n generalizing s es with
  | zero =>
      obtain ⟨e, es, rfl⟩ := List.exists_cons_of_length_pos (show 0 < es.length by omega)
      have he := hC e List.mem_cons_self
      have hrest := gap_run_le step I C gap wait d hkeep hdue hwait (step s e) (hkeep s e h he) es
        fun d hd => hC d (List.mem_cons_of_mem _ hd)
      exact Nat.le_trans hrest.2 (hdue s e h he hn)
  | succ n ih =>
      obtain ⟨e, es, rfl⟩ := List.exists_cons_of_length_pos (show 0 < es.length by omega)
      have he := hC e List.mem_cons_self
      have hrest := fun d hd => hC d (List.mem_cons_of_mem e hd)
      have hafter := gap_run_le step I C gap wait d hkeep hdue hwait (step s e) (hkeep s e h he) es hrest
      rw [List.length_cons] at hlen
      by_cases hone : wait s ≤ 1
      · exact Nat.le_trans hafter.2 (hdue s e h he hone)
      · rcases hwait s e h he (by omega) with hless | ⟨hle, hwaited⟩
        · exact Nat.le_trans hafter.2 hless
        · have hsooner := ih (step s e) (hkeep s e h he) (by omega) es (by omega) hrest
          exact Nat.le_trans hsooner (Nat.sub_le_sub_right hle d)

/-- **The settling rule.** A gap that an event closes by `d` when nothing has to be waited for, and that
    no event widens, is closed by `k * d` after `k` of the longest waits. -/
theorem gap_settles (m : Nat) (hpos : 0 < m) (hlong : ∀ s, I s → wait s ≤ m) (k : Nat) (s : σ)
    (h : I s) (es : List ε) (hlen : k * m ≤ es.length) (hC : ∀ e ∈ es, C e) :
    gap (runFrom step s es) ≤ gap s - k * d := by
  induction k generalizing s es with
  | zero =>
      rw [Nat.zero_mul, Nat.sub_zero]
      exact (gap_run_le step I C gap wait d hkeep hdue hwait s h es hC).2
  | succ k ih =>
      rw [Nat.succ_mul] at hlen
      have htake : ∀ e ∈ es.take m, C e := fun e he => hC e (List.mem_of_mem_take he)
      have hdrop : ∀ e ∈ es.drop m, C e := fun e he => hC e (List.mem_of_mem_drop he)
      have hlength : (es.take m).length = m := by
        rw [List.length_take]
        omega
      have hfirst := gap_after_wait step I C gap wait d hkeep hdue hwait (m - 1) s h
        (by have := hlong s h; omega) (es.take m) (by omega) htake
      have hI := (gap_run_le step I C gap wait d hkeep hdue hwait s h (es.take m) htake).1
      have hrest := ih (runFrom step s (es.take m)) hI (es.drop m)
        (by rw [List.length_drop]; omega) hdrop
      rw [← runFrom_append, List.take_append_drop] at hrest
      rw [Nat.succ_mul]
      omega

end Gap

end Streaks

end RemotePlay
