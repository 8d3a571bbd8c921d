import Mathlib.Data.List.Induction
import Mathlib.Tactic.Common

set_option autoImplicit false

/-! # Runs of a deterministic machine

A machine is a function `step : σ → ε → σ`: whatever is chosen from outside (inputs, clock readings,
outcomes of failing calls) is part of the event, so a run is a list of events. `runFrom` is the
state after a run and `history` the list of its steps, each with the state it was taken in;
statements about "every state reached" and "an earlier step" are statements about these two.

Nothing here depends on what the machine is. -/

namespace RemotePlay

section Runs

variable {σ ε : Type*} (step : σ → ε → σ)

/-- The state after the run `es` from `s`. -/
def runFrom (s : σ) (es : List ε) : σ := es.foldl step s

/-- The steps of a run, each paired with the state it was taken in. -/
def history : σ → List ε → List (σ × ε)
  | _, [] => []
  | s, e :: es => (s, e) :: history (step s e) es

@[simp] theorem runFrom_nil (s : σ) : runFrom step s [] = s := rfl

@[simp] theorem runFrom_cons (s : σ) (e : ε) (es : List ε) :
    runFrom step s (e :: es) = runFrom step (step s e) es := rfl

theorem runFrom_append (s : σ) (es fs : List ε) :
    runFrom step s (es ++ fs) = runFrom step (runFrom step s es) fs := by
  simp [runFrom]

theorem runFrom_concat (s : σ) (es : List ε) (e : ε) :
    runFrom step s (es ++ [e]) = step (runFrom step s es) e := by
  simp [runFrom]

@[simp] theorem history_nil (s : σ) : history step s [] = [] := rfl

@[simp] theorem history_cons (s : σ) (e : ε) (es : List ε) :
    history step s (e :: es) = (s, e) :: history step (step s e) es := rfl

theorem history_append (s : σ) (es fs : List ε) :
    history step s (es ++ fs) = history step s es ++ history step (runFrom step s es) fs := by
  induction es generalizing s with
  | nil => rfl
  | cons e es ih => simp [ih]

theorem history_concat (s : σ) (es : List ε) (e : ε) :
    history step s (es ++ [e]) = history step s es ++ [(runFrom step s es, e)] := by
  rw [history_append]
  rfl

/-- The steps of a run are its events. -/
theorem history_map_snd (s : σ) (es : List ε) : (history step s es).map Prod.snd = es := by
  induction es generalizing s with
  | nil => rfl
  | cons e es ih => rw [history_cons, List.map_cons, ih]

/-- A step of a run is a split of its event list. -/
theorem mem_history_iff (s : σ) (es : List ε) (t : σ) (e : ε) :
    (t, e) ∈ history step s es ↔ ∃ pre post, es = pre ++ e :: post ∧ t = runFrom step s pre := by
  induction es generalizing s with
  | nil => simp
  | cons d es ih =>
      rw [history_cons, List.mem_cons, ih]
      constructor
      · rintro (h | ⟨pre, post, rfl, rfl⟩)
        · obtain ⟨rfl, rfl⟩ := Prod.mk.inj h
          exact ⟨[], es, rfl, rfl⟩
        · exact ⟨d :: pre, post, rfl, rfl⟩
      · rintro ⟨pre, post, hes, rfl⟩
        cases pre with
        | nil =>
            obtain ⟨rfl, rfl⟩ := List.cons.inj hes
            exact Or.inl rfl
        | cons d' pre =>
            obtain ⟨rfl, rfl⟩ := List.cons.inj hes
            exact Or.inr ⟨pre, post, rfl, rfl⟩

/-- **The invariant rule.** What every step of the run preserves, the run preserves; a step may use
    the condition `C` that the run is assumed to keep. -/
theorem runFrom_invariant (I : σ → Prop) (C : σ → ε → Prop)
    (hstep : ∀ s e, I s → C s e → I (step s e)) (s : σ) (es : List ε) (h0 : I s)
    (hC : ∀ p ∈ history step s es, C p.1 p.2) : I (runFrom step s es) := by
  induction es generalizing s with
  | nil => exact h0
  | cons e es ih =>
      simp only [history_cons, List.mem_cons, forall_eq_or_imp] at hC
      exact ih (step s e) (hstep s e h0 hC.1) hC.2

/-- The invariant rule for the states the steps are taken in. -/
theorem history_invariant (I : σ → Prop) (C : σ → ε → Prop)
    (hstep : ∀ s e, I s → C s e → I (step s e)) (s : σ) (es : List ε) (h0 : I s)
    (hC : ∀ p ∈ history step s es, C p.1 p.2) : ∀ p ∈ history step s es, I p.1 := by
  induction es generalizing s with
  | nil => simp
  | cons e es ih =>
      simp only [history_cons, List.mem_cons, forall_eq_or_imp] at hC ⊢
      exact ⟨h0, ih (step s e) (hstep s e h0 hC.1) hC.2⟩

section Preserved

variable (I : σ → Prop) (hstep : ∀ s e, I s → I (step s e))
include hstep

/-- The invariant rule without a condition on the run. -/
theorem runFrom_preserved (s : σ) (es : List ε) (h0 : I s) : I (runFrom step s es) :=
  runFrom_invariant step I (fun _ _ => True) (fun t e hI _ => hstep t e hI) s es h0
    (fun _ _ => trivial)

theorem history_preserved (s : σ) (es : List ε) (h0 : I s) : ∀ p ∈ history step s es, I p.1 :=
  history_invariant step I (fun _ _ => True) (fun t e hI _ => hstep t e hI) s es h0
    (fun _ _ => trivial)

/-- What every step preserves holds from the step that leads into it to the end of the run. -/
theorem runFrom_of_mem_history (s : σ) (es : List ε) {p : σ × ε} (hp : p ∈ history step s es)
    (hI : I (step p.1 p.2)) : I (runFrom step s es) := by
  obtain ⟨pre, post, rfl, hstate⟩ := (mem_history_iff step s es p.1 p.2).1 hp
  rw [hstate] at hI
  rw [runFrom_append, runFrom_cons]
  exact runFrom_preserved step I hstep _ post hI

/-- What every step preserves holds at every step after one that leads into it. -/
theorem history_pairwise (s : σ) (es : List ε) :
    (history step s es).Pairwise (fun p q => I (step p.1 p.2) → I q.1) := by
  induction es generalizing s with
  | nil => exact List.Pairwise.nil
  | cons e es ih =>
      refine List.Pairwise.cons ?_ (ih (step s e))
      intro q hq hI
      exact history_preserved step I hstep _ es hI q hq

end Preserved

/-- **The exact-condition rule.** If `Q` keeps the invariant and gives `P` at a step, and `P` at a
    step needs `Q`, then a run meets `P` throughout exactly when it meets `Q` throughout. -/
theorem forall_history_iff (I : σ → Prop) (P Q : σ → ε → Prop)
    (hgood : ∀ s e, I s → Q s e → P s e ∧ I (step s e)) (hbad : ∀ s e, I s → P s e → Q s e) (s : σ)
    (es : List ε) (h0 : I s) :
    (∀ p ∈ history step s es, P p.1 p.2) ↔ ∀ p ∈ history step s es, Q p.1 p.2 := by
  induction es generalizing s with
  | nil => simp
  | cons e es ih =>
      simp only [history_cons, List.mem_cons, forall_eq_or_imp]
      constructor
      · rintro ⟨hP, hrest⟩
        have hQ := hbad s e h0 hP
        exact ⟨hQ, (ih (step s e) (hgood s e h0 hQ).2).1 hrest⟩
      · rintro ⟨hQ, hrest⟩
        obtain ⟨hP, hI⟩ := hgood s e h0 hQ
        exact ⟨hP, (ih (step s e) hI).2 hrest⟩

/-- The exact-condition rule for an invariant that a step keeps exactly under a condition. -/
theorem invariant_history_iff (I : σ → Prop) (Q : σ → ε → Prop)
    (hstep : ∀ s e, I s → (I (step s e) ↔ Q s e)) (s : σ) (es : List ε) (h0 : I s) :
    (∀ p ∈ history step s es, I (step p.1 p.2)) ↔ ∀ p ∈ history step s es, Q p.1 p.2 := by
  refine forall_history_iff step I (fun s e => I (step s e)) Q ?_ ?_ s es h0
  · intro s e h hQ
    have hnext := (hstep s e h).2 hQ
    exact ⟨hnext, hnext⟩
  · intro s e h hnext
    exact (hstep s e h).1 hnext

/-- **The point-of-no-return rule.** If a step keeps the invariant `I` under `Q` and otherwise leads
    into `B`, which no step leaves, then a run either meets `Q` throughout and ends in `I`, or it
    does not and ends in `B`. -/
theorem runFrom_absorbed (I B : σ → Prop) (Q : σ → ε → Prop)
    (hgood : ∀ s e, I s → Q s e → I (step s e)) (hbad : ∀ s e, I s → ¬ Q s e → B (step s e))
    (hstay : ∀ s e, B s → B (step s e)) (s : σ) (es : List ε) (h0 : I s) :
    (∀ p ∈ history step s es, Q p.1 p.2) ∧ I (runFrom step s es) ∨
      (¬ ∀ p ∈ history step s es, Q p.1 p.2) ∧ B (runFrom step s es) := by
  induction es generalizing s with
  | nil => exact Or.inl ⟨by simp, h0⟩
  | cons e es ih =>
      simp only [history_cons, List.mem_cons, forall_eq_or_imp, runFrom_cons]
      by_cases hQ : Q s e
      · rcases ih (step s e) (hgood s e h0 hQ) with ⟨hall, hI⟩ | ⟨hnot, hB⟩
        · exact Or.inl ⟨⟨hQ, hall⟩, hI⟩
        · exact Or.inr ⟨fun h => hnot h.2, hB⟩
      · exact Or.inr ⟨fun h => hQ h.1, runFrom_preserved step B hstay _ es (hbad s e h0 hQ)⟩

/-- **The two-run rule.** A relation every step preserves holds after running the same events. -/
theorem runFrom_related (R : σ → σ → Prop) (hstep : ∀ s t e, R s t → R (step s e) (step t e))
    (s t : σ) (es : List ε) (h0 : R s t) : R (runFrom step s es) (runFrom step t es) := by
  induction es generalizing s t with
  | nil => exact h0
  | cons e es ih => exact ih (step s e) (step t e) (hstep s t e h0)

/-! ## What a run has left behind -/

variable {β : Type*}

/-- The latest outcome among the steps of a run since the last reset. -/
def lastOutcome (reset : σ → ε → Bool) (outcome : σ → ε → Option β) (steps : List (σ × ε)) :
    Option β :=
  steps.foldl (fun last p => if reset p.1 p.2 then none else (outcome p.1 p.2).or last) none

/-- **The last-write rule.** An observation that every step resets, overwrites or keeps is the run's
    latest outcome. -/
theorem eq_lastOutcome (reset : σ → ε → Bool) (outcome : σ → ε → Option β) (obs : σ → Option β)
    (hstep : ∀ s e, obs (step s e) = if reset s e then none else (outcome s e).or (obs s)) (s : σ)
    (h0 : obs s = none) (es : List ε) :
    obs (runFrom step s es) = lastOutcome reset outcome (history step s es) := by
  induction es using List.reverseRecOn with
  | nil => exact h0
  | append_singleton es e ih =>
      rw [runFrom_concat, hstep, ih, history_concat, lastOutcome, lastOutcome, List.foldl_append]
      rfl

/-- The last-write rule for an observation with a default that resets fall back to. -/
theorem eq_lastOutcome_getD (reset : σ → ε → Bool) (outcome : σ → ε → Option β) (obs : σ → β)
    (d : β) (hstep : ∀ s e, obs (step s e) = if reset s e then d else (outcome s e).getD (obs s))
    (s : σ) (h0 : obs s = d) (es : List ε) :
    obs (runFrom step s es) = (lastOutcome reset outcome (history step s es)).getD d := by
  induction es using List.reverseRecOn with
  | nil => exact h0
  | append_singleton es e ih =>
      rw [runFrom_concat, hstep, ih, history_concat, lastOutcome, lastOutcome, List.foldl_append,
        List.foldl_cons, List.foldl_nil]
      split
      · rfl
      · cases outcome (runFrom step s es) e with
        | none => rfl
        | some b => rfl

/-- **The log rule.** A log that steps only append to satisfies `P` throughout exactly when each
    step of the run appends entries that do. -/
theorem forall_mem_log_iff (log : σ → List β) (added : σ → ε → List β)
    (hstep : ∀ s e, log (step s e) = log s ++ added s e) (P : β → Prop) (s : σ) (h0 : log s = [])
    (es : List ε) :
    (∀ x ∈ log (runFrom step s es), P x) ↔
      ∀ p ∈ history step s es, ∀ x ∈ added p.1 p.2, P x := by
  induction es using List.reverseRecOn with
  | nil => simp [h0]
  | append_singleton es e ih =>
      simp only [runFrom_concat, hstep, history_concat, List.mem_append, List.mem_singleton,
        or_imp, forall_and, forall_eq, ih]

end Runs

/-! ## What a run puts out -/

section Outputs

variable {σ τ ε ο : Type*}

/-- What the steps of a run put out, one after the other. -/
def outputs (f : σ → ε → σ × ο) : σ → List ε → List ο
  | _, [] => []
  | s, e :: es => (f s e).2 :: outputs f (f s e).1 es

/-- **The simulation rule.** Two machines put out the same if a relation between their states makes
    them, and is kept by every step. -/
theorem outputs_eq_of_simulation (f : σ → ε → σ × ο) (g : τ → ε → τ × ο) (R : σ → τ → Prop)
    (hstep : ∀ s t e, R s t → (f s e).2 = (g t e).2 ∧ R (f s e).1 (g t e).1) {s : σ} {t : τ}
    (h0 : R s t) (es : List ε) : outputs f s es = outputs g t es := by
  induction es generalizing s t with
  | nil => rfl
  | cons e es ih =>
      obtain ⟨hout, hnext⟩ := hstep s t e h0
      rw [outputs, outputs, hout, ih hnext]

end Outputs

end RemotePlay
