import RemotePlay.Lib.Runs

set_option autoImplicit false

/-! # Machines that can fault

A step of a program with undefined behaviour has no next state then. `faulting f` is the machine of
such steps: a fault is the end of its runs. `stepsOf` is what a run did up to there, and statements
about every state it reaches are statements about these steps and about the state it ends in.

Nothing here depends on what the machine is. -/

namespace RemotePlay

section Faults

variable {τ φ ε : Type*} (f : τ → ε → Except φ τ)

/-- A fault is the end of a run. -/
def faulting (s : Except φ τ) (e : ε) : Except φ τ := s.bind (fun t => f t e)

/-- The steps of a run up to its fault, each with the state it was taken in. -/
def stepsOf : τ → List ε → List (τ × ε)
  | _, [] => []
  | t, e :: es =>
      (t, e) ::
        match f t e with
        | .ok t' => stepsOf t' es
        | .error _ => []

@[simp] theorem faulting_ok (t : τ) (e : ε) : faulting f (.ok t) e = f t e := rfl

@[simp] theorem faulting_error (x : φ) (e : ε) : faulting f (.error x) e = .error x := rfl

theorem runFrom_faulting_error (x : φ) (es : List ε) : runFrom (faulting f) (.error x) es = .error x := by
  induction es with
  | nil => rfl
  | cons e es ih => exact ih

theorem stepsOf_cons_ok {t t' : τ} {e : ε} (h : f t e = .ok t') (es : List ε) :
    stepsOf f t (e :: es) = (t, e) :: stepsOf f t' es := by
  rw [stepsOf, h]

theorem stepsOf_cons_error {t : τ} {e : ε} {x : φ} (h : f t e = .error x) (es : List ε) :
    stepsOf f t (e :: es) = [(t, e)] := by
  rw [stepsOf, h]

theorem event_of_mem_stepsOf {t₀ : τ} {es : List ε} {p : τ × ε} (hp : p ∈ stepsOf f t₀ es) :
    p.2 ∈ es := by
  induction es generalizing t₀ with
  | nil => cases hp
  | cons e es ih =>
      rw [stepsOf] at hp
      rcases List.mem_cons.1 hp with rfl | hlater
      · exact List.mem_cons_self
      · refine List.mem_cons_of_mem _ ?_
        split at hlater
        · exact ih hlater
        · cases hlater

/-- A run that has not faulted yet goes on. -/
theorem stepsOf_append {t t' : τ} {es : List ε} (hrun : runFrom (faulting f) (.ok t) es = .ok t')
    (fs : List ε) : stepsOf f t (es ++ fs) = stepsOf f t es ++ stepsOf f t' fs := by
  induction es generalizing t with
  | nil =>
      obtain rfl := Except.ok.inj hrun
      rfl
  | cons e₀ es ih =>
      rw [runFrom_cons, faulting_ok] at hrun
      cases hnext : f t e₀ with
      | error x =>
          rw [hnext, runFrom_faulting_error] at hrun
          cases hrun
      | ok t₁ =>
          rw [hnext] at hrun
          rw [List.cons_append, stepsOf_cons_ok f hnext, stepsOf_cons_ok f hnext, ih hrun,
            List.cons_append]

/-- A run that has not faulted yet takes one more step. -/
theorem stepsOf_concat {t t' : τ} {es : List ε} (hrun : runFrom (faulting f) (.ok t) es = .ok t')
    (e : ε) : stepsOf f t (es ++ [e]) = stepsOf f t es ++ [(t', e)] := by
  rw [stepsOf_append f hrun, stepsOf]
  split <;> rfl

theorem mem_stepsOf_append {t : τ} {es : List ε} {p : τ × ε} (hp : p ∈ stepsOf f t es) (fs : List ε) :
    p ∈ stepsOf f t (es ++ fs) := by
  induction es generalizing t with
  | nil => cases hp
  | cons e es ih =>
      cases hnext : f t e with
      | error x =>
          rw [List.cons_append, stepsOf_cons_error f hnext]
          rwa [stepsOf_cons_error f hnext] at hp
      | ok t₁ =>
          rw [List.cons_append, stepsOf_cons_ok f hnext]
          rw [stepsOf_cons_ok f hnext] at hp
          rcases List.mem_cons.1 hp with rfl | hlater
          · exact List.mem_cons_self
          · exact List.mem_cons_of_mem _ (ih hlater)

/-- **The run rule.** What holds of a start and is carried on by every step that does not fault holds
    of every run that has not faulted. -/
theorem runFrom_faulting_induction {t₀ : τ} (P : List ε → τ → Prop) (h0 : P [] t₀)
    (hstep : ∀ es t e t', runFrom (faulting f) (.ok t₀) es = .ok t → P es t → f t e = .ok t' →
      P (es ++ [e]) t')
    (es : List ε) {t : τ} (hrun : runFrom (faulting f) (.ok t₀) es = .ok t) : P es t := by
  induction es using List.reverseRecOn generalizing t with
  | nil =>
      obtain rfl := Except.ok.inj hrun
      exact h0
  | append_singleton es e ih =>
      rw [runFrom_concat] at hrun
      cases hprev : runFrom (faulting f) (.ok t₀) es with
      | error x =>
          rw [hprev] at hrun
          cases hrun
      | ok t₁ =>
          rw [hprev, faulting_ok] at hrun
          exact hstep es t₁ e t hprev (ih hprev) hrun

section Invariant

variable (I : τ → Prop) (hstep : ∀ t e t', I t → f t e = .ok t' → I t')
include hstep

/-- **The invariant rule.** -/
theorem runFrom_faulting_invariant {t₀ t : τ} (h0 : I t₀) (es : List ε)
    (hrun : runFrom (faulting f) (.ok t₀) es = .ok t) : I t :=
  runFrom_faulting_induction f (fun _ t => I t) h0 (fun _ t e t' _ => hstep t e t') es hrun

/-- The invariant rule for the states the steps are taken in. -/
theorem stepsOf_invariant {t₀ : τ} (h0 : I t₀) (es : List ε) : ∀ p ∈ stepsOf f t₀ es, I p.1 := by
  induction es generalizing t₀ with
  | nil => simp [stepsOf]
  | cons e es ih =>
      intro p hp
      cases hnext : f t₀ e with
      | error x =>
          rw [stepsOf_cons_error f hnext, List.mem_singleton] at hp
          exact hp ▸ h0
      | ok t₁ =>
          rw [stepsOf_cons_ok f hnext, List.mem_cons] at hp
          rcases hp with rfl | hlater
          · exact h0
          · exact ih (hstep t₀ e t₁ h0 hnext) p hlater

/-- **The no-return rule.** Where a step leads into the invariant, all later steps are taken in it. -/
theorem stepsOf_pairwise (t₀ : τ) (es : List ε) :
    (stepsOf f t₀ es).Pairwise (fun p q => (∀ t, f p.1 p.2 = .ok t → I t) → I q.1) := by
  induction es generalizing t₀ with
  | nil => exact List.Pairwise.nil
  | cons e es ih =>
      cases hnext : f t₀ e with
      | error x =>
          rw [stepsOf_cons_error f hnext]
          exact List.pairwise_singleton _ _
      | ok t₁ =>
          rw [stepsOf_cons_ok f hnext]
          refine List.Pairwise.cons ?_ (ih t₁)
          exact fun q hq hleads => stepsOf_invariant f I hstep (hleads t₁ hnext) es q hq

end Invariant

/-- **The safety rule.** A run whose events can do no harm to the invariant does not fault, and keeps it. -/
theorem faulting_safe (I : τ → Prop) (C : ε → Prop)
    (hstep : ∀ t e, I t → C e → ∃ t', f t e = .ok t' ∧ I t') {t₀ : τ} (h0 : I t₀) (es : List ε)
    (hC : ∀ e ∈ es, C e) :
    (∃ t, runFrom (faulting f) (.ok t₀) es = .ok t ∧ I t) ∧ ∀ p ∈ stepsOf f t₀ es, I p.1 ∧ C p.2 := by
  induction es generalizing t₀ with
  | nil => exact ⟨⟨t₀, rfl, h0⟩, fun p hp => absurd hp List.not_mem_nil⟩
  | cons e es ih =>
      have he := hC e List.mem_cons_self
      obtain ⟨t₁, hnext, h1⟩ := hstep t₀ e h0 he
      obtain ⟨hrun, hsteps⟩ := ih h1 (fun d hd => hC d (List.mem_cons_of_mem _ hd))
      rw [runFrom_cons, faulting_ok, hnext, stepsOf_cons_ok f hnext]
      refine ⟨hrun, fun p hp => ?_⟩
      rcases List.mem_cons.1 hp with rfl | hlater
      · exact ⟨h0, he⟩
      · exact hsteps p hlater

/-- **The fault rule.** A run faults exactly at a step that does. -/
theorem exists_fault_iff (t₀ : τ) (es : List ε) (x : φ) :
    runFrom (faulting f) (.ok t₀) es = .error x ↔ ∃ p ∈ stepsOf f t₀ es, f p.1 p.2 = .error x := by
  induction es generalizing t₀ with
  | nil => simp [stepsOf]
  | cons e es ih =>
      rw [runFrom_cons, faulting_ok]
      cases hnext : f t₀ e with
      | error y =>
          rw [runFrom_faulting_error, stepsOf_cons_error f hnext]
          simp [hnext]
      | ok t₁ =>
          rw [ih t₁, stepsOf_cons_ok f hnext]
          simp [hnext]

/-! ## What a run that has not faulted has left behind -/

/-- The last write of a run that goes one step further. -/
theorem getLastD_filterMap_concat {α β : Type*} (write : α → Option β) (xs : List α) (x : α) (d : β) :
    ((xs ++ [x]).filterMap write).getLastD d = (write x).getD ((xs.filterMap write).getLastD d) := by
  rw [List.filterMap_append]
  cases hx : write x with
  | none => simp [hx]
  | some b => simp [hx]

/-- **The tally rule.** A counter that a step raises by one, resets or keeps shows the raises since the
    last reset. -/
theorem faulting_eq_tally (outcome : τ → ε → Option Bool) (count : τ → Nat)
    (hstep : ∀ t e t', f t e = .ok t' →
      count t' = match outcome t e with
        | none => count t
        | some true => count t + 1
        | some false => 0)
    {t₀ t : τ} (h0 : count t₀ = 0) (es : List ε)
    (hrun : runFrom (faulting f) (.ok t₀) es = .ok t) :
    count t =
      (((stepsOf f t₀ es).filterMap (fun p => outcome p.1 p.2)).reverse.takeWhile id).length := by
  refine runFrom_faulting_induction f
    (fun es t => count t =
      (((stepsOf f t₀ es).filterMap (fun p => outcome p.1 p.2)).reverse.takeWhile id).length)
    h0 ?_ es hrun
  intro es t e t' hrun ih hnext
  rw [stepsOf_concat f hrun, List.filterMap_append, List.reverse_append, hstep t e t' hnext]
  cases hout : outcome t e with
  | none => simpa [hout] using ih
  | some b =>
      cases b with
      | false => simp [hout]
      | true => simp [hout, ih]

/-- **The conservation rule.** A queue that a step fills at its end and empties at its front has passed
    on what came in, but for what it holds. -/
theorem faulting_conserved {β : Type*} (held : τ → List β) (comes goes : τ → ε → List β)
    (hstep : ∀ t e t', f t e = .ok t' → held t ++ comes t e = goes t e ++ held t')
    {t₀ t : τ} (es : List ε) (hrun : runFrom (faulting f) (.ok t₀) es = .ok t) :
    held t₀ ++ (stepsOf f t₀ es).flatMap (fun p => comes p.1 p.2) =
      (stepsOf f t₀ es).flatMap (fun p => goes p.1 p.2) ++ held t := by
  refine runFrom_faulting_induction f
    (fun es t => held t₀ ++ (stepsOf f t₀ es).flatMap (fun p => comes p.1 p.2) =
      (stepsOf f t₀ es).flatMap (fun p => goes p.1 p.2) ++ held t) ?_ ?_ es hrun
  · simp [stepsOf]
  · intro es t e t' hrun ih hnext
    rw [stepsOf_concat f hrun, List.flatMap_append, List.flatMap_append, List.flatMap_singleton,
      List.flatMap_singleton, ← List.append_assoc, ih, List.append_assoc, hstep t e t' hnext,
      List.append_assoc]

/-! ## Steps that keep their distance -/

/-- **The spacing rule.** A machine stores readings of a clock, and something happens in a step only if
    the clock is more than `d` ahead of what is stored; that reading, or a later one, is stored then. If
    the clock does not go back, it happens at times that are more than `d` apart. -/
theorem faulting_spaced (readings : τ → ε → List Nat) (last : τ → Nat) (fires : τ → ε → Option Nat)
    (d : Nat)
    (hlast : ∀ t e t', f t e = .ok t' → last t' = last t ∨ last t' ∈ readings t e)
    (hahead : ∀ t e n, fires t e = some n → (∀ r ∈ readings t e, last t ≤ r) → last t + d < n)
    (hstored : ∀ t e t' n, f t e = .ok t' → fires t e = some n →
      (readings t e).Pairwise (· ≤ ·) → n ≤ last t')
    (t₀ : τ) (es : List ε)
    (hclock : ((stepsOf f t₀ es).flatMap (fun p => readings p.1 p.2)).Pairwise (· ≤ ·))
    (hstart : ∀ r ∈ (stepsOf f t₀ es).flatMap (fun p => readings p.1 p.2), last t₀ ≤ r) :
    ((stepsOf f t₀ es).filterMap (fun p => fires p.1 p.2)).Pairwise (fun m n => m + d < n) ∧
      ∀ n ∈ (stepsOf f t₀ es).filterMap (fun p => fires p.1 p.2), last t₀ + d < n := by
  induction es generalizing t₀ with
  | nil => simp [stepsOf]
  | cons e es ih =>
      have hfirst : ∀ n, fires t₀ e = some n → last t₀ + d < n := by
        intro n hn
        refine hahead t₀ e n hn fun r hr => hstart r ?_
        rw [stepsOf]
        exact List.mem_flatMap_of_mem List.mem_cons_self hr
      cases hnext : f t₀ e with
      | error x =>
          rw [stepsOf_cons_error f hnext]
          cases hfires : fires t₀ e with
          | none => simp [hfires]
          | some n => simpa [hfires] using hfirst n hfires
      | ok t₁ =>
          rw [stepsOf_cons_ok f hnext] at hclock hstart ⊢
          rw [List.flatMap_cons, List.pairwise_append] at hclock
          obtain ⟨hnow, hlater, hbetween⟩ := hclock
          rw [List.flatMap_cons] at hstart
          have hgrows : last t₀ ≤ last t₁ := by
            rcases hlast t₀ e t₁ hnext with hkept | hread
            · exact Nat.le_of_eq hkept.symm
            · exact hstart _ (List.mem_append_left _ hread)
          obtain ⟨hspaced, hafter⟩ := ih t₁ hlater fun r hr => by
            rcases hlast t₀ e t₁ hnext with hkept | hread
            · exact hkept ▸ hstart r (List.mem_append_right _ hr)
            · exact hbetween _ hread r hr
          cases hfires : fires t₀ e with
          | none =>
              rw [List.filterMap_cons_none (by exact hfires)]
              refine ⟨hspaced, fun n hn => ?_⟩
              have := hafter n hn
              omega
          | some n =>
              have hstored := hstored t₀ e t₁ n hnext hfires hnow
              rw [List.filterMap_cons_some (by exact hfires)]
              refine ⟨List.Pairwise.cons (fun m hm => ?_) hspaced, fun m hm => ?_⟩
              · have := hafter m hm
                omega
              · rcases List.mem_cons.1 hm with rfl | hm
                · exact hfirst m hfires
                · have := hafter m hm
                  omega

end Faults

end RemotePlay
