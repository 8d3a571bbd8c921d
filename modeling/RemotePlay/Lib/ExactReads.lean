import Mathlib.Data.List.Basic
import Mathlib.Tactic.Common

set_option autoImplicit false

/-! # Reads of exact sizes from a segmented stream

A consumer asks a stream for a number of elements at a time and is called back once they are all
there. The stream arrives in chunks whose boundaries mean nothing: a chunk may complete several
reads, or a fraction of one. `drain` completes reads for as long as the elements received suffice,
and `feedAll` does so chunk by chunk; what comes out depends on the concatenation of the chunks only
(`drains_feedAll`).

`Drains` is the same as a relation, for reasoning along the reads that are made. -/

namespace RemotePlay

/-- A consumer: the size of its outstanding read, if there is one, and its completion handler. -/
structure ExactReader (σ α β : Type*) where
  need : σ → Option Nat
  next : σ → List α → σ × List β
  need_pos : ∀ s n, need s = some n → 0 < n

namespace ExactReader

variable {σ α β : Type*} (R : ExactReader σ α β)

/-- Complete reads from `buf` while it suffices: the state, what is left of `buf`, and what the
    handlers put out. Each read takes an element, so `buf.length` is enough fuel. -/
def drain : (fuel : Nat) → σ → List α → (σ × List α) × List β
  | 0, s, buf => ((s, buf), [])
  | fuel + 1, s, buf =>
      match R.need s with
      | none => ((s, buf), [])
      | some n =>
          if n ≤ buf.length then
            let (s', out) := R.next s (buf.take n)
            let (rest, more) := drain fuel s' (buf.drop n)
            (rest, out ++ more)
          else ((s, buf), [])

/-- A chunk arrives behind what was left over. -/
def feed (s : σ × List α) (chunk : List α) : (σ × List α) × List β :=
  R.drain (s.2 ++ chunk).length s.1 (s.2 ++ chunk)

/-- Chunks arrive one after the other. -/
def feedAll : σ × List α → List (List α) → (σ × List α) × List β
  | s, [] => (s, [])
  | s, chunk :: chunks =>
      let (s', out) := R.feed s chunk
      let (rest, more) := feedAll s' chunks
      (rest, out ++ more)

/-! ## The reads that are made -/

/-- From `s` with `buf` received, reads complete until none can, leaving `s'` and `rest`. -/
inductive Drains : σ → List α → σ → List α → List β → Prop where
  | stop (s : σ) (buf : List α) (h : ∀ n, R.need s = some n → buf.length < n) :
      Drains s buf s buf []
  | read (s : σ) (bs buf : List α) (s' : σ) (rest : List α) (out : List β)
      (h : R.need s = some bs.length) (hrest : Drains (R.next s bs).1 buf s' rest out) :
      Drains s (bs ++ buf) s' rest ((R.next s bs).2 ++ out)

variable {R}

/-- No read can complete. -/
def Waiting (R : ExactReader σ α β) (s : σ × List α) : Prop :=
  ∀ n, R.need s.1 = some n → s.2.length < n

/-- The reads end where none is possible. -/
theorem Drains.waiting {s s' : σ} {buf rest : List α} {out : List β}
    (h : R.Drains s buf s' rest out) : R.Waiting (s', rest) := by
  induction h with
  | stop s buf hstop => exact hstop
  | read s bs buf s' rest out _ _ ih => exact ih

/-- The reads depend on nothing but what was received. -/
theorem Drains.unique {s s₁ s₂ : σ} {buf rest₁ rest₂ : List α} {out₁ out₂ : List β}
    (h₁ : R.Drains s buf s₁ rest₁ out₁) (h₂ : R.Drains s buf s₂ rest₂ out₂) :
    s₁ = s₂ ∧ rest₁ = rest₂ ∧ out₁ = out₂ := by
  induction h₁ generalizing s₂ rest₂ out₂ with
  | stop s buf hstop =>
      cases h₂ with
      | stop => exact ⟨rfl, rfl, rfl⟩
      | read _ bs buf _ _ _ hneed _ =>
          have hlt := hstop _ hneed
          rw [List.length_append] at hlt
          omega
  | read s bs buf s' rest out hneed _ ih =>
      generalize hall : bs ++ buf = all at h₂
      cases h₂ with
      | stop _ _ hstop =>
          have hlt := hstop _ hneed
          rw [← hall, List.length_append] at hlt
          omega
      | read _ bs₂ buf₂ _ _ out₂ hneed₂ hrest₂ =>
          have hlen : bs.length = bs₂.length := Option.some.inj (hneed.symm.trans hneed₂)
          obtain ⟨rfl, rfl⟩ := List.append_inj hall hlen
          obtain ⟨rfl, rfl, rfl⟩ := ih hrest₂
          exact ⟨rfl, rfl, rfl⟩

/-- More may arrive after the reads so far. -/
theorem Drains.append {s s' s'' : σ} {buf rest more rest' : List α} {out out' : List β}
    (h : R.Drains s buf s' rest out) (h' : R.Drains s' (rest ++ more) s'' rest' out') :
    R.Drains s (buf ++ more) s'' rest' (out ++ out') := by
  induction h with
  | stop s buf hstop => exact h'
  | read s bs buf s' rest out hneed _ ih =>
      rw [List.append_assoc, List.append_assoc]
      exact .read s bs (buf ++ more) s'' rest' (out ++ out') hneed (ih h')

/-- `drain` makes exactly these reads. -/
theorem drains_drain (fuel : Nat) (s : σ) (buf : List α) (h : buf.length ≤ fuel) :
    R.Drains s buf (R.drain fuel s buf).1.1 (R.drain fuel s buf).1.2 (R.drain fuel s buf).2 := by
  induction fuel generalizing s buf with
  | zero =>
      refine .stop s buf ?_
      intro n hn
      have hpos := R.need_pos s n hn
      omega
  | succ fuel ih =>
      rw [drain]
      split
      · next hnone => exact .stop s buf (fun n hn => absurd (hnone.symm.trans hn) (by simp))
      · next n hn =>
          split
          · next hle =>
              have hpos := R.need_pos s n hn
              have hlen : (buf.take n).length = n := by
                rw [List.length_take]
                omega
              have hread := Drains.read s (buf.take n) (buf.drop n) _ _ _ (by rw [hlen, hn])
                (ih (R.next s (buf.take n)).1 (buf.drop n) (by rw [List.length_drop]; omega))
              rwa [List.take_append_drop] at hread
          · next hlt =>
              refine .stop s buf ?_
              intro m hm
              obtain rfl := Option.some.inj (hn.symm.trans hm)
              omega

theorem drains_feed (s : σ × List α) (chunk : List α) :
    R.Drains s.1 (s.2 ++ chunk) (R.feed s chunk).1.1 (R.feed s chunk).1.2 (R.feed s chunk).2 :=
  drains_drain _ _ _ (Nat.le_refl _)

/-- **Segmentation does not matter**: reading chunk by chunk makes the reads of the whole. -/
theorem drains_feedAll (s : σ × List α) (hs : R.Waiting s) (chunks : List (List α)) :
    R.Drains s.1 (s.2 ++ chunks.flatten) (R.feedAll s chunks).1.1 (R.feedAll s chunks).1.2
      (R.feedAll s chunks).2 := by
  induction chunks generalizing s with
  | nil =>
      rw [List.flatten_nil, List.append_nil]
      exact .stop s.1 s.2 hs
  | cons chunk chunks ih =>
      have hfeed := drains_feed (R := R) s chunk
      rw [List.flatten_cons, ← List.append_assoc]
      exact hfeed.append (ih (R.feed s chunk).1 hfeed.waiting)

end ExactReader

end RemotePlay
