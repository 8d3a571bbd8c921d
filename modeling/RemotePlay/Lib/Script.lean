import RemotePlay.Lib.Runs

set_option autoImplicit false

/-! # Scripts of calls

A script is a finite program over an interface: it makes a call, goes on with what the call returns,
and ends with a value. What the calls do is left to a handler, which threads a state through them, so
one script can be run against two implementations of its interface, and its calls can be counted and
listed. The calls of a run are a run of the machine whose events are the calls, which brings the rules
of `RemotePlay.Lib.Runs` to them.

Nothing here depends on what the interface is. -/

namespace RemotePlay

/-- A program that makes calls `op`, each of which returns a `Res op`. -/
inductive Script {Op : Type} (Res : Op → Type) (α : Type) where
  | done (a : α)
  | call (op : Op) (next : Res op → Script Res α)

namespace Script

variable {Op : Type} {Res : Op → Type} {α β σ : Type}

/-- One script after the other. -/
def bind : Script Res α → (α → Script Res β) → Script Res β
  | .done a, k => k a
  | .call op next, k => .call op (fun x => (next x).bind k)

instance : Monad (Script Res) where
  pure := .done
  bind := Script.bind

/-- A single call. -/
def perform (op : Op) : Script Res (Res op) := .call op .done

/-! ## Running a script -/

/-- The value and the state that a script ends with. -/
def run (h : (op : Op) → σ → Res op × σ) : Script Res α → σ → α × σ
  | .done a, s => (a, s)
  | .call op next, s => (next (h op s).1).run h (h op s).2

/-- The calls that a script makes. -/
def ops (h : (op : Op) → σ → Res op × σ) : Script Res α → σ → List Op
  | .done _, _ => []
  | .call op next, s => op :: (next (h op s).1).ops h (h op s).2

/-- A handler as a machine: what a call leaves behind. -/
def after (h : (op : Op) → σ → Res op × σ) (s : σ) (op : Op) : σ := (h op s).2

variable (h : (op : Op) → σ → Res op × σ)

@[simp] theorem run_pure (a : α) (s : σ) : (pure a : Script Res α).run h s = (a, s) := rfl

@[simp] theorem run_perform (op : Op) (s : σ) : (perform op).run h s = h op s := rfl

@[simp] theorem run_bind (m : Script Res α) (k : α → Script Res β) (s : σ) :
    (m >>= k).run h s = (k (m.run h s).1).run h (m.run h s).2 := by
  induction m generalizing s with
  | done a => rfl
  | call op next ih => exact ih (h op s).1 (h op s).2

/-- The state at the end is the state after the calls. -/
theorem run_snd (m : Script Res α) (s : σ) :
    (m.run h s).2 = runFrom (after h) s (m.ops h s) := by
  induction m generalizing s with
  | done a => rfl
  | call op next ih => exact ih (h op s).1 (h op s).2

/-! ## What a script may call -/

/-- Whatever its calls return, the script makes at most `n` of them, and only ones that `P` allows. -/
inductive Within (P : Op → Prop) : Script Res α → Nat → Prop where
  | done (a : α) (n : Nat) : Within P (.done a) n
  | call {op : Op} {next : Res op → Script Res α} {n : Nat} (allowed : P op)
      (later : ∀ x, Within P (next x) n) : Within P (.call op next) (n + 1)

section Within

variable {P : Op → Prop}

theorem within_perform {op : Op} (hop : P op) : (perform op : Script Res (Res op)).Within P 1 :=
  .call hop (fun x => .done x 0)

theorem Within.mono {m : Script Res α} {n n' : Nat} (hm : m.Within P n) (hle : n ≤ n') :
    m.Within P n' := by
  induction hm generalizing n' with
  | done a n => exact .done a n'
  | call allowed later ih =>
      obtain ⟨k, rfl⟩ := Nat.exists_eq_add_of_le' (Nat.lt_of_lt_of_le (Nat.succ_pos _) hle)
      exact .call allowed (fun x => ih x (Nat.le_of_succ_le_succ hle))

theorem Within.bind {m : Script Res α} {k : α → Script Res β} {n n' : Nat} (hm : m.Within P n)
    (hk : ∀ a, (k a).Within P n') : (m >>= k).Within P (n + n') := by
  induction hm with
  | done a n => exact (hk a).mono (Nat.le_add_left n' n)
  | call allowed later ih =>
      rw [Nat.add_right_comm]
      exact .call allowed ih

/-- **The calls of a run.** They are allowed ones, and no more than the bound. -/
theorem Within.ops {m : Script Res α} {n : Nat} (hm : m.Within P n) (s : σ) :
    (m.ops h s).length ≤ n ∧ ∀ op ∈ m.ops h s, P op := by
  induction hm generalizing s with
  | done a n => exact ⟨Nat.zero_le n, fun _ hop => nomatch hop⟩
  | @call op next n allowed later ih =>
      obtain ⟨hlength, hall⟩ := ih (h op s).1 (h op s).2
      exact ⟨Nat.succ_le_succ hlength, List.forall_mem_cons.2 ⟨allowed, hall⟩⟩

/-- **The two-handler rule.** Handlers that agree on the allowed calls, in the states that these calls
    lead to, run the script alike. -/
theorem Within.run_congr {h h' : (op : Op) → σ → Res op × σ} (I : σ → Prop)
    (hagree : ∀ op s, P op → I s → h op s = h' op s ∧ I (h op s).2) {m : Script Res α} {n : Nat}
    (hm : m.Within P n) {s : σ} (hs : I s) : m.run h s = m.run h' s := by
  induction hm generalizing s with
  | done a n => rfl
  | @call op next n allowed later ih =>
      obtain ⟨heq, hI⟩ := hagree op s allowed hs
      calc (next (h op s).1).run h (h op s).2
          = (next (h op s).1).run h' (h op s).2 := ih (h op s).1 hI
        _ = (next (h' op s).1).run h' (h' op s).2 := by rw [heq]

end Within

end Script

end RemotePlay
