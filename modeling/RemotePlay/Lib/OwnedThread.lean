import RemotePlay.Lib.Runs

set_option autoImplicit false

/-! # A flag and a thread

A component that works in a thread of its own has a flag that the thread looks at and a thread object,
which is joinable from the start of a thread until it is joined, also when the thread has ended. A
thread object must not be assigned to, or destroyed, while it is joinable.

`ThreadOwner` is such a component as far as its callers see the two; `Reaps` is what they expect of a
call. The flag is the only thing that `stop` looks at, so it finds the thread if the flag has not been
cleared behind its back (`Settled`). -/

namespace RemotePlay

structure OwnedThread where
  running : Bool := false
  joinable : Bool := false
deriving DecidableEq, Repr

inductive CallEnd where
  | returned (ok : Bool)
  /-- The process ends, or the call goes on for ever. -/
  | lost
deriving DecidableEq, Repr

namespace OwnedThread

/-- The flag is set and a thread is assigned, which ends the process if there is one. -/
def launch (t : OwnedThread) : OwnedThread × CallEnd :=
  if t.joinable then (t, .lost) else ({ running := true, joinable := true }, .returned true)

/-- The flag is cleared, and the thread joined if the flag was set. -/
def stop (t : OwnedThread) : OwnedThread :=
  if !t.running then t else { running := false, joinable := false }

/-- The flag is cleared, and the thread left alone. -/
def ended (t : OwnedThread) : OwnedThread := { t with running := false }

/-- There is a thread exactly if the flag is set. -/
def Settled (t : OwnedThread) : Prop := t.joinable = t.running

theorem settled_cases {t : OwnedThread} (h : t.Settled) :
    t = {} ∨ t = { running := true, joinable := true } := by
  obtain ⟨running, joinable⟩ := t
  obtain rfl : joinable = running := h
  cases joinable with
  | false => exact .inl rfl
  | true => exact .inr rfl

theorem settled_stop {t : OwnedThread} (h : t.Settled) : t.stop = {} := by
  rcases settled_cases h with rfl | rfl
  · rfl
  · rfl

end OwnedThread

/-! ## Callers -/

/-- A component with starts of the kind `ι`. -/
structure ThreadOwner (ι : Type*) where
  start : OwnedThread → ι → OwnedThread × CallEnd
  /-- What the start initialises is there. -/
  succeeds : ι → Bool

/-- What a component goes through; its thread may end for a reason in `κ`. -/
inductive OwnerEvent (ι κ : Type*) where
  | start (i : ι)
  | stop
  | ended (why : κ)
deriving DecidableEq, Repr

namespace ThreadOwner

variable {ι κ : Type*} (o : ThreadOwner ι)

/-- There is nothing after a call that does not return. -/
def step : Option OwnedThread → OwnerEvent ι κ → Option OwnedThread
  | none, _ => none
  | some t, .start i =>
      match o.start t i with
      | (t', .returned _) => some t'
      | (_, .lost) => none
  | some t, .stop => some t.stop
  | some t, .ended _ => some t.ended

/-- After a `stop` there is no thread left; a start of a running component leaves its thread alone; and
    a start that fails returns `false`, without a thread. -/
def Reaps : Option OwnedThread → OwnerEvent ι κ → Prop
  | some t, .start i =>
      (t.running = true → (o.start t i).1 = t) ∧
        (t.running = false → o.succeeds i = false →
          (o.start t i).2 = .returned false ∧ (o.start t i).1.joinable = false)
  | some t, .stop => t.stop.joinable = false
  | _, _ => True

/-- **Every call reaps**, in a run that the destructor ends. -/
def AlwaysReaps (es : List (OwnerEvent ι κ)) : Prop :=
  ∀ p ∈ history o.step (some {}) (es ++ [.stop]), o.Reaps p.1 p.2

theorem reaps_stop {t : OwnedThread} (h : t.Settled) : o.Reaps (some t) (.stop : OwnerEvent ι κ) := by
  show t.stop.joinable = false
  rw [OwnedThread.settled_stop h]

/-- **The rule for a thread that ends with its flag only.** If a settled component stays settled in a
    start exactly when `Q` holds of it, every call reaps in the runs whose starts all have `Q`. -/
theorem alwaysReaps_iff (Q : OwnedThread → ι → Prop)
    (hgood : ∀ t i, t.Settled → Q t i → o.Reaps (some t) (.start i : OwnerEvent ι Empty) ∧
      ∃ t', o.step (some t) (.start i : OwnerEvent ι Empty) = some t' ∧ t'.Settled)
    (hbad : ∀ t i, t.Settled → o.Reaps (some t) (.start i : OwnerEvent ι Empty) → Q t i)
    (es : List (OwnerEvent ι Empty)) :
    o.AlwaysReaps es ↔
      ∀ p ∈ history o.step (some {}) es, ∀ t i, p.1 = some t → p.2 = .start i → Q t i := by
  have hrun := forall_history_iff o.step (fun s => ∃ t, s = some t ∧ t.Settled) o.Reaps
    (fun s e => ∀ t i, s = some t → e = .start i → Q t i)
    (by
      rintro s e ⟨t, rfl, h⟩ hQ
      cases e with
      | start i => exact hgood t i h (hQ t i rfl rfl)
      | stop => exact ⟨o.reaps_stop h, _, rfl, by rw [OwnedThread.settled_stop h]; rfl⟩
      | ended why => exact nomatch why)
    (by
      rintro s e ⟨t, rfl, h⟩ hreaps t' i hs rfl
      obtain rfl := Option.some.inj hs
      exact hbad t i h hreaps)
    (some {}) (es ++ [.stop]) ⟨{}, rfl, rfl⟩
  rw [AlwaysReaps, hrun, history_concat]
  constructor
  · intro hall p hp
    exact hall p (List.mem_append_left _ hp)
  · intro hall p hp
    rcases List.mem_append.1 hp with hp | hp
    · exact hall p hp
    · obtain rfl := List.mem_singleton.1 hp
      exact fun _ _ _ hstart => nomatch hstart

end ThreadOwner

end RemotePlay
