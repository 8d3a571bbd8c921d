import RemotePlay.Input.InjectorRuns
import RemotePlay.Input.SenderRuns

set_option autoImplicit false

/-! # Input datagrams of one player at the host

The permissions of a player do not change while the player's datagrams arrive, so what each of them
becomes, a record for `SendInput` or a report for the pad, does not depend on those before it. -/

namespace RemotePlay.Input

/-- The calls for the input datagrams of a player, each with what the platform returns. -/
def applies (playerIndex : UInt8) (arrivals : List (Bytes × PlatformResults)) : List InjectorOp :=
  arrivals.map (fun a => .applyInput playerIndex a.1 a.2)

namespace InputInjector

/-- What calls hand to `SendInput`, one after the other. -/
def records (j : InputInjector) (ops : List InjectorOp) : List SentInput :=
  (outputs call j ops).flatten

section Applies

variable {j : InputInjector} {p : UInt8}

theorem sent_applyInput (data : Bytes) (io : PlatformResults) :
    (j.applyInput p data io).2.2 = (j.injects p data).toList := by
  obtain ⟨hsome, hnone⟩ := j.applyInput_injects p data io
  cases hinjects : j.injects p data with
  | none => rw [(hnone hinjects).1, Option.toList_none]
  | some input =>
      rw [hsome input hinjects, sendInput]
      split <;> rfl

/-- The permissions stay, so what each datagram becomes does not depend on those before it. -/
theorem records_applies (arrivals : List (Bytes × PlatformResults)) :
    j.records (applies p arrivals) = (arrivals.map Prod.fst).filterMap (j.injects p) := by
  induction arrivals generalizing j with
  | nil => rfl
  | cons a arrivals ih =>
      have hinjects : (j.applyInput p a.1 a.2).1.injects p = j.injects p := by
        funext data
        rw [injects, injects, permittedEvent, permittedEvent, enforced_applyInput]
      have hfirst : j.records (applies p (a :: arrivals)) =
          (j.applyInput p a.1 a.2).2.2 ++
            (j.applyInput p a.1 a.2).1.records (applies p arrivals) := rfl
      rw [hfirst, ih, hinjects, sent_applyInput, List.map_cons, List.filterMap_cons]
      cases j.injects p a.1 <;> rfl

/-- A keyboard event is let through by the keyboard permission, any other by the mouse's. -/
theorem injects_eq (data : Bytes) :
    j.injects p data = (eventOf data).bind (fun e =>
      if (if keyboardEvent e then (j.enforced p).keyboard else (j.enforced p).mouse) then e.input
      else none) := by
  unfold injects permittedEvent eventOf
  cases unpackInput data with
  | none => rfl
  | some payload =>
      cases payload with
      | controller state => rfl
      | event e =>
          show (if allows (j.enforced p) (.event e) then some e else none).bind InputEvent.input =
            if allows (j.enforced p) (.event e) then e.input else none
          split <;> rfl

end Applies

end InputInjector

end RemotePlay.Input
