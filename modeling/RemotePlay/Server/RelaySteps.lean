import Mathlib.Logic.Relation
import RemotePlay.Server.TcpRelay

set_option autoImplicit false

/-! # What a step of the TCP relay changes

A coroutine changes its own connection, the one it forwards to and entries of `PAIRS`, and it takes
tokens out of the table. `step_changes` says so once for all events; what these changes leave alone,
every step leaves alone. A seat is taken at one `await` only, and before anything else. -/

namespace RemotePlay.Server

theorem conns_modifyConn_self (t : TcpRelay) (r : RelayId) (f : RelayConn → RelayConn) :
    (t.modifyConn r f).conns r = f (t.conns r) := Function.update_self ..

theorem conns_modifyConn_of_ne (t : TcpRelay) {r x : RelayId} (h : x ≠ r)
    (f : RelayConn → RelayConn) : (t.modifyConn r f).conns x = t.conns x :=
  Function.update_of_ne h ..

theorem RelayConn.seat_write (c : RelayConn) (x : RelayOut) : (c.write x).seat = c.seat := by
  unfold RelayConn.write
  split
  · rfl
  · rfl

theorem RelayConn.phase_write (c : RelayConn) (x : RelayOut) : (c.write x).phase = c.phase := by
  unfold RelayConn.write
  split
  · rfl
  · rfl

/-- The connection that a coroutine forwards to. -/
def RelayPhase.target : RelayPhase → Option RelayId
  | .reading other => some other
  | .forwarding other => some other
  | _ => none

/-- A change that the coroutine of `r` makes to anything but its seat. -/
inductive RelayChange (r : RelayId) (target : Option RelayId) (t : TcpRelay) : TcpRelay → Prop where
  | conn (x : RelayId) (hx : x = r ∨ target = some x) (f : RelayConn → RelayConn)
      (hseat : ∀ c, (f c).seat = c.seat) : RelayChange r target t (t.modifyConn x f)
  | pair (p : PairRef) (f : Pair → Pair) : RelayChange r target t (t.modifyPair p f)
  | pop (token : String) : RelayChange r target t { t with table := t.table.pop token }

/-- Any number of such changes. -/
abbrev RelayChanges (r : RelayId) (target : Option RelayId) : TcpRelay → TcpRelay → Prop :=
  Relation.ReflTransGen (RelayChange r target)

namespace RelayChanges

variable {r : RelayId} {target : Option RelayId} (t : TcpRelay)

/-! ## The operations -/

theorem own (f : RelayConn → RelayConn) (hseat : ∀ c, (f c).seat = c.seat) :
    RelayChanges r target t (t.modifyConn r f) := .single (.conn r (Or.inl rfl) f hseat)

theorem goto (phase : RelayPhase) : RelayChanges r target t (t.goto r phase) :=
  own t _ fun _ => rfl

theorem write (x : RelayOut) : RelayChanges r target t (t.write r x) :=
  own t _ fun c => c.seat_write x

theorem finish : RelayChanges r target t (t.finish r) :=
  (own t (fun c => { c with closed := true }) fun _ => rfl).trans (goto ..)

theorem unpipe {other : RelayId} (h : target = some other) :
    RelayChanges r target t (t.unpipe r other) :=
  .head (.conn other (Or.inr h) (fun c => { c with closed := true }) fun _ => rfl) (finish _)

theorem reject (reason : String) : RelayChanges r target t (t.reject r reason) :=
  (write t (.rejected reason)).trans (goto ..)

theorem onRelay (token : Option String) (role : RoleField) :
    RelayChanges r target t (t.onRelay r token role) := by
  have hread : RelayChanges r target t
      (t.modifyConn r fun c => { c with token := token, role := role }) := own t _ fun _ => rfl
  unfold TcpRelay.onRelay
  dsimp only
  split
  · exact hread.trans ((write _ .accepted).trans (goto ..))
  · exact hread.trans (reject ..)

theorem setReady (p : PairRef) : RelayChanges r target t (t.setReady p) := by
  unfold TcpRelay.setReady
  split
  · exact .single (.pair p _)
  · exact .refl

theorem vacate (token : String) (f : Pair → Pair) :
    RelayChanges r target t (t.vacate token f) := by
  unfold TcpRelay.vacate
  split
  · exact .refl
  · next p _ =>
      dsimp only
      split
      · exact (Relation.ReflTransGen.single (.pair p f)).tail (.pop token)
      · exact .single (.pair p f)

theorem cleanup (token : Option String) (role : RoleField) :
    RelayChanges r target t (t.cleanup token role) := by
  unfold TcpRelay.cleanup
  split
  · exact .refl
  split
  · exact .refl
  split
  · exact vacate ..
  · exact vacate ..
  · exact vacate ..
  · exact .refl
  · exact .refl

theorem pairUp (p : PairRef) (side : Side) : RelayChanges r target t (t.pairUp r p side) := by
  unfold TcpRelay.pairUp
  split
  · exact finish t
  · exact (write t .paired).trans (goto ..)

/-- What follows taking the seat. -/
theorem join (p : PairRef) (side : Side) :
    RelayChanges r target (t.sit r p side) (t.join r p side) := by
  unfold TcpRelay.join
  dsimp only
  split
  · split
    · exact (setReady _ p).trans (pairUp ..)
    · exact setReady _ p
  · exact finish _

theorem forward {other : RelayId} (h : target = some other) (n : Nat) :
    RelayChanges r target t (t.forward r other n) := by
  unfold TcpRelay.forward
  dsimp only
  split
  · split
    · exact unpipe t h
    · exact .refl
  · split
    · exact .head (.conn other (Or.inr h) _ fun c => c.seat_write _)
        ((own _ (fun c => { c with readPos := c.readPos + n }) fun _ => rfl).trans (goto ..))
    · exact .refl

/-! ## What they leave alone -/

variable {t} {t' : TcpRelay}

theorem frame {α : Type} (f : TcpRelay → α) (h : RelayChanges r target t t')
    (hconn : ∀ u x g, (x = r ∨ target = some x) → (∀ c, (g c).seat = c.seat) →
      f (TcpRelay.modifyConn u x g) = f u)
    (hpair : ∀ u p g, f (TcpRelay.modifyPair u p g) = f u)
    (hpop : ∀ (u : TcpRelay) token, f { u with table := u.table.pop token } = f u) :
    f t' = f t := by
  induction h with
  | refl => rfl
  | tail _ hchange ih =>
      rw [← ih]
      cases hchange with
      | conn x hx g hseat => exact hconn _ x g hx hseat
      | pair p g => exact hpair _ p g
      | pop token => exact hpop _ token

theorem conns_of_ne (h : RelayChanges r target t t') {x : RelayId} (hx : x ≠ r)
    (htarget : target ≠ some x) : t'.conns x = t.conns x := by
  refine h.frame (fun u => u.conns x) ?_ (fun _ _ _ => rfl) (fun _ _ => rfl)
  rintro u y g (rfl | hy) -
  · exact conns_modifyConn_of_ne u hx g
  · have hne : x ≠ y := by
      rintro rfl
      exact htarget hy
    exact conns_modifyConn_of_ne u hne g

theorem seat (h : RelayChanges r target t t') (x : RelayId) :
    (t'.conns x).seat = (t.conns x).seat := by
  refine h.frame (fun u => (u.conns x).seat) ?_ (fun _ _ _ => rfl) (fun _ _ => rfl)
  intro u y g _ hseat
  by_cases hx : x = y
  · rw [hx, conns_modifyConn_self, hseat]
  · rw [conns_modifyConn_of_ne u hx]

/-- Tokens are only taken out of `PAIRS`. -/
theorem table_subset (h : RelayChanges r target t t') {token : String}
    (hget : t'.table.get? token ≠ none) : t.table.get? token ≠ none := by
  induction h with
  | refl => exact hget
  | tail _ hchange ih =>
      refine ih ?_
      cases hchange with
      | conn x hx g hseat => exact hget
      | pair p g => exact hget
      | pop token' =>
          dsimp only at hget
          rw [Dict.get?_pop] at hget
          split at hget
          · exact absurd rfl hget
          · exact hget

end RelayChanges

namespace TcpRelay

/-- **What a step of a coroutine changes**: anything but its seat, unless it takes one, and then
    that comes first. -/
theorem step_changes (t : TcpRelay) (e : RelayEvent) :
    RelayChanges e.conn (t.conns e.conn).phase.target t (t.step e) ∨
      ∃ p side, e = .resume e.conn true ∧ (t.conns e.conn).phase = .accepting p side ∧
        RelayChanges e.conn (t.conns e.conn).phase.target (t.sit e.conn p side) (t.step e) := by
  cases e with
  | connect r =>
      left
      unfold step
      dsimp only
      split
      · exact .goto ..
      · exact .refl
  | handshake r line =>
      left
      unfold step
      dsimp only
      split
      · cases line with
        | relay token role => exact .onRelay ..
        | other => exact .reject ..
        | failure => exact .finish _
      · exact .refl
  | receive r bytes =>
      left
      unfold step
      dsimp only
      split
      · exact .refl
      · exact .own _ _ fun _ => rfl
  | hangup r =>
      left
      unfold step
      exact .own _ _ fun _ => rfl
  | read r n =>
      left
      unfold step
      dsimp only
      split
      · next other hphase => exact .forward _ (by rw [RelayEvent.conn, hphase]; rfl) n
      · exact .refl
  | readFails r =>
      left
      unfold step
      dsimp only
      split
      · next other hphase => exact .unpipe _ (by rw [RelayEvent.conn, hphase]; rfl)
      · exact .refl
  | resume r ok =>
      unfold step resume
      dsimp only [RelayEvent.conn]
      split
      · exact Or.inl (.finish _)
      · next p side hphase =>
          cases ok with
          | true => exact Or.inr ⟨p, side, rfl, hphase, .join ..⟩
          | false => exact Or.inl (.finish _)
      · left
        split
        · exact .pairUp ..
        · exact .refl
      · left
        split
        · exact .goto ..
        · exact .finish _
      · next other hphase =>
          left
          split
          · exact .goto ..
          · exact .unpipe _ (by rw [hphase]; rfl)
      · exact Or.inl ((RelayChanges.cleanup ..).trans (RelayChanges.goto ..))
      · exact Or.inl .refl

end TcpRelay

end RemotePlay.Server
