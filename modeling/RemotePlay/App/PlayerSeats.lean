import RemotePlay.App.Invocations

set_option autoImplicit false

/-! # Who plays as whom

An entry of `streams_` gives a client its player index, its seat. The injector knows players by
their index only. `SeatChange` lists everything an invocation on the coordinator can do to the seats
and, through the injector, to the permissions kept for the indices, and `step_seats` proves the list
complete. -/

namespace RemotePlay.App

open Proto (Body decodeMessage)
open Crypto (Cng EcdhKeyPair)

namespace HostCoordinator

/-- The player index of each client that has a stream. -/
def seats (k : HostCoordinator) (id : UInt32) : Option UInt8 :=
  (k.streams[id]?).map ClientStream.playerIndex

/-- What an effect does to the permissions in force for each index. -/
def applyCall (perms : UInt8 → InputPermissions) :
    HostCoordinatorEffect → UInt8 → InputPermissions
  | .setPermissions playerIndex p => Function.update perms playerIndex p
  | .clientDisconnected playerIndex => Function.update perms playerIndex {}
  | _ => perms

/-- The seats after an invocation, and what becomes of the permissions in force. -/
inductive SeatChange (k : HostCoordinator) (e : HostCoordinatorEvent) :
    (UInt32 → Option UInt8) → ((UInt8 → InputPermissions) → UInt8 → InputPermissions) → Prop where
  | stay (hperms : ∀ id p, e = .inputPermissions id p → k.seats id = none) :
      SeatChange k e k.seats (fun f => f)
  | seat (row : Host.ClientRow) (keys : Option EcdhKeyPair) (salt : Bytes)
      (he : e = .clientUpdated row keys salt) (hstate : row.state = .Connected)
      (hnew : k.seats row.id = none) :
      SeatChange k e (Function.update k.seats row.id (some k.assignPlayerIndex)) (fun f => f)
  | leave (id : UInt32) (i : UInt8) (hseat : k.seats id = some i) (he : endsStream id e = true) :
      SeatChange k e (Function.update k.seats id none) (fun f => Function.update f i {})
  | permissions (id : UInt32) (i : UInt8) (p : InputPermissions) (hseat : k.seats id = some i)
      (he : e = .inputPermissions id p) :
      SeatChange k e k.seats (fun f => Function.update f i p)
  | reset (id : UInt32) (i : UInt8) (hseat : k.seats id = some i) (he : k.Resets e id) :
      SeatChange k e k.seats (fun f => Function.update f i {})

/-- What a handler yields is one of these. -/
def Reseats (k : HostCoordinator) (e : HostCoordinatorEvent)
    (r : HostCoordinator × List HostCoordinatorEffect) : Prop :=
  SeatChange k e r.1.seats (fun f => r.2.foldl applyCall f)

section Handlers

variable {k t : HostCoordinator} {e : HostCoordinatorEvent}

theorem seats_of_stream {id : UInt32} {cs : ClientStream} (h : k.streams[id]? = some cs) :
    k.seats id = some cs.playerIndex := by
  rw [seats, h, Option.map_some]

theorem seats_of_no_stream {id : UInt32} (h : k.streams[id]? = none) : k.seats id = none := by
  rw [seats, h, Option.map_none]

theorem seats_putStream (k : HostCoordinator) (id : UInt32) (cs : ClientStream) :
    (k.putStream id cs).seats = Function.update k.seats id (some cs.playerIndex) := by
  funext a
  rw [seats, putStream, lookup_insert, Function.update_apply]
  by_cases h : id = a
  · rw [if_pos h, if_pos h.symm, Option.map_some]
  · rw [if_neg h, if_neg (Ne.symm h)]
    rfl

/-- Storing a stream again under its own index. -/
theorem seats_putStream_same {id : UInt32} {cs : ClientStream} (h : k.streams[id]? = some cs)
    (cs' : ClientStream) (hindex : cs'.playerIndex = cs.playerIndex) :
    (k.putStream id cs').seats = k.seats := by
  rw [seats_putStream, hindex, ← seats_of_stream h, Function.update_eq_self]

/-- Effects that do not concern the injector. -/
def Unrelated (out : List HostCoordinatorEffect) : Prop := ∀ eff ∈ out, ∀ f, applyCall f eff = f

theorem Unrelated.foldl {out : List HostCoordinatorEffect} (h : Unrelated out)
    (f : UInt8 → InputPermissions) : out.foldl applyCall f = f := by
  induction out with
  | nil => rfl
  | cons eff out ih =>
      rw [List.foldl_cons, h eff (List.mem_cons_self ..)]
      exact ih (fun eff' hmem => h eff' (List.mem_cons_of_mem eff hmem))

theorem unrelated_of_outward {out : List HostCoordinatorEffect} (h : out.all outward = true) :
    Unrelated out := by
  intro eff hmem f
  have heff := List.all_eq_true.1 h eff hmem
  cases eff with
  | setPermissions playerIndex perms => cases heff
  | clientDisconnected playerIndex => cases heff
  | _ => rfl

theorem unrelated_stopStreamer (cs : ClientStream) :
    Unrelated (cs.streamer.map .stopStreamer).toList := by
  intro eff hmem f
  obtain ⟨index, -, rfl⟩ := Option.map_eq_some_iff.1 (Option.mem_toList.1 hmem)
  rfl

theorem unrelated_startStreamer (index : Nat) : Unrelated [.startStreamer index] := by
  intro eff hmem f
  rw [List.mem_singleton.1 hmem]
  rfl

theorem Reseats.of_change {out : List HostCoordinatorEffect} {seats : UInt32 → Option UInt8}
    {g : (UInt8 → InputPermissions) → UInt8 → InputPermissions} (h : SeatChange k e seats g)
    (hseats : t.seats = seats) (hfold : ∀ f, out.foldl applyCall f = g f) :
    Reseats k e (t, out) := by
  obtain rfl : (fun f => out.foldl applyCall f) = g := funext hfold
  subst hseats
  exact h

/-- Everything else but a change of permissions leaves seats and injector alone. -/
theorem Reseats.stay {out : List HostCoordinatorEffect} (hseats : t.seats = k.seats)
    (hout : Unrelated out) (hperms : ∀ id p, e = .inputPermissions id p → k.seats id = none) :
    Reseats k e (t, out) := .of_change (.stay hperms) hseats hout.foldl

end Handlers

/-- **What an invocation can do to the seats and to the permissions in force.** -/
theorem step_seats (c : Cng) (k : HostCoordinator) (e : HostCoordinatorEvent) :
    SeatChange k e (k.step c e).seats (fun f => (k.handle c e).2.foldl applyCall f) := by
  unfold step
  show Reseats k e (k.handle c e)
  have h := handle_outcome c k e
  generalize k.handle c e = r at h
  have hmessage : ∀ {p}, messageOf e = some p → ∀ id q, e = .inputPermissions id q →
      k.seats id = none := by
    rintro p hmsg id q rfl
    cases hmsg
  cases h with
  | idle out hout hperms hends hexchange hstarted =>
      exact .stay rfl (unrelated_of_outward hout) fun id p h => seats_of_no_stream (hperms id p h)
  | opened row keys salt kp out hout he hstate hnew =>
      exact .of_change (.seat row keys salt he hstate (seats_of_no_stream hnew))
        (seats_putStream k row.id _) (unrelated_of_outward hout).foldl
  | closed id cs more hmore hcs he =>
      refine .of_change (.leave id cs.playerIndex (seats_of_stream hcs) he) ?_ ?_
      · funext a
        rw [seats, lookup_erase, Function.update_apply]
        by_cases h : id = a
        · rw [if_pos h, if_pos h.symm, Option.map_none]
        · rw [if_neg h, if_neg (Ne.symm h)]
          rfl
      · intro f
        rw [List.foldl_append, List.foldl_append, (unrelated_stopStreamer cs).foldl,
          (unrelated_of_outward hmore).foldl]
        rfl
  | exchanged id cs ecdh m out hout hcs hecdh hready he =>
      exact .stay (seats_putStream_same hcs _ rfl) (unrelated_of_outward hout) (hmessage he)
  | ready id cs hcs hchannel he =>
      -- the streamer list is no part of the seats
      have hseats := seats_putStream_same hcs
        { cs with keysReady := true, streamer := some k.streamers.length } rfl
      exact .stay hseats (unrelated_startStreamer _) (hmessage he)
  | permitted id p cs hcs he =>
      refine .of_change (.permissions id cs.playerIndex p (seats_of_stream hcs) he) rfl ?_
      intro f
      rw [handleInputPermissions, hcs]
      dsimp only
      rw [List.foldl_cons]
      split
      · rfl
      · rfl
  | reset id cs hcs he =>
      refine .of_change (.reset id cs.playerIndex (seats_of_stream hcs) he) rfl ?_
      intro f
      rw [List.foldl_append, (unrelated_stopStreamer cs).foldl]
      rfl

/-! ## Free seats -/

/-- One of the four indices is nobody's. -/
def HasFreeSeat (k : HostCoordinator) : Prop := ∃ i : UInt8, i < 4 ∧ ∀ id, k.seats id ≠ some i

/-- `assignPlayerIndex` finds a free seat if there is one. -/
theorem assignPlayerIndex_free (k : HostCoordinator) (h : k.HasFreeSeat) (id : UInt32) :
    k.seats id ≠ some k.assignPlayerIndex := by
  have hused : ∀ i : UInt8, k.streams.values.any (fun cs => cs.playerIndex == i) = true ↔
      ∃ a, k.seats a = some i := by
    intro i
    rw [any_values_iff]
    simp only [beq_iff_eq, seats, Option.map_eq_some_iff]
  obtain ⟨i, hlt, hfree⟩ := h
  have hi : k.streams.values.any (fun cs => cs.playerIndex == i) = false := by
    rw [← Bool.not_eq_true, hused]
    rintro ⟨a, ha⟩
    exact hfree a ha
  have hcases : i = 0 ∨ i = 1 ∨ i = 2 ∨ i = 3 := by
    have hnat : i.toNat < 4 := hlt
    have hn : i.toNat = 0 ∨ i.toNat = 1 ∨ i.toNat = 2 ∨ i.toNat = 3 := by omega
    rcases hn with hn | hn | hn | hn
    · exact .inl (UInt8.toNat_inj.1 hn)
    · exact .inr (.inl (UInt8.toNat_inj.1 hn))
    · exact .inr (.inr (.inl (UInt8.toNat_inj.1 hn)))
    · exact .inr (.inr (.inr (UInt8.toNat_inj.1 hn)))
  -- the first index that is free is the one returned
  have hnot : k.streams.values.any (fun cs => cs.playerIndex == k.assignPlayerIndex) = false := by
    unfold assignPlayerIndex
    dsimp only
    split
    · next h0 => simpa using h0
    split
    · next h1 => simpa using h1
    split
    · next h2 => simpa using h2
    next h0 h1 h2 =>
    rcases hcases with rfl | rfl | rfl | rfl
    · simp [hi] at h0
    · simp [hi] at h1
    · simp [hi] at h2
    · exact hi
  intro hid
  rw [← Bool.not_eq_true, hused] at hnot
  exact hnot ⟨id, hid⟩

theorem assignPlayerIndex_lt (k : HostCoordinator) : k.assignPlayerIndex < 4 := by
  unfold assignPlayerIndex
  dsimp only
  split
  · decide
  split
  · decide
  split
  · decide
  · decide

section SeatChange

variable {k : HostCoordinator} {e : HostCoordinatorEvent} {seats : UInt32 → Option UInt8}
variable {g : (UInt8 → InputPermissions) → UInt8 → InputPermissions}

/-- The seats stay distinct if a client that is seated finds a free one. -/
theorem SeatChange.distinct (hchange : SeatChange k e seats g)
    (hroom : ∀ row keys salt, e = .clientUpdated row keys salt → row.state = .Connected →
      k.seats row.id = none → k.HasFreeSeat)
    (h : ∀ a b i, k.seats a = some i → k.seats b = some i → a = b) :
    ∀ a b i, seats a = some i → seats b = some i → a = b := by
  cases hchange with
  | stay hperms => exact h
  | permissions a i₀ p hseat hperms => exact h
  | reset a i₀ hseat hresets => exact h
  | seat row keys salt hrow hstate hnew =>
      have hfree := k.assignPlayerIndex_free (hroom row keys salt hrow hstate hnew)
      intro a b i ha hb
      rw [Function.update_apply] at ha hb
      split at ha
      · next harow =>
          obtain rfl := Option.some.inj ha
          split at hb
          · next hbrow => rw [harow, hbrow]
          · exact absurd hb (hfree b)
      · split at hb
        · obtain rfl := Option.some.inj hb
          exact absurd ha (hfree a)
        · exact h a b i ha hb
  | leave id i₀ hseat hends =>
      intro a b i ha hb
      rw [Function.update_apply] at ha hb
      split at ha
      · cases ha
      split at hb
      · cases hb
      exact h a b i ha hb

theorem SeatChange.below (hchange : SeatChange k e seats g)
    (h : ∀ a i, k.seats a = some i → i < 4) : ∀ a i, seats a = some i → i < 4 := by
  cases hchange with
  | stay hperms => exact h
  | permissions a i₀ p hseat hperms => exact h
  | reset a i₀ hseat hresets => exact h
  | seat row keys salt hrow hstate hnew =>
      intro a i ha
      rw [Function.update_apply] at ha
      split at ha
      · obtain rfl := Option.some.inj ha
        exact k.assignPlayerIndex_lt
      · exact h a i ha
  | leave id i₀ hseat hends =>
      intro a i ha
      rw [Function.update_apply] at ha
      split at ha
      · cases ha
      · exact h a i ha

/-- Only the report of a connected client gives out a seat. -/
theorem SeatChange.seated (hchange : SeatChange k e seats g) {id : UInt32} (h : seats id ≠ none) :
    k.seats id ≠ none ∨
      ∃ row keys salt, e = .clientUpdated row keys salt ∧ row.state = .Connected ∧ row.id = id := by
  cases hchange with
  | stay hperms => exact .inl h
  | permissions a i₀ p hseat hperms => exact .inl h
  | reset a i₀ hseat hresets => exact .inl h
  | seat row keys salt hrow hstate hnew =>
      by_cases hid : row.id = id
      · exact .inr ⟨row, keys, salt, hrow, hstate, hid⟩
      · rw [Function.update_of_ne (Ne.symm hid)] at h
        exact .inl h
  | leave a i₀ hseat hends =>
      by_cases hid : id = a
      · rw [hid, Function.update_self] at h
        exact absurd rfl h
      · rw [Function.update_of_ne hid] at h
        exact .inl h

end SeatChange

/-- A report that a client is gone leaves it no seat. -/
theorem seats_step_disconnected (c : Cng) (k : HostCoordinator) (row : Host.ClientRow)
    (keys : Option EcdhKeyPair) (salt : Bytes) (h : row.state = .Disconnected) :
    (k.step c (.clientUpdated row keys salt)).seats row.id = none := by
  simp only [step, handle, handleClientUpdated, h, reduceCtorEq, if_false, if_true]
  unfold teardownClient
  split
  · next hnone => exact seats_of_no_stream hnone
  · exact seats_of_no_stream (by simp)

end HostCoordinator

end RemotePlay.App
