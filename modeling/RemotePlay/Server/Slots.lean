import RemotePlay.Server.Steps

set_option autoImplicit false

/-! # The slots of a session

Between the check for a free slot and its assignment `on_join` does not suspend, and a connection
that has got a slot keeps its role when it leaves, so it never asks for another one. Hence indices
are given out and freed soundly in every interleaving. -/

namespace RemotePlay.Server

/-- The event gives the connection a slot. -/
def GivesSlot (st : SignalingServer) (e : ServerEvent) (c : ConnId) : Prop :=
  ∃ s idx slot, slot.signalingConn = c ∧
    ((st.step e).session s).clients.get? idx = some slot ∧
    (st.session s).clients.get? idx ≠ some slot

/-- Who is given a slot had no role before, and has one afterwards. -/
theorem role_of_givesSlot {st : SignalingServer} (h : Coherent st) {e : ServerEvent} {c : ConnId}
    (hgives : GivesSlot st e c) :
    (st.conns c).role = none ∧ ((st.step e).conns c).role = some .client := by
  obtain ⟨s, idx, slot, rfl, hafter, hbefore⟩ := hgives
  obtain ⟨hcoherent, hchange⟩ := h.step e
  refine ⟨?_, (hcoherent.slot s idx slot hafter).2.2.1⟩
  cases hchange with
  | kept hleave hgrant hget => exact absurd ((hget s idx slot).1 hafter) hbefore
  | freed c hleave hgrant hget => exact absurd ((hget s idx slot).1 hafter).1 hbefore
  | taken t new hleave hgrant hfree hrole hget =>
      rw [hget] at hafter
      split at hafter
      · obtain rfl := Option.some.inj hafter
        exact hrole
      · exact absurd hafter hbefore

/-- Two slots of one connection, in any sessions, are one. -/
theorem Coherent.one_slot {st : SignalingServer} (h : Coherent st) {s t : SessionRef} {i j : Nat}
    {a b : ClientSlot} (ha : (st.session s).clients.get? i = some a)
    (hb : (st.session t).clients.get? j = some b) (heq : a.signalingConn = b.signalingConn) :
    s = t ∧ i = j := by
  have hs := (h.slot s i a ha).2.2.2
  have ht := (h.slot t j b hb).2.2.2
  rw [heq, ht] at hs
  obtain rfl := Option.some.inj hs
  exact ⟨rfl, h.ownSlot t i j a b ha hb heq⟩

/-- The answer to a `join` line. -/
theorem sessionFull_iff {st : SignalingServer} (h : Coherent st) {c : ConnId}
    (hreading : st.reading c = true) (code : String) (name : Option String) (env : Readings) :
    (st.step (.line c (.request (.join code name)) env)).sent
        = st.sent ++ [(c, .joinRejected "session full")] ↔
      (st.conns c).role = none ∧ ∃ s, st.registry.lookupCode code = some s ∧
        ∀ idx, idx < maxPlayers → (st.session s).clients.get? idx ≠ none := by
  have hreply : ∀ msg, (st.replyWith c msg).sent = st.sent ++ [(c, .joinRejected "session full")] ↔
      msg = .joinRejected "session full" := by
    intro msg
    show st.sent ++ [(c, msg)] = _ ↔ _
    rw [List.append_cancel_left_eq]
    simp
  rw [SignalingServer.step_line, if_pos hreading]
  show (st.onJoin c code name env).sent = _ ↔ _
  unfold SignalingServer.onJoin
  split
  · next hrole =>
      rw [hreply]
      refine iff_of_false (by simp) ?_
      rintro ⟨hnone, -⟩
      rw [hnone] at hrole
      exact absurd hrole (by simp)
  · next hrole =>
      have hrole' : (st.conns c).role = none := by simpa using hrole
      cases hlookup : st.registry.lookupCode code with
      | none =>
          dsimp only
          rw [hreply]
          exact iff_of_false (by decide) (by simp)
      | some s =>
          obtain ⟨host, hhost, -⟩ := h.hosted s (h.byCode code s hlookup).1
          dsimp only
          rw [if_neg (by rw [hhost]; simp)]
          cases hslot : Registry.freeSlot (st.session s) with
          | none =>
              dsimp only
              rw [hreply]
              exact iff_of_true rfl
                ⟨hrole', s, rfl, (Registry.freeSlot_eq_none_iff _).1 hslot⟩
          | some idx =>
              refine iff_of_false ?_ ?_
              · intro hsent
                have hjoined := List.append_cancel_left hsent
                exact absurd hjoined (by simp)
              · rintro ⟨-, t, ht, htaken⟩
                obtain rfl := Option.some.inj ht
                obtain ⟨hlt, hfree⟩ := Registry.freeSlot_eq_some hslot
                exact htaken idx hlt hfree

/-- Slot allocation is sound in the run. -/
structure SoundSlots (es : List ServerEvent) : Prop where
  /-- A session has at most `MAX_PLAYERS` slots, and each is under its own index. -/
  keyed : ∀ pre, pre <+: es → ∀ s, ((serverRun pre).session s).clients.size ≤ maxPlayers ∧
    ∀ idx slot, ((serverRun pre).session s).clients.get? idx = some slot →
      slot.playerIndex = idx ∧ idx < maxPlayers
  /-- A connection has at most one slot at a time, over all sessions, -/
  one : ∀ pre, pre <+: es → ∀ s t i j a b, ((serverRun pre).session s).clients.get? i = some a →
    ((serverRun pre).session t).clients.get? j = some b → a.signalingConn = b.signalingConn →
    s = t ∧ i = j
  /-- and it is given one at most once. -/
  once : ∀ pre e mid e' post, es = pre ++ e :: mid ++ e' :: post → ∀ c,
    GivesSlot (serverRun pre) e c → ¬ GivesSlot (serverRun (pre ++ e :: mid)) e' c
  /-- A join is answered 'session full' exactly when all indices are taken. -/
  full : ∀ p ∈ history SignalingServer.step {} es, ∀ c code name env,
    p.2 = .line c (.request (.join code name)) env → p.1.reading c = true →
    ((p.1.step p.2).sent = p.1.sent ++ [(c, .joinRejected "session full")] ↔
      (p.1.conns c).role = none ∧ ∃ s, p.1.registry.lookupCode code = some s ∧
        ∀ idx, idx < maxPlayers → (p.1.session s).clients.get? idx ≠ none)
  /-- Who leaves frees its own slot and no other, -/
  frees : ∀ p ∈ history SignalingServer.step {} es, ∀ c, p.1.leaving p.2 = some c →
    FreedOf c p.1 (p.1.step p.2)
  /-- and no slot is freed but by leaving. -/
  stays : ∀ p ∈ history SignalingServer.step {} es, p.1.leaving p.2 = none → ∀ s idx slot,
    (p.1.session s).clients.get? idx = some slot →
    ((p.1.step p.2).session s).clients.get? idx = some slot

/-- **Slot allocation is sound** in every run. -/
theorem sound_slots (es : List ServerEvent) : SoundSlots es := by
  have hcoherent := history_preserved SignalingServer.step Coherent (fun _ e h => (h.step e).1) {}
    es coherent_empty
  constructor
  case keyed =>
    intro pre _ s
    have hslot := (coherent_serverRun pre).slot s
    refine ⟨Dict.size_le_of_keys_lt _ _ (fun idx slot hget => (hslot idx slot hget).2.1), ?_⟩
    intro idx slot hget
    exact ⟨(hslot idx slot hget).1, (hslot idx slot hget).2.1⟩
  case one =>
    intro pre _ s t i j a b ha hb heq
    exact (coherent_serverRun pre).one_slot ha hb heq
  case once =>
    intro pre e mid e' post _ c hfirst hsecond
    have hrole := (role_of_givesSlot (coherent_serverRun pre) hfirst).2
    have hlater := (role_of_givesSlot (coherent_serverRun (pre ++ e :: mid)) hsecond).1
    have hsettled := (onward_serverRun (pre ++ [e]) mid).toSettled
    rw [List.append_assoc, List.singleton_append] at hsettled
    have hstep : serverRun (pre ++ [e]) = (serverRun pre).step e := runFrom_concat ..
    rw [hstep] at hsettled
    have hkept := (hsettled.kept c (by rw [hrole]; simp)).1
    rw [hlater, hrole] at hkept
    exact absurd hkept (by simp)
  case full =>
    rintro ⟨st, e⟩ hp c code name env rfl hreading
    exact sessionFull_iff (hcoherent _ hp) hreading code name env
  case frees =>
    intro p hp c hleave
    obtain ⟨-, hchange⟩ := (hcoherent p hp).step p.2
    cases hchange with
    | kept hnone hgrant hget =>
        rw [hleave] at hnone
        exact absurd hnone (by simp)
    | freed c' hleave' hgrant hget =>
        rw [hleave] at hleave'
        exact Option.some.inj hleave' ▸ hget
    | taken s slot hnone hgrant hfree hrole hget =>
        rw [hleave] at hnone
        exact absurd hnone (by simp)
  case stays =>
    intro p hp hleave s idx slot hbefore
    obtain ⟨-, hchange⟩ := (hcoherent p hp).step p.2
    cases hchange with
    | kept hnone hgrant hget => exact (hget s idx slot).2 hbefore
    | freed c hleave' hgrant hget =>
        rw [hleave] at hleave'
        exact absurd hleave' (by simp)
    | taken t new hnone hgrant hfree hrole hget =>
        rw [hget, if_neg]
        · exact hbefore
        · rintro ⟨rfl, rfl⟩
          rw [hfree] at hbefore
          exact absurd hbefore (by simp)

end RemotePlay.Server
