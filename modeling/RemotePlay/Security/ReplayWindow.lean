import Mathlib.Data.List.Nodup
import RemotePlay.Lib.Runs
import RemotePlay.Lib.SlotWindow
import RemotePlay.Security.KeySchedule

set_option autoImplicit false

/-! # Replay protection of `SecureChannel::open`

`open` is a machine whose events are the `(header, sealed)` pairs it is called with. Its receive
state refines the slot window of `Lib/SlotWindow.lean` (`SecureChannel.window`): the replay check is
`SlotWindow.rejects`, marking a counter is `SlotWindow.mark`, and along every run the window tracks
the list of counters accepted so far (`opens_tracks`). Decryption stays an arbitrary function. -/

namespace RemotePlay.Crypto

/-! ## What one call to `open` can do -/

/-- The sealed bytes verify under the channel's receive key and carry a matching inner counter; `pt`
    is the decrypted text. -/
def SecureChannel.Genuine (c : Cng) (ch : SecureChannel) (header sealed pt : Bytes) : Prop :=
  8 + kGcmTagBytes ≤ sealed.length ∧ ch.decryptSealed c header sealed = some pt ∧
    8 ≤ pt.length ∧ SecureChannel.wireCounter pt = SecureChannel.wireCounter sealed

/-- Exactly when a call succeeds, and with what. -/
theorem SecureChannel.open_eq_some_iff (c : Cng) (ch : SecureChannel) (header sealed out : Bytes) :
    (ch.open c header sealed).1 = some out ↔
      ch.active = true ∧ ch.replayed (SecureChannel.wireCounter sealed) = false ∧
        ∃ pt, ch.Genuine c header sealed pt ∧ out = pt.drop 8 := by
  unfold SecureChannel.open SecureChannel.Genuine
  constructor
  · intro h
    dsimp only at h
    split at h
    · exact absurd h (by simp)
    next hguard =>
    split at h
    · exact absurd h (by simp)
    next hreplay =>
    split at h
    · exact absurd h (by simp)
    next pt hpt =>
    split at h
    · exact absurd h (by simp)
    next hlen =>
    split at h
    · exact absurd h (by simp)
    next hinner =>
    simp only [Bool.not_eq_true', not_or, Bool.not_eq_false, Nat.not_lt] at hguard
    refine ⟨hguard.1, by simpa using hreplay, pt, ⟨hguard.2, hpt, by omega, ?_⟩, ?_⟩
    · exact not_not.1 hinner
    · exact (Option.some.inj h).symm
  · rintro ⟨hact, hreplay, pt, ⟨hlen, hpt, hlen', hinner⟩, rfl⟩
    dsimp only
    rw [if_neg (by simp [hact]; omega), if_neg (by simp [hreplay]), hpt]
    dsimp only
    rw [if_neg (by omega), if_neg (not_not.2 hinner)]

/-- An accepted datagram is marked in the window. -/
theorem SecureChannel.open_state_of_some (c : Cng) (ch : SecureChannel) (header sealed : Bytes)
    (h : (ch.open c header sealed).1.isSome) :
    (ch.open c header sealed).2 =
      { ch.markSeen (SecureChannel.wireCounter sealed) with opened := ch.opened + 1 } := by
  revert h
  unfold SecureChannel.open
  dsimp only
  split
  · simp
  split
  · simp
  split
  · simp
  split
  · simp
  split
  · simp
  · intro _
    rfl

/-- A rejected datagram changes failure counters only. -/
theorem SecureChannel.open_state_of_none (c : Cng) (ch : SecureChannel) (header sealed : Bytes)
    (h : (ch.open c header sealed).1 = none) :
    (ch.open c header sealed).2 = { ch with authFailures := ch.authFailures + 1 } ∨
      (ch.open c header sealed).2 = { ch with replaysRejected := ch.replaysRejected + 1 } := by
  revert h
  unfold SecureChannel.open
  dsimp only
  split
  · exact fun _ => Or.inl rfl
  split
  · exact fun _ => Or.inr rfl
  split
  · exact fun _ => Or.inl rfl
  split
  · exact fun _ => Or.inl rfl
  split
  · exact fun _ => Or.inl rfl
  · simp

/-- Whatever `open` does, it leaves the keys and the activity flag alone. -/
theorem SecureChannel.open_keys (c : Cng) (ch : SecureChannel) (header sealed : Bytes) :
    (ch.open c header sealed).2.active = ch.active ∧
      (ch.open c header sealed).2.recvKey = ch.recvKey ∧
      (ch.open c header sealed).2.sendKey = ch.sendKey ∧
      (ch.open c header sealed).2.nonceSalt = ch.nonceSalt := by
  cases h : (ch.open c header sealed).1 with
  | some out =>
      rw [ch.open_state_of_some c header sealed (by simp [h])]
      exact ⟨rfl, rfl, rfl, rfl⟩
  | none =>
      rcases ch.open_state_of_none c header sealed h with hs | hs
      · rw [hs]
        exact ⟨rfl, rfl, rfl, rfl⟩
      · rw [hs]
        exact ⟨rfl, rfl, rfl, rfl⟩

/-! ## The receive state as a slot window -/

/-- The abstract window a channel's receive state stands for. -/
def SecureChannel.window (ch : SecureChannel) : SlotWindow 64 where
  highest := if ch.recvInit then some ch.recvHighest.toNat else none
  slots := fun i => if h : i < 64 then ch.recvWindow[i].toNat else 0

theorem SecureChannel.replayed_eq_rejects (ch : SecureChannel) (counter : UInt64) :
    ch.replayed counter = ch.window.rejects counter.toNat := by
  have hslot := SecureChannel.slot_lt counter
  unfold SecureChannel.replayed SlotWindow.rejects SecureChannel.window
  by_cases hinit : ch.recvInit = true
  · simp only [hinit, if_true, dif_pos hslot]
    by_cases hle : counter ≤ ch.recvHighest
    · have hnat : counter.toNat ≤ ch.recvHighest.toNat := UInt64.le_iff_toNat_le.1 hle
      have hback : (64 ≤ ch.recvHighest - counter) ↔
          64 ≤ ch.recvHighest.toNat - counter.toNat := by
        rw [UInt64.le_iff_toNat_le, UInt64.toNat_sub_of_le _ _ hle]
        rfl
      rw [if_pos hle, Bool.eq_iff_iff]
      by_cases hold : 64 ≤ ch.recvHighest - counter
      · simp [hnat, hold, hback.1 hold]
      · simp [hnat, hold, mt hback.2 hold, SecureChannel.slot, UInt64.toNat_inj]
    · have hnat : ¬ counter.toNat ≤ ch.recvHighest.toNat := mt UInt64.le_iff_toNat_le.2 hle
      simp [hle, hnat]
  · simp [hinit]

theorem SecureChannel.window_markSeen (ch : SecureChannel) (counter : UInt64) :
    (ch.markSeen counter).window = ch.window.mark counter.toNat := by
  unfold SecureChannel.markSeen SlotWindow.mark SecureChannel.window
  simp only [SlotWindow.mk.injEq, if_true, Option.some.injEq]
  constructor
  · by_cases hinit : ch.recvInit = true
    · simp only [hinit, Bool.not_true, Bool.false_eq_true, if_false, if_true]
      split
      · next h =>
          rw [UInt64.lt_iff_toNat_lt] at h
          omega
      · next h =>
          rw [UInt64.lt_iff_toNat_lt] at h
          omega
    · simp [hinit]
  · funext i
    by_cases hi : i < 64
    · by_cases heq : i = counter.toNat % 64
      · subst heq
        simp [SecureChannel.slot, hi]
      · rw [Function.update_of_ne heq]
        have hne : ¬ counter.toNat % 64 = i := fun h => heq h.symm
        simp [hi, SecureChannel.slot, hne]
    · have heq : i ≠ counter.toNat % 64 := by omega
      rw [Function.update_of_ne heq]
      simp [hi]

theorem SecureChannel.window_eq_of_recv_eq {ch ch' : SecureChannel}
    (hh : ch'.recvHighest = ch.recvHighest) (hi : ch'.recvInit = ch.recvInit)
    (hw : ch'.recvWindow = ch.recvWindow) : ch'.window = ch.window := by
  unfold SecureChannel.window
  rw [hh, hi, hw]

/-! ## Runs of `open` -/

/-- One call of `open` as a step; the event is the `(header, sealed)` pair. -/
def SecureChannel.openStep (c : Cng) (ch : SecureChannel) (dg : Bytes × Bytes) : SecureChannel :=
  (ch.open c dg.1 dg.2).2

/-- The counters accepted by a run of `open` calls, in order. -/
def SecureChannel.acceptedBy (c : Cng) (ch : SecureChannel) (dgs : List (Bytes × Bytes)) :
    List UInt64 :=
  (history (SecureChannel.openStep c) ch dgs).filterMap (fun p =>
    if (p.1.open c p.2.1 p.2.2).1.isSome then some (SecureChannel.wireCounter p.2.2) else none)

theorem SecureChannel.acceptedBy_append (c : Cng) (ch : SecureChannel)
    (dgs dgs' : List (Bytes × Bytes)) :
    ch.acceptedBy c (dgs ++ dgs') =
      ch.acceptedBy c dgs ++ (runFrom (SecureChannel.openStep c) ch dgs).acceptedBy c dgs' := by
  rw [SecureChannel.acceptedBy, history_append, List.filterMap_append]
  rfl

theorem SecureChannel.acceptedBy_singleton (c : Cng) (ch : SecureChannel) (dg : Bytes × Bytes) :
    ch.acceptedBy c [dg] =
      if (ch.open c dg.1 dg.2).1.isSome then [SecureChannel.wireCounter dg.2] else [] := by
  simp only [SecureChannel.acceptedBy, history_cons, history_nil, List.filterMap_cons,
    List.filterMap_nil]
  split
  · next h =>
      split at h
      · exact absurd h (by simp)
      · next hnone => rw [if_neg hnone]
  · next counter h =>
      split at h
      · next hsome => rw [if_pos hsome, Option.some.inj h]
      · exact absurd h (by simp)

/-- The keys are those of the start of the run, so verification is one fixed predicate. -/
theorem SecureChannel.opens_keys (c : Cng) (ch : SecureChannel) (dgs : List (Bytes × Bytes)) :
    (runFrom (SecureChannel.openStep c) ch dgs).active = ch.active ∧
      (runFrom (SecureChannel.openStep c) ch dgs).recvKey = ch.recvKey ∧
      (runFrom (SecureChannel.openStep c) ch dgs).nonceSalt = ch.nonceSalt := by
  refine runFrom_preserved (SecureChannel.openStep c)
    (fun t => t.active = ch.active ∧ t.recvKey = ch.recvKey ∧ t.nonceSalt = ch.nonceSalt) ?_ ch dgs
    ⟨rfl, rfl, rfl⟩
  rintro t dg ⟨hact, hkey, hsalt⟩
  obtain ⟨hact', hkey', -, hsalt'⟩ := t.open_keys c dg.1 dg.2
  exact ⟨hact'.trans hact, hkey'.trans hkey, hsalt'.trans hsalt⟩

theorem SecureChannel.genuine_of_keys {c : Cng} {ch ch' : SecureChannel} {header sealed pt : Bytes}
    (hkey : ch'.recvKey = ch.recvKey) (hsalt : ch'.nonceSalt = ch.nonceSalt) :
    ch'.Genuine c header sealed pt ↔ ch.Genuine c header sealed pt := by
  unfold SecureChannel.Genuine SecureChannel.decryptSealed SecureChannel.nonceFor
  rw [hkey, hsalt]

/-- One accepted datagram with a positive counter: the counter was admissible, and the window tracks
    the extended list. -/
theorem SecureChannel.open_tracks (c : Cng) (ch : SecureChannel) (dg : Bytes × Bytes)
    (acc : List Nat) (hT : ch.window.Tracks acc) (hpos : 1 ≤ SecureChannel.wireCounter dg.2)
    (h : (ch.open c dg.1 dg.2).1.isSome) :
    Admissible 64 acc (SecureChannel.wireCounter dg.2).toNat ∧
      (ch.openStep c dg).window.Tracks ((SecureChannel.wireCounter dg.2).toNat :: acc) := by
  obtain ⟨out, hout⟩ := Option.isSome_iff_exists.1 h
  obtain ⟨-, hfresh, -⟩ := (ch.open_eq_some_iff c dg.1 dg.2 out).1 hout
  rw [ch.replayed_eq_rejects] at hfresh
  have hadm := (SlotWindow.rejects_eq_false_iff hT (UInt64.le_iff_toNat_le.1 hpos)).1 hfresh
  refine ⟨hadm, ?_⟩
  have hwin : (ch.openStep c dg).window
      = ch.window.mark (SecureChannel.wireCounter dg.2).toNat := by
    rw [SecureChannel.openStep, ch.open_state_of_some c dg.1 dg.2 h, ← ch.window_markSeen]
    exact SecureChannel.window_eq_of_recv_eq rfl rfl rfl
  rw [hwin]
  exact hT.mark hadm

/-- One rejected datagram leaves the window as it was. -/
theorem SecureChannel.open_none_recv (c : Cng) (ch : SecureChannel) (header sealed : Bytes)
    (h : (ch.open c header sealed).1 = none) :
    (ch.open c header sealed).2.recvHighest = ch.recvHighest ∧
      (ch.open c header sealed).2.recvInit = ch.recvInit ∧
      (ch.open c header sealed).2.recvWindow = ch.recvWindow := by
  rcases ch.open_state_of_none c header sealed h with hs | hs
  · rw [hs]
    exact ⟨rfl, rfl, rfl⟩
  · rw [hs]
    exact ⟨rfl, rfl, rfl⟩

/-- **The run invariant**: the window tracks what the run accepted, and nothing was accepted
    twice. -/
theorem SecureChannel.opens_tracks (c : Cng) (ch : SecureChannel) (h0 : ch.window.Tracks [])
    (dgs : List (Bytes × Bytes)) (hpos : ∀ dg ∈ dgs, 1 ≤ SecureChannel.wireCounter dg.2) :
    (runFrom (SecureChannel.openStep c) ch dgs).window.Tracks
        ((ch.acceptedBy c dgs).map UInt64.toNat) ∧ (ch.acceptedBy c dgs).Nodup := by
  induction dgs using List.reverseRecOn with
  | nil => exact ⟨h0, List.nodup_nil⟩
  | append_singleton dgs dg ih =>
      obtain ⟨hT, hnodup⟩ := ih (fun d hd => hpos d (List.mem_append_left _ hd))
      have hposdg := hpos dg (by simp)
      rw [runFrom_concat, ch.acceptedBy_append, SecureChannel.acceptedBy_singleton]
      by_cases hsome : ((runFrom (SecureChannel.openStep c) ch dgs).open c dg.1 dg.2).1.isSome
      · rw [if_pos hsome]
        obtain ⟨hadm, hT'⟩ := SecureChannel.open_tracks c _ dg _ hT hposdg hsome
        constructor
        · exact hT'.of_mem_iff (fun a => by simp [or_comm])
        · refine List.nodup_append.2 ⟨hnodup, List.nodup_singleton _, ?_⟩
          intro a ha b hb hab
          rw [List.mem_singleton] at hb
          exact hadm.1 (List.mem_map_of_mem (hb ▸ hab ▸ ha))
      · rw [if_neg hsome, List.append_nil]
        obtain ⟨hh, hi, hw⟩ := SecureChannel.open_none_recv c _ dg.1 dg.2
          (Option.not_isSome_iff_eq_none.1 hsome)
        refine ⟨?_, hnodup⟩
        rw [SecureChannel.openStep, SecureChannel.window_eq_of_recv_eq hh hi hw]
        exact hT

/-- A fresh channel tracks the empty list. -/
theorem SecureChannel.install_tracks (ch : SecureChannel) (okm : Bytes) (weAreHost : Bool) :
    (ch.install okm weAreHost).window.Tracks [] := by
  apply SlotWindow.tracks_nil
  · rfl
  · intro i
    simp only [SecureChannel.window, SecureChannel.install]
    split
    · simp
    · rfl

/-- **Replay protection is exact within the window.** After a successful `finish`, over every
    sequence of `open` calls: no counter is accepted twice (so no sealed bytes are), a genuine
    datagram that is new and at most 63 below everything accepted is accepted, and a rejected one
    leaves the receive state as it was. -/
theorem replay_protection_exact (c : Cng) (init ch : SecureChannel) (kp : EcdhKeyPair)
    (ourSalt peerPublicKey peerSalt sessionCode : Bytes) (weAreHost : Bool)
    (hfin : init.finish c kp ourSalt peerPublicKey peerSalt sessionCode weAreHost = (true, ch))
    (dgs : List (Bytes × Bytes)) (hpos : ∀ dg ∈ dgs, 1 ≤ SecureChannel.wireCounter dg.2) :
    (ch.acceptedBy c dgs).Nodup ∧
      (∀ pre mid post header header' sealed,
        dgs = pre ++ (header, sealed) :: (mid ++ (header', sealed) :: post) →
        ((runFrom (SecureChannel.openStep c) ch pre).open c header sealed).1.isSome →
        ((runFrom (SecureChannel.openStep c) ch (pre ++ (header, sealed) :: mid)).open c
          header' sealed).1 = none) ∧
      (∀ pre post header sealed pt, dgs = pre ++ (header, sealed) :: post →
        ch.Genuine c header sealed pt →
        SecureChannel.wireCounter sealed ∉ ch.acceptedBy c pre →
        (∀ a ∈ ch.acceptedBy c pre, a.toNat ≤ (SecureChannel.wireCounter sealed).toNat + 63) →
        ((runFrom (SecureChannel.openStep c) ch pre).open c header sealed).1
          = some (pt.drop 8)) ∧
      (∀ pre post header sealed, dgs = pre ++ (header, sealed) :: post →
        ((runFrom (SecureChannel.openStep c) ch pre).open c header sealed).1 = none →
        let before := runFrom (SecureChannel.openStep c) ch pre
        let after := (before.open c header sealed).2
        after.recvHighest = before.recvHighest ∧ after.recvInit = before.recvInit ∧
          after.recvWindow = before.recvWindow) := by
  obtain ⟨-, -, shared, -, rfl⟩ := SecureChannel.finish_eq_true hfin
  set ch := init.install (SecureChannel.keyMaterial c shared sessionCode ourSalt peerSalt) weAreHost
  have h0 : ch.window.Tracks [] := init.install_tracks _ _
  obtain ⟨-, hnodup⟩ := ch.opens_tracks c h0 dgs hpos
  refine ⟨hnodup, ?_, ?_, ?_⟩
  · -- the same sealed bytes carry the same counter, which `Nodup` admits once
    intro pre mid post header header' sealed hdgs hfirst
    by_contra hsecond
    have hsplit : dgs = (pre ++ [(header, sealed)]) ++ (mid ++ [(header', sealed)]) ++ post := by
      simp [hdgs]
    have hsome := Option.isSome_iff_ne_none.2 hsecond
    have hrun : runFrom (SecureChannel.openStep c) ch (pre ++ (header, sealed) :: mid)
        = runFrom (SecureChannel.openStep c)
            (runFrom (SecureChannel.openStep c) ch (pre ++ [(header, sealed)])) mid := by
      rw [← runFrom_append, List.append_assoc, List.singleton_append]
    rw [hrun] at hsome
    rw [hsplit] at hnodup
    simp only [SecureChannel.acceptedBy_append, SecureChannel.acceptedBy_singleton, hfirst, hsome,
      if_true] at hnodup
    simp [List.nodup_append] at hnodup
  · -- exactness of the window: what is admissible passes the replay check
    intro pre post header sealed pt hdgs hgen hnew hwin
    have hpospre : ∀ dg ∈ pre, 1 ≤ SecureChannel.wireCounter dg.2 := fun dg hdg =>
      hpos dg (hdgs ▸ List.mem_append_left _ hdg)
    have hposdg : 1 ≤ SecureChannel.wireCounter sealed := hpos (header, sealed) (by simp [hdgs])
    obtain ⟨hT, -⟩ := ch.opens_tracks c h0 pre hpospre
    obtain ⟨hact, hkey, hsalt⟩ := ch.opens_keys c pre
    rw [SecureChannel.open_eq_some_iff]
    refine ⟨hact.trans rfl, ?_, pt, (SecureChannel.genuine_of_keys hkey hsalt).2 hgen, rfl⟩
    rw [SecureChannel.replayed_eq_rejects,
      SlotWindow.rejects_eq_false_iff hT (UInt64.le_iff_toNat_le.1 hposdg)]
    constructor
    · intro hin
      obtain ⟨a, ha, haeq⟩ := List.mem_map.1 hin
      exact hnew (UInt64.toNat_inj.1 haeq ▸ ha)
    · intro n hn
      obtain ⟨a, ha, rfl⟩ := List.mem_map.1 hn
      have := hwin a ha
      omega
  · intro pre post header sealed _ hnone
    exact SecureChannel.open_none_recv c _ header sealed hnone

/-- The client's channel of the recorded session, given the host's first datagram twice: under a cipher
    that leaves the counter in clear it is accepted once. -/
theorem replay_protection_exact_recorded :
    let dg : Bytes × Bytes := (Session.header, Session.clearFrame)
    (Session.client Session.code).acceptedBy Session.clearRecord.replay [dg, dg] = [1] ∧
      ((Session.client Session.code).acceptedBy Session.clearRecord.replay [dg, dg]).Nodup :=
  ⟨by decide +kernel,
    (replay_protection_exact Session.clearRecord.replay {} (Session.client Session.code)
      Session.clientKeys Session.clientSalt Session.hostPublic Session.hostSalt Session.code false
      (Prod.ext (by decide +kernel) rfl)
      [(Session.header, Session.clearFrame), (Session.header, Session.clearFrame)]
      (by decide +kernel)).1⟩

end RemotePlay.Crypto
