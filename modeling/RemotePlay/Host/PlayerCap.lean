import RemotePlay.Host.Isolation

set_option autoImplicit false

/-! # The player cap

`handleClientHello` compares the size of the whole table with the cap, pending and kicked records
included, and nothing checks again later. A record becomes a player at that point only, so the
players of a run never outnumber the table that was checked: every other event makes players out of
players. -/

namespace RemotePlay.Host

/-- The states of a client that takes part. -/
def isPlayer : ConnectionState → Bool
  | .Authenticating => true
  | .Connected => true
  | .Streaming => true
  | .Connecting => false
  | .Disconnected => false

namespace HostSession

/-- The ids of the records in such a state. -/
def playerIds (s : HostSession) : List UInt32 :=
  (s.clients.toList.filter (fun entry => isPlayer entry.2.state)).map Prod.fst

/-- How many there are. -/
def playerCount (s : HostSession) : Nat := s.playerIds.length

theorem mem_playerIds_iff (s : HostSession) (id : UInt32) :
    id ∈ s.playerIds ↔ ∃ v, s.viewOf id = some v ∧ isPlayer v.state = true := by
  simp only [playerIds, List.mem_map, List.mem_filter, Prod.exists, exists_and_right,
    exists_eq_right, Std.TreeMap.mem_toList_iff_getElem?_eq_some, viewOf, Option.map_eq_some_iff]
  constructor
  · rintro ⟨rec, hrec, hplayer⟩
    exact ⟨_, ⟨rec, hrec, rfl⟩, hplayer⟩
  · rintro ⟨_, ⟨rec, hrec, rfl⟩, hplayer⟩
    exact ⟨rec, hrec, hplayer⟩

theorem mem_keys_iff_viewOf (s : HostSession) (id : UInt32) :
    id ∈ s.clients.keys ↔ s.viewOf id ≠ none := by
  rw [Std.TreeMap.mem_keys, viewOf, Ne, Option.map_eq_none_iff, lookup_eq_none_iff, not_not]

theorem mem_keys_of_player {s : HostSession} {id : UInt32} (h : id ∈ s.playerIds) :
    id ∈ s.clients.keys := by
  obtain ⟨v, hv, -⟩ := (s.mem_playerIds_iff id).1 h
  exact (s.mem_keys_iff_viewOf id).2 (by simp [hv])

theorem nodup_playerIds (s : HostSession) : s.playerIds.Nodup := by
  have hsub : s.playerIds.Sublist s.clients.keys := by
    rw [playerIds, ← Std.TreeMap.map_fst_toList_eq_keys]
    exact List.filter_sublist.map Prod.fst
  exact hsub.nodup Std.TreeMap.nodup_keys

/-- The players of `s` are among the ids of `l`. -/
theorem playerCount_le {s : HostSession} {l : List UInt32}
    (h : ∀ id v, s.viewOf id = some v → isPlayer v.state = true → id ∈ l) :
    s.playerCount ≤ l.length := by
  refine s.nodup_playerIds.length_le_of_subset ?_
  intro id hid
  obtain ⟨v, hv, hplayer⟩ := (s.mem_playerIds_iff id).1 hid
  exact h id v hv hplayer

/-- An event that makes a client a player makes room for it first: the table was within the cap. -/
theorem player_step {s : HostSession} {e : HostEvent} {id : UInt32} {v : ClientView}
    (hv : (s.step e).viewOf id = some v) (hplayer : isPlayer v.state = true) :
    id ∈ s.playerIds ∨ (id ∈ s.clients.keys ∧ s.clients.size ≤ s.params.maxClients) := by
  rw [mem_playerIds_iff]
  have hchange := s.step_change e id
  rw [hv] at hchange
  generalize hw : some v = w at hchange
  generalize reports id (s.handle e).2 = rs at hchange
  cases hchange with
  | stay => exact .inl ⟨v, hw.symm, hplayer⟩
  | connection hassigns hid =>
      obtain rfl := Option.some.inj hw
      exact absurd hplayer (by simp [isPlayer])
  | hello input hview hroom =>
      exact .inr ⟨(s.mem_keys_iff_viewOf id).2 (by simp [hview]), hroom⟩
  | capabilities input hview => exact .inl ⟨_, hview, rfl⟩
  | setInput u hview input =>
      obtain rfl := Option.some.inj hw
      exact .inl ⟨u, hview, hplayer⟩
  | kick u hview =>
      obtain rfl := Option.some.inj hw
      exact absurd hplayer (by simp [isPlayer])
  | forward input hview => exact .inl ⟨v, hw.symm, hplayer⟩
  | dropped u hview => simp at hw
  | stopped he => simp at hw

theorem playerCount_step_le (s : HostSession) (e : HostEvent)
    (h : s.playerCount ≤ s.params.maxClients) :
    (s.step e).playerCount ≤ (s.step e).params.maxClients := by
  rw [(s.step_kept e).params]
  by_cases hroom : s.clients.size ≤ s.params.maxClients
  · -- the table is within the cap, and every player has a record in it
    refine (playerCount_le (l := s.clients.keys) ?_).trans
      (by rwa [Std.TreeMap.length_keys])
    intro id v hv hplayer
    rcases player_step hv hplayer with hid | ⟨hid, -⟩
    · exact mem_keys_of_player hid
    · exact hid
  · -- nobody is admitted
    refine (playerCount_le (l := s.playerIds) ?_).trans h
    intro id v hv hplayer
    exact (player_step hv hplayer).resolve_right (fun hc => hroom hc.2)

/-- **The player cap.** In every state of every run, at most `maxClients` records are
    `Authenticating`, `Connected` or `Streaming`. -/
theorem player_cap (params : HostSessionParams) (sessionCode : Bytes) (appHandler : Bool)
    (es : List HostEvent) :
    (runFrom step (started params sessionCode appHandler) es).playerCount ≤ params.maxClients := by
  have hparams : (runFrom step (started params sessionCode appHandler) es).params = params :=
    runFrom_preserved step (fun s => s.params = params)
      (fun s e hs => (s.step_kept e).params.trans hs) _ es rfl
  have hcap := runFrom_preserved step (fun s => s.playerCount ≤ s.params.maxClients)
    (fun s e hs => s.playerCount_step_le e hs) (started params sessionCode appHandler) es
    (Nat.zero_le _)
  rwa [hparams] at hcap

end HostSession

end RemotePlay.Host
