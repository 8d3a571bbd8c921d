import Mathlib.Data.List.Nodup
import RemotePlay.Host.Reports

set_option autoImplicit false

/-! # One client at a time

A frame, a closed connection and a decision of the host concern the record they name only. Ids are
handed out by a counter, so below `2 ^ 32` connections no two clients share one, and with `Change`
this gives the lifecycle of an id over a whole run: forward only, and never back once it has
ended. -/

namespace RemotePlay.Host

namespace HostSession

/-! ## The settings and the id counter of a run -/

/-- What an event may change of the session's own fields. -/
structure Kept (s : HostSession) (e : HostEvent) (t : HostSession) : Prop where
  params : t.params = s.params
  sessionCode : t.sessionCode = s.sessionCode
  appHandler : t.appHandler = s.appHandler
  nextClientId : t.nextClientId = if s.assigns e then s.nextClientId + 1 else s.nextClientId
  running : e ≠ .endStop → t.running = s.running

section Kept

variable {s t : HostSession} {e : HostEvent}

theorem SameConfig.kept (h : SameConfig s t) (hassigns : s.assigns e = false) : Kept s e t :=
  ⟨h.params, h.sessionCode, h.appHandler, by rw [hassigns]; exact h.nextClientId,
    fun _ => h.running⟩

theorem kept_handleNewConnection (address : Bytes) (now : Int) {t : HostSession}
    (h : SameConfig s t) (hassigns : s.assigns e = !t.stopping) :
    Kept s e (t.handleNewConnection address now).1 := by
  unfold handleNewConnection
  split
  · next hstop => exact h.kept (by rw [hassigns, hstop]; rfl)
  · next hstop =>
      refine ⟨h.params, h.sessionCode, h.appHandler, ?_, fun _ => h.running⟩
      rw [hassigns, if_pos (by simpa using hstop), ← h.nextClientId]
      rfl

theorem kept_runTask (task : HostTask) (rest : List HostTask) (now : Int)
    (htasks : s.tasks = task :: rest) (hrun : s.running = true) :
    Kept s (.runTask now) ({ s with tasks := rest }.runTask task now).1 := by
  have hrest : SameConfig s { s with tasks := rest } := ⟨rfl, rfl, rfl, rfl, rfl, rfl⟩
  cases task with
  | attachConnection address =>
      exact kept_handleNewConnection address now hrest (by simp [assigns, hrun, htasks])
  | approveClient c accept =>
      exact (hrest.trans (local_runApproveClient accept now).config).kept
        (by simp [assigns, htasks])
  | kickClient c reason =>
      exact (hrest.trans (local_runKickClient reason).config).kept (by simp [assigns, htasks])
  | setClientInput c enableAll =>
      exact (hrest.trans (local_runSetClientInput enableAll).config).kept
        (by simp [assigns, htasks])
  | sendAppMessage c type payload => exact hrest.kept (by simp [assigns, htasks])
  | shutdown => exact hrest.kept (by simp [assigns, htasks])

/-- **What no event changes**: the parameters and the code; the counter counts connections. -/
theorem step_kept (s : HostSession) (e : HostEvent) : Kept s e (s.step e) := by
  have hstay : s.assigns e = false → Kept s e s := (SameConfig.refl s).kept
  have hposted : ∀ task, s.assigns e = false → Kept s e (s.post task) := fun task =>
    SameConfig.kept ⟨rfl, rfl, rfl, rfl, rfl, rfl⟩
  unfold step handle
  cases e with
  | approveClient c accept => exact hposted _ (by simp [assigns])
  | kickClient c reason => exact hposted _ (by simp [assigns])
  | setClientInput c enableAll => exact hposted _ (by simp [assigns])
  | sendAppMessage c type payload =>
      dsimp only
      split
      · exact hposted _ (by simp [assigns])
      · exact hstay (by simp [assigns])
  | attachConnection address => exact hposted _ (by simp [assigns])
  | runTask now =>
      dsimp only
      split
      · next hrun => exact hstay (by simp [assigns, by simpa using hrun])
      next hrun =>
      split
      · next htasks => exact hstay (by simp [assigns, htasks])
      · next task rest htasks => exact kept_runTask task rest now htasks (by simpa using hrun)
  | newConnection address now =>
      dsimp only
      split
      · next hrun => exact hstay (by simp [assigns, by simpa using hrun])
      · next hrun =>
          exact kept_handleNewConnection address now (.refl s)
            (by simp [assigns, by simpa using hrun])
  | frame c type payload now later =>
      dsimp only
      split
      · exact hstay (by simp [assigns])
      · exact (local_handleFrame type payload now later).config.kept (by simp [assigns])
  | closed c =>
      dsimp only
      split
      · exact hstay (by simp [assigns])
      · exact local_handleClientClosed.config.kept (by simp [assigns])
  | tick now =>
      dsimp only
      split
      · exact hstay (by simp [assigns])
      · exact (s.sameConfig_housekeeping now).kept (by simp [assigns])
  | beginStop =>
      dsimp only
      split
      · exact hstay (by simp [assigns])
      · exact ⟨rfl, rfl, rfl, by simp [assigns, post], fun _ => rfl⟩
  | endStop =>
      dsimp only
      split
      · exact ⟨rfl, rfl, rfl, by simp [assigns], fun hne => absurd rfl hne⟩
      · exact hstay (by simp [assigns])

end Kept

/-! ## Ids -/

/-- The ids that a run gives to new connections, in order. -/
def assignedIds (s₀ : HostSession) (es : List HostEvent) : List UInt32 :=
  (history step s₀ es).filterMap
    (fun p => if p.1.assigns p.2 then some p.1.nextClientId else none)

section Ids

variable (s₀ : HostSession)

theorem assignedIds_concat (es : List HostEvent) (e : HostEvent) :
    assignedIds s₀ (es ++ [e]) = assignedIds s₀ es ++
      if (runFrom step s₀ es).assigns e then [(runFrom step s₀ es).nextClientId] else [] := by
  rw [assignedIds, history_concat, List.filterMap_append, ← assignedIds]
  congr 1
  by_cases h : (runFrom step s₀ es).assigns e = true
  · simp [h]
  · simp [h]

/-- A run assigns the ids `1, 2, 3, …` and knows the next one. -/
theorem assignedIds_eq (hstart : s₀.nextClientId = 1) (es : List HostEvent) :
    assignedIds s₀ es
        = (List.range (assignedIds s₀ es).length).map (fun i => UInt32.ofNat (i + 1)) ∧
      (runFrom step s₀ es).nextClientId = UInt32.ofNat ((assignedIds s₀ es).length + 1) := by
  induction es using List.reverseRecOn with
  | nil => exact ⟨rfl, hstart⟩
  | append_singleton es e ih =>
      obtain ⟨hids, hnext⟩ := ih
      rw [assignedIds_concat, runFrom_concat, ((runFrom step s₀ es).step_kept e).nextClientId]
      split
      · constructor
        · rw [List.length_append, List.length_singleton, List.range_succ, List.map_append, ← hids,
            List.map_singleton, hnext]
        · rw [List.length_append, List.length_singleton, hnext]
          exact (UInt32.ofNat_add _ 1).symm
      · rw [List.append_nil]
        exact ⟨hids, hnext⟩

theorem ofNat_succ_inj {i j : Nat} (hi : i < 2 ^ 32) (hj : j < 2 ^ 32)
    (h : UInt32.ofNat (i + 1) = UInt32.ofNat (j + 1)) : i = j := by
  have hnat := congrArg UInt32.toNat h
  rw [UInt32.toNat_ofNat', UInt32.toNat_ofNat'] at hnat
  omega

/-- Below `2 ^ 32` connections no id is given twice, and the next one is new. -/
theorem nodup_assignedIds (hstart : s₀.nextClientId = 1) (es : List HostEvent)
    (hfew : (assignedIds s₀ es).length < 2 ^ 32) :
    (assignedIds s₀ es).Nodup ∧ (runFrom step s₀ es).nextClientId ∉ assignedIds s₀ es := by
  obtain ⟨hids, hnext⟩ := assignedIds_eq s₀ hstart es
  constructor
  · rw [hids]
    refine List.Nodup.map_on ?_ List.nodup_range
    intro i hi j hj heq
    rw [List.mem_range] at hi hj
    exact ofNat_succ_inj (by omega) (by omega) heq
  · rw [hnext, hids, List.mem_map]
    rintro ⟨i, hi, heq⟩
    rw [List.length_map, List.length_range] at heq
    rw [List.mem_range] at hi
    exact absurd (ofNat_succ_inj (by omega) hfew heq) (by omega)

theorem length_assignedIds_append_le (pre post : List HostEvent) :
    (assignedIds s₀ pre).length ≤ (assignedIds s₀ (pre ++ post)).length := by
  rw [assignedIds, assignedIds, history_append, List.filterMap_append, List.length_append]
  omega

/-- Every record belongs to a connection of the run. -/
theorem mem_assignedIds_of_viewOf (hstart : ∀ id, s₀.viewOf id = none) (es : List HostEvent)
    (id : UInt32) (h : (runFrom step s₀ es).viewOf id ≠ none) : id ∈ assignedIds s₀ es := by
  induction es using List.reverseRecOn with
  | nil => exact absurd (hstart id) h
  | append_singleton es e ih =>
      rw [runFrom_concat] at h
      rw [assignedIds_concat, List.mem_append]
      have hchange := (runFrom step s₀ es).step_change e id
      generalize ((runFrom step s₀ es).step e).viewOf id = v at h hchange
      generalize reports id ((runFrom step s₀ es).handle e).2 = rs at hchange
      cases hchange with
      | stay => exact .inl (ih h)
      | connection hassigns hid => exact .inr (by rw [if_pos hassigns, hid]; simp)
      | hello input hview => exact .inl (ih (by simp [hview]))
      | capabilities input hview => exact .inl (ih (by simp [hview]))
      | setInput v hview => exact .inl (ih (by simp [hview]))
      | kick v hview => exact .inl (ih (by simp [hview]))
      | forward input hview => exact .inl (ih h)
      | dropped v hview => exact absurd rfl h
      | stopped he => exact absurd rfl h

end Ids

/-! ## The lifecycle of an id -/

/-- A step along `Connecting`, `Authenticating`, `Connected`, `Disconnected`, from no record and to
    no record. -/
inductive Forward : Option ConnectionState → Option ConnectionState → Prop where
  | same (st : Option ConnectionState) : Forward st st
  | connection : Forward none (some .Connecting)
  | authenticating : Forward (some .Connecting) (some .Authenticating)
  | connected : Forward (some .Authenticating) (some .Connected)
  | disconnected (st : ConnectionState) : Forward (some st) (some .Disconnected)
  | removed (st : Option ConnectionState) : Forward st none

/-- The id was given to a connection that is over: its record is gone or `Disconnected`. -/
def Ended (s₀ : HostSession) (es : List HostEvent) (id : UInt32) : Prop :=
  id ∈ assignedIds s₀ es ∧
    ((runFrom step s₀ es).stateOf id = none ∨
      (runFrom step s₀ es).stateOf id = some .Disconnected)

section Lifecycle

variable {s : HostSession} {e : HostEvent} {id : UInt32}

/-- An event moves an id forward, unless it gives an id that is in use to a new connection. -/
theorem forward_step (hfresh : s.assigns e = true → s.viewOf s.nextClientId = none) :
    Forward (s.stateOf id) ((s.step e).stateOf id) := by
  rw [stateOf_eq_viewOf, stateOf_eq_viewOf]
  have hchange := s.step_change e id
  generalize (s.step e).viewOf id = v at hchange
  generalize reports id (s.handle e).2 = rs at hchange
  cases hchange with
  | stay => exact .same _
  | connection hassigns hid =>
      rw [hid, hfresh hassigns]
      exact .connection
  | hello input hview => rw [hview]; exact .authenticating
  | capabilities input hview => rw [hview]; exact .connected
  | setInput v hview => rw [hview]; exact .same _
  | kick v hview => rw [hview]; exact .disconnected _
  | forward input hview => exact .same _
  | dropped v hview => exact .removed _
  | stopped he => exact .removed _

/-- What has ended stays ended. -/
theorem Forward.ended {st st' : Option ConnectionState} (h : Forward st st')
    (hended : st = none ∨ st = some .Disconnected) (hnew : st = none → st' ≠ some .Connecting) :
    st' = none ∨ st' = some .Disconnected := by
  cases h with
  | same => exact hended
  | connection => exact absurd rfl (hnew rfl)
  | authenticating => simp at hended
  | connected => simp at hended
  | disconnected st => exact .inr rfl
  | removed st => exact .inl rfl

/-- Only a connected client's message is forwarded. -/
theorem connected_of_onAppMessage {type : UInt16} {payload : Bytes}
    (h : .onAppMessage id type payload ∈ (s.handle e).2) : s.stateOf id = some .Connected := by
  have hmem : Report.message type payload ∈ reports id (s.handle e).2 :=
    List.mem_filterMap.2 ⟨_, h, by simp [reportOf]⟩
  rw [stateOf_eq_viewOf]
  have hchange := s.step_change e id
  generalize (s.step e).viewOf id = v at hchange
  generalize reports id (s.handle e).2 = rs at hchange hmem
  cases hchange with
  | forward input hview => rw [hview]; rfl
  | stay => simp at hmem
  | connection => simp at hmem
  | hello => simp at hmem
  | capabilities => simp at hmem
  | setInput => simp at hmem
  | kick => simp at hmem
  | dropped => simp at hmem
  | stopped => simp at hmem

end Lifecycle

/-- An id in use is not given again, as long as there are fewer than `2 ^ 32` connections. -/
theorem fresh_of_few (s₀ : HostSession) (hstart : s₀.nextClientId = 1)
    (hempty : ∀ id, s₀.viewOf id = none) (pre : List HostEvent)
    (hfew : (assignedIds s₀ pre).length < 2 ^ 32) :
    (runFrom step s₀ pre).viewOf (runFrom step s₀ pre).nextClientId = none := by
  by_contra hsome
  exact (nodup_assignedIds s₀ hstart pre hfew).2 (mem_assignedIds_of_viewOf s₀ hempty pre _ hsome)

/-- Once an id has ended it stays so, as long as there are fewer than `2 ^ 32` connections. -/
theorem Ended.append (s₀ : HostSession) (hstart : s₀.nextClientId = 1)
    (hempty : ∀ id, s₀.viewOf id = none) {pre : List HostEvent} {id : UInt32}
    (hended : Ended s₀ pre id) (mid : List HostEvent)
    (hfew : (assignedIds s₀ (pre ++ mid)).length < 2 ^ 32) : Ended s₀ (pre ++ mid) id := by
  induction mid using List.reverseRecOn with
  | nil => rwa [List.append_nil]
  | append_singleton mid e ih =>
      rw [← List.append_assoc] at hfew ⊢
      have hfew' := (length_assignedIds_append_le s₀ (pre ++ mid) [e]).trans_lt hfew
      obtain ⟨hmem, hstate⟩ := ih hfew'
      refine ⟨by rw [assignedIds_concat]; exact List.mem_append_left _ hmem, ?_⟩
      rw [runFrom_concat]
      refine (forward_step (fun _ => fresh_of_few s₀ hstart hempty _ hfew')).ended hstate ?_
      -- a new connection would have been given an id that is taken
      intro hnone hconn
      have htrans := (runFrom step s₀ (pre ++ mid)).step_transition e id
      rw [hconn] at htrans
      generalize hst : some ConnectionState.Connecting = st at htrans
      cases htrans with
      | stay => exact absurd (hst.trans hnone) (by simp)
      | connection hid => exact (nodup_assignedIds s₀ hstart _ hfew').2 (hid ▸ hmem)
      | hello => simp at hst
      | capabilities => simp at hst
      | kick => simp at hst
      | gone => simp at hst

/-- **The lifecycle of the clients of a run.** Below `2 ^ 32` connections ids are not reused, each
    moves forward only, and one that is gone or `Disconnected` never comes back. Messages are
    forwarded for connected clients only, and a frame of one client leaves the record of every other
    as it is and sends it nothing. -/
theorem client_lifecycle (params : HostSessionParams) (sessionCode : Bytes) (appHandler : Bool)
    (es : List HostEvent) :
    ((assignedIds (started params sessionCode appHandler) es).length < 2 ^ 32 →
      (assignedIds (started params sessionCode appHandler) es).Nodup ∧
      (∀ pre e post, es = pre ++ e :: post → ∀ id,
        Forward ((runFrom step (started params sessionCode appHandler) pre).stateOf id)
          ((runFrom step (started params sessionCode appHandler) (pre ++ [e])).stateOf id)) ∧
      (∀ pre mid post, es = pre ++ mid ++ post → ∀ id,
        Ended (started params sessionCode appHandler) pre id → ∀ st,
        (runFrom step (started params sessionCode appHandler) (pre ++ mid)).stateOf id = some st →
          st = .Disconnected)) ∧
    (∀ p ∈ history step (started params sessionCode appHandler) es, ∀ id type payload,
      .onAppMessage id type payload ∈ (p.1.handle p.2).2 → p.1.stateOf id = some .Connected) ∧
    (∀ p ∈ history step (started params sessionCode appHandler) es,
      ∀ i type payload now later, p.2 = .frame i type payload now later → ∀ j, j ≠ i →
        (p.1.step p.2).clients[j]? = p.1.clients[j]? ∧
          ∀ eff ∈ (p.1.handle p.2).2, eff.addressee ≠ some j) := by
  set s₀ := started params sessionCode appHandler
  have hempty : ∀ id, s₀.viewOf id = none := fun id => by simp [s₀, started, viewOf]
  refine ⟨fun hfew => ⟨(nodup_assignedIds s₀ rfl es hfew).1, ?_, ?_⟩, ?_, ?_⟩
  · rintro pre e post rfl id
    rw [runFrom_concat]
    exact forward_step (fun _ => fresh_of_few s₀ rfl hempty pre
      ((length_assignedIds_append_le s₀ pre _).trans_lt hfew))
  · rintro pre mid post rfl id hended st hst
    have hlater := hended.append s₀ rfl hempty mid
      ((length_assignedIds_append_le s₀ (pre ++ mid) post).trans_lt hfew)
    rcases hlater.2 with hnone | hdisconnected
    · exact absurd (hnone.symm.trans hst) (by simp)
    · exact Option.some.inj (hst.symm.trans hdisconnected)
  · intro p _ id type payload hmem
    exact connected_of_onAppMessage hmem
  · rintro ⟨s, e⟩ _ i type payload now later rfl j hj
    have hconfined : Confined i s (s.handle (.frame i type payload now later)) := by
      unfold handle
      dsimp only
      split
      · exact (Local.nil s).toConfined
      · exact (local_handleFrame type payload now later).toConfined
    exact ⟨hconfined.clients j hj, fun eff hmem hto => hj (hconfined.effects eff hmem j hto)⟩

end HostSession

end RemotePlay.Host
