import RemotePlay.Host.PlayerCap

set_option autoImplicit false

/-! # When a hello is refused for want of room

`handleClientHello` refuses a client when the whole table is larger than the cap. The table also
holds the connections that have not said hello and the clients that were kicked, so a hello can be
refused while there are free player slots: exactly when the records that are no players fill them
(`server_full_means_full_iff`). -/

namespace RemotePlay.Host

open Proto (Envelope Id Reason encodeMessage decodeMessage)

/-- The farewell of `dropClient`. -/
def rejection (clientId : UInt32) (reason : Reason) (text : Bytes) : HostEffect :=
  .sendAndClose clientId Id.HostReject.code (encodeMessage
    { type := .HostReject, body := .hostReject { reasonCode := reason.code, reasonText := text } })

namespace HostSession

/-- How many records beside that of `id` are in such a state. -/
def othersIn (s : HostSession) (id : UInt32) (p : ConnectionState → Bool) : Nat :=
  s.clients.toList.countP fun entry => p entry.2.state && decide (entry.1 ≠ id)

theorem size_eq_othersIn (s : HostSession) (id : UInt32) (p : ConnectionState → Bool)
    {rec : ClientRecord} (h : s.clients[id]? = some rec) :
    s.clients.size = s.othersIn id p + s.othersIn id (fun st => !p st) + 1 :=
  size_eq_countP_beside s.clients (fun rec => p rec.state) h

/-! ## Hellos -/

/-- The event is a hello frame of the client. -/
def HelloFrame (e : HostEvent) (id : UInt32) : Prop :=
  ∃ type payload now later env hello, e = .frame id type payload now later ∧
    decodeMessage type payload = some env ∧ env.body = .clientHello hello

/-- The hello is handled, for a client that has not said one before. -/
def SaysHello (s : HostSession) (e : HostEvent) (id : UInt32) : Prop :=
  HelloFrame e id ∧ s.running = true ∧ s.stopping = false ∧ s.stateOf id = some .Connecting

/-- The client is refused with `ServerFull`. -/
def RefusedAsFull (s : HostSession) (e : HostEvent) (id : UInt32) : Prop :=
  ∃ text, rejection id .ServerFull text ∈ (s.handle e).2

section Hello

variable {s : HostSession} {e : HostEvent} {id : UInt32} {rec : ClientRecord} {text : Bytes}

theorem rejection_mem_dropClient (h : s.clients[id]? = some rec) (reason : Reason) :
    rejection id reason text ∈ (s.dropClient id true reason text).2 := by
  have hmem := mem_of_lookup s.clients h
  simp only [dropClient, h, if_true, sendAndClose, hmem]
  exact List.mem_append_left _ (List.mem_singleton.2 rfl)

/-- The first bytes of a rejection are its reason. -/
theorem code_eq_of_rejection_eq {reason reason' : Reason} {text' : Bytes}
    (h : rejection id reason text = rejection id reason' text') : reason.code = reason'.code := by
  simp only [rejection, HostEffect.sendAndClose.injEq, true_and, encodeMessage, Proto.writeMsg,
    Net.ByteWriter.u16] at h
  have hbytes := (List.append_inj h (by simp)).1
  rw [← u16_leBytes reason.code, hbytes, u16_leBytes]

theorem code_of_rejection_mem {reason reason' : Reason} {text' : Bytes}
    (hmem : rejection id reason text ∈ (s.dropClient id true reason' text').2) :
    reason.code = reason'.code := by
  unfold dropClient at hmem
  split at hmem
  · simp at hmem
  dsimp only at hmem
  rcases List.mem_append.1 hmem with hmem | hmem
  · simp only [if_true, sendAndClose] at hmem
    split at hmem
    · exact code_eq_of_rejection_eq (List.mem_singleton.1 hmem)
    · simp at hmem
  · unfold setState at hmem
    split at hmem
    · simp at hmem
    · simp [rejection] at hmem

theorem refused_admitHello_iff (h : s.clients[id]? = some rec) (hello : Proto.Msg.ClientHello) :
    (∃ text, rejection id .ServerFull text ∈ (s.admitHello id rec hello).2) ↔
      s.params.maxClients < s.clients.size := by
  unfold admitHello
  split
  · next hfull => exact iff_of_true ⟨_, rejection_mem_dropClient h _⟩ hfull
  next hfull =>
  refine iff_of_false ?_ hfull
  rintro ⟨text, hmem⟩
  split at hmem
  · exact absurd (code_of_rejection_mem hmem) (by decide)
  dsimp only at hmem
  split at hmem
  · simp at hmem
  · simp [rejection] at hmem

/-- **The test that `handleClientHello` makes**: the size of the whole table. -/
theorem refusedAsFull_iff (hframe : HelloFrame e id) :
    s.RefusedAsFull e id ↔ s.SaysHello e id ∧ s.params.maxClients < s.clients.size := by
  have hsilent : (s.handle e).2 = [] → ¬ s.SaysHello e id →
      (s.RefusedAsFull e id ↔ s.SaysHello e id ∧ s.params.maxClients < s.clients.size) := by
    intro hout hnot
    refine iff_of_false ?_ (fun h => hnot h.1)
    rintro ⟨text, hmem⟩
    rw [hout] at hmem
    simp at hmem
  obtain ⟨type, payload, now, later, env, hello, rfl, hdec, hbody⟩ := hframe
  have hknown := Proto.knownId_of_decodeMessage hdec
  by_cases hrun : s.running = false
  · exact hsilent (by simp [handle, hrun]) (fun h => absurd h.2.1 (by simp [hrun]))
  by_cases hstop : s.stopping = true
  · exact hsilent (by simp [handle, hrun, handleFrame, hstop])
      (fun h => absurd h.2.2.1 (by simp [hstop]))
  cases hrec : s.clients[id]? with
  | none =>
      refine hsilent (by simp [handle, hrun, handleFrame, hstop, hknown, hrec]) (fun h => ?_)
      have hnone := s.stateOf_eq_none_of_lookup id hrec
      exact absurd (hnone.symm.trans h.2.2.2) (by simp)
  | some rec =>
      -- the activity time is stored first
      set t := s.withClients (s.clients.insert id { rec with lastActivity := now }) with ht
      have hlookup : t.clients[id]? = some { rec with lastActivity := now } := by
        rw [ht, withClients, lookup_insert, if_pos rfl]
      have hsize : t.clients.size = s.clients.size := size_insert_of_some s.clients hrec
      have hhandle :
          s.handle (.frame id type payload now later) = t.handleClientHello id hello := by
        simp [handle, hrun, handleFrame, hstop, hknown, hrec, hdec, dispatch, hbody, ht]
      have hstate := s.stateOf_of_lookup id hrec
      by_cases hconn : rec.state = .Connecting
      · have hhello : s.SaysHello (.frame id type payload now later) id :=
          ⟨⟨type, payload, now, later, env, hello, rfl, hdec, hbody⟩, by simpa using hrun,
            by simpa using hstop, by rw [hstate, hconn]⟩
        rw [RefusedAsFull, hhandle, handleClientHello, hlookup]
        dsimp only
        rw [if_neg (not_not.2 hconn)]
        refine (refused_admitHello_iff ?_ hello).trans ?_
        · rw [withClients, lookup_insert, if_pos rfl]
        · have hinsert : (t.clients.insert id
              { rec with lastActivity := now, name := helloName hello }).size = s.clients.size :=
            (size_insert_of_some t.clients hlookup).trans hsize
          simp only [withClients, hinsert, hhello, true_and]
          rfl
      · refine hsilent ?_ (fun h => hconn (Option.some.inj (hstate.symm.trans h.2.2.2)))
        simp [hhandle, handleClientHello, hlookup, hconn]

end Hello

/-! ## Runs -/

/-- Whoever is refused with `ServerFull` finds `maxClients` other players. -/
def FullMeansFull (s₀ : HostSession) (es : List HostEvent) : Prop :=
  ∀ p ∈ history step s₀ es, ∀ id, HelloFrame p.2 id → p.1.RefusedAsFull p.2 id →
    p.1.params.maxClients ≤ p.1.othersIn id isPlayer

/-- There are free player slots, and the records that are no players fill them. -/
def CrowdedOut (s : HostSession) (id : UInt32) : Prop :=
  s.othersIn id isPlayer < s.params.maxClients ∧
    s.params.maxClients - s.othersIn id isPlayer ≤ s.othersIn id (fun st => !isPlayer st)

/-- One event. -/
theorem full_means_full_step (s : HostSession) (e : HostEvent) (id : UInt32) :
    (HelloFrame e id → s.RefusedAsFull e id →
        s.params.maxClients ≤ s.othersIn id isPlayer) ↔
      (s.SaysHello e id → ¬ s.CrowdedOut id) := by
  have hsize : s.SaysHello e id → s.clients.size
      = s.othersIn id isPlayer + s.othersIn id (fun st => !isPlayer st) + 1 := by
    intro hhello
    obtain ⟨rec, hrec, -⟩ := Option.map_eq_some_iff.1 hhello.2.2.2
    exact s.size_eq_othersIn id isPlayer hrec
  constructor
  · intro hfull hhello ⟨hfree, hfill⟩
    have hrefused : s.RefusedAsFull e id :=
      (refusedAsFull_iff hhello.1).2 ⟨hhello, by have := hsize hhello; omega⟩
    have := hfull hhello.1 hrefused
    omega
  · intro hroom hframe hrefused
    obtain ⟨hhello, hfull⟩ := (refusedAsFull_iff hframe).1 hrefused
    have hnot := hroom hhello
    have := hsize hhello
    by_contra hfree
    exact hnot ⟨by omega, by omega⟩

/-- **When `SERVER_FULL` means full.** A run refuses clients for want of room only when `maxClients`
    others are players, if and only if no client says hello while connections without a hello and
    kicked clients fill the free slots. -/
theorem server_full_means_full_iff (params : HostSessionParams) (sessionCode : Bytes)
    (appHandler : Bool) (es : List HostEvent) :
    FullMeansFull (started params sessionCode appHandler) es ↔
      ∀ p ∈ history step (started params sessionCode appHandler) es, ∀ id,
        p.1.SaysHello p.2 id → ¬ p.1.CrowdedOut id := by
  constructor
  · intro hfull p hp id
    exact (full_means_full_step p.1 p.2 id).1 (hfull p hp id)
  · intro hroom p hp id
    exact (full_means_full_step p.1 p.2 id).2 (hroom p hp id)

theorem FullMeansFull.at_last {s₀ : HostSession} {pre : List HostEvent} {e : HostEvent}
    {id : UInt32} (h : FullMeansFull s₀ (pre ++ [e])) (hframe : HelloFrame e id)
    (hrefused : (runFrom step s₀ pre).RefusedAsFull e id) :
    (runFrom step s₀ pre).params.maxClients ≤ (runFrom step s₀ pre).othersIn id isPlayer :=
  h _ ((mem_history_iff step _ _ _ _).2 ⟨pre, [], rfl, rfl⟩) id hframe hrefused

/-- Four connections that never say hello. -/
def idleConnections : List HostEvent :=
  [.newConnection (ascii "203.0.113.7:4000") 0, .newConnection (ascii "203.0.113.7:4001") 0,
    .newConnection (ascii "203.0.113.7:4002") 0, .newConnection (ascii "203.0.113.7:4003") 0]

/-- All of them are kicked; the records stay until the connections close. -/
def kickedConnections : List HostEvent :=
  idleConnections ++ [.kickClient 1 [], .kickClient 2 [], .kickClient 3 [], .kickClient 4 [],
    .runTask 1, .runTask 1, .runTask 1, .runTask 1]

/-- After either, the first client to say hello is refused with no player in the session. -/
theorem hello_refused_without_players :
    ¬ FullMeansFull (started {} (ascii "ABCD-EFGH") true)
        (idleConnections ++ [.newConnection (ascii "203.0.113.9:4000") 2,
          helloFrame 5 (ascii "ABCD-EFGH") 3]) ∧
      ¬ FullMeansFull (started {} (ascii "ABCD-EFGH") true)
        (kickedConnections ++ [.newConnection (ascii "203.0.113.9:4000") 2,
          helloFrame 5 (ascii "ABCD-EFGH") 3]) := by
  have hframe : HelloFrame (helloFrame 5 (ascii "ABCD-EFGH") 3) 5 :=
    ⟨_, _, _, _,
      { type := .ClientHello, body := .clientHello { sessionCode := ascii "ABCD-EFGH" } }, _, rfl,
      by decide +kernel, rfl⟩
  constructor
  · intro hfull
    rw [List.append_cons] at hfull
    have hcap := hfull.at_last hframe
      ⟨ascii "The session already has the maximum number of players.", by decide +kernel⟩
    exact absurd hcap (by decide +kernel)
  · intro hfull
    rw [List.append_cons] at hfull
    have hcap := hfull.at_last hframe
      ⟨ascii "The session already has the maximum number of players.", by decide +kernel⟩
    exact absurd hcap (by decide +kernel)

end HostSession

end RemotePlay.Host
