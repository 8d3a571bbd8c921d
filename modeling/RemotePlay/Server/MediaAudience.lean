import RemotePlay.Server.Steps

set_option autoImplicit false

/-! # Who gets the media of a session

`client_endpoints` and `session.clients` are two tables under the same indexes. `RPBIND` writes the
first and reads the second; joining and leaving change the second only. So an entry of
`client_endpoints` belongs to the slot at its index from the `RPBIND` on, until that slot is freed. -/

namespace RemotePlay.Server

open SignalingServer

/-! ## The relays in one step -/

namespace SignalingServer

/-- The index at which the event binds an endpoint in the relay of the session, if it does. -/
def binds (st : SignalingServer) (s : SessionRef) : ServerEvent → Option (Nat × Address)
  | .datagram t data addr =>
      if t = s ∧ (st.session s).udpRelay ≠ .closed ∧ 6 ≤ data.length
          ∧ UdpSessionRelay.isBind data = true then
        match tokenOwner (st.session s) (bindToken data) with
        | .client idx => some (idx, addr)
        | _ => none
      else none
  | _ => none

/-- The event frees the slot at an index. -/
def Frees (st : SignalingServer) (s : SessionRef) (idx : Nat) (e : ServerEvent) : Prop :=
  ∃ slot, (st.session s).clients.get? idx = some slot ∧ st.leaving e = some slot.signalingConn

/-- Only a datagram at a session reaches its relay. -/
theorem udp_step (st : SignalingServer) (e : ServerEvent) (s : SessionRef)
    (h : ∀ data addr, e ≠ .datagram s data addr) : (st.step e).udp s = st.udp s := by
  cases hc : e.conn? with
  | some c =>
      exact (st.step_changes e hc).frame (fun u => u.udp s) (fun _ _ => rfl) (fun _ _ _ => rfl)
        (fun _ _ => rfl) (fun _ _ _ _ => rfl)
  | none =>
      cases e with
      | expire now => rfl
      | relay e => rfl
      | datagram t data addr =>
          have hne : s ≠ t := fun heq => h data addr (heq ▸ rfl)
          show (st.onDatagram t data addr).udp s = st.udp s
          unfold onDatagram
          split
          · rfl
          · exact Function.update_of_ne hne ..
      | _ => exact absurd hc (by simp [ServerEvent.conn?])

theorem binds_datagram (st : SignalingServer) (s : SessionRef) (data : Bytes) (addr : Address) :
    st.binds s (.datagram s data addr) =
      if (st.session s).udpRelay ≠ .closed ∧ 6 ≤ data.length
          ∧ UdpSessionRelay.isBind data = true then
        match tokenOwner (st.session s) (bindToken data) with
        | .client idx => some (idx, addr)
        | _ => none
      else none := by
  simp only [binds, true_and]

/-- **The endpoints in one step**: only `RPBIND` writes an endpoint, and nothing takes one away. -/
theorem clientEndpoints_step (st : SignalingServer) (e : ServerEvent) (s : SessionRef) (idx : Nat) :
    ((st.step e).udp s).clientEndpoints.get? idx =
      match st.binds s e with
      | some (i, addr) => if i = idx then some addr else (st.udp s).clientEndpoints.get? idx
      | none => (st.udp s).clientEndpoints.get? idx := by
  by_cases hat : ∃ data addr, e = .datagram s data addr
  · obtain ⟨data, addr, rfl⟩ := hat
    show ((st.onDatagram s data addr).udp s).clientEndpoints.get? idx = _
    rw [binds_datagram]
    unfold onDatagram
    by_cases hclosed : (st.session s).udpRelay = .closed
    · rw [if_pos hclosed, if_neg]
      rintro ⟨hopen, -⟩
      exact hopen hclosed
    · rw [if_neg hclosed]
      dsimp only
      rw [Function.update_self]
      unfold UdpSessionRelay.datagramReceived
      by_cases hlen : data.length < 6
      · rw [if_pos hlen, if_neg]
        rintro ⟨-, hge, -⟩
        exact absurd hlen (Nat.not_lt.2 hge)
      · rw [if_neg hlen]
        cases hbind : UdpSessionRelay.isBind data with
        | false => simp
        | true =>
            rw [if_pos rfl, if_pos ⟨hclosed, Nat.not_lt.1 hlen, rfl⟩]
            cases tokenOwner (st.session s) (bindToken data) with
            | host => rfl
            | nobody => rfl
            | client i => exact Dict.get?_assign ..
  · have hother : ∀ data addr, e ≠ .datagram s data addr :=
      fun data addr heq => hat ⟨data, addr, heq⟩
    have hbinds : st.binds s e = none := by
      cases e with
      | datagram t data addr =>
          refine if_neg ?_
          rintro ⟨rfl, -⟩
          exact hother data addr rfl
      | _ => rfl
    rw [udp_step st e s hother, hbinds]

end SignalingServer

/-! ## Where an entry comes from -/

/-- In the run, an endpoint has been bound in the relay of a session with a token that was a player's. -/
def BoundWith (es : List ServerEvent) (s : SessionRef) (ep : Address) (token : String) : Prop :=
  ∃ pre data post idx, es = pre ++ .datagram s data ep :: post ∧
    (serverRun pre).binds s (.datagram s data ep) = some (idx, ep) ∧ bindToken data = token

/-- The slot at an index has been freed after the last `RPBIND` for the index. -/
def Vacated (es : List ServerEvent) (s : SessionRef) (idx : Nat) : Prop :=
  ∃ pre e post, es = pre ++ e :: post ∧ (serverRun pre).Frees s idx e ∧
    ∀ pre' e' post', post = pre' ++ e' :: post' → ∀ addr,
      (serverRun (pre ++ e :: pre')).binds s e' ≠ some (idx, addr)

/-- The endpoint has been bound with the token of a player that is in the session after the run. -/
def CurrentPlayer (es : List ServerEvent) (s : SessionRef) (ep : Address) : Prop :=
  ∃ idx slot, ((serverRun es).session s).clients.get? idx = some slot ∧
    BoundWith es s ep slot.token

theorem BoundWith.concat {es : List ServerEvent} {s : SessionRef} {ep : Address} {token : String}
    (h : BoundWith es s ep token) (e : ServerEvent) : BoundWith (es ++ [e]) s ep token := by
  obtain ⟨pre, data, post, idx, rfl, hbinds, htoken⟩ := h
  exact ⟨pre, data, post ++ [e], idx, by simp, hbinds, htoken⟩

theorem Vacated.concat {es : List ServerEvent} {s : SessionRef} {idx : Nat} (h : Vacated es s idx)
    {e : ServerEvent} (he : ∀ addr, (serverRun es).binds s e ≠ some (idx, addr)) :
    Vacated (es ++ [e]) s idx := by
  obtain ⟨pre, d, post, rfl, hfrees, hlast⟩ := h
  refine ⟨pre, d, post ++ [e], by simp, hfrees, ?_⟩
  intro pre' e' post' heq addr
  rcases List.append_eq_append_iff.1 heq with ⟨rest, rfl, hrest⟩ | ⟨rest, rfl, hrest⟩
  · cases rest with
    | nil =>
        obtain ⟨rfl, -⟩ := List.cons.inj hrest
        rw [List.append_nil]
        exact he addr
    | cons x rest => exact absurd hrest (by simp)
  · cases rest with
    | nil =>
        obtain ⟨rfl, -⟩ := List.cons.inj hrest
        rw [List.append_nil] at he
        exact he addr
    | cons x rest =>
        obtain ⟨rfl, -⟩ := List.cons.inj hrest
        exact hlast pre' e' rest rfl addr

/-- Who binds an endpoint has a slot. -/
theorem slot_of_binds {st : SignalingServer} {s : SessionRef} {e : ServerEvent} {idx : Nat}
    {addr : Address} (h : st.binds s e = some (idx, addr)) :
    ∃ data slot, e = .datagram s data addr ∧ (st.session s).clients.get? idx = some slot ∧
      bindToken data = slot.token := by
  unfold binds at h
  split at h
  · next t data addr' =>
      split at h
      · next hguard =>
          obtain ⟨rfl, -⟩ := hguard
          split at h
          · next i howner =>
              obtain ⟨rfl, rfl⟩ := Prod.mk.inj (Option.some.inj h)
              obtain ⟨slot, hget, htoken⟩ := slot_of_tokenOwner howner
              exact ⟨data, slot, rfl, hget, htoken.symm⟩
          · exact absurd h (by simp)
      · exact absurd h (by simp)
  · exact absurd h (by simp)

theorem session_step_datagram (st : SignalingServer) (s : SessionRef) (data : Bytes)
    (addr : Address) (t : SessionRef) :
    (st.step (.datagram s data addr)).session t = st.session t := by
  show (st.onDatagram s data addr).session t = st.session t
  unfold onDatagram
  split
  · rfl
  · rfl

/-- **An entry of `client_endpoints`** is that of the slot at its index, or the slot has been freed
    since. -/
theorem current_or_vacated (es : List ServerEvent) (s : SessionRef) (idx : Nat) (ep : Address)
    (h : ((serverRun es).udp s).clientEndpoints.get? idx = some ep) :
    (∃ slot, ((serverRun es).session s).clients.get? idx = some slot ∧
      BoundWith es s ep slot.token) ∨ Vacated es s idx := by
  induction es using List.reverseRecOn with
  | nil => nomatch h
  | append_singleton es e ih =>
      have hrun : serverRun (es ++ [e]) = (serverRun es).step e := runFrom_concat ..
      rw [hrun, clientEndpoints_step] at h
      by_cases hnew : ∃ addr, (serverRun es).binds s e = some (idx, addr)
      · left
        obtain ⟨addr, hbinds⟩ := hnew
        rw [hbinds] at h
        dsimp only at h
        rw [if_pos rfl] at h
        obtain rfl := Option.some.inj h
        obtain ⟨data, slot, rfl, hget, htoken⟩ := slot_of_binds hbinds
        refine ⟨slot, ?_, es, data, [], idx, rfl, hbinds, htoken⟩
        rw [hrun, session_step_datagram]
        exact hget
      · have hnot : ∀ addr, (serverRun es).binds s e ≠ some (idx, addr) :=
          fun addr heq => hnew ⟨addr, heq⟩
        have hold : ((serverRun es).udp s).clientEndpoints.get? idx = some ep := by
          split at h
          · next i addr hbinds =>
              rwa [if_neg] at h
              rintro rfl
              exact hnot addr hbinds
          · exact h
        rcases ih hold with ⟨slot, hget, hbound⟩ | hvacated
        · rw [hrun]
          cases ((coherent_serverRun es).step e).2 with
          | kept hleave hgrant hsame =>
              exact Or.inl ⟨slot, (hsame s idx slot).2 hget, hbound.concat e⟩
          | freed c hleave hgrant hfreed =>
              by_cases hc : slot.signalingConn = c
              · right
                refine ⟨es, e, [], rfl, ⟨slot, hget, by rw [hleave, hc]⟩, ?_⟩
                intro pre' e' post' heq
                exact absurd heq (by simp)
              · exact Or.inl ⟨slot, (hfreed s idx slot).2 ⟨hget, hc⟩, hbound.concat e⟩
          | taken t new hleave hgrant hfree hrole hsame =>
              left
              refine ⟨slot, ?_, hbound.concat e⟩
              rw [hsame, if_neg]
              · exact hget
              · rintro ⟨rfl, rfl⟩
                exact absurd (hget.symm.trans hfree) (by simp)
        · exact Or.inr (hvacated.concat hnot)

/-! ## Forwarding -/

namespace SignalingServer

theorem forwarded_of_isMedia (st : SignalingServer) (s : SessionRef) {data : Bytes}
    (h : UdpSessionRelay.isMedia data = true) (addr : Address) :
    st.forwarded (.datagram s data addr) = if (st.session s).udpRelay = .closed then []
      else ((st.udp s).route addr).map (fun ep => (data, ep)) := by
  unfold forwarded
  dsimp only
  rw [UdpSessionRelay.datagramReceived_of_isMedia _ _ h]

end SignalingServer

/-- No player whose endpoint is about to be used has left since its `RPBIND`: a datagram of the host
    reaches no endpoint of a slot that has been freed, and the source of another one is the endpoint
    of a slot that has not been. -/
def Audience (es : List ServerEvent) (s : SessionRef) (addr : Address) : Prop :=
  if ((serverRun es).udp s).hostEndpoint = some addr then
    ∀ idx ep, ((serverRun es).udp s).clientEndpoints.get? idx = some ep → ep ≠ addr →
      ¬ Vacated es s idx
  else
    ((serverRun es).udp s).hostEndpoint ≠ none →
      addr ∈ ((serverRun es).udp s).clientEndpoints.values →
      ∃ idx, ((serverRun es).udp s).clientEndpoints.get? idx = some addr ∧ ¬ Vacated es s idx

/-- Nobody is gone as long as nobody leaves. -/
theorem audience_of_stay {es : List ServerEvent}
    (h : ∀ e ∈ es, ∀ st : SignalingServer, st.leaving e = none) (s : SessionRef) (addr : Address) :
    Audience es s addr := by
  have hkept : ∀ idx, ¬ Vacated es s idx := by
    rintro idx ⟨pre, e, post, rfl, ⟨slot, -, hleave⟩, -⟩
    rw [h e (by simp)] at hleave
    exact absurd hleave (by simp)
  unfold Audience
  split
  · exact fun idx _ _ _ => hkept idx
  · intro _ hvalues
    obtain ⟨idx, hget⟩ := (Dict.mem_values_iff _ _).1 hvalues
    exact ⟨idx, hget, hkept idx⟩

/-- Media goes only to current players in the run. -/
structure MediaToCurrent (es : List ServerEvent) : Prop where
  /-- Every endpoint to which a datagram of the host is forwarded is that of a current player. -/
  toPlayers : ∀ pre s data addr, pre ++ [.datagram s data addr] <+: es →
    UdpSessionRelay.isMedia data = true → ((serverRun pre).udp s).hostEndpoint = some addr →
    ∀ d ep, (d, ep) ∈ (serverRun pre).forwarded (.datagram s data addr) → CurrentPlayer pre s ep
  /-- A datagram that is forwarded to the host comes from the endpoint of a current player. -/
  toHost : ∀ pre s data addr, pre ++ [.datagram s data addr] <+: es →
    UdpSessionRelay.isMedia data = true → ((serverRun pre).udp s).hostEndpoint ≠ some addr →
    (serverRun pre).forwarded (.datagram s data addr) ≠ [] → CurrentPlayer pre s addr

/-- **Media goes only to current players** in every run in which no slot has been freed since the
    `RPBIND` of the endpoints that a datagram uses. -/
theorem media_to_current_of_audience (es : List ServerEvent)
    (h : ∀ pre s data addr, pre ++ [.datagram s data addr] <+: es →
      UdpSessionRelay.isMedia data = true → Audience pre s addr) : MediaToCurrent es := by
  have hcurrent : ∀ pre s idx ep,
      ((serverRun pre).udp s).clientEndpoints.get? idx = some ep → ¬ Vacated pre s idx →
      CurrentPlayer pre s ep := by
    intro pre s idx ep hget hkept
    rcases current_or_vacated pre s idx ep hget with ⟨slot, hslot, hbound⟩ | hvacated
    · exact ⟨idx, slot, hslot, hbound⟩
    · exact absurd hvacated hkept
  constructor
  · intro pre s data addr hpre hmedia hhost d ep hmem
    have haudience := h pre s data addr hpre hmedia
    rw [Audience, if_pos hhost] at haudience
    rw [forwarded_of_isMedia _ _ hmedia] at hmem
    split at hmem
    · exact absurd hmem (by simp)
    · obtain ⟨ep', hroute, heq⟩ := List.mem_map.1 hmem
      obtain ⟨-, rfl⟩ := Prod.mk.inj heq
      rw [UdpSessionRelay.route, if_pos hhost] at hroute
      obtain ⟨hvalues, hne⟩ := List.mem_filter.1 hroute
      obtain ⟨idx, hget⟩ := (Dict.mem_values_iff _ _).1 hvalues
      exact hcurrent pre s idx ep' hget (haudience idx ep' hget (of_decide_eq_true hne))
  · intro pre s data addr hpre hmedia hhost hsome
    have haudience := h pre s data addr hpre hmedia
    rw [Audience, if_neg hhost] at haudience
    rw [forwarded_of_isMedia _ _ hmedia] at hsome
    split at hsome
    · exact absurd rfl hsome
    · rw [UdpSessionRelay.route, if_neg hhost] at hsome
      split at hsome
      · next hvalues =>
          have hbound : ((serverRun pre).udp s).hostEndpoint ≠ none := by
            intro hnone
            rw [hnone] at hsome
            exact hsome rfl
          obtain ⟨idx, hget, hkept⟩ := haudience hbound hvalues
          exact hcurrent pre s idx addr hget hkept
      · exact absurd rfl hsome

/-- A host and a player come in and bind their endpoints. -/
def bothBind : List ServerEvent :=
  hostComesIn 0 "ABCDEFGH" "h" ++ playerComesIn 1 "ABCDEFGH" "p" ++
    [.datagram 0 (ascii "RPBINDh") { ip := "198.51.100.1", port := 5000 },
      .datagram 0 (ascii "RPBINDp") { ip := "203.0.113.1", port := 6000 }]

theorem media_to_current_of_audience_stay : MediaToCurrent
    (bothBind ++ [.datagram 0 (ascii "RRvideo") { ip := "198.51.100.1", port := 5000 },
      .datagram 0 (ascii "RRinput") { ip := "203.0.113.1", port := 6000 }]) := by
  have hstay : ∀ e ∈ bothBind ++ [ServerEvent.datagram 0 (ascii "RRvideo") { ip := "198.51.100.1", port := 5000 },
      .datagram 0 (ascii "RRinput") { ip := "203.0.113.1", port := 6000 }],
      ∀ st : SignalingServer, st.leaving e = none := by
    simp only [bothBind, hostComesIn, playerComesIn, List.cons_append, List.nil_append,
      List.forall_mem_cons]
    simp [leaving]
  refine media_to_current_of_audience _ ?_
  rintro pre s data addr ⟨post, hpre⟩ -
  refine audience_of_stay ?_ s addr
  intro e he
  exact hstay e (by simp [← hpre, he])

/-- The player leaves, and the host goes on streaming. -/
def streamAfterLeave : List ServerEvent :=
  bothBind ++ [.line 1 (.request .leave) {},
    .datagram 0 (ascii "RRvideo") { ip := "198.51.100.1", port := 5000 }]

theorem host_streams_to_departed : ¬ MediaToCurrent streamAfterLeave := by
  intro h
  have hnobody : ((serverRun (bothBind ++ [.line 1 (.request .leave) {}])).session 0).clients.toList
      = [] := by decide +kernel
  obtain ⟨idx, slot, hget, -⟩ := h.toPlayers (bothBind ++ [.line 1 (.request .leave) {}]) 0
    (ascii "RRvideo") { ip := "198.51.100.1", port := 5000 } List.prefix_rfl (by decide +kernel)
    (by decide +kernel) (ascii "RRvideo") { ip := "203.0.113.1", port := 6000 }
    (by decide +kernel)
  have hmem := (Dict.mem_toList_iff _ idx slot).2 hget
  rw [hnobody] at hmem
  exact absurd hmem (by simp)

end RemotePlay.Server
