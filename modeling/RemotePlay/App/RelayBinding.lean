import RemotePlay.Networking.SealedTransport
import RemotePlay.Server.TcpRelay
import RemotePlay.Server.UdpRelay

set_option autoImplicit false

/-! # The media sockets of an internet session at the relay

`startStreamFor` opens one UDP socket for each player, and in internet mode each of them binds itself
to the relay of the session with the token of the host. The relay keeps one endpoint for the host.
Here both sides are put together: the sockets send their `RPBIND`, these and any other datagrams
reach the relay in any order, and then media is forwarded. -/

namespace RemotePlay.App

open Net Server
open UdpSessionRelay (isBind isMedia)

variable {σ : Type}

/-! ## The sockets -/

/-- The media socket of one of the two sides, for the stream of a player. -/
structure MediaSocket where
  side : Side
  player : Nat
deriving DecidableEq, Repr

/-- What a socket does to bind itself, and what its loop then runs: on the host the internet branch of
    `onStreamStart`, on the player what the stream thread does when it goes by the relay. -/
def bindToRelay (relay : Endpoint) (token : String) : Side → List UdpEvent
  | .host =>
      [.setPeer relay, .setRelayFallback relay, .sendRelayBind (ascii token), .runPosted false 0]
  | .client =>
      [.setPeer relay, .sendRelayBind (ascii token), .setRelayFallback relay, .runPosted false 0]

/-- The datagrams that a run of events makes a transport send to an endpoint. -/
def sentTo (sink : UdpCryptoSink σ) (target : Endpoint) : UdpTransport σ → List UdpEvent → List Bytes
  | _, [] => []
  | t, e :: es =>
      match t.handle sink e with
      | .error _ => []
      | .ok (t, out) =>
          out.filterMap (fun effect =>
            match effect with
            | .sent ep bytes => if ep = target then some bytes else none
            | _ => none) ++ sentTo sink target t es

/-- The transport has a socket and nothing to do. -/
structure JustBound (t : UdpTransport σ) : Prop where
  running : t.running = true
  socket : t.socket = true
  posted : t.posted = []

/-- A socket that binds itself sends one datagram to the relay. -/
theorem sentTo_bindToRelay (sink : UdpCryptoSink σ) {t : UdpTransport σ} (h : JustBound t)
    (relay : Endpoint) {token : String} (hlen : token.toList.length = 32) (side : Side) :
    sentTo sink relay t (bindToRelay relay token side) = [ascii "RPBIND" ++ ascii token] := by
  have hascii : (ascii token).length = 32 := by rw [ascii, List.length_map, hlen]
  have htake : (ascii token).take 32 = ascii token :=
    List.take_of_length_le (Nat.le_of_eq hascii)
  cases side with
  | host =>
      simp [sentTo, bindToRelay, UdpTransport.handle, UdpTransport.setPeer,
        UdpTransport.sendRelayBind, UdpTransport.post, UdpTransport.runTask, h.running, h.socket,
        h.posted, hascii, htake]
  | client =>
      simp [sentTo, bindToRelay, UdpTransport.handle, UdpTransport.setPeer,
        UdpTransport.sendRelayBind, UdpTransport.post, UdpTransport.runTask, h.running, h.socket,
        h.posted, hascii, htake]

/-! ## The session -/

/-- `secrets.token_hex(16)` draws 32 hexadecimal digits. -/
def isTokenHex (token : String) : Bool :=
  token.toList.length == 32 && token.toList.all "0123456789abcdef".toList.contains

theorem isTokenHex_iff {token : String} :
    isTokenHex token = true ↔
      token.toList.length = 32 ∧ ∀ c ∈ token.toList, c ∈ "0123456789abcdef".toList := by
  simp only [isTokenHex, Bool.and_eq_true, beq_iff_eq, List.all_eq_true, List.contains_iff_mem]

theorem length_of_isTokenHex {token : String} (h : isTokenHex token = true) :
    token.toList.length = 32 := (isTokenHex_iff.1 h).1

theorem bindToken_of_isTokenHex {token : String} (h : isTokenHex token = true) :
    bindToken (ascii "RPBIND" ++ ascii token) = token := by
  have hall : "0123456789abcdef".toList.all (fun c => c.utf8Size == 1) = true := by decide
  have hdigit := List.all_eq_true.1 hall
  refine bindToken_ascii (length_of_isTokenHex h) ?_
  intro c hc
  exact beq_iff_eq.1 (hdigit c ((isTokenHex_iff.1 h).2 c hc))

/-- A session with its players and all their media sockets, before the first datagram. -/
structure RelayedSession (σ : Type) where
  session : Session
  /-- Where the relay of the session listens. -/
  relay : Endpoint
  transport : MediaSocket → UdpTransport σ
  /-- The address under which the relay sees a socket. -/
  address : MediaSocket → Address
  bound : ∀ socket, JustBound (transport socket)
  distinct : Function.Injective address
  hostToken_hex : isTokenHex session.hostToken = true
  token_hex : ∀ i slot, session.clients.get? i = some slot → isTokenHex slot.token = true
  token_ne : ∀ i slot, session.clients.get? i = some slot → slot.token ≠ session.hostToken
  token_inj : ∀ i j a b, session.clients.get? i = some a → session.clients.get? j = some b →
    a.token = b.token → i = j

namespace RelayedSession

variable (p : RelayedSession σ) (sink : UdpCryptoSink σ)

/-- The indices of the players that have joined. -/
def players : List Nat := p.session.clients.toList.map Prod.fst

/-- The token with which a socket binds itself. -/
def token (socket : MediaSocket) : String :=
  match socket.side with
  | .host => p.session.hostToken
  | .client => ((p.session.clients.get? socket.player).map ClientSlot.token).getD ""

/-- The sockets of the players' streams, on both sides. -/
def sockets : List MediaSocket := p.players.flatMap (fun i => [⟨.host, i⟩, ⟨.client, i⟩])

/-- The datagrams by which the sockets bind themselves, as the relay receives them. -/
def binds : List (Bytes × Address) :=
  p.sockets.flatMap (fun socket =>
    (sentTo sink p.relay (p.transport socket)
      (bindToRelay p.relay (p.token socket) socket.side)).map (fun bytes => (bytes, p.address socket)))

/-- The relay after some datagrams. -/
def relayAfter (arrivals : List (Bytes × Address)) : UdpSessionRelay :=
  arrivals.foldl (fun u d => (u.datagramReceived p.session d.1 d.2).1) {}

/-- A datagram of the host's socket for a player is forwarded to the player, and one of the player to
    that socket. -/
def Serves (u : UdpSessionRelay) (data : Bytes) : Prop :=
  ∀ i ∈ p.players,
    (data, p.address ⟨.client, i⟩) ∈ (u.datagramReceived p.session data (p.address ⟨.host, i⟩)).2 ∧
    (data, p.address ⟨.host, i⟩) ∈ (u.datagramReceived p.session data (p.address ⟨.client, i⟩)).2

/-! ## Who binds what -/

theorem mem_players_iff (i : Nat) :
    i ∈ p.players ↔ ∃ slot, p.session.clients.get? i = some slot := by
  unfold players
  rw [List.mem_map]
  constructor
  · rintro ⟨⟨j, slot⟩, hmem, rfl⟩
    exact ⟨slot, (Dict.mem_toList_iff _ _ _).1 hmem⟩
  · rintro ⟨slot, hget⟩
    exact ⟨(i, slot), (Dict.mem_toList_iff _ _ _).2 hget, rfl⟩

theorem mem_sockets_iff (socket : MediaSocket) :
    socket ∈ p.sockets ↔ socket.player ∈ p.players := by
  unfold sockets
  rw [List.mem_flatMap]
  constructor
  · rintro ⟨i, hi, hmem⟩
    rcases List.mem_pair.1 hmem with rfl | rfl
    · exact hi
    · exact hi
  · intro hplayer
    refine ⟨socket.player, hplayer, ?_⟩
    obtain ⟨side, i⟩ := socket
    cases side with
    | host => exact List.mem_cons_self
    | client => exact List.mem_cons_of_mem _ List.mem_cons_self

/-- The token of a socket is one that the server has drawn. -/
theorem token_hex_of_mem {socket : MediaSocket} (h : socket.player ∈ p.players) :
    isTokenHex (p.token socket) = true := by
  obtain ⟨slot, hget⟩ := (p.mem_players_iff _).1 h
  unfold token
  cases socket.side with
  | host => exact p.hostToken_hex
  | client =>
      dsimp only
      rw [hget]
      exact p.token_hex _ slot hget

/-- The relay takes the token of a socket for that of its side. -/
theorem tokenOwner_token {socket : MediaSocket} (h : socket.player ∈ p.players) :
    tokenOwner p.session (p.token socket) =
      match socket.side with
      | .host => .host
      | .client => .client socket.player := by
  obtain ⟨slot, hget⟩ := (p.mem_players_iff _).1 h
  obtain ⟨side, i⟩ := socket
  cases side with
  | host => exact if_pos rfl
  | client =>
      have htoken : p.token ⟨.client, i⟩ = slot.token := by
        simp only [token, hget, Option.map_some, Option.getD_some]
      rw [htoken, tokenOwner, if_neg (p.token_ne i slot hget)]
      cases hfind : p.session.clients.toList.find? (fun item => item.2.token = slot.token) with
      | none =>
          have hmem := (Dict.mem_toList_iff _ i slot).2 hget
          exact absurd rfl (of_decide_eq_false
            (Bool.eq_false_iff.2 (List.find?_eq_none.1 hfind (i, slot) hmem)))
      | some item =>
          have hitem := (Dict.mem_toList_iff _ item.1 item.2).1 (List.mem_of_find?_eq_some hfind)
          have hsame : item.2.token = slot.token := by simpa using List.find?_some hfind
          exact congrArg TokenOwner.client (p.token_inj _ _ _ _ hitem hget hsame)

theorem mem_binds_iff (d : Bytes × Address) :
    d ∈ p.binds sink ↔ ∃ socket, socket.player ∈ p.players ∧
      d = (ascii "RPBIND" ++ ascii (p.token socket), p.address socket) := by
  unfold binds
  rw [List.mem_flatMap]
  constructor
  · rintro ⟨socket, hmem, hd⟩
    have hplayer := (p.mem_sockets_iff socket).1 hmem
    rw [sentTo_bindToRelay sink (p.bound socket) p.relay
      (length_of_isTokenHex (p.token_hex_of_mem hplayer)), List.map_singleton,
      List.mem_singleton] at hd
    exact ⟨socket, hplayer, hd⟩
  · rintro ⟨socket, hplayer, rfl⟩
    refine ⟨socket, (p.mem_sockets_iff socket).2 hplayer, ?_⟩
    rw [sentTo_bindToRelay sink (p.bound socket) p.relay
      (length_of_isTokenHex (p.token_hex_of_mem hplayer)), List.map_singleton]
    exact List.mem_singleton_self _

end RelayedSession

/-! ## The relay after the binds -/

/-- As whom a datagram binds its source. -/
def claimant (s : Session) (d : Bytes × Address) : TokenOwner :=
  if isBind d.1 then tokenOwner s (bindToken d.1) else .nobody

theorem received_eq (u : UdpSessionRelay) (s : Session) (d : Bytes × Address) :
    (u.datagramReceived s d.1 d.2).1 =
      match claimant s d with
      | .host => { u with hostEndpoint := some d.2 }
      | .client idx => { u with clientEndpoints := u.clientEndpoints.assign idx d.2 }
      | .nobody => u := by
  unfold UdpSessionRelay.datagramReceived claimant
  cases hbind : isBind d.1 with
  | false =>
      simp only [Bool.false_eq_true, if_false]
      split
      · rfl
      · rfl
  | true =>
      have hlen : ¬ d.1.length < 6 := by
        have htake := congrArg List.length (of_decide_eq_true hbind)
        rw [List.length_take] at htake
        have hsix : (ascii "RPBIND").length = 6 := rfl
        omega
      rw [if_neg hlen, if_pos rfl, if_pos rfl]
      cases tokenOwner s (bindToken d.1) with
      | host => rfl
      | client idx => rfl
      | nobody => rfl

/-- The last bind as the host counts. -/
theorem hostEndpoint_after (s : Session) (ds : List (Bytes × Address)) (u : UdpSessionRelay) :
    (ds.foldl (fun u d => (u.datagramReceived s d.1 d.2).1) u).hostEndpoint =
      ((ds.filter (fun d => claimant s d = .host)).getLast?.map Prod.snd).or u.hostEndpoint := by
  induction ds generalizing u with
  | nil => rfl
  | cons d ds ih =>
      rw [List.foldl_cons, ih, received_eq, List.filter_cons]
      cases hclaim : claimant s d with
      | host =>
          rw [if_pos (by simp), List.getLast?_cons]
          cases (ds.filter (fun d => claimant s d = .host)).getLast? with
          | none => rfl
          | some last => rfl
      | client idx => rw [if_neg (by simp)]
      | nobody => rw [if_neg (by simp)]

/-- The last bind with the token of a player counts. -/
theorem clientEndpoints_after (s : Session) (idx : Nat) (ds : List (Bytes × Address))
    (u : UdpSessionRelay) :
    (ds.foldl (fun u d => (u.datagramReceived s d.1 d.2).1) u).clientEndpoints.get? idx =
      ((ds.filter (fun d => claimant s d = .client idx)).getLast?.map Prod.snd).or
        (u.clientEndpoints.get? idx) := by
  induction ds generalizing u with
  | nil => rfl
  | cons d ds ih =>
      rw [List.foldl_cons, ih, received_eq, List.filter_cons]
      cases hclaim : claimant s d with
      | host => rw [if_neg (by simp)]
      | client i =>
          dsimp only
          rw [Dict.get?_assign]
          by_cases hi : i = idx
          · rw [if_pos hi, if_pos (by simp [hi]), List.getLast?_cons]
            cases (ds.filter (fun d => claimant s d = .client idx)).getLast? with
            | none => rfl
            | some last => rfl
          · rw [if_neg hi, if_neg (by simp [hi])]
      | nobody => rw [if_neg (by simp)]

namespace RelayedSession

variable (p : RelayedSession σ) (sink : UdpCryptoSink σ)

section AfterBinds

variable {arrivals : List (Bytes × Address)}
  (h : (arrivals.filter (fun d => isBind d.1)).Perm (p.binds sink))

include h

/-- Whoever binds itself with a token that the relay knows is one of the sockets. -/
theorem mem_claims_iff (owner : TokenOwner) (howner : owner ≠ .nobody) (d : Bytes × Address) :
    d ∈ arrivals.filter (fun d => claimant p.session d = owner) ↔
      ∃ socket, socket.player ∈ p.players ∧ tokenOwner p.session (p.token socket) = owner ∧
        d = (ascii "RPBIND" ++ ascii (p.token socket), p.address socket) := by
  have hbinds : d ∈ arrivals ∧ isBind d.1 = true ↔ d ∈ p.binds sink := by
    rw [← h.mem_iff, List.mem_filter]
  have hclaim : ∀ socket : MediaSocket, socket.player ∈ p.players →
      claimant p.session (ascii "RPBIND" ++ ascii (p.token socket), p.address socket)
        = tokenOwner p.session (p.token socket) := by
    intro socket hplayer
    have hbind : isBind (ascii "RPBIND" ++ ascii (p.token socket)) = true :=
      decide_eq_true (List.take_left' rfl)
    unfold claimant
    rw [if_pos hbind, bindToken_of_isTokenHex (p.token_hex_of_mem hplayer)]
  rw [List.mem_filter, decide_eq_true_eq]
  constructor
  · rintro ⟨hmem, howned⟩
    have hbind : isBind d.1 = true := by
      by_contra hnot
      rw [claimant, if_neg hnot] at howned
      exact howner howned.symm
    obtain ⟨socket, hplayer, rfl⟩ := (p.mem_binds_iff sink d).1 (hbinds.1 ⟨hmem, hbind⟩)
    exact ⟨socket, hplayer, (hclaim socket hplayer).symm.trans howned, rfl⟩
  · rintro ⟨socket, hplayer, howned, rfl⟩
    exact ⟨(hbinds.2 ((p.mem_binds_iff sink _).2 ⟨socket, hplayer, rfl⟩)).1,
      (hclaim socket hplayer).trans howned⟩

/-- The address of the last bind of an owner, when the owner has sockets at all. -/
theorem address_of_claims (owner : TokenOwner) (howner : owner ≠ .nobody) (a : Address)
    (hlast : ((arrivals.filter (fun d => claimant p.session d = owner)).getLast?.map Prod.snd)
      = some a) :
    ∃ socket, socket.player ∈ p.players ∧ tokenOwner p.session (p.token socket) = owner ∧
      a = p.address socket := by
  obtain ⟨d, hd, rfl⟩ := Option.map_eq_some_iff.1 hlast
  obtain ⟨socket, hplayer, howned, rfl⟩ :=
    (p.mem_claims_iff sink h owner howner d).1 (List.mem_of_getLast? hd)
  exact ⟨socket, hplayer, howned, rfl⟩

theorem claims_ne_none {socket : MediaSocket} (hplayer : socket.player ∈ p.players)
    (howner : tokenOwner p.session (p.token socket) ≠ .nobody) :
    ((arrivals.filter (fun d => claimant p.session d = tokenOwner p.session (p.token socket))).getLast?.map
      Prod.snd) ≠ none := by
  intro hnone
  have hmem := (p.mem_claims_iff sink h _ howner _).2 ⟨socket, hplayer, rfl, rfl⟩
  rw [Option.map_eq_none_iff, List.getLast?_eq_none_iff] at hnone
  rw [hnone] at hmem
  exact absurd hmem (by simp)

/-- The endpoint of a player is that of the player's socket. -/
theorem clientEndpoints_relayAfter (i : Nat) (a : Address) :
    (p.relayAfter arrivals).clientEndpoints.get? i = some a ↔
      i ∈ p.players ∧ a = p.address ⟨.client, i⟩ := by
  have hafter := clientEndpoints_after p.session i arrivals {}
  rw [Dict.get?_empty, Option.or_none] at hafter
  have heq : (p.relayAfter arrivals).clientEndpoints.get? i =
      (arrivals.filter (fun d => claimant p.session d = .client i)).getLast?.map Prod.snd := hafter
  rw [heq]
  have hsource : ∀ b, ((arrivals.filter (fun d => claimant p.session d = .client i)).getLast?.map
      Prod.snd) = some b → i ∈ p.players ∧ b = p.address ⟨.client, i⟩ := by
    intro b hlast
    obtain ⟨⟨side, j⟩, hplayer, howned, rfl⟩ :=
      p.address_of_claims sink h (.client i) (by simp) b hlast
    rw [p.tokenOwner_token hplayer] at howned
    cases side with
    | host => exact absurd howned (by simp)
    | client =>
        obtain rfl := TokenOwner.client.inj howned
        exact ⟨hplayer, rfl⟩
  constructor
  · exact hsource a
  · rintro ⟨hplayer, rfl⟩
    have hsocket : (MediaSocket.mk .client i).player ∈ p.players := hplayer
    have howner := p.tokenOwner_token hsocket
    have hne := p.claims_ne_none sink h hsocket (by rw [howner]; simp)
    rw [howner] at hne
    obtain ⟨b, hb⟩ := Option.ne_none_iff_exists'.1 hne
    rw [hb, (hsource b hb).2]

/-- The endpoint of the host is that of one of its sockets, as soon as there is a player. -/
theorem hostEndpoint_relayAfter :
    (∀ a, (p.relayAfter arrivals).hostEndpoint = some a →
      ∃ i ∈ p.players, a = p.address ⟨.host, i⟩) ∧
    (∀ i ∈ p.players, (p.relayAfter arrivals).hostEndpoint ≠ none) := by
  have hafter := hostEndpoint_after p.session arrivals {}
  rw [Option.or_none] at hafter
  have heq : (p.relayAfter arrivals).hostEndpoint =
      (arrivals.filter (fun d => claimant p.session d = .host)).getLast?.map Prod.snd := hafter
  rw [heq]
  constructor
  · intro a hlast
    obtain ⟨⟨side, i⟩, hplayer, howned, rfl⟩ := p.address_of_claims sink h .host (by simp) a hlast
    rw [p.tokenOwner_token hplayer] at howned
    cases side with
    | host => exact ⟨i, hplayer, rfl⟩
    | client => exact absurd howned (by simp)
  · intro i hplayer
    have hsocket : (MediaSocket.mk .host i).player ∈ p.players := hplayer
    have howner := p.tokenOwner_token hsocket
    have hne := p.claims_ne_none sink h hsocket (by rw [howner]; simp)
    rwa [howner] at hne

end AfterBinds

/-! ## Serving the players -/

theorem nodup_players : p.players.Nodup := p.session.clients.nodup

/-- The sockets of the host and of a player never have the same address. -/
theorem hostSocket_ne (i j : Nat) : p.address ⟨.host, i⟩ ≠ p.address ⟨.client, j⟩ := by
  intro heq
  exact absurd (p.distinct heq) (by simp)

/-- A player is served exactly if the host's endpoint is the socket for the player. -/
theorem served_iff {arrivals : List (Bytes × Address)}
    (h : (arrivals.filter (fun d => isBind d.1)).Perm (p.binds sink)) {data : Bytes}
    (hmedia : isMedia data = true) {i : Nat} (hi : i ∈ p.players) :
    ((data, p.address ⟨.client, i⟩) ∈
          ((p.relayAfter arrivals).datagramReceived p.session data (p.address ⟨.host, i⟩)).2 ∧
        (data, p.address ⟨.host, i⟩) ∈
          ((p.relayAfter arrivals).datagramReceived p.session data (p.address ⟨.client, i⟩)).2) ↔
      (p.relayAfter arrivals).hostEndpoint = some (p.address ⟨.host, i⟩) := by
  have hvalue : p.address ⟨.client, i⟩ ∈ (p.relayAfter arrivals).clientEndpoints.values :=
    (Dict.mem_values_iff _ _).2 ⟨i, (p.clientEndpoints_relayAfter sink h i _).2 ⟨hi, rfl⟩⟩
  rw [UdpSessionRelay.datagramReceived_of_isMedia _ _ hmedia,
    UdpSessionRelay.datagramReceived_of_isMedia _ _ hmedia]
  constructor
  · rintro ⟨-, hback⟩
    obtain ⟨a, hroute, heq⟩ := List.mem_map.1 hback
    obtain ⟨-, rfl⟩ := Prod.mk.inj heq
    unfold UdpSessionRelay.route at hroute
    by_cases hhost : (p.relayAfter arrivals).hostEndpoint = some (p.address ⟨.client, i⟩)
    · obtain ⟨j, -, heq⟩ := (p.hostEndpoint_relayAfter sink h).1 _ hhost
      exact absurd heq.symm (p.hostSocket_ne j i)
    · rw [if_neg hhost] at hroute
      rw [if_pos hvalue] at hroute
      exact Option.mem_toList.1 hroute
  · intro hhost
    have hnot : (p.relayAfter arrivals).hostEndpoint ≠ some (p.address ⟨.client, i⟩) := by
      rw [hhost]
      intro heq
      exact p.hostSocket_ne i i (Option.some.inj heq)
    constructor
    · refine List.mem_map_of_mem ?_
      rw [UdpSessionRelay.route, if_pos hhost]
      exact List.mem_filter.2 ⟨hvalue, decide_eq_true (p.hostSocket_ne i i).symm⟩
    · refine List.mem_map_of_mem ?_
      rw [UdpSessionRelay.route, if_neg hnot, if_pos hvalue, hhost]
      exact List.mem_singleton_self _

/-- **The relay serves every player exactly if there is at most one**, whatever the order in which
    the binds and other datagrams came in. -/
theorem relay_serves_iff (arrivals : List (Bytes × Address))
    (h : (arrivals.filter (fun d => isBind d.1)).Perm (p.binds sink)) {data : Bytes}
    (hmedia : isMedia data = true) :
    p.Serves (p.relayAfter arrivals) data ↔ p.players.length ≤ 1 := by
  obtain ⟨hsource, hbound⟩ := p.hostEndpoint_relayAfter sink h
  constructor
  · intro hall
    -- two players would have the same socket
    have hsame : ∀ i ∈ p.players, ∀ j ∈ p.players, i = j := by
      intro i hi j hj
      have hhost := ((p.served_iff sink h hmedia hi).1 (hall i hi)).symm.trans
        ((p.served_iff sink h hmedia hj).1 (hall j hj))
      exact congrArg MediaSocket.player (p.distinct (Option.some.inj hhost))
    have hnodup := p.nodup_players
    match hplayers : p.players with
    | [] => exact Nat.zero_le 1
    | [i] => exact Nat.le_refl 1
    | i :: j :: rest =>
        rw [hplayers] at hsame hnodup
        have heq := hsame i List.mem_cons_self j (List.mem_cons_of_mem _ List.mem_cons_self)
        exact absurd (heq ▸ List.mem_cons_self) (List.nodup_cons.1 hnodup).1
  · intro hone i hi
    rw [p.served_iff sink h hmedia hi]
    obtain ⟨a, ha⟩ := Option.ne_none_iff_exists'.1 (hbound i hi)
    obtain ⟨j, hj, rfl⟩ := hsource a ha
    match hplayers : p.players with
    | [] =>
        rw [hplayers] at hi
        exact absurd hi (by simp)
    | [k] =>
        rw [hplayers] at hi hj
        rw [ha, List.mem_singleton.1 hi, List.mem_singleton.1 hj]
    | k :: l :: rest =>
        rw [hplayers] at hone
        exact absurd hone (by simp)

def zeroToken : String := "00000000000000000000000000000000"

theorem zeroToken_hex : isTokenHex zeroToken = true := by decide +kernel

/-- The session with these players, the sockets of each side behind one public address. -/
def ofClients (clients : Dict Nat ClientSlot)
    (hhex : ∀ item ∈ clients.toList, isTokenHex item.2.token = true)
    (hne : ∀ item ∈ clients.toList, item.2.token ≠ zeroToken)
    (hinj : ∀ a ∈ clients.toList, ∀ b ∈ clients.toList, a.2.token = b.2.token → a.1 = b.1) :
    RelayedSession Unit where
  session := { clients := clients, hostToken := zeroToken }
  relay := ⟨[198, 51, 100, 7], 40002⟩
  transport := fun _ => { running := true, socket := true }
  address := fun socket =>
    { ip := match socket.side with
        | .host => "203.0.113.1"
        | .client => "203.0.113.2"
      port := 50000 + socket.player }
  bound := fun _ => ⟨rfl, rfl, rfl⟩
  distinct := by
    rintro ⟨side, i⟩ ⟨side', j⟩ heq
    obtain ⟨hip, hport⟩ := Address.mk.inj heq
    obtain rfl : i = j := Nat.add_left_cancel hport
    cases side with
    | host =>
        cases side' with
        | host => rfl
        | client => exact absurd hip (by simp)
    | client =>
        cases side' with
        | host => exact absurd hip (by simp)
        | client => rfl
  hostToken_hex := zeroToken_hex
  token_hex := fun i slot hget => hhex (i, slot) ((clients.mem_toList_iff i slot).2 hget)
  token_ne := fun i slot hget => hne (i, slot) ((clients.mem_toList_iff i slot).2 hget)
  token_inj := fun i j a b hi hj => hinj (i, a) ((clients.mem_toList_iff i a).2 hi) (j, b)
    ((clients.mem_toList_iff j b).2 hj)

/-- The slot of a player, with this token. -/
def slotWith (i : Nat) (token : String) : Nat × ClientSlot :=
  (i, { playerIndex := i, name := "Player", token := token, signalingConn := i + 1 })

/-- One player. -/
def onePlayer : RelayedSession Unit :=
  ofClients ⟨[slotWith 0 "11111111111111111111111111111111"], by decide⟩ (by decide +kernel)
    (by decide +kernel) (by decide +kernel)

theorem relay_serves_iff_one : onePlayer.Serves (onePlayer.relayAfter (onePlayer.binds headerTagSink))
    (ascii "RRvideo") ↔ onePlayer.players.length ≤ 1 :=
  relay_serves_iff onePlayer headerTagSink _ (by decide +kernel) (by decide +kernel)

/-- Two players; the socket for the first of them is not the host's endpoint any more. -/
def twoPlayers : RelayedSession Unit :=
  ofClients ⟨[slotWith 0 "11111111111111111111111111111111",
    slotWith 1 "22222222222222222222222222222222"], by decide⟩ (by decide +kernel)
    (by decide +kernel) (by decide +kernel)

theorem first_of_two_not_served : twoPlayers.players.length ≤ 4 ∧
    ¬ twoPlayers.Serves (twoPlayers.relayAfter (twoPlayers.binds headerTagSink)) (ascii "RRvideo") := by
  refine ⟨by decide +kernel, ?_⟩
  intro hserves
  exact absurd (hserves 0 (by decide +kernel)).1 (by decide +kernel)

end RelayedSession

end RemotePlay.App
