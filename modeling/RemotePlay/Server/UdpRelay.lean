import RemotePlay.Common.Types
import RemotePlay.Server.Registry

set_option autoImplicit false

/-! # The UDP media relay (`server/signaling-server/server.py`, `UdpSessionRelay`)

The relay of a session reads the slots of the session whenever a datagram comes in, and keeps the
endpoints that have bound themselves. What it hands to `sendto` is its result. -/

namespace RemotePlay.Server

/-- `bytes.decode(errors="ignore")`, with the number of bytes of the last character still to come. -/
def decodeIgnoring : Nat → Bytes → List Char
  | _, [] => []
  | skip + 1, _ :: bs => decodeIgnoring skip bs
  | 0, b :: bs =>
      match (b :: bs).toByteArray.utf8DecodeChar? 0 with
      | some c => c :: decodeIgnoring (c.utf8Size - 1) bs
      | none => decodeIgnoring 0 bs

/-- `data[6:38].decode(errors="ignore")`. -/
def bindToken (data : Bytes) : String := String.ofList (decodeIgnoring 0 ((data.drop 6).take 32))

/-- The owner of a token. -/
inductive TokenOwner where
  | host
  | client (idx : Nat)
  | nobody
deriving DecidableEq, Repr

/-- `token_owner`. -/
def tokenOwner (s : Session) (token : String) : TokenOwner :=
  if token = s.hostToken then .host
  else
    match s.clients.toList.find? (fun item => item.2.token = token) with
    | some item => .client item.1
    | none => .nobody

/-- `UdpSessionRelay`, without its session and its transport. -/
structure UdpSessionRelay where
  hostEndpoint : Option Address := none
  clientEndpoints : Dict Nat Address := {}

instance : Inhabited UdpSessionRelay := ⟨{}⟩

namespace UdpSessionRelay

/-- `data[:6] == b"RPBIND"`. -/
def isBind (data : Bytes) : Bool := data.take 6 = ascii "RPBIND"

/-- Where an opaque datagram goes. -/
def route (u : UdpSessionRelay) (addr : Address) : List Address :=
  if u.hostEndpoint = some addr then u.clientEndpoints.values.filter (· ≠ addr)
  else if addr ∈ u.clientEndpoints.values then u.hostEndpoint.toList
  else []

/-- `datagram_received`. -/
def datagramReceived (u : UdpSessionRelay) (s : Session) (data : Bytes) (addr : Address) :
    UdpSessionRelay × List (Bytes × Address) :=
  if data.length < 6 then (u, [])
  else if isBind data then
    match tokenOwner s (bindToken data) with
    | .host => ({ u with hostEndpoint := some addr }, [(ascii "RPBINDOK", addr)])
    | .client idx =>
        ({ u with clientEndpoints := u.clientEndpoints.assign idx addr }, [(ascii "RPBINDOK", addr)])
    | .nobody => (u, [])
  else (u, (u.route addr).map (fun ep => (data, ep)))

/-- Whether the datagram is one that the relay routes. -/
def isMedia (data : Bytes) : Bool := 6 ≤ data.length ∧ isBind data = false

theorem datagramReceived_of_isMedia (u : UdpSessionRelay) (s : Session) {data : Bytes}
    (h : isMedia data = true) (addr : Address) :
    u.datagramReceived s data addr = (u, (u.route addr).map (fun ep => (data, ep))) := by
  obtain ⟨hlen, hbind⟩ := of_decide_eq_true h
  unfold datagramReceived
  rw [if_neg (Nat.not_lt.2 hlen), if_neg (by simp [hbind])]

end UdpSessionRelay

/-- ASCII text survives the decoding. -/
theorem decodeIgnoring_ascii (cs : List Char) (h : ∀ c ∈ cs, c.utf8Size = 1) :
    decodeIgnoring 0 (cs.map Char.toUInt8) = cs := by
  induction cs with
  | nil => rfl
  | cons c cs ih =>
      have hencode : ((c :: cs).map Char.toUInt8).toByteArray = (c :: cs).utf8Encode := by
        have hbytes : ∀ ds : List Char, (∀ d ∈ ds, d.utf8Size = 1) →
            ds.map Char.toUInt8 = ds.flatMap String.utf8EncodeChar := by
          intro ds
          induction ds with
          | nil => exact fun _ => rfl
          | cons d ds ihd =>
              intro hds
              rw [List.map_cons, List.flatMap_cons,
                String.utf8EncodeChar_eq_singleton (hds d List.mem_cons_self),
                ihd (fun e he => hds e (List.mem_cons_of_mem _ he))]
              rfl
        rw [hbytes _ h, List.utf8Encode]
      have hdecode : ((c :: cs).map Char.toUInt8).toByteArray.utf8DecodeChar? 0 = some c := by
        rw [hencode, List.utf8DecodeChar?_utf8Encode_cons]
      rw [List.map_cons] at hdecode ⊢
      rw [decodeIgnoring, hdecode]
      dsimp only
      rw [h c List.mem_cons_self, Nat.sub_self, ih (fun d hd => h d (List.mem_cons_of_mem _ hd))]

/-- A token of 32 ASCII characters is read as it was sent. -/
theorem bindToken_ascii {token : String} (hlen : token.toList.length = 32)
    (h : ∀ c ∈ token.toList, c.utf8Size = 1) :
    bindToken (ascii "RPBIND" ++ ascii token) = token := by
  have hdrop : (ascii "RPBIND" ++ ascii token).drop 6 = ascii token := List.drop_left' rfl
  have htake : (ascii token).take 32 = ascii token :=
    List.take_of_length_le (by rw [ascii, List.length_map, hlen])
  rw [bindToken, hdrop, htake, ascii, decodeIgnoring_ascii _ h, String.ofList_toList]

/-- The token's slot is one of the session's. -/
theorem slot_of_tokenOwner {s : Session} {token : String} {idx : Nat}
    (h : tokenOwner s token = .client idx) :
    ∃ slot, s.clients.get? idx = some slot ∧ slot.token = token := by
  unfold tokenOwner at h
  split at h
  · exact absurd h (by simp)
  · split at h
    · next item hfind =>
        obtain rfl := TokenOwner.client.inj h
        refine ⟨item.2, (s.clients.mem_toList_iff item.1 item.2).1 (List.mem_of_find?_eq_some hfind),
          ?_⟩
        simpa using List.find?_some hfind
    · exact absurd h (by simp)

end RemotePlay.Server
