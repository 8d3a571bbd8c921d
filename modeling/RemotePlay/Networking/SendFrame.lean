import RemotePlay.Networking.DeliveryOrder
import RemotePlay.Networking.FrameTransfer

set_option autoImplicit false

/-! # What `sendFrame` puts on the wire

`sendFrame` counts its fragments in sixteen bits and does not look at `kMaxFragments`, which only
the receiver enforces. Up to 1024 full fragments the datagrams of a call are what the receiver
expects: each is accepted, none carries more than 1100 payload bytes, they agree on their number,
and in the order of their indices they make up the frame. Any larger frame is cut into datagrams
that cannot have all four properties, since accepted datagrams of that size hold too few bytes. -/

namespace RemotePlay.Net

/-- The header that a receiver reads from a datagram. -/
def headerOf (dg : Bytes) : UdpHeader := (decodeUdpHeader dg {}).2

/-- The bytes behind the header. -/
def payloadOf (dg : Bytes) : Bytes := dg.drop kUdpHeaderSize

def UdpTask.datagram? : UdpTask → Option Bytes
  | .datagram dg => some dg
  | _ => none

section SendFrame

variable {σ : Type}

/-- `running_`, `socket_` and `havePeer_`: otherwise the send functions return at once. -/
def UdpTransport.sends (t : UdpTransport σ) : Bool := t.running && t.socket && t.havePeer

/-- The datagrams that a call of `sendFrame` posts, in order. -/
def UdpTransport.emitted (t : UdpTransport σ) (type : UdpType) (keyframe : Bool) (data : Bytes)
    (timestampNs : UInt64) : List Bytes :=
  ((t.sendFrame type keyframe data timestampNs).posted.drop t.posted.length).filterMap
    UdpTask.datagram?

/-- Datagrams in the order of their fragment indices. -/
def byIndex (dgs : List Bytes) : List Bytes :=
  dgs.mergeSort (fun a b => (headerOf a).fragmentIndex ≤ (headerOf b).fragmentIndex)

theorem mem_byIndex {dgs : List Bytes} {dg : Bytes} : dg ∈ byIndex dgs ↔ dg ∈ dgs :=
  List.mem_mergeSort

theorem length_byIndex (dgs : List Bytes) : (byIndex dgs).length = dgs.length :=
  List.length_mergeSort _

/-- The datagrams of a frame that a receiver can put together. -/
structure Deliverable (data : Bytes) (dgs : List Bytes) : Prop where
  accepted : ∀ dg ∈ dgs, (decodeUdpHeader dg {}).1 = true
  small : ∀ dg ∈ dgs, (payloadOf dg).length ≤ kMaxUdpPayload
  sameCount : ∀ dg ∈ dgs, ∀ dg' ∈ dgs, (headerOf dg).fragmentCount = (headerOf dg').fragmentCount
  whole : (byIndex dgs).flatMap payloadOf = data

/-! ## The datagrams of one call -/

/-- The frame as a transport cuts it. -/
def UdpTransport.mediaFrame (t : UdpTransport σ) (type : UdpType) (keyframe : Bool) (data : Bytes)
    (timestampNs : UInt64) : MediaFrame :=
  { sequence := (t.nextSeq type).1
    timestampNs := timestampNs
    keyframe := keyframe
    data := data }

variable {t : UdpTransport σ} {type : UdpType} {keyframe : Bool} {data : Bytes}
  {timestampNs : UInt64}

theorem emitted_of_sends (h : t.sends = true) :
    t.emitted type keyframe data timestampNs =
      ((t.mediaFrame type keyframe data timestampNs).fragments type t.sessionId).map
        (fun fr => encodeUdpHeader fr.1 ++ fr.2) := by
  obtain ⟨⟨hrun, hsocket⟩, hpeer⟩ : (t.running = true ∧ t.socket = true) ∧ t.havePeer = true := by
    simpa [UdpTransport.sends] using h
  unfold UdpTransport.emitted UdpTransport.sendFrame
  rw [if_neg (by simp [hrun, hsocket, hpeer])]
  dsimp only
  rw [UdpTransport.foldl_post]
  have hposted : ∀ u : UdpTransport σ, (u.nextSeq type).2.posted = u.posted := fun _ => rfl
  have hcount : ∀ f, (t.count f).posted = t.posted := fun _ => rfl
  rw [hposted, hcount, List.drop_left, List.filterMap_map]
  exact congrFun List.filterMap_eq_map _

theorem emitted_of_not_sends (h : t.sends = false) :
    t.emitted type keyframe data timestampNs = [] := by
  have hsends : (!t.running) = true ∨ (!t.socket) = true ∨ (!t.havePeer) = true := by
    cases hrun : t.running
    · simp
    · cases hsocket : t.socket
      · simp
      · simp [UdpTransport.sends, hrun, hsocket] at h
        simp [h]
  unfold UdpTransport.emitted UdpTransport.sendFrame
  rw [if_pos hsends, List.drop_length]
  rfl

/-! ## Frames of any size -/

section AnySize

variable {sessionId : UInt32} (f : MediaFrame)

theorem MediaFrame.framed_fragment (htype : type.code ≤ 8) (i : Nat) :
    (f.fragment type sessionId i).1.Framed := ⟨rfl, rfl, htype⟩

/-- The sixteen bits never show more fragments than the frame needs. -/
theorem MediaFrame.count_le_needed :
    f.count ≤ max 1 ((f.data.length + (kMaxUdpPayload - 1)) / kMaxUdpPayload) := by
  unfold MediaFrame.count fragmentCountFor
  split
  · exact Nat.le_max_left _ _
  dsimp only
  split
  · exact Nat.le_max_left _ _
  · rw [UInt16.toNat_ofNat']
    have hsum := Nat.mod_le (f.data.length + kMaxUdpPayload - 1) (2 ^ 64)
    have hdiv := Nat.div_le_div_right (c := kMaxUdpPayload) hsum
    have hmod := Nat.mod_le
      ((f.data.length + kMaxUdpPayload - 1) % 2 ^ 64 / kMaxUdpPayload) (2 ^ 16)
    unfold kMaxUdpPayload at *
    omega

/-- Whatever the size of the frame, a fragment carries the bytes that its header announces. -/
theorem MediaFrame.length_fragment {i : Nat} (hi : i < f.count) :
    (f.fragment type sessionId i).2.length
      = (f.fragment type sessionId i).1.payloadSize.toNat := by
  have hneeded := f.count_le_needed
  have hdef : (f.fragment type sessionId i).2 = (f.data.drop (i * kMaxUdpPayload)).take
      (f.fragment type sessionId i).1.payloadSize.toNat := rfl
  have hsize : (f.fragment type sessionId i).1.payloadSize.toNat
      ≤ f.data.length - i * kMaxUdpPayload := by
    show (UInt16.ofNat (if i + 1 = f.count then _ else _)).toNat ≤ _
    rw [UInt16.toNat_ofNat']
    refine (Nat.mod_le _ _).trans ?_
    split
    · exact Nat.le_refl _
    · unfold kMaxUdpPayload at *
      omega
  rw [hdef, List.length_take, List.length_drop]
  omega

/-- A receiver accepts the fragments of a frame when they are at most 1024. -/
theorem MediaFrame.decode_fragment_any (htype : type.code ≤ 8) {i : Nat} (hi : i < f.count) :
    decodeUdpHeader (encodeUdpHeader (f.fragment type sessionId i).1 ++
      (f.fragment type sessionId i).2) {}
        = (decide (f.count ≤ 1024), (f.fragment type sessionId i).1) := by
  have hmax : f.count < 65536 := (fragmentCountFor f.data.length).toNat_lt
  have hindex : (f.fragment type sessionId i).1.fragmentIndex.toNat = i := by
    show (UInt16.ofNat i).toNat = i
    rw [UInt16.toNat_ofNat']
    omega
  have hcount : (f.fragment type sessionId i).1.fragmentCount.toNat = f.count := rfl
  rw [decodeUdpHeader_encode _ {} _ (f.framed_fragment htype i), Prod.mk.injEq,
    decide_eq_decide]
  refine ⟨?_, rfl⟩
  constructor
  · rintro ⟨-, -, hle, -⟩
    have hle := UInt16.le_iff_toNat_le.1 hle
    rwa [hcount] at hle
  · intro hle
    refine ⟨(f.length_fragment hi).ge, ?_, ?_, ?_⟩
    · intro hzero
      rw [hzero] at hcount
      have hpos := f.zero_lt_count
      exact absurd hcount (by simp; omega)
    · rw [UInt16.le_iff_toNat_le, hcount]
      exact hle
    · rw [UInt16.lt_iff_toNat_lt, hcount, hindex]
      exact hi

end AnySize

/-! ## Frames that fit -/

/-- Slices of width `w` tile a list. -/
theorem flatMap_slices {α : Type} (l : List α) (w n : Nat) :
    (List.range n).flatMap (fun i => (l.drop (i * w)).take w) = l.take (n * w) := by
  induction n with
  | zero => simp
  | succ n ih =>
      rw [List.range_succ, List.flatMap_append, ih, List.flatMap_singleton, Nat.succ_mul,
        List.take_add]

section Fits

variable {f : MediaFrame} {sessionId : UInt32}

/-- A fragment read from the datagram it travels in. -/
theorem MediaFrame.decode_fragment (htype : type.code ≤ 8) (hfits : f.Fits) {i : Nat}
    (hi : i < f.count) :
    decodeUdpHeader (encodeUdpHeader (f.fragment type sessionId i).1 ++
      (f.fragment type sessionId i).2) {} = (true, (f.fragment type sessionId i).1) := by
  rw [f.decode_fragment_any htype hi, decide_eq_true (MediaFrame.count_le hfits)]

/-- **The datagrams of a frame that fits are deliverable.** -/
theorem MediaFrame.deliverable (htype : type.code ≤ 8) (hfits : f.Fits) :
    Deliverable f.data
      ((f.fragments type sessionId).map (fun fr => encodeUdpHeader fr.1 ++ fr.2)) := by
  have hmem : ∀ dg ∈ (f.fragments type sessionId).map (fun fr => encodeUdpHeader fr.1 ++ fr.2),
      ∃ i < f.count, dg = encodeUdpHeader (f.fragment type sessionId i).1 ++
        (f.fragment type sessionId i).2 := by
    intro dg hdg
    obtain ⟨fr, hfr, rfl⟩ := List.mem_map.1 hdg
    obtain ⟨i, hi, rfl⟩ := (f.mem_fragments fr).1 hfr
    exact ⟨i, hi, rfl⟩
  have hpayload : ∀ i, payloadOf (encodeUdpHeader (f.fragment type sessionId i).1 ++
      (f.fragment type sessionId i).2) = (f.fragment type sessionId i).2 := by
    intro i
    rw [payloadOf, ← length_encodeUdpHeader (f.fragment type sessionId i).1, List.drop_left]
  refine ⟨?_, ?_, ?_, ?_⟩
  · intro dg hdg
    obtain ⟨i, hi, rfl⟩ := hmem dg hdg
    rw [f.decode_fragment htype hfits hi]
  · intro dg hdg
    obtain ⟨i, hi, rfl⟩ := hmem dg hdg
    rw [hpayload, (MediaFrame.payload_eq type sessionId hfits hi).1]
    exact List.length_take_le _ _
  · intro dg hdg dg' hdg'
    obtain ⟨i, hi, rfl⟩ := hmem dg hdg
    obtain ⟨j, hj, rfl⟩ := hmem dg' hdg'
    rw [headerOf, headerOf, f.decode_fragment htype hfits hi, f.decode_fragment htype hfits hj]
    rfl
  · -- the loop emits in the order of the indices, so that sorting changes nothing
    have hsorted : ((f.fragments type sessionId).map (fun fr => encodeUdpHeader fr.1 ++ fr.2)).Pairwise
        (fun a b => decide ((headerOf a).fragmentIndex ≤ (headerOf b).fragmentIndex) = true) := by
      rw [MediaFrame.fragments, UdpTransport.frameFragments, List.map_map, List.pairwise_map]
      refine List.pairwise_lt_range.imp_of_mem ?_
      intro i j hi hj hij
      have hi : i < f.count := List.mem_range.1 hi
      have hj : j < f.count := List.mem_range.1 hj
      have hheader : ∀ k < f.count, headerOf (((fun fr : UdpHeader × Bytes =>
          encodeUdpHeader fr.1 ++ fr.2) ∘ UdpTransport.fragmentAt type sessionId f.sequence
            f.keyframe f.data f.timestampNs) k) = (f.fragment type sessionId k).1 := by
        intro k hk
        exact congrArg Prod.snd (f.decode_fragment htype hfits hk)
      rw [hheader i hi, hheader j hj, decide_eq_true_eq, UInt16.le_iff_toNat_le,
        MediaFrame.index_toNat type sessionId hfits hi,
        MediaFrame.index_toNat type sessionId hfits hj]
      exact Nat.le_of_lt hij
    rw [byIndex, List.mergeSort_of_pairwise hsorted]
    have hslices : ((f.fragments type sessionId).map
        (fun fr => encodeUdpHeader fr.1 ++ fr.2)).flatMap payloadOf
          = (List.range f.count).flatMap
              (fun i => (f.data.drop (i * kMaxUdpPayload)).take kMaxUdpPayload) := by
      rw [MediaFrame.fragments, UdpTransport.frameFragments, List.map_map, List.flatMap_map]
      refine List.flatMap_congr ?_
      intro i hi
      exact (hpayload i).trans
        (MediaFrame.payload_eq type sessionId hfits (List.mem_range.1 hi)).1
    rw [hslices, flatMap_slices, List.take_of_length_le (MediaFrame.count_bounds hfits).1]

end Fits

/-! ## Frames that do not fit -/

theorem length_flatMap_le {α β : Type} (l : List α) (g : α → List β) (w : Nat)
    (h : ∀ a ∈ l, (g a).length ≤ w) : (l.flatMap g).length ≤ l.length * w := by
  induction l with
  | nil => simp
  | cons a l ih =>
      have ha := h a List.mem_cons_self
      have hl := ih (fun b hb => h b (List.mem_cons_of_mem _ hb))
      rw [List.flatMap_cons, List.length_append, List.length_cons, Nat.succ_mul]
      omega

/-- A frame whose datagrams are deliverable fits. -/
theorem MediaFrame.fits_of_deliverable {f : MediaFrame} {sessionId : UInt32}
    (htype : type.code ≤ 8)
    (h : Deliverable f.data
      ((f.fragments type sessionId).map (fun fr => encodeUdpHeader fr.1 ++ fr.2))) : f.Fits := by
  -- the first datagram is accepted, so the count is at most 1024
  have hmem : f.fragment type sessionId 0 ∈ f.fragments type sessionId :=
    (f.mem_fragments _).2 ⟨0, f.zero_lt_count, rfl⟩
  have hfirst := h.accepted _ (List.mem_map_of_mem hmem)
  rw [decodeUdpHeader_encode _ {} _ (f.framed_fragment htype 0)] at hfirst
  have hmax : (f.fragment type sessionId 0).1.fragmentCount ≤ kMaxFragments :=
    (of_decide_eq_true hfirst).2.2.1
  have hcount : f.count ≤ 1024 := UInt16.le_iff_toNat_le.1 hmax
  have hlength : (f.fragments type sessionId).length = f.count :=
    (List.length_map _).trans List.length_range
  have hbytes := length_flatMap_le (byIndex _) payloadOf kMaxUdpPayload
    (fun dg hdg => h.small dg (mem_byIndex.1 hdg))
  rw [h.whole, length_byIndex, List.length_map, hlength] at hbytes
  exact Nat.le_trans hbytes (Nat.mul_le_mul_right kMaxUdpPayload hcount)

theorem MediaFrame.fragments_ne_nil (f : MediaFrame) {sessionId : UInt32} :
    f.fragments type sessionId ≠ [] :=
  List.ne_nil_of_mem ((f.mem_fragments _).2 ⟨0, f.zero_lt_count, rfl⟩)

/-! ## The main result -/

/-- **When `sendFrame` emits only what can be delivered.** For every frame of one of the nine
    datagram types: nothing is emitted, or what is emitted can be put together again, exactly when
    the transport does not send at all or the frame has at most 1024 * 1100 bytes. -/
theorem sendFrame_deliverable_iff (t : UdpTransport σ) (type : UdpType) (htype : type.code ≤ 8)
    (keyframe : Bool) (data : Bytes) (timestampNs : UInt64) :
    (t.emitted type keyframe data timestampNs = [] ∨
        Deliverable data (t.emitted type keyframe data timestampNs)) ↔
      (t.sends = false ∨ data.length ≤ kMaxFragments.toNat * kMaxUdpPayload) := by
  cases hsends : t.sends with
  | false => exact iff_of_true (Or.inl (emitted_of_not_sends hsends)) (Or.inl rfl)
  | true =>
      rw [emitted_of_sends hsends]
      constructor
      · rintro (hnone | hdeliverable)
        · exfalso
          rw [List.map_eq_nil_iff] at hnone
          exact MediaFrame.fragments_ne_nil _ hnone
        · have hfits : (t.mediaFrame type keyframe data timestampNs).Fits :=
            MediaFrame.fits_of_deliverable htype hdeliverable
          exact Or.inr hfits
      · rintro (hsilent | hfits)
        · exact absurd hsilent (by simp)
        · have hframe : (t.mediaFrame type keyframe data timestampNs).Fits := hfits
          exact Or.inr (MediaFrame.deliverable htype hframe)

end SendFrame

theorem sendFrame_deliverable_iff_short :
    sendingTransport.emitted .Video false [1, 2, 3] 5 = [] ∨
      Deliverable [1, 2, 3] (sendingTransport.emitted .Video false [1, 2, 3] 5) :=
  (sendFrame_deliverable_iff sendingTransport .Video (by decide) false [1, 2, 3] 5).2
    (Or.inr (by decide))

/-- One byte more than 1024 fragments hold: 1025 datagrams leave, none of which is accepted. -/
theorem oversized_frame_not_deliverable :
    ¬ (sendingTransport.emitted .Video false (List.replicate 1126401 0) 5 = [] ∨
      Deliverable (List.replicate 1126401 0)
        (sendingTransport.emitted .Video false (List.replicate 1126401 0) 5)) := by
  rw [emitted_of_sends rfl]
  rintro (hnone | hdeliverable)
  · rw [List.map_eq_nil_iff] at hnone
    exact MediaFrame.fragments_ne_nil _ hnone
  · have hfits : (sendingTransport.mediaFrame .Video false (List.replicate 1126401 0) 5).Fits :=
      MediaFrame.fits_of_deliverable (by decide) hdeliverable
    rw [MediaFrame.Fits, UdpTransport.mediaFrame, List.length_replicate] at hfits
    exact absurd hfits (by decide)

end RemotePlay.Net
