import Mathlib.Data.List.Nodup
import RemotePlay.Networking.Reassembly
import RemotePlay.Networking.UdpTransport

set_option autoImplicit false

/-! # Fragmentation followed by reassembly

`sendFrame` cuts a frame into fragments and `feed`, with `gc` after each call, puts frames together
again. A frame here is what `sendFrame` was given, together with the sequence number it drew, and an
`Interleaving` is an order in which the fragments of many frames arrive, each of them once and none
more than 64 sequence numbers behind the newest frame. The payloads tile the frame's contents. -/

namespace RemotePlay.Net

/-! ## Frames and their fragments -/

/-- A frame as `sendFrame` gets it, with the sequence number it was given. -/
structure MediaFrame where
  sequence : UInt64
  timestampNs : UInt64
  keyframe : Bool
  data : Bytes
deriving DecidableEq, Repr

section Frames

variable (type : UdpType) (sessionId : UInt32)

/-- Fragment `i` of the frame, as `sendFrame` cuts it. -/
def MediaFrame.fragment (f : MediaFrame) (i : Nat) : UdpHeader × Bytes :=
  UdpTransport.fragmentAt type sessionId f.sequence f.keyframe f.data f.timestampNs i

/-- All fragments of the frame. -/
def MediaFrame.fragments (f : MediaFrame) : List (UdpHeader × Bytes) :=
  UdpTransport.frameFragments type sessionId f.sequence f.keyframe f.data f.timestampNs

/-- The frame as the receiver should hand it out. -/
def MediaFrame.assembled (f : MediaFrame) : AssembledFrame :=
  { type := type
    sessionId := sessionId
    sequence := f.sequence
    timestampNs := f.timestampNs
    keyframe := f.keyframe
    data := f.data }

/-- How many fragments there are. -/
def MediaFrame.count (f : MediaFrame) : Nat := (fragmentCountFor f.data.length).toNat

variable {type sessionId}

theorem MediaFrame.mem_fragments (f : MediaFrame) (fr : UdpHeader × Bytes) :
    fr ∈ f.fragments type sessionId ↔ ∃ i < f.count, f.fragment type sessionId i = fr := by
  simp only [MediaFrame.fragments, UdpTransport.frameFragments, List.mem_map, List.mem_range]
  rfl

theorem MediaFrame.sequence_of_mem {f : MediaFrame} {fr : UdpHeader × Bytes}
    (h : fr ∈ f.fragments type sessionId) : fr.1.sequence = f.sequence := by
  obtain ⟨i, -, rfl⟩ := (f.mem_fragments fr).1 h
  rfl

/-- The keyframe flag travels in every fragment. -/
theorem MediaFrame.keyframe_flag (f : MediaFrame) (i : Nat) :
    (f.fragment type sessionId i).1.hasFlag UdpFlag.Keyframe = f.keyframe := by
  show (((if f.keyframe then UdpFlag.Keyframe else 0) |||
    (if 1 < fragmentCountFor f.data.length then UdpFlag.Fragment else 0)) &&& UdpFlag.Keyframe != 0)
      = f.keyframe
  by_cases hmany : 1 < fragmentCountFor f.data.length
  · rw [if_pos hmany]
    cases f.keyframe
    · rfl
    · rfl
  · rw [if_neg hmany]
    cases f.keyframe
    · rfl
    · rfl

/-- The index in the header tells the fragments of a frame apart. -/
theorem MediaFrame.fragment_inj {f : MediaFrame} {i j : Nat} (hi : i < f.count) (hj : j < f.count)
    (h : f.fragment type sessionId i = f.fragment type sessionId j) : i = j := by
  have hmax : f.count < 65536 := (fragmentCountFor f.data.length).toNat_lt
  have hidx : (UInt16.ofNat i).toNat = (UInt16.ofNat j).toNat :=
    congrArg (fun fr : UdpHeader × Bytes => fr.1.fragmentIndex.toNat) h
  rw [UInt16.toNat_ofNat', UInt16.toNat_ofNat'] at hidx
  omega

theorem fragmentCountFor_toNat (size : Nat) (h : size ≤ 1024 * kMaxUdpPayload) :
    (fragmentCountFor size).toNat = max 1 ((size + (kMaxUdpPayload - 1)) / kMaxUdpPayload) := by
  unfold fragmentCountFor kMaxUdpPayload at *
  split
  · next h0 =>
      subst h0
      rfl
  · next h0 =>
      have hceil : (UInt16.ofNat ((size + 1100 - 1) % 2 ^ 64 / 1100)).toNat
          = (size + 1100 - 1) / 1100 := by
        rw [UInt16.toNat_ofNat']
        omega
      dsimp only
      rw [if_neg (by rw [UInt16.lt_iff_toNat_lt, hceil, UInt16.toNat_one]; omega), hceil]
      omega

theorem MediaFrame.zero_lt_count (f : MediaFrame) : 0 < f.count := by
  unfold MediaFrame.count fragmentCountFor
  split
  · decide
  · dsimp only
    split
    · decide
    · next h => simpa [UInt16.lt_iff_toNat_lt, Nat.pos_iff_ne_zero] using h

/-- The size the protocol can carry: 1024 full fragments. -/
def MediaFrame.Fits (f : MediaFrame) : Prop := f.data.length ≤ 1024 * kMaxUdpPayload

section Fits

variable {f : MediaFrame} (hfits : f.Fits)

include hfits

theorem MediaFrame.count_le : f.count ≤ 1024 := by
  rw [MediaFrame.count, fragmentCountFor_toNat _ hfits]
  unfold MediaFrame.Fits kMaxUdpPayload at *
  omega

/-- All but the last fragment lie inside the data; the last one ends it. -/
theorem MediaFrame.count_bounds : f.data.length ≤ f.count * kMaxUdpPayload ∧
    (f.count - 1) * kMaxUdpPayload ≤ f.data.length ∧
    (2 ≤ f.count → (f.count - 1) * kMaxUdpPayload < f.data.length) := by
  rw [MediaFrame.count, fragmentCountFor_toNat _ hfits]
  unfold kMaxUdpPayload
  omega

variable (type sessionId)

theorem MediaFrame.index_toNat {i : Nat} (hi : i < f.count) :
    (f.fragment type sessionId i).1.fragmentIndex.toNat = i := by
  have := MediaFrame.count_le hfits
  show (UInt16.ofNat i).toNat = i
  rw [UInt16.toNat_ofNat']
  omega

/-- The payload size of a fragment, as the header has it. -/
theorem MediaFrame.payloadSize_toNat {i : Nat} (hi : i < f.count) :
    (f.fragment type sessionId i).1.payloadSize.toNat
      = min kMaxUdpPayload (f.data.length - i * kMaxUdpPayload) := by
  obtain ⟨hle, hlt, -⟩ := MediaFrame.count_bounds hfits
  have hend := slot_end_le (w := kMaxUdpPayload) hi
  show (UInt16.ofNat (if i + 1 = f.count then _ else _)).toNat = _
  rw [UInt16.toNat_ofNat']
  by_cases hlast : i + 1 = f.count
  · have hi' : f.count - 1 = i := by omega
    rw [hi'] at hlt
    have hend' : f.count * kMaxUdpPayload = i * kMaxUdpPayload + kMaxUdpPayload := by
      rw [← hlast, Nat.succ_mul]
    rw [if_pos hlast, Nat.min_eq_right (by omega), Nat.mod_eq_of_lt]
    unfold kMaxUdpPayload at *
    omega
  · have hnext := slot_end_le (w := kMaxUdpPayload) (show i < f.count - 1 by omega)
    rw [if_neg hlast, Nat.min_eq_left (by omega)]
    rfl

/-- A fragment's payload is its slice of the data, of the announced size. -/
theorem MediaFrame.payload_eq {i : Nat} (hi : i < f.count) :
    (f.fragment type sessionId i).2 = (f.data.drop (i * kMaxUdpPayload)).take kMaxUdpPayload ∧
      (f.fragment type sessionId i).2.length
        = (f.fragment type sessionId i).1.payloadSize.toNat := by
  have hsize := MediaFrame.payloadSize_toNat type sessionId hfits hi
  have hdef : (f.fragment type sessionId i).2 = (f.data.drop (i * kMaxUdpPayload)).take
      (f.fragment type sessionId i).1.payloadSize.toNat := rfl
  rw [hdef, hsize, ← List.length_drop]
  constructor
  · rcases Nat.le_total kMaxUdpPayload (f.data.drop (i * kMaxUdpPayload)).length with h | h
    · rw [Nat.min_eq_left h]
    · rw [Nat.min_eq_right h, List.take_length, List.take_of_length_le h]
  · rw [List.length_take]
    omega

theorem MediaFrame.fillsSlot {i : Nat} (hi : i < f.count) :
    (f.fragment type sessionId i).1.FillsSlot := by
  have hsize := MediaFrame.payloadSize_toNat type sessionId hfits hi
  refine ⟨by rw [hsize]; omega, ?_⟩
  intro hmid
  rw [MediaFrame.index_toNat type sessionId hfits hi] at hmid
  change i + 1 < f.count at hmid
  have hnext := slot_end_le (w := kMaxUdpPayload) (show i < f.count - 1 by omega)
  have := (MediaFrame.count_bounds hfits).2.1
  rw [hsize, Nat.min_eq_left (by omega)]

variable {type sessionId}

/-- The fragment in the sense of `Reassembly`, if its header is accepted. -/
def MediaFrame.asFragment {i : Nat} (hi : i < f.count)
    (hok : (decodeUdpHeader (encodeUdpHeader (f.fragment type sessionId i).1 ++
      (f.fragment type sessionId i).2) {}).1 = true) : Fragment where
  header := (f.fragment type sessionId i).1
  payload := (f.fragment type sessionId i).2
  accepted := decodeUdpHeader_encode_of_true rfl rfl hok
  size_eq := (MediaFrame.payload_eq type sessionId hfits hi).2

end Fits

/-! ## Interleavings -/

/-- Some fragment of the frame is in the list. -/
def MediaFrame.In (f : MediaFrame) (frs : List (UdpHeader × Bytes)) : Prop :=
  ∃ g ∈ frs, g.1.sequence = f.sequence

instance (f : MediaFrame) (frs : List (UdpHeader × Bytes)) : Decidable (f.In frs) :=
  inferInstanceAs (Decidable (∃ g ∈ frs, g.1.sequence = f.sequence))

/-- Some fragments of the frame have arrived and some are still to come. -/
def MediaFrame.Partial (f : MediaFrame) (pre post : List (UdpHeader × Bytes)) : Prop :=
  f.In pre ∧ f.In post

variable (type sessionId)

/-- The arrivals are the fragments of the frames, each once, in any order in which no frame is still
    incomplete when one more than 64 sequence numbers ahead has started. -/
structure Interleaving (frames : List MediaFrame) (arrivals : List (UdpHeader × Bytes)) : Prop where
  distinct : (frames.map MediaFrame.sequence).Nodup
  accepted : ∀ f ∈ frames, ∀ fr ∈ f.fragments type sessionId,
    (decodeUdpHeader (encodeUdpHeader fr.1 ++ fr.2) {}).1 = true
  perm : arrivals.Perm (frames.flatMap (fun f => f.fragments type sessionId))
  window : ∀ pre post, arrivals = pre ++ post → ∀ f ∈ frames, f.In post →
    ∀ g ∈ pre, g.1.sequence.toNat ≤ f.sequence.toNat + 64

variable {type sessionId} {frames : List MediaFrame} {arrivals : List (UdpHeader × Bytes)}

namespace Interleaving

variable (hI : Interleaving type sessionId frames arrivals)

include hI

theorem fragment_accepted {f : MediaFrame} (hf : f ∈ frames) {i : Nat} (hi : i < f.count) :
    (decodeUdpHeader (encodeUdpHeader (f.fragment type sessionId i).1 ++
      (f.fragment type sessionId i).2) {}).1 = true :=
  hI.accepted f hf _ ((f.mem_fragments _).2 ⟨i, hi, rfl⟩)

theorem fragmentCount_le {f : MediaFrame} (hf : f ∈ frames) {i : Nat} (hi : i < f.count) :
    (f.fragment type sessionId i).1.fragmentCount ≤ kMaxFragments :=
  (consistent_of_decode
    (decodeUdpHeader_encode_of_true rfl rfl (hI.fragment_accepted hf hi))).2.2.2.1

theorem eq_of_sequence {f g : MediaFrame} (hf : f ∈ frames) (hg : g ∈ frames)
    (h : f.sequence = g.sequence) : f = g := List.inj_on_of_nodup_map hI.distinct hf hg h

theorem mem_arrivals {fr : UdpHeader × Bytes} (h : fr ∈ arrivals) :
    ∃ f ∈ frames, ∃ i < f.count, f.fragment type sessionId i = fr := by
  obtain ⟨f, hf, hfr⟩ := List.mem_flatMap.1 (hI.perm.mem_iff.1 h)
  exact ⟨f, hf, (f.mem_fragments fr).1 hfr⟩

theorem fragment_mem {f : MediaFrame} (hf : f ∈ frames) {i : Nat} (hi : i < f.count) :
    f.fragment type sessionId i ∈ arrivals :=
  hI.perm.mem_iff.2 (List.mem_flatMap.2 ⟨f, hf, (f.mem_fragments _).2 ⟨i, hi, rfl⟩⟩)

/-- An arrival with the sequence of a frame is one of its fragments. -/
theorem fragment_of_sequence {f : MediaFrame} (hf : f ∈ frames) {fr : UdpHeader × Bytes}
    (h : fr ∈ arrivals) (hseq : fr.1.sequence = f.sequence) :
    ∃ i < f.count, f.fragment type sessionId i = fr := by
  obtain ⟨g, hg, i, hi, rfl⟩ := hI.mem_arrivals h
  obtain rfl := hI.eq_of_sequence hg hf hseq
  exact ⟨i, hi, rfl⟩

theorem nodup : arrivals.Nodup := by
  rw [hI.perm.nodup_iff, List.nodup_flatMap]
  constructor
  · intro f _
    refine List.Nodup.map_on ?_ List.nodup_range
    intro i hi j hj hij
    exact MediaFrame.fragment_inj (List.mem_range.1 hi) (List.mem_range.1 hj) hij
  · have hpair := List.pairwise_map.1 hI.distinct
    refine hpair.imp ?_
    intro f g hne fr hfr hgr
    exact hne ((MediaFrame.sequence_of_mem hfr).symm.trans (MediaFrame.sequence_of_mem hgr))

/-- What arrives has not arrived before. -/
theorem not_mem_before {pre post : List (UdpHeader × Bytes)} {fr : UdpHeader × Bytes}
    (hsplit : arrivals = pre ++ fr :: post) : fr ∉ pre := by
  have hnodup := hI.nodup
  rw [hsplit, List.nodup_append] at hnodup
  exact fun h => hnodup.2.2 _ h _ List.mem_cons_self rfl

end Interleaving

end Frames

end RemotePlay.Net
