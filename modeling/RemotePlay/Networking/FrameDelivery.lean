import Mathlib.Order.Interval.Finset.Nat
import RemotePlay.Networking.FrameTransfer

set_option autoImplicit false

/-! # The receiver along an interleaving

After the arrivals `pre`, with `post` still to come, the reassembler `Tracks` the partially received
frames: they are the ones in flight, and each buffer is `Holding` exactly the fragments of its frame
that are in `pre`. One `feed` carries this from `pre` to `pre ++ [fr]` and returns a frame exactly
on its last fragment (`Tracks.feed`).

`gc` compares `highestStarted_` with `lowest + 64` in 64 bits. As long as that sum does not wrap, no
frame of an interleaving is dropped (`Tracks.gc_eq_self`); once it does, every buffer is
(`Tracks.gc_frames`). -/

namespace RemotePlay.Net

section Delivery

variable {type : UdpType} {sessionId : UInt32} {frames : List MediaFrame}
  {arrivals pre post : List (UdpHeader × Bytes)}

/-! ## One buffer -/

variable (type sessionId) in
/-- The buffer belongs to `f` and holds exactly its fragments in `pre`. -/
structure Holding (f : MediaFrame) (pre : List (UdpHeader × Bytes)) (fb : FrameBuf) : Prop where
  fragmentCount : fb.fragmentCount = fragmentCountFor f.data.length
  timestampNs : fb.timestampNs = f.timestampNs
  keyframe : fb.keyframe = f.keyframe
  got : ∃ got, fb.Holds got ∧ ∀ i < f.count, got i =
    if f.fragment type sessionId i ∈ pre then some (f.fragment type sessionId i).2 else none

section Holding

variable {f : MediaFrame} {fb : FrameBuf} {i : Nat}

theorem holding_fresh (h2 : 2 ≤ f.count) (hno : ¬ f.In pre) :
    Holding type sessionId f pre (FrameBuf.fresh (f.fragment type sessionId i).1) where
  fragmentCount := rfl
  timestampNs := rfl
  keyframe := f.keyframe_flag i
  got := by
    refine ⟨fun _ => none, FrameBuf.holds_fresh _ h2, ?_⟩
    intro j _
    rw [if_neg]
    exact fun hmem => hno ⟨_, hmem, rfl⟩

theorem Holding.count_eq (hH : Holding type sessionId f pre fb) :
    fb.fragmentCount.toNat = f.count := congrArg UInt16.toNat hH.fragmentCount

theorem Holding.takes (hH : Holding type sessionId f pre fb) (hfits : f.Fits) (hi : i < f.count)
    (hnew : f.fragment type sessionId i ∉ pre) :
    fb.refuses (f.fragment type sessionId i).1 = false := by
  obtain ⟨got, hholds, hgot⟩ := hH.got
  have hidx := MediaFrame.index_toNat type sessionId hfits hi
  rw [FrameBuf.not_refuses_iff hholds, hidx, hH.fragmentCount]
  exact ⟨hi, by rw [hgot i hi, if_neg hnew]⟩

/-- Storing a fragment adds it to the list the buffer holds. -/
theorem Holding.store (hH : Holding type sessionId f pre fb) (hfits : f.Fits) (hi : i < f.count)
    (hok : (decodeUdpHeader (encodeUdpHeader (f.fragment type sessionId i).1 ++
      (f.fragment type sessionId i).2) {}).1 = true)
    (hnew : f.fragment type sessionId i ∉ pre) :
    Holding type sessionId f (pre ++ [f.fragment type sessionId i])
      (fb.store (f.fragment type sessionId i).1 (f.fragment type sessionId i).2) := by
  have htakes := hH.takes hfits hi hnew
  have hidx := MediaFrame.index_toNat type sessionId hfits hi
  have hfill := MediaFrame.fillsSlot type sessionId hfits hi
  refine ⟨hH.fragmentCount, hH.timestampNs, hH.keyframe, ?_⟩
  obtain ⟨got, hholds, hgot⟩ := hH.got
  refine ⟨_, hholds.store (MediaFrame.asFragment hfits hi hok) hH.fragmentCount htakes hfill, ?_⟩
  intro j hj
  show Function.update got (f.fragment type sessionId i).1.fragmentIndex.toNat
    (some (f.fragment type sessionId i).2) j = _
  rw [hidx]
  by_cases hji : j = i
  · subst hji
    rw [Function.update_self, if_pos (by simp)]
  · have hne : f.fragment type sessionId j ≠ f.fragment type sessionId i := fun h =>
      hji (MediaFrame.fragment_inj hj hi h)
    rw [Function.update_of_ne hji, hgot j hj]
    simp [hne]

/-- The buffer is complete exactly when all fragments are in the list. -/
theorem Holding.received_eq_iff (hH : Holding type sessionId f pre fb) :
    fb.received = fb.fragmentCount ↔ ∀ i < f.count, f.fragment type sessionId i ∈ pre := by
  obtain ⟨got, hholds, hgot⟩ := hH.got
  rw [← UInt16.toNat_inj, hholds.received, hholds.slots.count_eq_iff, hH.count_eq]
  constructor
  · intro h i hi
    have hsome := h i hi
    rw [hgot i hi] at hsome
    by_contra hmem
    rw [if_neg hmem] at hsome
    exact absurd hsome (by simp)
  · intro h i hi
    rw [hgot i hi, if_pos (h i hi)]
    rfl

/-- A complete buffer yields its frame. -/
theorem Holding.assembled_eq (hH : Holding type sessionId f pre fb) (hfits : f.Fits)
    (hdone : fb.received = fb.fragmentCount) :
    fb.assembled (f.fragment type sessionId i).1 = f.assembled type sessionId := by
  have hall := hH.received_eq_iff.1 hdone
  have hcount := hH.count_eq
  obtain ⟨got, hholds, hgot⟩ := hH.got
  have h2 := hholds.two_le
  rw [hcount] at h2
  have hgot' : ∀ j < f.count, got j
      = some ((f.data.drop (j * kMaxUdpPayload)).take kMaxUdpPayload) := fun j hj => by
    rw [hgot j hj, if_pos (hall j hj), (MediaFrame.payload_eq type sessionId hfits hj).1]
  obtain ⟨-, -, hle, hbytes⟩ := hholds.complete hdone
  -- the last fragment announced where the data ends
  have htotal : fb.totalSize = f.data.length := by
    have hbounds := MediaFrame.count_bounds hfits
    have hlast := hholds.total _ (by rw [hcount]; exact hgot' (f.count - 1) (by omega))
    rw [hlast, hcount, List.length_take, List.length_drop]
    have hend : f.count * kMaxUdpPayload = (f.count - 1) * kMaxUdpPayload + kMaxUdpPayload := by
      rw [← Nat.succ_mul]
      congr 1
      omega
    omega
  -- byte by byte: position `k` lies in slot `k / 1100`, which holds that slice of the data
  have hdata : fb.data.take fb.totalSize = f.data := by
    apply List.ext_getElem?
    intro k
    by_cases hk : k < fb.totalSize
    · obtain ⟨p, hp, -, hbyte⟩ := hbytes k hk
      have hslot : k / kMaxUdpPayload < f.count := by
        rw [Nat.div_lt_iff_lt_mul (by decide)]
        have := (MediaFrame.count_bounds hfits).1
        omega
      obtain rfl := Option.some.inj ((hgot' _ hslot).symm.trans hp)
      rw [List.getElem?_take_of_lt hk, hbyte,
        List.getElem?_take_of_lt (Nat.mod_lt _ (by decide)), List.getElem?_drop, Nat.mul_comm,
        Nat.div_add_mod]
    · rw [List.getElem?_eq_none (by rw [List.length_take]; omega),
        List.getElem?_eq_none (by omega)]
  rw [FrameBuf.assembled, MediaFrame.assembled, hdata, hH.timestampNs, hH.keyframe]
  rfl

/-- Fragments of other frames do not matter to a buffer. -/
theorem Holding.of_other (hH : Holding type sessionId f pre fb) {fr : UdpHeader × Bytes}
    (hne : fr.1.sequence ≠ f.sequence) : Holding type sessionId f (pre ++ [fr]) fb := by
  refine ⟨hH.fragmentCount, hH.timestampNs, hH.keyframe, ?_⟩
  obtain ⟨got, hholds, hgot⟩ := hH.got
  refine ⟨got, hholds, ?_⟩
  intro j hj
  have hfr : f.fragment type sessionId j ≠ fr := fun h => hne (h ▸ rfl)
  rw [hgot j hj]
  simp [hfr]

end Holding

/-! ## Splits of an interleaving -/

/-- All fragments of a frame have arrived exactly when none is to come. -/
theorem Interleaving.all_in_iff (hI : Interleaving type sessionId frames arrivals)
    (hsplit : arrivals = pre ++ post) {f : MediaFrame} (hf : f ∈ frames) :
    (∀ i < f.count, f.fragment type sessionId i ∈ pre) ↔ ¬ f.In post := by
  have hnodup := hI.nodup
  rw [hsplit, List.nodup_append] at hnodup
  constructor
  · rintro hall ⟨g, hg, hseq⟩
    have hmem : g ∈ arrivals := hsplit ▸ List.mem_append_right pre hg
    obtain ⟨i, hi, rfl⟩ := hI.fragment_of_sequence hf hmem hseq
    exact hnodup.2.2 _ (hall i hi) _ hg rfl
  · intro hno i hi
    have hmem := hI.fragment_mem hf hi
    rw [hsplit, List.mem_append] at hmem
    rcases hmem with h | h
    · exact h
    · exact absurd ⟨_, h, rfl⟩ hno

/-- Two partially received frames are at most 64 sequence numbers apart. -/
theorem Interleaving.partial_near (hI : Interleaving type sessionId frames arrivals)
    (hsplit : arrivals = pre ++ post) {f g : MediaFrame} (hg : g ∈ frames)
    (hfp : f.Partial pre post) (hgp : g.Partial pre post) :
    f.sequence.toNat ≤ g.sequence.toNat + 64 := by
  obtain ⟨fr, hfr, hseq⟩ := hfp.1
  have := hI.window pre post hsplit g hg hgp.2 fr hfr
  rwa [hseq] at this

/-! ## The invariant -/

variable (type sessionId frames pre post) in
/-- After `pre`, with `post` to come: the partially received frames are in flight, and each buffer
    is holding the fragments of its frame that are in `pre`. -/
structure Tracks (r : FragmentReassembler) : Prop where
  buffer : ∀ (s : UInt64) fb, r.frames[s]? = some fb →
    ∃ f ∈ frames, f.sequence = s ∧ f.Partial pre post ∧ Holding type sessionId f pre fb
  inFlight : ∀ f ∈ frames, f.Partial pre post → ∃ fb, r.frames[f.sequence]? = some fb
  highest : r.highestStarted = 0 ∨ ∃ g ∈ pre, g.1.sequence = r.highestStarted
  le_highest : ∀ s ∈ r.frames, s ≤ r.highestStarted
  started : r.initialized = false → ∀ s, s ∉ r.frames

namespace Tracks

variable {r : FragmentReassembler}

theorem initial (ms : List (UdpHeader × Bytes)) (t : UdpType) :
    Tracks type sessionId frames [] ms { type := t } where
  buffer := fun s fb h => absurd h (by simp)
  inFlight := fun f _ hp => absurd hp.1 (by simp [MediaFrame.In])
  highest := Or.inl rfl
  le_highest := fun s hs => absurd hs (by simp)
  started := fun _ s => by simp

section

variable (hT : Tracks type sessionId frames pre post r)

include hT

theorem mem_partial {s : UInt64} (hs : s ∈ r.frames) :
    ∃ f ∈ frames, f.sequence = s ∧ f.Partial pre post := by
  obtain ⟨fb, hfb⟩ := Option.isSome_iff_exists.1 (Std.TreeMap.mem_iff_isSome_getElem?.1 hs)
  obtain ⟨f, hf, hseq, hp, -⟩ := hT.buffer s fb hfb
  exact ⟨f, hf, hseq, hp⟩

/-- At most 65 frames are in flight, so nothing is ever evicted to make room. -/
theorem size_lt (hI : Interleaving type sessionId frames arrivals)
    (hsplit : arrivals = pre ++ post) : r.frames.size < kMaxInFlight := by
  cases hhead : r.frames.keys.head? with
  | none =>
      rw [(head_keys_eq_none_iff _).1 hhead]
      decide
  | some lowest =>
      obtain ⟨hmem, hleast⟩ := least_of_head_keys _ hhead
      obtain ⟨g, hg, rfl, hgp⟩ := hT.mem_partial hmem
      -- all keys lie in the 65 numbers from the lowest one on
      have hsize := size_le_of_interval r.frames (fun _ _ h => UInt64.toNat_inj.1 h)
        g.sequence.toNat 64 (by
          intro s hs
          obtain ⟨f, hf, rfl, hfp⟩ := hT.mem_partial hs
          exact ⟨UInt64.le_iff_toNat_le.1 (Std.LawfulOrderOrd.isLE_compare _ _ |>.1 (hleast _ hs)),
            hI.partial_near hsplit hg hfp hgp⟩)
      unfold kMaxInFlight
      omega

/-- The buffer a fragment of a fragmented frame goes to holds what has arrived of that frame. -/
theorem bufferFor (hI : Interleaving type sessionId frames arrivals)
    (hsplit : arrivals = pre ++ post) {f : MediaFrame} (hf : f ∈ frames) {i : Nat}
    (hi : i < f.count) (h2 : 2 ≤ f.count) (hpost : f.In post) :
    ∃ fb r1, (r.noteStarted (f.fragment type sessionId i).1).bufferFor
        (f.fragment type sessionId i).1 = .ok (some fb, r1) ∧
      Holding type sessionId f pre fb ∧
      r1.highestStarted = (r.noteStarted (f.fragment type sessionId i).1).highestStarted ∧
      r1.initialized = true ∧ ∀ s ≠ f.sequence, r1.frames[s]? = r.frames[s]? := by
  set h := (f.fragment type sessionId i).1
  cases hs : r.frames[f.sequence]? with
  | some fb =>
      obtain ⟨g, hg, hseq, -, hH⟩ := hT.buffer _ _ hs
      obtain rfl := hI.eq_of_sequence hg hf hseq
      have hne : fb.fragmentCount ≠ 0 := by
        intro h0
        have hcount := hH.count_eq
        rw [h0] at hcount
        simp at hcount
        omega
      have hbuf := FragmentReassembler.bufferFor_of_some (r := r.noteStarted h) (h := h) hs hne
      rw [if_pos (show fb.fragmentCount = h.fragmentCount from hH.fragmentCount)] at hbuf
      exact ⟨fb, _, hbuf, hH, rfl, rfl, fun s _ => lookup_insertIfNew_of_some _ hs s⟩
  | none =>
      have hsize := hT.size_lt hI hsplit
      have hself : ¬ (r.noteStarted h).SelfEvicts h := fun hself => absurd hself.2.1 (by
        show ¬ kMaxInFlight ≤ r.frames.size
        omega)
      -- with no buffer, nothing of the frame has arrived, which is what a fresh buffer holds
      obtain ⟨r1, hbuf, hhigh, hinit, -, -, hsame⟩ :=
        FragmentReassembler.bufferFor_of_none (r := r.noteStarted h) (h := h) hs hself
      have hno : ¬ f.In pre := by
        intro hin
        obtain ⟨fb, hfb⟩ := hT.inFlight f hf ⟨hin, hpost⟩
        exact absurd (hs.symm.trans hfb) (by simp)
      exact ⟨_, r1, hbuf, holding_fresh h2 hno, hhigh, hinit, hsame hsize⟩

end

/-- Rebuild the invariant after one more fragment of `f`: only the buffer of `f` has changed. -/
theorem advance {fr : UdpHeader × Bytes} (hT : Tracks type sessionId frames pre (fr :: post) r)
    (hI : Interleaving type sessionId frames arrivals) {f : MediaFrame} (hf : f ∈ frames)
    (hseq : fr.1.sequence = f.sequence) {r' : FragmentReassembler}
    (hother : ∀ s ≠ f.sequence, r'.frames[s]? = r.frames[s]?)
    (hown : ∀ fb, r'.frames[f.sequence]? = some fb →
      f.In post ∧ Holding type sessionId f (pre ++ [fr]) fb)
    (hkeep : f.In post → ∃ fb, r'.frames[f.sequence]? = some fb)
    (hhigh : r'.highestStarted = 0 ∨ ∃ g ∈ pre ++ [fr], g.1.sequence = r'.highestStarted)
    (hle : ∀ s ∈ r'.frames, s ≤ r'.highestStarted)
    (hstarted : r'.initialized = false → ∀ s, s ∉ r'.frames) :
    Tracks type sessionId frames (pre ++ [fr]) post r' := by
  -- moving `fr` from `post` to `pre` changes nothing for the other frames
  have hother' : ∀ g ∈ frames, g.sequence ≠ f.sequence →
      (g.Partial (pre ++ [fr]) post ↔ g.Partial pre (fr :: post)) := by
    intro g _ hne
    have hg : fr.1.sequence ≠ g.sequence := fun h => hne (h.symm.trans hseq)
    simp [MediaFrame.Partial, MediaFrame.In, hg, or_and_right, exists_or]
  refine ⟨?_, ?_, hhigh, hle, hstarted⟩
  · intro s fb hs
    by_cases hsf : s = f.sequence
    · subst hsf
      obtain ⟨hpost, hH⟩ := hown fb hs
      exact ⟨f, hf, rfl, ⟨⟨fr, by simp, hseq⟩, hpost⟩, hH⟩
    · rw [hother s hsf] at hs
      obtain ⟨g, hg, rfl, hp, hH⟩ := hT.buffer s fb hs
      exact ⟨g, hg, rfl, (hother' g hg hsf).2 hp, hH.of_other (fun h => hsf (h.symm.trans hseq))⟩
  · intro g hg hp
    by_cases hgf : g.sequence = f.sequence
    · obtain rfl := hI.eq_of_sequence hg hf hgf
      exact hkeep hp.2
    · rw [hother _ hgf]
      exact hT.inFlight g hg ((hother' g hg hgf).1 hp)

/-- The highest started sequence after `noteStarted`. -/
theorem highest_noteStarted (fr : UdpHeader × Bytes)
    (hT : Tracks type sessionId frames pre post r) :
    ((r.noteStarted fr.1).highestStarted = 0 ∨
        ∃ g ∈ pre ++ [fr], g.1.sequence = (r.noteStarted fr.1).highestStarted) ∧
      fr.1.sequence ≤ (r.noteStarted fr.1).highestStarted ∧
      ∀ s ∈ r.frames, s ≤ (r.noteStarted fr.1).highestStarted := by
  unfold FragmentReassembler.noteStarted
  dsimp only
  split
  · next hnew =>
      refine ⟨Or.inr ⟨fr, by simp, rfl⟩, UInt64.le_refl _, ?_⟩
      intro s hs
      rcases hnew with hinit | hlt
      · exact absurd hs (hT.started (by simpa using hinit) s)
      · exact UInt64.le_trans (hT.le_highest s hs) (UInt64.le_of_lt hlt)
  · next hold =>
      rw [not_or, UInt64.not_lt] at hold
      refine ⟨?_, hold.2, hT.le_highest⟩
      rcases hT.highest with h0 | ⟨g, hg, hseq⟩
      · exact Or.inl h0
      · exact Or.inr ⟨g, List.mem_append_left _ hg, hseq⟩

/-- The only fragment of an unfragmented frame completes it at once. -/
theorem feed_unfragmented {f : MediaFrame} (hfits : f.Fits) (h1 : f.count = 1) :
    r.feed (f.fragment type sessionId 0).1 (f.fragment type sessionId 0).2
      = .ok (some (f.assembled type sessionId), { r with completed := r.completed + 1 }) := by
  have hcount : (f.fragment type sessionId 0).1.fragmentCount = 1 := UInt16.toNat_inj.1 h1
  obtain ⟨hpay, hlen⟩ := MediaFrame.payload_eq type sessionId hfits
    (show 0 < f.count by omega)
  have hdata : (f.fragment type sessionId 0).2.take
      (f.fragment type sessionId 0).1.payloadSize.toNat = f.data := by
    rw [← hlen, List.take_length, hpay, Nat.zero_mul, List.drop_zero, List.take_of_length_le]
    have := (MediaFrame.count_bounds hfits).1
    rwa [h1, Nat.one_mul] at this
  rw [FragmentReassembler.feed, if_pos hcount, UdpHeader.unfragmented, hdata, f.keyframe_flag]
  rfl

/-- `feed` on a fragment of a frame with several: the frame is handed out on the last one. -/
theorem feed_fragmented (hT : Tracks type sessionId frames pre post r)
    (hI : Interleaving type sessionId frames arrivals) (hsplit : arrivals = pre ++ post)
    {f : MediaFrame} (hf : f ∈ frames) (hfits : f.Fits) {i : Nat} (hi : i < f.count)
    (h2 : 2 ≤ f.count) (hpost : f.In post) (hnew : f.fragment type sessionId i ∉ pre) :
    ∃ fb r1, Holding type sessionId f (pre ++ [f.fragment type sessionId i]) fb ∧
      r1.highestStarted = (r.noteStarted (f.fragment type sessionId i).1).highestStarted ∧
      r1.initialized = true ∧ (∀ s ≠ f.sequence, r1.frames[s]? = r.frames[s]?) ∧
      ((fb.received = fb.fragmentCount ∧
          r.feed (f.fragment type sessionId i).1 (f.fragment type sessionId i).2
            = .ok (some (f.assembled type sessionId), r1) ∧
          r1.frames[f.sequence]? = none) ∨
        (fb.received ≠ fb.fragmentCount ∧
          r.feed (f.fragment type sessionId i).1 (f.fragment type sessionId i).2 = .ok (none, r1) ∧
          r1.frames[f.sequence]? = some fb)) := by
  obtain ⟨fb, r1, hbuf, hH, hhigh, hinit, hother⟩ := hT.bufferFor hI hsplit hf hi h2 hpost
  have hok := hI.fragment_accepted hf hi
  have hstored := hH.store hfits hi hok hnew
  have hmany : (f.fragment type sessionId i).1.fragmentCount ≠ 1 := by
    intro h1
    have hcount : f.count = 1 := congrArg UInt16.toNat h1
    omega
  obtain ⟨got, hholds, -⟩ := hH.got
  rcases FragmentReassembler.feed_of_buffer
    (show (MediaFrame.asFragment hfits hi hok).header.fragmentCount ≠ 1 from hmany) hbuf hholds
    hH.fragmentCount (hH.takes hfits hi hnew) (MediaFrame.fillsSlot type sessionId hfits hi) with
    ⟨hdone, hfeed⟩ | ⟨hmore, hfeed⟩
  · refine ⟨_, { r1 with
        frames := r1.frames.erase f.sequence
        completed := r1.completed + 1 },
      hstored, hhigh, hinit, ?_, Or.inl ⟨hdone, ?_, ?_⟩⟩
    · intro s hs
      rw [lookup_erase, if_neg (Ne.symm hs)]
      exact hother s hs
    · rw [← hstored.assembled_eq (i := i) hfits hdone]
      exact hfeed
    · rw [lookup_erase, if_pos rfl]
  · refine ⟨_, { r1 with frames := r1.frames.insert f.sequence (fb.store
        (f.fragment type sessionId i).1 (f.fragment type sessionId i).2) },
      hstored, hhigh, hinit, ?_, Or.inr ⟨hmore, hfeed, ?_⟩⟩
    · intro s hs
      rw [lookup_insert, if_neg (Ne.symm hs)]
      exact hother s hs
    · rw [lookup_insert, if_pos rfl]

/-- **One `feed` of an interleaving.** It returns the frame exactly on its last fragment and leaves
    a state that tracks the arrivals including this one. -/
theorem feed {fr : UdpHeader × Bytes} (hT : Tracks type sessionId frames pre (fr :: post) r)
    (hI : Interleaving type sessionId frames arrivals) (hfits : ∀ f ∈ frames, f.Fits)
    (hsplit : arrivals = pre ++ fr :: post) {f : MediaFrame} (hf : f ∈ frames)
    (hfr : fr ∈ f.fragments type sessionId) :
    ∃ r', r.feed fr.1 fr.2
        = .ok (if f.In post then none else some (f.assembled type sessionId), r') ∧
      Tracks type sessionId frames (pre ++ [fr]) post r' := by
  obtain ⟨i, hi, rfl⟩ := (f.mem_fragments fr).1 hfr
  have hsplit' : arrivals = (pre ++ [f.fragment type sessionId i]) ++ post := by simp [hsplit]
  have hdone := hI.all_in_iff hsplit' hf
  have hnew := hI.not_mem_before hsplit
  rcases Nat.lt_or_ge f.count 2 with hone | h2
  · -- a single fragment, which meets no buffer
    obtain rfl : i = 0 := by omega
    have hlast : ¬ f.In post := hdone.1 (fun j hj => by
      obtain rfl : j = 0 := by omega
      simp)
    have hnone : ∀ fb, r.frames[f.sequence]? ≠ some fb := by
      intro fb hfb
      obtain ⟨g, hg, hseq, ⟨⟨fr', hfr', hseq'⟩, -⟩, -⟩ := hT.buffer _ _ hfb
      have hmem : fr' ∈ arrivals := hsplit ▸ List.mem_append_left _ hfr'
      obtain ⟨j, hj, rfl⟩ := hI.fragment_of_sequence hf hmem (hseq'.trans hseq)
      obtain rfl : j = 0 := by omega
      exact hnew hfr'
    refine ⟨{ r with completed := r.completed + 1 }, ?_, ?_⟩
    · rw [if_neg hlast]
      exact feed_unfragmented (hfits f hf) (by omega)
    · refine hT.advance hI hf rfl (fun _ _ => rfl) (fun fb hfb => absurd hfb (hnone fb))
        (fun hpost => absurd hpost hlast) ?_ hT.le_highest hT.started
      rcases hT.highest with h0 | ⟨g, hg, hseq⟩
      · exact Or.inl h0
      · exact Or.inr ⟨g, List.mem_append_left _ hg, hseq⟩
  · -- the fragment joins the buffer of its frame
    obtain ⟨fb, r1, hH, hhigh, hinit, hother, hcases⟩ := hT.feed_fragmented hI hsplit hf
      (hfits f hf) hi h2 ⟨_, List.mem_cons_self, rfl⟩ hnew
    obtain ⟨hmark, hownle, hle⟩ := hT.highest_noteStarted (f.fragment type sessionId i)
    rw [← hhigh] at hmark hownle hle
    have hle' : ∀ s ∈ r1.frames, s ≤ r1.highestStarted := by
      intro s hs
      by_cases hsf : s = f.sequence
      · rw [hsf]
        exact hownle
      · refine hle s ?_
        rw [Std.TreeMap.mem_iff_isSome_getElem?] at hs ⊢
        rwa [← hother s hsf]
    have hstarted : r1.initialized = false → ∀ s, s ∉ r1.frames := fun h =>
      absurd h (by simp [hinit])
    rw [← hH.received_eq_iff] at hdone
    rcases hcases with ⟨hall, hfeed, hnone⟩ | ⟨hmore, hfeed, hsome⟩
    · have hlast := hdone.1 hall
      refine ⟨r1, by rw [if_neg hlast, hfeed],
        hT.advance hI hf rfl hother ?_ ?_ hmark hle' hstarted⟩
      · exact fun fb' hfb' => absurd (hnone.symm.trans hfb') (by simp)
      · exact fun hpost => absurd hpost hlast
    · have hpost : f.In post := not_not.1 (mt hdone.2 hmore)
      refine ⟨r1, by rw [if_pos hpost, hfeed],
        hT.advance hI hf rfl hother ?_ ?_ hmark hle' hstarted⟩
      · intro fb' hfb'
        obtain rfl := Option.some.inj (hsome.symm.trans hfb')
        exact ⟨hpost, hH⟩
      · exact fun _ => ⟨fb, hsome⟩

/-! ## Garbage collection -/

/-- The lowest buffer survives, so `gc` does nothing, as long as some frame in flight has a sequence
    to which 64 can be added without wrapping. -/
theorem gc_eq_self (hT : Tracks type sessionId frames pre post r)
    (hI : Interleaving type sessionId frames arrivals) (hsplit : arrivals = pre ++ post)
    (hroom : (∃ f ∈ frames, f.Partial pre post) →
      ∃ f ∈ frames, f.Partial pre post ∧ f.sequence.toNat + 64 < 2 ^ 64) : r.gc = r := by
  unfold FragmentReassembler.gc
  cases hkeys : r.frames.keys with
  | nil => rfl
  | cons lowest rest =>
      obtain ⟨hmem, hleast⟩ := least_of_head_keys r.frames (by rw [hkeys]; rfl)
      obtain ⟨g, hg, rfl, hgp⟩ := hT.mem_partial hmem
      obtain ⟨f, hf, hfp, hlt⟩ := hroom ⟨g, hg, hgp⟩
      obtain ⟨fb, hfb⟩ := hT.inFlight f hf hfp
      have hle := UInt64.le_iff_toNat_le.1
        (Std.LawfulOrderOrd.isLE_compare _ _ |>.1 (hleast _ (mem_of_lookup _ hfb)))
      have hsum : (g.sequence + 64).toNat = g.sequence.toNat + 64 := by
        rw [UInt64.toNat_add]
        exact Nat.mod_eq_of_lt (by simp only [UInt64.reduceToNat]; omega)
      have hstay : ¬ g.sequence + 64 < r.highestStarted := by
        rw [UInt64.lt_iff_toNat_lt, hsum, Nat.not_lt]
        rcases hT.highest with h0 | ⟨fr, hfr, hseq⟩
        · simp [h0]
        · rw [← hseq]
          exact hI.window pre post hsplit g hg hgp.2 fr hfr
      rw [FragmentReassembler.gcLoop, if_neg hstay]

/-- When `lowest + 64` wraps for every frame in flight, `gc` drops them all. -/
theorem gc_frames (hT : Tracks type sessionId frames pre post r)
    (hwrap : ∀ f ∈ frames, f.Partial pre post → 2 ^ 64 ≤ f.sequence.toNat + 64) (s : UInt64) :
    r.gc.frames[s]? = none := by
  by_cases hs : s ∈ r.frames
  · refine r.gcLoop_drops r.frames.keys ?_ s (Std.TreeMap.mem_keys.2 hs)
    intro k hk
    have hk' := Std.TreeMap.mem_keys.1 hk
    obtain ⟨f, hf, rfl, hp⟩ := hT.mem_partial hk'
    have hge := hwrap f hf hp
    have hlt := f.sequence.toNat_lt
    have hle := UInt64.le_iff_toNat_le.1 (hT.le_highest _ hk')
    have hsum : (f.sequence + 64).toNat = f.sequence.toNat + 64 - 2 ^ 64 := by
      rw [UInt64.toNat_add]
      simp only [UInt64.reduceToNat]
      omega
    rw [UInt64.lt_iff_toNat_lt, hsum]
    omega
  · cases hlook : r.gc.frames[s]? with
    | none => rfl
    | some fb => exact absurd (mem_of_lookup _ (r.gcLoop_frames_sub _ s fb hlook)) hs

end Tracks

end Delivery

end RemotePlay.Net
