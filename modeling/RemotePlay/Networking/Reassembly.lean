import RemotePlay.Lib.OrderedMap
import RemotePlay.Lib.Runs
import RemotePlay.Lib.SlotBuffer
import RemotePlay.Networking.HeaderCodec

set_option autoImplicit false

/-! # Fragment reassembly

A frame buffer is a slot buffer of `Lib/SlotBuffer.lean`: `FrameBuf.Holds fb got` says that it holds
exactly the fragments `got`, that every one but the last is full, and that the counters agree.
Storing a fragment keeps this (`FrameBuf.Holds.store`), and a complete buffer yields, byte for byte,
what its fragments brought (`FrameBuf.Holds.complete`).

`feed` and `gc` are then a machine over `Except FeedFault FragmentReassembler`: a run that leaves
defined behaviour stays in its fault. -/

namespace RemotePlay.Net

/-- A fragment as it reaches `feed`: a header that `decodeUdpHeader` accepts, with the payload its
    size field announces. -/
structure Fragment where
  header : UdpHeader
  payload : Bytes
  accepted : (decodeUdpHeader (encodeUdpHeader header ++ payload) {}) = (true, header)
  size_eq : payload.length = header.payloadSize.toNat

/-- A well-framed header whose counts are consistent with its payload is a fragment. -/
def Fragment.of (h : UdpHeader) (payload : Bytes) (hf : h.Framed)
    (hsize : payload.length = h.payloadSize.toNat) (hc : h.Consistent payload.length) :
    Fragment where
  header := h
  payload := payload
  accepted := by rw [decodeUdpHeader_encode h {} payload hf, decide_eq_true hc]
  size_eq := hsize

theorem Fragment.consistent (fr : Fragment) : fr.header.Consistent fr.payload.length := by
  have h := (consistent_of_decode fr.accepted).2
  rwa [List.length_append, length_encodeUdpHeader, Nat.add_sub_cancel_left] at h

theorem Fragment.index_lt (fr : Fragment) :
    fr.header.fragmentIndex.toNat < fr.header.fragmentCount.toNat :=
  UInt16.lt_iff_toNat_lt.1 fr.consistent.2.2.2

/-- A fragment of a frame with several fragments has a count of at least two. -/
theorem Fragment.two_le (fr : Fragment) (h1 : fr.header.fragmentCount ≠ 1) :
    2 ≤ fr.header.fragmentCount.toNat := by
  have hlt := fr.index_lt
  have hne : fr.header.fragmentCount.toNat ≠ 1 := fun h => h1 (UInt16.toNat_inj.1 h)
  omega

/-! ## What a frame buffer holds -/

/-- The buffer holds exactly the fragments `got`, the counters agree with them, and every fragment
    but the last is full. -/
structure FrameBuf.Holds (fb : FrameBuf) (got : Nat → Option Bytes) : Prop where
  slots : SlotsHold kMaxUdpPayload fb.fragmentCount.toNat fb.data fb.haveBits got
  two_le : 2 ≤ fb.fragmentCount.toNat
  received : fb.received.toNat = fb.haveBits.count true
  full : ∀ i p, i + 1 < fb.fragmentCount.toNat → got i = some p → p.length = kMaxUdpPayload
  total : ∀ p, got (fb.fragmentCount.toNat - 1) = some p →
    fb.totalSize = (fb.fragmentCount.toNat - 1) * kMaxUdpPayload + p.length

theorem FrameBuf.holds_fresh (h : UdpHeader) (h2 : 2 ≤ h.fragmentCount.toNat) :
    (FrameBuf.fresh h).Holds (fun _ => none) where
  slots := slotsHold_fresh kMaxUdpPayload h.fragmentCount.toNat 0
  two_le := h2
  received := by simp [FrameBuf.fresh, List.count_replicate]
  full := fun i p _ hp => absurd hp (by simp)
  total := fun p hp => absurd hp (by simp)

/-- A fragment the buffer takes goes to a slot whose mark is clear. -/
theorem FrameBuf.not_refuses_iff {fb : FrameBuf} {h : UdpHeader} {got : Nat → Option Bytes}
    (hH : fb.Holds got) : fb.refuses h = false ↔
      h.fragmentIndex.toNat < fb.fragmentCount.toNat ∧ got h.fragmentIndex.toNat = none := by
  unfold FrameBuf.refuses
  rw [Bool.or_eq_false_iff, decide_eq_false_iff_not, UInt16.le_iff_toNat_le, Nat.not_le]
  constructor
  · rintro ⟨hidx, hbit⟩
    rw [List.getD_eq_getElem?_getD, hH.slots.marks_eq _ hidx, Option.getD_some] at hbit
    exact ⟨hidx, Option.not_isSome_iff_eq_none.1 (by simp [hbit])⟩
  · rintro ⟨hidx, hnone⟩
    rw [List.getD_eq_getElem?_getD, hH.slots.marks_eq _ hidx, hnone]
    exact ⟨hidx, rfl⟩

/-- The payload size a fragment must have for its copy to be exact: full, unless it is the last. -/
def UdpHeader.FillsSlot (h : UdpHeader) : Prop :=
  h.payloadSize.toNat ≤ kMaxUdpPayload ∧
    (h.fragmentIndex.toNat + 1 < h.fragmentCount.toNat → h.payloadSize.toNat = kMaxUdpPayload)

/-- **Storing a fragment adds it to what the buffer holds.** -/
theorem FrameBuf.Holds.store {fb : FrameBuf} {got : Nat → Option Bytes} (hH : fb.Holds got)
    (fr : Fragment) (hcount : fb.fragmentCount = fr.header.fragmentCount)
    (htakes : fb.refuses fr.header = false) (hfill : fr.header.FillsSlot) :
    (fb.store fr.header fr.payload).Holds
      (Function.update got fr.header.fragmentIndex.toNat (some fr.payload)) := by
  obtain ⟨hidx, hnone⟩ := (FrameBuf.not_refuses_iff hH).1 htakes
  have hpay : fr.payload.take fr.header.copyRange.2 = fr.payload := by
    rw [UdpHeader.copyRange, ← fr.size_eq, List.take_length]
  have hlen : fr.payload.length ≤ kMaxUdpPayload := by
    rw [fr.size_eq]
    exact hfill.1
  have hmark : fb.haveBits[fr.header.fragmentIndex.toNat]? = some false := by
    rw [hH.slots.marks_eq _ hidx, hnone]
    rfl
  refine ⟨?_, hH.two_le, ?_, ?_, ?_⟩
  · rw [FrameBuf.store, hpay]
    exact hH.slots.store hidx hlen
  · -- the mark was clear, so the counter stays below the fragment count and does not wrap
    have hcount' := count_set_true hmark
    have hle := List.count_le_length (a := true)
      (l := fb.haveBits.set fr.header.fragmentIndex.toNat true)
    rw [List.length_set, hH.slots.marks_length] at hle
    have hlt := fb.fragmentCount.toNat_lt
    simp only [FrameBuf.store]
    rw [UInt16.toNat_add, hH.received, hcount']
    exact Nat.mod_eq_of_lt (by simp only [UInt16.toNat_one]; omega)
  · intro i p hi hp
    by_cases hii : i = fr.header.fragmentIndex.toNat
    · subst hii
      rw [Function.update_self] at hp
      obtain rfl := Option.some.inj hp
      rw [fr.size_eq]
      apply hfill.2
      rw [← hcount]
      exact hi
    · rw [Function.update_of_ne hii] at hp
      exact hH.full i p hi hp
  · intro p hp
    have hn := hH.two_le
    have hcount' := congrArg UInt16.toNat hcount
    simp only [FrameBuf.store] at hp ⊢
    by_cases hlast : fr.header.fragmentIndex.toNat + 1 = fr.header.fragmentCount.toNat
    · have hii : fb.fragmentCount.toNat - 1 = fr.header.fragmentIndex.toNat := by omega
      rw [hii, Function.update_self] at hp
      obtain rfl := Option.some.inj hp
      rw [if_pos hlast, hcount, fr.size_eq]
    · have hii : fb.fragmentCount.toNat - 1 ≠ fr.header.fragmentIndex.toNat := by omega
      rw [Function.update_of_ne hii] at hp
      rw [if_neg hlast]
      exact hH.total p hp

/-- **A complete buffer yields what its fragments brought**: its exact size is known and lies inside
    the buffer, and every byte below it came with the fragment of its slot. -/
theorem FrameBuf.Holds.complete {fb : FrameBuf} {got : Nat → Option Bytes} (hH : fb.Holds got)
    (hall : fb.received = fb.fragmentCount) :
    (∀ i < fb.fragmentCount.toNat, (got i).isSome) ∧ 0 < fb.totalSize ∧
      fb.totalSize ≤ fb.data.length ∧
      ∀ k < fb.totalSize, ∃ p, got (k / kMaxUdpPayload) = some p ∧
        k % kMaxUdpPayload < p.length ∧ fb.data[k]? = p[k % kMaxUdpPayload]? := by
  have hn := hH.two_le
  have hsome : ∀ i < fb.fragmentCount.toNat, (got i).isSome := by
    rw [← hH.slots.count_eq_iff, ← hH.received, hall]
  obtain ⟨last, hlast⟩ := Option.isSome_iff_exists.1 (hsome (fb.fragmentCount.toNat - 1) (by omega))
  have htotal := hH.total last hlast
  have hfits := hH.slots.fits _ _ hlast
  have hend := slot_end_le (w := kMaxUdpPayload) hfits.1
  refine ⟨hsome, ?_, ?_, ?_⟩
  · rw [htotal, kMaxUdpPayload]
    omega
  · rw [htotal, hH.slots.data_length]
    omega
  · intro k hk
    rw [htotal] at hk
    exact hH.slots.getElem?_of_complete (by decide) hsome hH.full hlast hk

/-! ## What one call to `feed` can do -/

/-- Setting up the buffer of `h` evicts that same buffer: the map is full and `h` has the lowest
    sequence. -/
def FragmentReassembler.SelfEvicts (r : FragmentReassembler) (h : UdpHeader) : Prop :=
  r.frames[h.sequence]? = none ∧ kMaxInFlight ≤ r.frames.size ∧ ∀ s ∈ r.frames, h.sequence ≤ s

theorem FragmentReassembler.bufferFor_of_some {r : FragmentReassembler} {h : UdpHeader}
    {fb : FrameBuf} (hs : r.frames[h.sequence]? = some fb) (hfb : fb.fragmentCount ≠ 0) :
    r.bufferFor h = .ok (if fb.fragmentCount = h.fragmentCount then some fb else none,
      { r with frames := r.frames.insertIfNew h.sequence {} }) := by
  unfold FragmentReassembler.bufferFor
  have hget : r.frames.getD h.sequence {} = fb := by
    rw [Std.TreeMap.getD_eq_getD_getElem?, hs, Option.getD_some]
  by_cases heq : fb.fragmentCount = h.fragmentCount
  · simp only [hget, if_neg hfb, if_neg (not_not.2 heq), if_pos heq]
  · simp only [hget, if_neg hfb, if_pos heq, if_neg heq]

/-- `dropOldest` on the map with the new default entry: what it can do to the other buffers. -/
theorem FragmentReassembler.dropOldest_cases {r : FragmentReassembler} {h : UdpHeader}
    (hs : r.frames[h.sequence]? = none) (hself : ¬ r.SelfEvicts h) :
    ∃ r', FragmentReassembler.dropOldest
        { r with frames := r.frames.insertIfNew h.sequence {} } h.sequence = .ok r' ∧
      r'.highestStarted = r.highestStarted ∧ r'.initialized = r.initialized ∧
      (∀ s ≠ h.sequence, ∀ fb, r'.frames[s]? = some fb → r.frames[s]? = some fb) ∧
      (r.frames.size < kMaxInFlight → ∀ s ≠ h.sequence, r'.frames[s]? = r.frames[s]?) := by
  have hother : ∀ s ≠ h.sequence,
      (r.frames.insertIfNew h.sequence {})[s]? = r.frames[s]? := fun s hne => by
    rw [lookup_insertIfNew_of_none _ hs, if_neg (Ne.symm hne)]
  have hsize : (r.frames.insertIfNew h.sequence {}).size = r.frames.size + 1 :=
    size_insertIfNew_of_none _ hs
  unfold FragmentReassembler.dropOldest
  dsimp only
  rw [hsize]
  by_cases hfull : kMaxInFlight < r.frames.size + 1
  · rw [if_pos hfull]
    cases hhead : (r.frames.insertIfNew h.sequence {}).keys.head? with
    | none =>
        rw [head_keys_eq_none_iff, hsize] at hhead
        omega
    | some oldest =>
        have hleast := (least_of_head_keys _ hhead).2
        -- were the new key the least one, the call would evict its own buffer
        have hne : oldest ≠ h.sequence := by
          rintro rfl
          refine hself ⟨hs, by omega, ?_⟩
          intro s hmem
          exact Std.LawfulOrderOrd.isLE_compare _ _ |>.1 (hleast s
            (Std.TreeMap.mem_insertIfNew.2 (Or.inr hmem)))
        dsimp only
        rw [if_neg hne]
        refine ⟨_, rfl, rfl, rfl, ?_, fun hlt => absurd hlt (by omega)⟩
        intro s hsne fb hfb
        rw [← hother s hsne]
        exact (of_lookup_erase hfb).2
  · rw [if_neg hfull]
    exact ⟨_, rfl, rfl, rfl, fun s hne fb hfb => by rwa [hother s hne] at hfb,
      fun _ s hne => hother s hne⟩

/-- A sequence that is not in the map gets a fresh buffer; the others stay, or the oldest of them
    goes when the map is full. -/
theorem FragmentReassembler.bufferFor_of_none {r : FragmentReassembler} {h : UdpHeader}
    (hs : r.frames[h.sequence]? = none) (hself : ¬ r.SelfEvicts h) :
    ∃ r', r.bufferFor h = .ok (some (FrameBuf.fresh h), r') ∧
      r'.highestStarted = r.highestStarted ∧ r'.initialized = r.initialized ∧
      r'.frames[h.sequence]? = some (FrameBuf.fresh h) ∧
      (∀ s ≠ h.sequence, ∀ fb, r'.frames[s]? = some fb → r.frames[s]? = some fb) ∧
      (r.frames.size < kMaxInFlight → ∀ s ≠ h.sequence, r'.frames[s]? = r.frames[s]?) := by
  obtain ⟨r1, hdrop, hhigh, hinit, hsub, hsame⟩ := r.dropOldest_cases hs hself
  have hget : r.frames.getD h.sequence {} = {} := by
    rw [Std.TreeMap.getD_eq_getD_getElem?, hs, Option.getD_none]
  have hlook : ∀ s ≠ h.sequence, (r1.frames.insert h.sequence (FrameBuf.fresh h))[s]?
      = r1.frames[s]? := fun s hne => by rw [lookup_insert, if_neg (Ne.symm hne)]
  refine ⟨{ r1 with frames := r1.frames.insert h.sequence (FrameBuf.fresh h) }, ?_, hhigh, hinit,
    ?_, ?_, ?_⟩
  · unfold FragmentReassembler.bufferFor
    simp only [hget, if_pos, hdrop]
  · rw [lookup_insert, if_pos rfl]
  · intro s hne fb hfb
    rw [hlook s hne] at hfb
    exact hsub s hne fb hfb
  · intro hlt s hne
    rw [hlook s hne]
    exact hsame hlt s hne

theorem FragmentReassembler.bufferFor_of_selfEvicts {r : FragmentReassembler} {h : UdpHeader}
    (hself : r.SelfEvicts h) : r.bufferFor h = .error .danglingBuffer := by
  obtain ⟨hs, hfull, hlow⟩ := hself
  have hget : r.frames.getD h.sequence {} = {} := by
    rw [Std.TreeMap.getD_eq_getD_getElem?, hs, Option.getD_none]
  have hsize : (r.frames.insertIfNew h.sequence {}).size = r.frames.size + 1 :=
    size_insertIfNew_of_none _ hs
  have hdrop : FragmentReassembler.dropOldest
      { r with frames := r.frames.insertIfNew h.sequence {} } h.sequence
        = .error .danglingBuffer := by
    unfold FragmentReassembler.dropOldest
    dsimp only
    rw [hsize, if_pos (by omega)]
    cases hhead : (r.frames.insertIfNew h.sequence {}).keys.head? with
    | none =>
        rw [head_keys_eq_none_iff, hsize] at hhead
        omega
    | some oldest =>
        -- the new key is below every other one, so the least key is the new one
        obtain ⟨hmem, hleast⟩ := least_of_head_keys _ hhead
        have hle : oldest ≤ h.sequence := Std.LawfulOrderOrd.isLE_compare _ _ |>.1
          (hleast _ Std.TreeMap.mem_insertIfNew_self)
        have hge : h.sequence ≤ oldest := by
          rcases Std.TreeMap.mem_insertIfNew.1 hmem with heq | hold
          · exact (Std.compare_eq_iff_eq.1 heq) ▸ UInt64.le_refl _
          · exact hlow _ hold
        dsimp only
        rw [if_pos (UInt64.le_antisymm hle hge)]
  unfold FragmentReassembler.bufferFor
  simp only [hget, if_pos, hdrop]

/-- The byte range `feed` copies to, if the call gets as far as the copy. -/
def FragmentReassembler.copies (r : FragmentReassembler) (h : UdpHeader) : Option (Nat × Nat) :=
  if h.fragmentCount = 1 then none
  else
    match (r.noteStarted h).bufferFor h with
    | .ok (some fb, _) => if fb.refuses h then none else some h.copyRange
    | _ => none

/-- `feed` returns without a copy when the counts differ or the fragment is refused. -/
theorem FragmentReassembler.feed_of_rejected {r r1 : FragmentReassembler} {h : UdpHeader}
    (payload : Bytes) {fb? : Option FrameBuf} (h1 : h.fragmentCount ≠ 1)
    (hbuf : (r.noteStarted h).bufferFor h = .ok (fb?, r1))
    (hrej : ∀ fb, fb? = some fb → fb.refuses h = true) : r.feed h payload = .ok (none, r1) := by
  unfold FragmentReassembler.feed
  cases fb? with
  | none => simp only [if_neg h1, hbuf]
  | some fb => simp only [if_neg h1, hbuf, hrej fb rfl, if_true]

/-- `feed` on a buffer that takes the fragment: the frame is handed out and its buffer removed, or
    the buffer is kept. -/
theorem FragmentReassembler.feed_of_buffer {r r1 : FragmentReassembler} {fr : Fragment}
    {fb : FrameBuf} {got : Nat → Option Bytes} (h1 : fr.header.fragmentCount ≠ 1)
    (hbuf : (r.noteStarted fr.header).bufferFor fr.header = .ok (some fb, r1))
    (hH : fb.Holds got) (hcount : fb.fragmentCount = fr.header.fragmentCount)
    (htakes : fb.refuses fr.header = false) (hfill : fr.header.FillsSlot) :
    ((fb.store fr.header fr.payload).received = (fb.store fr.header fr.payload).fragmentCount ∧
      r.feed fr.header fr.payload
        = .ok (some ((fb.store fr.header fr.payload).assembled fr.header),
          { r1 with
            frames := r1.frames.erase fr.header.sequence
            completed := r1.completed + 1 })) ∨
    ((fb.store fr.header fr.payload).received ≠ (fb.store fr.header fr.payload).fragmentCount ∧
      r.feed fr.header fr.payload
        = .ok (none, { r1 with
          frames := r1.frames.insert fr.header.sequence (fb.store fr.header fr.payload) })) := by
  have hidx := ((FrameBuf.not_refuses_iff hH).1 htakes).1
  -- the slot ends inside the buffer, and the payload inside the slot
  have hend := slot_end_le (w := kMaxUdpPayload) hidx
  have hin : ¬ fb.data.length < fr.header.copyRange.1 + fr.header.copyRange.2 := by
    rw [hH.slots.data_length, UdpHeader.copyRange]
    have := hfill.1
    dsimp only
    omega
  have hfeed : r.feed fr.header fr.payload
      = .ok (r1.settle fr.header (fb.store fr.header fr.payload)) := by
    unfold FragmentReassembler.feed
    simp only [if_neg h1, hbuf, htakes, Bool.false_eq_true, if_false, if_neg hin]
  rw [hfeed]
  unfold FragmentReassembler.settle
  by_cases hdone : (fb.store fr.header fr.payload).received
      = (fb.store fr.header fr.payload).fragmentCount
  · -- the total size is known by now, so the last check of `feed` lets the frame out
    obtain ⟨-, hpos, hle, -⟩ := (hH.store fr hcount htakes hfill).complete hdone
    rw [if_pos hdone, if_neg (by omega)]
    exact Or.inl ⟨hdone, rfl⟩
  · rw [if_neg hdone]
    exact Or.inr ⟨hdone, rfl⟩

/-! ## The invariant rule for buffers -/

section Buffers

variable {r r' : FragmentReassembler} {h : UdpHeader} {P : UInt64 → FrameBuf → Prop}

theorem FragmentReassembler.dropOldest_frames_sub {seq : UInt64} (hdrop : r.dropOldest seq = .ok r')
    (s : UInt64) (fb : FrameBuf) (hs : r'.frames[s]? = some fb) : r.frames[s]? = some fb := by
  unfold FragmentReassembler.dropOldest at hdrop
  split at hdrop
  · split at hdrop
    · obtain rfl := Except.ok.inj hdrop
      exact hs
    · split at hdrop
      · exact absurd hdrop (by simp)
      · obtain rfl := Except.ok.inj hdrop
        exact (of_lookup_erase hs).2
  · obtain rfl := Except.ok.inj hdrop
    exact hs

theorem FragmentReassembler.bufferFor_buffers {fb? : Option FrameBuf}
    (hP : ∀ (s : UInt64) fb, r.frames[s]? = some fb → P s fb)
    (hfresh : P h.sequence (FrameBuf.fresh h)) (hbuf : r.bufferFor h = .ok (fb?, r')) :
    (∀ (s : UInt64) fb, r'.frames[s]? = some fb → P s fb) ∧
      ∀ fb, fb? = some fb → P h.sequence fb ∧ fb.fragmentCount = h.fragmentCount := by
  by_cases h0 : (r.frames.getD h.sequence {}).fragmentCount = 0
  · -- a new buffer, or one whose count is still zero: it is set up afresh
    unfold FragmentReassembler.bufferFor at hbuf
    dsimp only at hbuf
    rw [if_pos h0] at hbuf
    split at hbuf
    · exact absurd hbuf (by simp)
    · next r2 hdrop =>
        obtain ⟨rfl, rfl⟩ := Prod.mk.inj (Except.ok.inj hbuf)
        constructor
        · intro s fb hs
          rcases of_lookup_insert hs with ⟨rfl, rfl⟩ | ⟨hne, hs⟩
          · exact hfresh
          · have hold := dropOldest_frames_sub hdrop s fb hs
            exact hP s fb (of_lookup_insertIfNew hold hne)
        · intro fb hfb
          obtain rfl := Option.some.inj hfb
          exact ⟨hfresh, rfl⟩
  · cases hs : r.frames[h.sequence]? with
    | none =>
        rw [Std.TreeMap.getD_eq_getD_getElem?, hs, Option.getD_none] at h0
        exact absurd rfl h0
    | some fb =>
        rw [Std.TreeMap.getD_eq_getD_getElem?, hs, Option.getD_some] at h0
        rw [r.bufferFor_of_some hs h0] at hbuf
        obtain ⟨rfl, rfl⟩ := Prod.mk.inj (Except.ok.inj hbuf)
        refine ⟨fun s fb' hs' => hP s fb' ?_, ?_⟩
        · rwa [lookup_insertIfNew_of_some _ hs] at hs'
        · intro fb' hfb'
          split at hfb'
          · next hcount =>
              obtain rfl := Option.some.inj hfb'
              exact ⟨hP _ _ hs, hcount⟩
          · exact absurd hfb' (by simp)

/-- **The invariant rule for the buffers in flight.** What holds of them, of a fresh buffer, and of
    a buffer after storing a fragment it takes, holds of them after `feed`; a completed frame comes
    from such a buffer. -/
theorem FragmentReassembler.feed_buffers {payload : Bytes} {out : Option AssembledFrame}
    (hP : ∀ (s : UInt64) fb, r.frames[s]? = some fb → P s fb) (h1 : h.fragmentCount ≠ 1)
    (hfresh : P h.sequence (FrameBuf.fresh h))
    (hstore : ∀ fb, P h.sequence fb → fb.fragmentCount = h.fragmentCount →
      fb.refuses h = false → h.copyRange.1 + h.copyRange.2 ≤ fb.data.length →
      P h.sequence (fb.store h payload))
    (hfeed : r.feed h payload = .ok (out, r')) :
    (∀ (s : UInt64) fb, r'.frames[s]? = some fb → P s fb) ∧
      ∀ frame, out = some frame → ∃ fb, P h.sequence fb ∧ fb.received = fb.fragmentCount ∧
        fb.totalSize ≤ fb.data.length ∧ frame = fb.assembled h := by
  unfold FragmentReassembler.feed at hfeed
  rw [if_neg h1] at hfeed
  split at hfeed
  · exact absurd hfeed (by simp)
  · -- the counts differ: no fragment is stored
    next r1 hbuf =>
      obtain ⟨rfl, rfl⟩ := Prod.mk.inj (Except.ok.inj hfeed)
      exact ⟨(bufferFor_buffers (r := r.noteStarted h) hP hfresh hbuf).1,
        fun frame hframe => absurd hframe (by simp)⟩
  · next fb r1 hbuf =>
      obtain ⟨hP1, hfb⟩ := bufferFor_buffers (r := r.noteStarted h) hP hfresh hbuf
      obtain ⟨hPfb, hcount⟩ := hfb fb rfl
      split at hfeed
      · obtain ⟨rfl, rfl⟩ := Prod.mk.inj (Except.ok.inj hfeed)
        exact ⟨hP1, fun frame hframe => absurd hframe (by simp)⟩
      · next htakes =>
          split at hfeed
          · exact absurd hfeed (by simp)
          · next hin =>
              have hstored := hstore fb hPfb hcount (by simpa using htakes) (by omega)
              have herase : ∀ (s : UInt64) fb', (r1.frames.erase h.sequence)[s]? = some fb' →
                  P s fb' := fun s fb' hs => hP1 s fb' (of_lookup_erase hs).2
              have hres := Except.ok.inj hfeed
              unfold FragmentReassembler.settle at hres
              split at hres
              · next hdone =>
                  split at hres
                  · obtain ⟨rfl, rfl⟩ := Prod.mk.inj hres
                    exact ⟨herase, fun frame hframe => absurd hframe (by simp)⟩
                  · next htotal =>
                      obtain ⟨rfl, rfl⟩ := Prod.mk.inj hres
                      refine ⟨herase, ?_⟩
                      intro frame hframe
                      exact ⟨_, hstored, hdone, by omega, (Option.some.inj hframe).symm⟩
              · obtain ⟨rfl, rfl⟩ := Prod.mk.inj hres
                refine ⟨?_, fun frame hframe => absurd hframe (by simp)⟩
                intro s fb' hs
                rcases of_lookup_insert hs with ⟨rfl, rfl⟩ | ⟨-, hs⟩
                · exact hstored
                · exact hP1 s fb' hs

end Buffers

/-- `gc` only drops buffers. -/
theorem FragmentReassembler.gcLoop_frames_sub (r : FragmentReassembler) (ks : List UInt64)
    (s : UInt64) (fb : FrameBuf) (h : (r.gcLoop ks).frames[s]? = some fb) :
    r.frames[s]? = some fb := by
  induction ks generalizing r with
  | nil => exact h
  | cons k ks ih =>
      rw [FragmentReassembler.gcLoop] at h
      split at h
      · have herase := ih _ h
        exact (of_lookup_erase herase).2
      · exact h

/-- The loop drops every listed buffer if all of them compare as too old. -/
theorem FragmentReassembler.gcLoop_drops (r : FragmentReassembler) (ks : List UInt64)
    (hold : ∀ k ∈ ks, k + 64 < r.highestStarted) (s : UInt64) (hs : s ∈ ks) :
    (r.gcLoop ks).frames[s]? = none := by
  induction ks generalizing r with
  | nil => exact absurd hs (by simp)
  | cons k ks ih =>
      rw [FragmentReassembler.gcLoop, if_pos (hold k List.mem_cons_self)]
      by_cases hmem : s ∈ ks
      · exact ih _ (fun k' hk' => hold k' (List.mem_cons_of_mem _ hk')) hmem
      · obtain rfl : s = k := (List.mem_cons.1 hs).resolve_right hmem
        cases hlook : (FragmentReassembler.gcLoop { r with
            frames := r.frames.erase s
            droppedIncomplete := r.droppedIncomplete + 1 } ks).frames[s]? with
        | none => rfl
        | some fb =>
            have herase := FragmentReassembler.gcLoop_frames_sub _ ks s fb hlook
            exact absurd rfl (of_lookup_erase herase).1

end RemotePlay.Net
