import RemotePlay.Networking.FragmentSafety

set_option autoImplicit false

/-! # What the reassembler accounts for

A buffer in flight has some of its fragments but not all, and its counter and bitmap agree. Every
unfragmented frame and every buffer ever set up is later completed, dropped, or still in flight:
`Accounts r n` says so of the `n` frames opened so far, and each call of `feed` or `gc` keeps it.

With `gc` after every `feed` the buffers in flight lie within 64 numbers of the lowest one. That is
so although the sum `lowest + 64` wraps for the last 64 numbers, since the sum is then below every
frame started and `gc` drops the buffer. -/

namespace RemotePlay.Net

/-! ## The buffers -/

/-- The sizes of a buffer, and its counter against its bitmap. -/
structure FrameBuf.Shaped (fb : FrameBuf) : Prop where
  two_le : 2 ≤ fb.fragmentCount.toNat
  haveBits_length : fb.haveBits.length = fb.fragmentCount.toNat
  data_length : fb.data.length = fb.fragmentCount.toNat * kMaxUdpPayload
  received : fb.received.toNat = fb.haveBits.count true
  total : fb.haveBits[fb.fragmentCount.toNat - 1]? = some true →
    0 < fb.totalSize ∧ fb.totalSize ≤ fb.data.length

/-- A buffer in flight: some of its fragments are there, and some are not. -/
structure FrameBuf.InFlight (fb : FrameBuf) : Prop extends fb.Shaped where
  started : 1 ≤ fb.received.toNat
  unfinished : fb.received.toNat < fb.fragmentCount.toNat

theorem FrameBuf.shaped_fresh (h : UdpHeader) (h2 : 2 ≤ h.fragmentCount.toNat) :
    (FrameBuf.fresh h).Shaped where
  two_le := h2
  haveBits_length := List.length_replicate
  data_length := List.length_replicate
  received := by simp [FrameBuf.fresh, List.count_replicate]
  total := by
    intro hlast
    rw [FrameBuf.fresh, List.getElem?_replicate] at hlast
    split at hlast
    · exact absurd (Option.some.inj hlast) (by simp)
    · exact absurd hlast (by simp)

theorem FrameBuf.fresh_takes {h : UdpHeader} (hidx : h.fragmentIndex < h.fragmentCount) :
    (FrameBuf.fresh h).refuses h = false := by
  have hbit : (List.replicate h.fragmentCount.toNat false).getD h.fragmentIndex.toNat false
      = false := by
    rw [List.getD_eq_getElem?_getD, List.getElem?_replicate]
    split
    · rfl
    · rfl
  simp only [FrameBuf.refuses, FrameBuf.fresh, hbit, Bool.or_false]
  exact decide_eq_false (UInt16.not_le.2 hidx)

namespace FrameBuf.Shaped

variable {fb : FrameBuf} {h : UdpHeader} {payload : Bytes} (hS : fb.Shaped)

include hS

theorem fragmentCount_ne_zero : fb.fragmentCount ≠ 0 := by
  intro h0
  have := hS.two_le
  rw [h0] at this
  exact absurd this (by decide)

/-- The slot of a fragment that is taken is there, with its mark clear. -/
theorem clear_of_takes (htakes : fb.refuses h = false) :
    h.fragmentIndex.toNat < fb.fragmentCount.toNat ∧
      fb.haveBits[h.fragmentIndex.toNat]? = some false := by
  unfold FrameBuf.refuses at htakes
  rw [Bool.or_eq_false_iff, decide_eq_false_iff_not, UInt16.le_iff_toNat_le, Nat.not_le] at htakes
  obtain ⟨hidx, hbit⟩ := htakes
  have hin : h.fragmentIndex.toNat < fb.haveBits.length := hS.haveBits_length ▸ hidx
  rw [List.getD_eq_getElem?_getD, List.getElem?_eq_getElem hin, Option.getD_some] at hbit
  exact ⟨hidx, by rw [List.getElem?_eq_getElem hin, hbit]⟩

theorem received_store (payload : Bytes) (htakes : fb.refuses h = false) :
    (fb.store h payload).received.toNat = fb.received.toNat + 1 ∧
      (fb.store h payload).received.toNat ≤ fb.fragmentCount.toNat := by
  obtain ⟨-, hclear⟩ := hS.clear_of_takes htakes
  -- one more mark is set, and there are no more marks than fragments, so the counter does not wrap
  have hcount := count_set_true hclear
  have hle := List.count_le_length (a := true) (l := fb.haveBits.set h.fragmentIndex.toNat true)
  rw [List.length_set, hS.haveBits_length] at hle
  have hlt := fb.fragmentCount.toNat_lt
  have hsum : (fb.store h payload).received.toNat = fb.received.toNat + 1 := by
    simp only [FrameBuf.store]
    rw [UInt16.toNat_add, hS.received]
    exact Nat.mod_eq_of_lt (by simp only [UInt16.toNat_one]; omega)
  rw [hsum, hS.received]
  omega

/-- Storing a fragment inside the buffer keeps its shape. -/
theorem store (hcount : fb.fragmentCount = h.fragmentCount) (htakes : fb.refuses h = false)
    (hin : h.copyRange.1 + h.copyRange.2 ≤ fb.data.length) : (fb.store h payload).Shaped where
  two_le := hS.two_le
  haveBits_length := by
    simp only [FrameBuf.store, List.length_set]
    exact hS.haveBits_length
  data_length := by
    simp only [FrameBuf.store]
    rw [length_overwrite _ _ _ (by rw [List.length_take]; omega)]
    exact hS.data_length
  received := by
    rw [(hS.received_store _ htakes).1, hS.received]
    exact (count_set_true (hS.clear_of_takes htakes).2).symm
  total := by
    intro hlast
    have h2 := hS.two_le
    have hcount' := congrArg UInt16.toNat hcount
    simp only [FrameBuf.store] at hlast ⊢
    rw [length_overwrite _ _ _ (by rw [List.length_take]; omega)]
    by_cases hidx : h.fragmentIndex.toNat + 1 = h.fragmentCount.toNat
    · rw [if_pos hidx]
      have hoff : h.fragmentIndex.toNat = h.fragmentCount.toNat - 1 := by omega
      rw [UdpHeader.copyRange, hoff] at hin
      have hpos : 1 * kMaxUdpPayload ≤ (h.fragmentCount.toNat - 1) * kMaxUdpPayload :=
        Nat.mul_le_mul_right _ (by omega)
      unfold kMaxUdpPayload at *
      omega
    · rw [if_neg hidx]
      apply hS.total
      rwa [List.getElem?_set_ne (by omega)] at hlast

/-- After a fragment was stored the buffer is complete or in flight. -/
theorem inFlight_store (hcount : fb.fragmentCount = h.fragmentCount)
    (htakes : fb.refuses h = false) (hin : h.copyRange.1 + h.copyRange.2 ≤ fb.data.length)
    (hopen : (fb.store h payload).received ≠ (fb.store h payload).fragmentCount) :
    (fb.store h payload).InFlight where
  toShaped := hS.store hcount htakes hin
  started := by
    rw [(hS.received_store _ htakes).1]
    omega
  unfinished := by
    have hle := (hS.received_store payload htakes).2
    have hne : (fb.store h payload).received.toNat ≠ fb.fragmentCount.toNat := fun heq =>
      hopen (UInt16.toNat_inj.1 heq)
    show (fb.store h payload).received.toNat < fb.fragmentCount.toNat
    omega

/-- A buffer with all its fragments knows its exact size, which lies inside it. -/
theorem total_of_complete (hall : fb.received = fb.fragmentCount) :
    ¬ (fb.totalSize = 0 ∨ fb.data.length < fb.totalSize) := by
  have hcount : fb.haveBits.count true = fb.haveBits.length := by
    rw [← hS.received, hall, hS.haveBits_length]
  rw [List.count_eq_length] at hcount
  have h2 := hS.two_le
  have hin : fb.fragmentCount.toNat - 1 < fb.haveBits.length := by
    rw [hS.haveBits_length]
    omega
  have hlast : fb.haveBits[fb.fragmentCount.toNat - 1]? = some true := by
    rw [List.getElem?_eq_getElem hin, ← hcount _ (List.getElem_mem hin)]
  have := hS.total hlast
  omega

end FrameBuf.Shaped

/-! ## What one call does -/

/-- Every buffer is in flight. -/
def FragmentReassembler.Sound (r : FragmentReassembler) : Prop :=
  ∀ (s : UInt64) fb, r.frames[s]? = some fb → fb.InFlight

namespace FragmentReassembler

variable {r r' r1 : FragmentReassembler} {h : UdpHeader} {payload : Bytes}
  {out : Option AssembledFrame} {fb? : Option FrameBuf}

theorem Sound.fragmentCount_ne_zero (hr : r.Sound) {s : UInt64} {fb : FrameBuf}
    (hs : r.frames[s]? = some fb) : fb.fragmentCount ≠ 0 :=
  (hr s fb hs).toShaped.fragmentCount_ne_zero

/-- The buffer is the one in the map, or a fresh one that may have pushed out another. -/
theorem Sound.bufferFor_cases (hr : r.Sound) (hbuf : r.bufferFor h = .ok (fb?, r1)) :
    (∃ fb, r.frames[h.sequence]? = some fb ∧
      fb? = (if fb.fragmentCount = h.fragmentCount then some fb else none) ∧
      r1 = { r with frames := r.frames.insertIfNew h.sequence {} }) ∨
    (r.frames[h.sequence]? = none ∧ fb? = some (FrameBuf.fresh h) ∧
      ∃ r2, dropOldest { r with frames := r.frames.insertIfNew h.sequence {} } h.sequence = .ok r2 ∧
        r1 = { r2 with frames := r2.frames.insert h.sequence (FrameBuf.fresh h) }) := by
  cases hs : r.frames[h.sequence]? with
  | some fb =>
      rw [r.bufferFor_of_some hs (hr.fragmentCount_ne_zero hs)] at hbuf
      obtain ⟨rfl, rfl⟩ := Prod.mk.inj (Except.ok.inj hbuf)
      exact Or.inl ⟨fb, rfl, rfl, rfl⟩
  | none =>
      have hget : r.frames.getD h.sequence {} = {} := by
        rw [Std.TreeMap.getD_eq_getD_getElem?, hs, Option.getD_none]
      unfold bufferFor at hbuf
      dsimp only at hbuf
      rw [hget, if_pos rfl] at hbuf
      split at hbuf
      · exact absurd hbuf (by simp)
      · next r2 hdrop =>
          obtain ⟨rfl, rfl⟩ := Prod.mk.inj (Except.ok.inj hbuf)
          exact Or.inr ⟨rfl, rfl, r2, hdrop, rfl⟩

/-- A call for a frame of several fragments either leaves the buffer alone or settles it. -/
theorem feed_cases (h1 : h.fragmentCount ≠ 1) (hfeed : r.feed h payload = .ok (out, r')) :
    ∃ fb? r1, (r.noteStarted h).bufferFor h = .ok (fb?, r1) ∧
      ((out = none ∧ r' = r1 ∧ ∀ fb, fb? = some fb → fb.refuses h = true) ∨
        ∃ fb, fb? = some fb ∧ fb.refuses h = false ∧
          h.copyRange.1 + h.copyRange.2 ≤ fb.data.length ∧
          r1.settle h (fb.store h payload) = (out, r')) := by
  unfold feed at hfeed
  rw [if_neg h1] at hfeed
  split at hfeed
  · exact absurd hfeed (by simp)
  · next r1 hbuf =>
      obtain ⟨rfl, rfl⟩ := Prod.mk.inj (Except.ok.inj hfeed)
      exact ⟨none, r1, hbuf, Or.inl ⟨rfl, rfl, fun fb hfb => absurd hfb (by simp)⟩⟩
  · next fb r1 hbuf =>
      refine ⟨some fb, r1, hbuf, ?_⟩
      split at hfeed
      · next hrefuses =>
          obtain ⟨rfl, rfl⟩ := Prod.mk.inj (Except.ok.inj hfeed)
          refine Or.inl ⟨rfl, rfl, ?_⟩
          intro fb' hfb'
          rw [← Option.some.inj hfb']
          exact hrefuses
      · next htakes =>
          split at hfeed
          · exact absurd hfeed (by simp)
          · next hin =>
              exact Or.inr ⟨fb, rfl, by simpa using htakes, Nat.not_lt.1 hin, Except.ok.inj hfeed⟩

/-- Apart from the one just set up, the buffers are those that were in flight. -/
theorem Sound.bufferFor_sub (hr : r.Sound) (hbuf : r.bufferFor h = .ok (fb?, r1)) (s : UInt64)
    (hne : s ≠ h.sequence) (fb : FrameBuf) (hs : r1.frames[s]? = some fb) :
    r.frames[s]? = some fb := by
  rcases hr.bufferFor_cases hbuf with ⟨fb', hold, -, rfl⟩ | ⟨-, -, r2, hdrop, rfl⟩
  · rwa [lookup_insertIfNew_of_some _ hold] at hs
  · rcases of_lookup_insert hs with ⟨heq, -⟩ | ⟨-, hs⟩
    · exact absurd heq hne
    · exact of_lookup_insertIfNew (dropOldest_frames_sub hdrop s fb hs) hne

/-- The buffer a fragment goes to has its shape and expects as many fragments. -/
theorem Sound.bufferFor_shaped (hr : r.Sound) (h2 : 2 ≤ h.fragmentCount.toNat) {fb : FrameBuf}
    (hbuf : r.bufferFor h = .ok (some fb, r1)) :
    fb.Shaped ∧ fb.fragmentCount = h.fragmentCount := by
  rcases hr.bufferFor_cases hbuf with ⟨fb', hold, hfb, -⟩ | ⟨-, hfb, -⟩
  · split at hfb
    · next hcount =>
        obtain rfl := Option.some.inj hfb
        exact ⟨(hr _ _ hold).toShaped, hcount⟩
    · exact absurd hfb (by simp)
  · obtain rfl := Option.some.inj hfb
    exact ⟨FrameBuf.shaped_fresh h h2, rfl⟩

/-- **Every buffer stays in flight** until it is completed or dropped. -/
theorem Sound.feed (hr : r.Sound) (fr : Fragment)
    (hfeed : r.feed fr.header fr.payload = .ok (out, r')) : r'.Sound := by
  by_cases h1 : fr.header.fragmentCount = 1
  · rw [FragmentReassembler.feed, if_pos h1] at hfeed
    obtain ⟨-, rfl⟩ := Prod.mk.inj (Except.ok.inj hfeed)
    exact hr
  have hnoted : (r.noteStarted fr.header).Sound := hr
  obtain ⟨fb?, r1, hbuf, ⟨-, rfl, hrefuses⟩ | ⟨fb, rfl, htakes, hin, hsettle⟩⟩ :=
    feed_cases h1 hfeed
  · -- a fresh buffer takes the fragment, so this one was there before
    rcases hnoted.bufferFor_cases hbuf with ⟨fb, hold, -, rfl⟩ | ⟨-, hfb, -⟩
    · intro s fb' hs
      rw [lookup_insertIfNew_of_some _ hold] at hs
      exact hr s fb' hs
    · have hfresh := hrefuses _ hfb
      rw [FrameBuf.fresh_takes fr.consistent.2.2.2] at hfresh
      exact absurd hfresh (by simp)
  · obtain ⟨hS, hcount⟩ := hnoted.bufferFor_shaped (fr.two_le h1) hbuf
    have hother : ∀ s ≠ fr.header.sequence, ∀ fb', r1.frames[s]? = some fb' → fb'.InFlight :=
      fun s hne fb' hs => hr s fb' (hnoted.bufferFor_sub hbuf s hne fb' hs)
    unfold settle at hsettle
    split at hsettle
    · split at hsettle
      · obtain ⟨-, rfl⟩ := Prod.mk.inj hsettle
        intro s fb' hs
        obtain ⟨hne, hs⟩ := of_lookup_erase hs
        exact hother s hne fb' hs
      · obtain ⟨-, rfl⟩ := Prod.mk.inj hsettle
        intro s fb' hs
        obtain ⟨hne, hs⟩ := of_lookup_erase hs
        exact hother s hne fb' hs
    · next hopen =>
        obtain ⟨-, rfl⟩ := Prod.mk.inj hsettle
        intro s fb' hs
        rcases of_lookup_insert hs with ⟨-, rfl⟩ | ⟨hne, hs⟩
        · exact hS.inFlight_store hcount htakes hin hopen
        · exact hother s hne fb' hs

theorem Sound.gc (hr : r.Sound) : r.gc.Sound :=
  fun s fb hs => hr s fb (r.gcLoop_frames_sub _ s fb hs)

/-! ## The counters -/

/-- `feed` sets up a buffer: the fragment is one of several, and its sequence has none. -/
def creates (r : FragmentReassembler) (h : UdpHeader) : Bool :=
  h.fragmentCount != 1 && (r.frames.getD h.sequence {}).fragmentCount == 0

/-- The buffer that `frames_.erase(frames_.begin())` removes while `feed` sets up one for `h`. -/
def evicted (r : FragmentReassembler) (h : UdpHeader) : Option UInt64 :=
  let frames := r.frames.insertIfNew h.sequence {}
  if r.creates h ∧ kMaxInFlight < frames.size then frames.keys.head? else none

/-- Of `n` frames opened so far, each was completed, was dropped, or is in flight; the counters hold
    how many, in 64 bits. -/
def Accounts (r : FragmentReassembler) (n : Nat) : Prop :=
  ∃ done gone : Nat, r.completed = UInt64.ofNat done ∧ r.droppedIncomplete = UInt64.ofNat gone ∧
    done + gone + r.frames.size = n

theorem accounts_fresh (type : UdpType) : Accounts { type := type } 0 := ⟨0, 0, rfl, rfl, rfl⟩

theorem ofNat_succ (n : Nat) : UInt64.ofNat (n + 1) = UInt64.ofNat n + 1 := UInt64.ofNat_add ..

/-- Dropping a buffer moves it from those in flight to those dropped. -/
theorem Accounts.drop {n : Nat} (hA : r.Accounts n) {k : UInt64} {fb : FrameBuf}
    (hk : r.frames[k]? = some fb) : Accounts { r with
      frames := r.frames.erase k
      droppedIncomplete := r.droppedIncomplete + 1 } n := by
  obtain ⟨done, gone, hdone, hgone, hsum⟩ := hA
  refine ⟨done, gone + 1, hdone, by rw [ofNat_succ, ← hgone], ?_⟩
  have hsize := size_erase_of_some r.frames hk
  dsimp only
  omega

theorem Accounts.complete {n : Nat} (hA : r.Accounts n) {k : UInt64} {fb : FrameBuf}
    (hk : r.frames[k]? = some fb) : Accounts { r with
      frames := r.frames.erase k
      completed := r.completed + 1 } n := by
  obtain ⟨done, gone, hdone, hgone, hsum⟩ := hA
  refine ⟨done + 1, gone, by rw [ofNat_succ, ← hdone], hgone, ?_⟩
  have hsize := size_erase_of_some r.frames hk
  dsimp only
  omega

theorem Accounts.replace {n : Nat} (hA : r.Accounts n) {k : UInt64} {fb : FrameBuf}
    (hk : r.frames[k]? = some fb) (fb' : FrameBuf) :
    Accounts { r with frames := r.frames.insert k fb' } n := by
  obtain ⟨done, gone, hdone, hgone, hsum⟩ := hA
  refine ⟨done, gone, hdone, hgone, ?_⟩
  dsimp only
  rw [size_insert_of_some _ hk]
  exact hsum

theorem Accounts.settle {n : Nat} (hA : r.Accounts n) {fb : FrameBuf}
    (hk : r.frames[h.sequence]? = some fb) (fb' : FrameBuf) : (r.settle h fb').2.Accounts n := by
  unfold FragmentReassembler.settle
  split
  · split
    · exact hA.drop hk
    · exact hA.complete hk
  · exact hA.replace hk fb'

/-- Setting up a buffer opens a frame, whether or not it pushes out another. -/
theorem Accounts.bufferFor {n : Nat} (hA : r.Accounts n) (hr : r.Sound)
    (hbuf : r.bufferFor h = .ok (fb?, r1)) :
    r1.Accounts (n + if (r.frames.getD h.sequence {}).fragmentCount = 0 then 1 else 0) ∧
      ∃ fb, r1.frames[h.sequence]? = some fb := by
  rcases hr.bufferFor_cases hbuf with ⟨fb, hold, -, rfl⟩ | ⟨hnone, -, r2, hdrop, rfl⟩
  · have hget : (r.frames.getD h.sequence {}).fragmentCount ≠ 0 := by
      rw [Std.TreeMap.getD_eq_getD_getElem?, hold]
      exact hr.fragmentCount_ne_zero hold
    rw [if_neg hget]
    refine ⟨?_, fb, by rw [lookup_insertIfNew_of_some _ hold]; exact hold⟩
    obtain ⟨done, gone, hdone, hgone, hsum⟩ := hA
    refine ⟨done, gone, hdone, hgone, ?_⟩
    dsimp only
    rw [Std.TreeMap.size_insertIfNew, if_pos (mem_of_lookup _ hold)]
    exact hsum
  · have hget : (r.frames.getD h.sequence {}).fragmentCount = 0 := by
      rw [Std.TreeMap.getD_eq_getD_getElem?, hnone]
      rfl
    rw [if_pos hget]
    refine ⟨?_, FrameBuf.fresh h, by rw [lookup_insert, if_pos rfl]⟩
    -- the map with its new default entry has one more
    have hnew : Accounts { r with frames := r.frames.insertIfNew h.sequence {} } (n + 1) := by
      obtain ⟨done, gone, hdone, hgone, hsum⟩ := hA
      refine ⟨done, gone, hdone, hgone, ?_⟩
      dsimp only
      rw [size_insertIfNew_of_none _ hnone]
      omega
    have hentry : (r.frames.insertIfNew h.sequence {})[h.sequence]? = some {} := by
      rw [lookup_insertIfNew_of_none _ hnone, if_pos rfl]
    unfold dropOldest at hdrop
    split at hdrop
    · split at hdrop
      · obtain rfl := Except.ok.inj hdrop
        exact hnew.replace hentry _
      · next oldest hhead =>
          split at hdrop
          · exact absurd hdrop (by simp)
          · next hne =>
              obtain rfl := Except.ok.inj hdrop
              obtain ⟨hmem, -⟩ := least_of_head_keys _ hhead
              obtain ⟨fb, hfb⟩ :=
                Option.isSome_iff_exists.1 (Std.TreeMap.mem_iff_isSome_getElem?.1 hmem)
              have hkept : ((r.frames.insertIfNew h.sequence {}).erase oldest)[h.sequence]?
                  = some {} := by
                rw [lookup_erase, if_neg hne]
                exact hentry
              exact (hnew.drop hfb).replace hkept _
    · obtain rfl := Except.ok.inj hdrop
      exact hnew.replace hentry _

/-- **What `feed` adds to the account**: an unfragmented frame or a new buffer. -/
theorem Accounts.feed {n : Nat} (hA : r.Accounts n) (hr : r.Sound)
    (hfeed : r.feed h payload = .ok (out, r')) :
    r'.Accounts (n + (if h.fragmentCount = 1 then 1 else 0) + if r.creates h then 1 else 0) := by
  by_cases h1 : h.fragmentCount = 1
  · have hcreates : r.creates h = false := by simp [creates, h1]
    rw [FragmentReassembler.feed, if_pos h1] at hfeed
    obtain ⟨-, rfl⟩ := Prod.mk.inj (Except.ok.inj hfeed)
    rw [if_pos h1, hcreates]
    obtain ⟨done, gone, hdone, hgone, hsum⟩ := hA
    refine ⟨done + 1, gone, by rw [ofNat_succ, ← hdone], hgone, ?_⟩
    simp only [Bool.false_eq_true, if_false]
    omega
  · have hcreates : r.creates h = true ↔ (r.frames.getD h.sequence {}).fragmentCount = 0 := by
      simp [creates, h1]
    rw [if_neg h1, Nat.add_zero]
    simp only [hcreates]
    obtain ⟨fb?, r1, hbuf, hcases⟩ := feed_cases h1 hfeed
    have hnoted : (r.noteStarted h).Accounts n := hA
    obtain ⟨hA1, fb0, hfb0⟩ := hnoted.bufferFor (show (r.noteStarted h).Sound from hr) hbuf
    rcases hcases with ⟨-, rfl, -⟩ | ⟨fb, -, -, -, hsettle⟩
    · exact hA1
    · have hsettled := hA1.settle hfb0 (fb.store h payload)
      rw [hsettle] at hsettled
      exact hsettled

/-! ## Garbage collection -/

@[simp] theorem highestStarted_gcLoop (r : FragmentReassembler) (ks : List UInt64) :
    (r.gcLoop ks).highestStarted = r.highestStarted := by
  induction ks generalizing r with
  | nil => rfl
  | cons k ks ih =>
      rw [gcLoop]
      split
      · exact ih _
      · rfl

@[simp] theorem initialized_gcLoop (r : FragmentReassembler) (ks : List UInt64) :
    (r.gcLoop ks).initialized = r.initialized := by
  induction ks generalizing r with
  | nil => rfl
  | cons k ks ih =>
      rw [gcLoop]
      split
      · exact ih _
      · rfl

theorem mem_of_mem_gc {s : UInt64} (hs : s ∈ r.gc.frames) : s ∈ r.frames := by
  obtain ⟨fb, hfb⟩ := Option.isSome_iff_exists.1 (Std.TreeMap.mem_iff_isSome_getElem?.1 hs)
  exact mem_of_lookup _ (r.gcLoop_frames_sub _ s fb hfb)

theorem Accounts.gcLoop {n : Nat} (hA : r.Accounts n) {ks : List UInt64} (hnodup : ks.Nodup)
    (hks : ∀ k ∈ ks, k ∈ r.frames) : (r.gcLoop ks).Accounts n := by
  induction ks generalizing r with
  | nil => exact hA
  | cons k ks ih =>
      rw [FragmentReassembler.gcLoop]
      split
      · obtain ⟨hk, hnodup⟩ := List.nodup_cons.1 hnodup
        obtain ⟨fb, hfb⟩ := Option.isSome_iff_exists.1
          (Std.TreeMap.mem_iff_isSome_getElem?.1 (hks k List.mem_cons_self))
        refine ih (hA.drop hfb) hnodup ?_
        intro a ha
        have hne : a ≠ k := fun heq => hk (heq ▸ ha)
        have hmem := hks a (List.mem_cons_of_mem _ ha)
        rw [Std.TreeMap.mem_iff_isSome_getElem?] at hmem ⊢
        rwa [lookup_erase, if_neg (Ne.symm hne)]
      · exact hA

theorem Accounts.gc {n : Nat} (hA : r.Accounts n) : r.gc.Accounts n :=
  hA.gcLoop r.frames.nodup_keys fun _ hk => Std.TreeMap.mem_keys.1 hk

/-- Where the loop over the ascending keys stops, the lowest buffer left is not too old. -/
theorem gcLoop_lowest (r : FragmentReassembler) (ks : List UInt64)
    (hord : ks.Pairwise (· < ·)) (hks : ∀ s ∈ r.frames, s ∈ ks) (s : UInt64)
    (hs : s ∈ (r.gcLoop ks).frames) : ∃ lowest, (∀ a ∈ (r.gcLoop ks).frames, lowest ≤ a) ∧
      ¬ lowest + 64 < r.highestStarted ∧ lowest ∈ ks := by
  induction ks generalizing r with
  | nil => exact absurd (hks s hs) (by simp)
  | cons k ks ih =>
      obtain ⟨hk, hord⟩ := List.pairwise_cons.1 hord
      rw [gcLoop] at hs ⊢
      split at hs
      · next hold =>
          rw [if_pos hold]
          obtain ⟨lowest, hle, hnew, hmem⟩ := ih _ hord (by
            intro a ha
            rw [Std.TreeMap.mem_erase] at ha
            refine (List.mem_cons.1 (hks a ha.2)).resolve_left ?_
            rintro rfl
            exact ha.1 (by simp)) hs
          exact ⟨lowest, hle, hnew, List.mem_cons_of_mem _ hmem⟩
      · next hnew =>
          rw [if_neg hnew]
          refine ⟨k, ?_, hnew, List.mem_cons_self⟩
          intro a ha
          rcases List.mem_cons.1 (hks a ha) with rfl | ha
          · exact UInt64.le_refl _
          · exact UInt64.le_of_lt (hk a ha)

/-- No buffer is ahead of the highest sequence started. -/
structure Behind (r : FragmentReassembler) : Prop where
  le_highest : ∀ s ∈ r.frames, s ≤ r.highestStarted
  unstarted : r.initialized = false → ∀ s, s ∉ r.frames

theorem Behind.noteStarted (hr : r.Behind) (h : UdpHeader) :
    h.sequence ≤ (r.noteStarted h).highestStarted ∧
      ∀ s ∈ r.frames, s ≤ (r.noteStarted h).highestStarted := by
  unfold FragmentReassembler.noteStarted
  dsimp only
  split
  · next hnew =>
      refine ⟨UInt64.le_refl _, ?_⟩
      intro s hs
      rcases hnew with hinit | hlt
      · exact absurd hs (hr.unstarted (by simpa using hinit) s)
      · exact UInt64.le_of_lt (UInt64.lt_of_le_of_lt (hr.le_highest s hs) hlt)
  · next hold => exact ⟨UInt64.not_lt.1 fun hlt => hold (Or.inr hlt), hr.le_highest⟩

theorem dropOldest_started {seq : UInt64} (hdrop : r.dropOldest seq = .ok r') :
    r'.highestStarted = r.highestStarted ∧ r'.initialized = r.initialized := by
  unfold dropOldest at hdrop
  split at hdrop
  · split at hdrop
    · obtain rfl := Except.ok.inj hdrop
      exact ⟨rfl, rfl⟩
    · split at hdrop
      · exact absurd hdrop (by simp)
      · obtain rfl := Except.ok.inj hdrop
        exact ⟨rfl, rfl⟩
  · obtain rfl := Except.ok.inj hdrop
    exact ⟨rfl, rfl⟩

theorem Sound.bufferFor_started (hr : r.Sound) (hbuf : r.bufferFor h = .ok (fb?, r1)) :
    r1.highestStarted = r.highestStarted ∧ r1.initialized = r.initialized := by
  rcases hr.bufferFor_cases hbuf with ⟨-, -, -, rfl⟩ | ⟨-, -, r2, hdrop, rfl⟩
  · exact ⟨rfl, rfl⟩
  · obtain ⟨hhigh, hinit⟩ := dropOldest_started hdrop
    exact ⟨hhigh, hinit⟩

/-- What settling a buffer leaves alone. -/
theorem settle_frame (r : FragmentReassembler) (h : UdpHeader) (fb : FrameBuf) :
    (r.settle h fb).2.highestStarted = r.highestStarted ∧
      (r.settle h fb).2.initialized = r.initialized ∧
      ∀ s ≠ h.sequence, (r.settle h fb).2.frames[s]? = r.frames[s]? := by
  unfold settle
  split
  · split
    · exact ⟨rfl, rfl, fun s hne => by rw [lookup_erase, if_neg (Ne.symm hne)]⟩
    · exact ⟨rfl, rfl, fun s hne => by rw [lookup_erase, if_neg (Ne.symm hne)]⟩
  · exact ⟨rfl, rfl, fun s hne => by rw [lookup_insert, if_neg (Ne.symm hne)]⟩

theorem Behind.feed (hB : r.Behind) (hr : r.Sound) (hfeed : r.feed h payload = .ok (out, r')) :
    r'.Behind := by
  by_cases h1 : h.fragmentCount = 1
  · rw [FragmentReassembler.feed, if_pos h1] at hfeed
    obtain ⟨-, rfl⟩ := Prod.mk.inj (Except.ok.inj hfeed)
    exact ⟨hB.le_highest, hB.unstarted⟩
  have hnoted : (r.noteStarted h).Sound := hr
  obtain ⟨hseq, hold⟩ := hB.noteStarted h
  obtain ⟨fb?, r1, hbuf, hcases⟩ := feed_cases h1 hfeed
  obtain ⟨hhigh1, hinit1⟩ := hnoted.bufferFor_started hbuf
  have hframe : r'.highestStarted = r1.highestStarted ∧ r'.initialized = r1.initialized ∧
      ∀ s ≠ h.sequence, r'.frames[s]? = r1.frames[s]? := by
    rcases hcases with ⟨-, rfl, -⟩ | ⟨fb, -, -, -, hsettle⟩
    · exact ⟨rfl, rfl, fun _ _ => rfl⟩
    · have hframe := r1.settle_frame h (fb.store h payload)
      rw [hsettle] at hframe
      exact hframe
  obtain ⟨hhigh, hinit, hother⟩ := hframe
  refine ⟨?_, ?_⟩
  · intro s hs
    rw [hhigh, hhigh1]
    by_cases hne : s = h.sequence
    · rw [hne]
      exact hseq
    · obtain ⟨fb, hfb⟩ := Option.isSome_iff_exists.1 (Std.TreeMap.mem_iff_isSome_getElem?.1 hs)
      rw [hother s hne] at hfb
      exact hold s (mem_of_lookup _ (hnoted.bufferFor_sub hbuf s hne fb hfb))
  · intro hnot
    rw [hinit, hinit1] at hnot
    exact absurd hnot (by simp [FragmentReassembler.noteStarted])

/-- **After `gc` at most 65 buffers are in flight.** -/
theorem Behind.size_gc_le (hr : r.Behind) : r.gc.frames.size ≤ 65 := by
  cases hhead : r.gc.frames.keys.head? with
  | none =>
      rw [(head_keys_eq_none_iff _).1 hhead]
      decide
  | some s =>
      have hord : r.frames.keys.Pairwise (· < ·) := by
        refine r.frames.ordered_keys.imp ?_
        intro a b hab
        exact Std.compare_eq_lt.1 hab
      obtain ⟨lowest, hle, hnew, hmem⟩ := r.gcLoop_lowest r.frames.keys hord
        (fun a ha => Std.TreeMap.mem_keys.2 ha) s (least_of_head_keys _ hhead).1
      have hlow := UInt64.le_iff_toNat_le.1 (hr.le_highest lowest (Std.TreeMap.mem_keys.1 hmem))
      have hfit := lowest.toNat_lt
      have hsum : (lowest + 64).toNat = (lowest.toNat + 64) % 2 ^ 64 := UInt64.toNat_add ..
      rw [UInt64.lt_iff_toNat_lt, hsum] at hnew
      refine size_le_of_interval _ (fun _ _ h => UInt64.toNat_inj.1 h) lowest.toNat 64 ?_
      intro a ha
      have hhigh := UInt64.le_iff_toNat_le.1 (hr.le_highest a (mem_of_mem_gc ha))
      -- had the sum wrapped, the loop would have dropped this buffer too
      exact ⟨UInt64.le_iff_toNat_le.1 (hle a ha), by omega⟩

theorem Behind.gc (hB : r.Behind) : r.gc.Behind where
  le_highest := by
    intro s hs
    rw [FragmentReassembler.gc, highestStarted_gcLoop]
    exact hB.le_highest s (mem_of_mem_gc hs)
  unstarted := by
    intro hinit s hs
    rw [FragmentReassembler.gc, initialized_gcLoop] at hinit
    exact hB.unstarted hinit s (mem_of_mem_gc hs)

/-- A call that evicts nothing of its own and copies inside its slot is defined. -/
theorem Sound.feed_ok (hr : r.Sound) (fr : Fragment)
    (hself : fr.header.fragmentCount ≠ 1 → ¬ r.SelfEvicts fr.header)
    (hsize : fr.header.payloadSize.toNat ≤ kMaxUdpPayload) :
    ∃ out r', r.feed fr.header fr.payload = .ok (out, r') := by
  by_cases h1 : fr.header.fragmentCount = 1
  · exact ⟨_, _, by rw [FragmentReassembler.feed, if_pos h1]⟩
  have hnoted : (r.noteStarted fr.header).Sound := hr
  have hbuf : ∃ p, (r.noteStarted fr.header).bufferFor fr.header = .ok p := by
    cases hs : (r.noteStarted fr.header).frames[fr.header.sequence]? with
    | none =>
        obtain ⟨r1, hbuf, -⟩ := bufferFor_of_none hs (hself h1)
        exact ⟨_, hbuf⟩
    | some fb => exact ⟨_, bufferFor_of_some hs (hnoted.fragmentCount_ne_zero hs)⟩
  obtain ⟨⟨fb?, r1⟩, hbuf⟩ := hbuf
  unfold FragmentReassembler.feed
  rw [if_neg h1, hbuf]
  cases fb? with
  | none => exact ⟨_, _, rfl⟩
  | some fb =>
      dsimp only
      split
      · exact ⟨_, _, rfl⟩
      next htakes =>
      split
      · next hover =>
          -- the slot of the fragment ends inside the buffer
          obtain ⟨hS, -⟩ := hnoted.bufferFor_shaped (fr.two_le h1) hbuf
          have hidx := (hS.clear_of_takes (Bool.not_eq_true _ ▸ htakes)).1
          have hend := slot_end_le (w := kMaxUdpPayload) hidx
          rw [hS.data_length, UdpHeader.copyRange] at hover
          dsimp only at hover
          omega
      · exact ⟨_, _, rfl⟩

end FragmentReassembler

/-! ## Runs with `gc` after every `feed` -/

/-- A fragment as the media paths of `handleDatagram` take it; a fault ends the run. -/
def feedGcStep (s : Except FeedFault FragmentReassembler) (fr : Fragment) :
    Except FeedFault FragmentReassembler :=
  s.bind fun r => (r.feed fr.header fr.payload).map fun fed => fed.2.gc

/-- How many buffers a run sets up. -/
def buffersCreated (type : UdpType) (frs : List Fragment) : Nat :=
  (history feedGcStep (.ok { type := type }) frs).countP fun p =>
    match p.1 with
    | .ok r => r.creates p.2.header
    | .error _ => false

/-- The invariant of such runs, after opening `n` frames. -/
structure Accounted (n : Nat) (r : FragmentReassembler) : Prop where
  sound : r.Sound
  behind : r.Behind
  size_le : r.frames.size ≤ 65
  accounts : r.Accounts n

theorem accounted_fresh (type : UdpType) : Accounted 0 { type := type } where
  sound := fun s fb hs => absurd hs (by simp)
  behind := ⟨fun s hs => absurd hs (by simp), fun _ s hs => absurd hs (by simp)⟩
  size_le := Nat.zero_le _
  accounts := FragmentReassembler.accounts_fresh type

/-- **One `feed` and `gc`**: it is defined, evicts nothing and keeps the accounts. -/
theorem Accounted.step {n : Nat} {r : FragmentReassembler} (hI : Accounted n r) (fr : Fragment)
    (hsize : fr.header.payloadSize.toNat ≤ kMaxUdpPayload) :
    r.evicted fr.header = none ∧ ∃ r', feedGcStep (.ok r) fr = .ok r' ∧
      Accounted (n + (if fr.header.fragmentCount = 1 then 1 else 0) +
        if r.creates fr.header then 1 else 0) r' := by
  have hsmall := hI.size_le
  have hself : ¬ r.SelfEvicts fr.header := by
    intro hself
    have := hself.2.1
    unfold kMaxInFlight at this
    omega
  constructor
  · have hgrown := Std.TreeMap.size_insertIfNew_le (t := r.frames) (k := fr.header.sequence)
      (v := {})
    refine if_neg ?_
    rintro ⟨-, hfull⟩
    unfold kMaxInFlight at hfull
    omega
  · obtain ⟨out, r', hfeed⟩ := hI.sound.feed_ok fr (fun _ => hself) hsize
    have hB := hI.behind.feed hI.sound hfeed
    refine ⟨r'.gc, ?_, (hI.sound.feed fr hfeed).gc, hB.gc, hB.size_gc_le,
      (hI.accounts.feed hI.sound hfeed).gc⟩
    simp only [feedGcStep, Except.bind, hfeed, Except.map]

/-- **The reassembler's accounting.** In every run of `feed` calls, each followed by `gc`, with
    accepted headers and payloads of at most 1100 bytes: at most 65 buffers are in flight and none is
    ever evicted to make room; every buffer in flight has some but not all of its fragments; and the
    unfragmented frames and the buffers set up are those completed, dropped or in flight. The
    counters have 64 bits, so the sums are exact below `2^64`. -/
theorem reassembler_accounting (type : UdpType) (frs : List Fragment)
    (hsize : ∀ fr ∈ frs, fr.header.payloadSize.toNat ≤ kMaxUdpPayload) :
    ∃ r, runFrom feedGcStep (.ok { type := type }) frs = .ok r ∧
      r.frames.size ≤ 65 ∧
      (∀ p ∈ history feedGcStep (.ok { type := type }) frs, ∀ r₀, p.1 = .ok r₀ →
        r₀.evicted p.2.header = none) ∧
      (∀ (s : UInt64) fb, r.frames[s]? = some fb →
        1 ≤ fb.received.toNat ∧ fb.received.toNat < fb.fragmentCount.toNat ∧
        fb.received.toNat = fb.haveBits.count true ∧
        fb.haveBits.length = fb.fragmentCount.toNat ∧
        fb.data.length = fb.fragmentCount.toNat * kMaxUdpPayload) ∧
      let opened := frs.countP (fun fr => fr.header.fragmentCount = 1) + buffersCreated type frs
      UInt64.ofNat opened = r.completed + r.droppedIncomplete + UInt64.ofNat r.frames.size ∧
        (opened < 2 ^ 64 →
          opened = r.completed.toNat + r.droppedIncomplete.toNat + r.frames.size) := by
  have hrun : ∃ r, runFrom feedGcStep (.ok { type := type }) frs = .ok r ∧
      Accounted (frs.countP (fun fr => fr.header.fragmentCount = 1) + buffersCreated type frs) r ∧
      ∀ p ∈ history feedGcStep (.ok { type := type }) frs, ∀ r₀, p.1 = .ok r₀ →
        r₀.evicted p.2.header = none := by
    induction frs using List.reverseRecOn with
    | nil => exact ⟨_, rfl, accounted_fresh type, fun p hp => absurd hp (by simp)⟩
    | append_singleton frs fr ih =>
        obtain ⟨r, hrun, hI, hkept⟩ := ih fun g hg => hsize g (List.mem_append_left _ hg)
        obtain ⟨hevicted, r', hstep, hI'⟩ := hI.step fr
          (hsize fr (List.mem_append_right _ (List.mem_singleton_self fr)))
        refine ⟨r', by rw [runFrom_concat, hrun, hstep], ?_, ?_⟩
        · have hcreated : buffersCreated type (frs ++ [fr])
              = buffersCreated type frs + if r.creates fr.header then 1 else 0 := by
            simp only [buffersCreated, history_concat, hrun, List.countP_append,
              List.countP_singleton]
          have hsingle : (frs ++ [fr]).countP (fun fr => fr.header.fragmentCount = 1)
              = frs.countP (fun fr => fr.header.fragmentCount = 1) +
                if fr.header.fragmentCount = 1 then 1 else 0 := by
            simp [List.countP_append, List.countP_singleton]
          rw [hcreated, hsingle]
          convert hI' using 1
          omega
        · intro p hp r0 hr0
          rw [history_concat, List.mem_append, List.mem_singleton] at hp
          rcases hp with hp | rfl
          · exact hkept p hp r0 hr0
          · obtain rfl := Except.ok.inj (hrun.symm.trans hr0)
            exact hevicted
  obtain ⟨r, hrun, hI, hkept⟩ := hrun
  refine ⟨r, hrun, hI.size_le, hkept, ?_, ?_⟩
  · intro s fb hs
    have hfb := hI.sound s fb hs
    exact ⟨hfb.started, hfb.unfinished, hfb.received, hfb.haveBits_length, hfb.data_length⟩
  · obtain ⟨done, gone, hdone, hgone, hsum⟩ := hI.accounts
    dsimp only
    rw [← hsum, hdone, hgone]
    refine ⟨by rw [UInt64.ofNat_add, UInt64.ofNat_add], ?_⟩
    intro hlt
    rw [UInt64.toNat_ofNat', UInt64.toNat_ofNat', Nat.mod_eq_of_lt (by omega),
      Nat.mod_eq_of_lt (by omega)]

theorem reassembler_accounting_two_fragments :
    ∃ r, runFrom feedGcStep (.ok { type := .Video }) [zeroFragment false 1100] = .ok r ∧
      r.frames.size ≤ 65 ∧
      (∀ p ∈ history feedGcStep (.ok { type := .Video }) [zeroFragment false 1100],
        ∀ r₀, p.1 = .ok r₀ → r₀.evicted p.2.header = none) ∧
      (∀ (s : UInt64) fb, r.frames[s]? = some fb →
        1 ≤ fb.received.toNat ∧ fb.received.toNat < fb.fragmentCount.toNat ∧
        fb.received.toNat = fb.haveBits.count true ∧
        fb.haveBits.length = fb.fragmentCount.toNat ∧
        fb.data.length = fb.fragmentCount.toNat * kMaxUdpPayload) ∧
      let opened := [zeroFragment false 1100].countP (fun fr => fr.header.fragmentCount = 1) +
        buffersCreated .Video [zeroFragment false 1100]
      UInt64.ofNat opened = r.completed + r.droppedIncomplete + UInt64.ofNat r.frames.size ∧
        (opened < 2 ^ 64 →
          opened = r.completed.toNat + r.droppedIncomplete.toNat + r.frames.size) :=
  reassembler_accounting .Video [zeroFragment false 1100] (by
    intro fr hfr
    rw [List.mem_singleton.1 hfr]
    decide)

end RemotePlay.Net
