import RemotePlay.Networking.ReassemblyAccounting

set_option autoImplicit false

/-! # The buffer that evicts itself

The Input path of `handleDatagram` calls `feed` without `gc`, so buffers pile up until there are
more than 96 and `feed` erases the lowest. It does so after taking its reference to the buffer just
set up: when that one is the lowest, the reference dangles. -/

namespace RemotePlay.Net

namespace FragmentReassembler

variable {r : FragmentReassembler}

theorem Sound.creates_iff (hr : r.Sound) (h : UdpHeader) :
    r.creates h = true ↔ h.fragmentCount ≠ 1 ∧ r.frames[h.sequence]? = none := by
  unfold creates
  rw [Bool.and_eq_true, bne_iff_ne, beq_iff_eq, Std.TreeMap.getD_eq_getD_getElem?]
  refine and_congr_right fun _ => ?_
  cases hs : r.frames[h.sequence]? with
  | none => simp
  | some fb =>
      have hne := hr.fragmentCount_ne_zero hs
      simp [hne]

/-- The erased buffer is the one just set up exactly when its sequence is the lowest of more than
    96. -/
theorem Sound.evicted_self_iff (hr : r.Sound) (h : UdpHeader) :
    r.evicted h = some h.sequence ↔ h.fragmentCount ≠ 1 ∧ r.SelfEvicts h := by
  unfold evicted SelfEvicts
  dsimp only
  constructor
  · intro hev
    split at hev
    · next hfull =>
        obtain ⟨hcreates, hsize⟩ := hfull
        obtain ⟨h1, hs⟩ := (hr.creates_iff h).1 hcreates
        rw [size_insertIfNew_of_none _ hs] at hsize
        refine ⟨h1, hs, by omega, ?_⟩
        intro s hmem
        exact Std.LawfulOrderOrd.isLE_compare _ _ |>.1
          ((least_of_head_keys _ hev).2 s (Std.TreeMap.mem_insertIfNew.2 (Or.inr hmem)))
    · exact absurd hev (by simp)
  · rintro ⟨h1, hs, hsize, hlow⟩
    have hgrown := size_insertIfNew_of_none r.frames (v := {}) hs
    rw [if_pos ⟨(hr.creates_iff h).2 ⟨h1, hs⟩, by omega⟩]
    cases hhead : (r.frames.insertIfNew h.sequence {}).keys.head? with
    | none =>
        rw [head_keys_eq_none_iff] at hhead
        omega
    | some oldest =>
        obtain ⟨hmem, hleast⟩ := least_of_head_keys _ hhead
        have hle : oldest ≤ h.sequence := Std.LawfulOrderOrd.isLE_compare _ _ |>.1
          (hleast _ Std.TreeMap.mem_insertIfNew_self)
        have hge : h.sequence ≤ oldest := by
          rcases Std.TreeMap.mem_insertIfNew.1 hmem with heq | hold
          · rw [Std.compare_eq_iff_eq.1 heq]
            exact UInt64.le_refl _
          · exact hlow oldest hold
        rw [UInt64.le_antisymm hle hge]

/-- The call does not erase the buffer it has just set up, and when it returns false for a new
    fragment, the buffer is there and has it. -/
def KeepsOwnBuffer (r : FragmentReassembler) (fr : Fragment) : Prop :=
  r.evicted fr.header ≠ some fr.header.sequence ∧
    ∀ r', r.feed fr.header fr.payload = .ok (none, r') → r.Takes fr.header →
      ∃ fb, r'.frames[fr.header.sequence]? = some fb ∧
        fb.haveBits[fr.header.fragmentIndex.toNat]? = some true

/-- A new fragment that does not complete its frame is recorded in its buffer. -/
theorem Sound.recorded (hr : r.Sound) (fr : Fragment) {r' : FragmentReassembler}
    (hfeed : r.feed fr.header fr.payload = .ok (none, r')) (htakes : r.Takes fr.header) :
    ∃ fb, r'.frames[fr.header.sequence]? = some fb ∧
      fb.haveBits[fr.header.fragmentIndex.toNat]? = some true := by
  by_cases h1 : fr.header.fragmentCount = 1
  · rw [FragmentReassembler.feed, if_pos h1] at hfeed
    exact absurd hfeed (by simp)
  have hnoted : (r.noteStarted fr.header).Sound := hr
  obtain ⟨fb?, r1, hbuf, ⟨-, -, hrefuses⟩ | ⟨fb, rfl, hfree, hin, hsettle⟩⟩ := feed_cases h1 hfeed
  · -- neither the buffer in the map nor a fresh one refuses the fragment
    rcases hnoted.bufferFor_cases hbuf with ⟨fb, hold, hfb, -⟩ | ⟨-, hfb, -⟩
    · obtain ⟨hcount, hfree⟩ := htakes fb hold
      rw [if_pos hcount] at hfb
      exact absurd (hrefuses fb hfb) (by simp [hfree])
    · have hfree := FrameBuf.fresh_takes fr.consistent.2.2.2
      exact absurd (hrefuses _ hfb) (by simp [hfree])
  · obtain ⟨hS, hcount⟩ := hnoted.bufferFor_shaped (fr.two_le h1) hbuf
    have hstored : (fb.store fr.header fr.payload).Shaped := hS.store hcount hfree hin
    unfold settle at hsettle
    split at hsettle
    · next hall =>
        -- a complete buffer has its exact size, so its frame is handed out
        rw [if_neg (hstored.total_of_complete hall)] at hsettle
        exact absurd (Prod.mk.inj hsettle).1 (by simp)
    · obtain ⟨-, rfl⟩ := Prod.mk.inj hsettle
      refine ⟨fb.store fr.header fr.payload, by rw [lookup_insert, if_pos rfl], ?_⟩
      have hidx := (hS.clear_of_takes hfree).1
      rw [FrameBuf.store, List.getElem?_set_self (by rw [hS.haveBits_length]; exact hidx)]

theorem Sound.keepsOwnBuffer_iff (hr : r.Sound) (fr : Fragment) :
    r.KeepsOwnBuffer fr ↔ ¬ (fr.header.fragmentCount ≠ 1 ∧ r.SelfEvicts fr.header) := by
  rw [← hr.evicted_self_iff]
  constructor
  · exact fun h => h.1
  · exact fun h => ⟨h, fun r' hfeed htakes => hr.recorded fr hfeed htakes⟩

end FragmentReassembler

/-! ## Runs of the Input path -/

/-- A fragment as the Input path takes it, with no `gc`; a fault ends the run. -/
def inputStep (s : Except FeedFault FragmentReassembler) (fr : Fragment) :
    Except FeedFault FragmentReassembler :=
  s.bind fun r => (r.feed fr.header fr.payload).map Prod.snd

/-- Every state of a run is sound, up to a fault. -/
theorem inputStep_sound (type : UdpType) (frs : List Fragment) (r : FragmentReassembler)
    (hrun : runFrom inputStep (.ok { type := type }) frs = .ok r) : r.Sound := by
  induction frs using List.reverseRecOn generalizing r with
  | nil =>
      obtain rfl := Except.ok.inj hrun
      exact fun s fb hs => absurd hs (by simp)
  | append_singleton frs fr ih =>
      rw [runFrom_concat] at hrun
      cases hbefore : runFrom inputStep (.ok { type := type }) frs with
      | error e =>
          rw [hbefore] at hrun
          exact absurd hrun (by simp [inputStep, Except.bind])
      | ok r0 =>
          rw [hbefore] at hrun
          cases hfeed : r0.feed fr.header fr.payload with
          | error e => exact absurd hrun (by simp [inputStep, Except.bind, hfeed, Except.map])
          | ok fed =>
              simp only [inputStep, Except.bind, hfeed, Except.map, Except.ok.injEq] at hrun
              rw [← hrun]
              exact (ih r0 hbefore).feed fr hfeed

/-- **When eviction spares the buffer being filled.** In every run of `feed` calls without `gc`, no
    call evicts the buffer it has just set up and every new fragment that completes nothing is
    recorded, exactly when no call sets up a buffer below all of 96 or more in flight. -/
theorem own_buffer_kept_iff (type : UdpType) (frs : List Fragment) :
    (∀ p ∈ history inputStep (.ok { type := type }) frs, ∀ r, p.1 = .ok r →
        r.KeepsOwnBuffer p.2) ↔
      ∀ p ∈ history inputStep (.ok { type := type }) frs, ∀ r, p.1 = .ok r →
        ¬ (p.2.header.fragmentCount ≠ 1 ∧ r.SelfEvicts p.2.header) := by
  refine forall₂_congr fun p hp => forall₂_congr fun r hr => ?_
  obtain ⟨before, -, -, hbefore⟩ := (mem_history_iff inputStep _ frs p.1 p.2).1 hp
  exact (inputStep_sound type before r (hbefore.symm.trans hr)).keepsOwnBuffer_iff p.2

/-- The first of two fragments of an input frame, with no payload. -/
def firstOfTwo (seq : UInt64) : Fragment :=
  Fragment.of { type := 2, sequence := seq, fragmentCount := 2 } []
    ⟨rfl, rfl, (by decide : (2 : UInt8) ≤ 8)⟩ rfl
    ⟨by simp, (by decide : (2 : UInt16) ≠ 0), (by decide : (2 : UInt16) ≤ 1024),
      (by decide : (0 : UInt16) < 2)⟩

/-- Frames 1 to 96 are started, and then frame 0: `feed` erases the buffer it is about to fill. -/
theorem own_buffer_evicted :
    ∃ r, runFrom inputStep (.ok { type := .Input })
        ((List.range 96).map fun i => firstOfTwo (UInt64.ofNat (i + 1))) = .ok r ∧
      ¬ r.KeepsOwnBuffer (firstOfTwo 0) ∧
      r.feed (firstOfTwo 0).header (firstOfTwo 0).payload = .error .danglingBuffer := by
  have hrun : ((runFrom inputStep (.ok { type := .Input })
      ((List.range 96).map fun i => firstOfTwo (UInt64.ofNat (i + 1)))).map
        fun r => r.evicted (firstOfTwo 0).header) = .ok (some 0) := by decide +kernel
  cases hr : runFrom inputStep (.ok { type := .Input })
      ((List.range 96).map fun i => firstOfTwo (UInt64.ofNat (i + 1))) with
  | error e =>
      rw [hr] at hrun
      exact absurd hrun (by simp [Except.map])
  | ok r =>
      rw [hr] at hrun
      have hevicted : r.evicted (firstOfTwo 0).header = some (firstOfTwo 0).header.sequence :=
        Except.ok.inj hrun
      obtain ⟨h1, hself⟩ := ((inputStep_sound .Input _ r hr).evicted_self_iff _).1 hevicted
      refine ⟨r, rfl, fun hkeeps => hkeeps.1 hevicted, ?_⟩
      have hbuf := FragmentReassembler.bufferFor_of_selfEvicts
        (r := r.noteStarted (firstOfTwo 0).header) (h := (firstOfTwo 0).header) hself
      unfold FragmentReassembler.feed
      rw [if_neg h1, hbuf]

end RemotePlay.Net
