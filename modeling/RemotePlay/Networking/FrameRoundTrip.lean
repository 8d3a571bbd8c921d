import RemotePlay.Networking.FrameDelivery

set_option autoImplicit false

/-! # Frames survive fragmentation and reassembly

The receiver of the media path feeds each arriving fragment and then collects garbage. Over an
interleaving it hands every frame out exactly once, on its last fragment and with its original
contents, if and only if every frame fits into the 1024 fragments that the header can count and,
whenever frames are in flight, one of them has a sequence number to which `gc` can add 64 without
wrapping (`frames_delivered_iff`).

That the condition suffices is the run lemma over `Tracks`. That it is needed has two halves: no
buffer ever holds more than 1024 slots (`Bounded`), and a frame whose buffer was dropped after some
fragment arrived never completes, since that fragment does not come again (`Missing`). -/

namespace RemotePlay.Net

/-! ## The receiver -/

/-- One arrival on the media path: `feed`, then `gc`. -/
def receiveStep (s : Except FeedFault FragmentReassembler) (fr : UdpHeader × Bytes) :
    Except FeedFault FragmentReassembler :=
  s.bind (fun r => (r.feed fr.1 fr.2).map (fun result => result.2.gc))

theorem receiveStep_of_feed {r r' : FragmentReassembler} {fr : UdpHeader × Bytes}
    {out : Option AssembledFrame} (h : r.feed fr.1 fr.2 = .ok (out, r')) :
    receiveStep (.ok r) fr = .ok r'.gc := by
  simp only [receiveStep, Except.bind, h, Except.map]

section RoundTrip

variable (type : UdpType) (sessionId : UInt32) (frames : List MediaFrame)
  (arrivals : List (UdpHeader × Bytes))

/-- The state of the receiver after the given arrivals. -/
def received (arrived : List (UdpHeader × Bytes)) : Except FeedFault FragmentReassembler :=
  runFrom receiveStep (.ok { type := type }) arrived

/-- Every `feed` returns; it returns a frame exactly when this was the frame's last fragment, and
    then it is the original. -/
def Delivers : Prop :=
  ∀ pre fr post, arrivals = pre ++ fr :: post → ∀ f ∈ frames, fr ∈ f.fragments type sessionId →
    ∃ r r', received type pre = .ok r ∧ r.feed fr.1 fr.2
      = .ok (if f.In post then none else some (f.assembled type sessionId), r')

/-- If frames are in flight after `pre`, one of them has room for 64 more sequence numbers. -/
def RoomAt (pre post : List (UdpHeader × Bytes)) : Prop :=
  (∃ f ∈ frames, f.Partial pre post) →
    ∃ f ∈ frames, f.Partial pre post ∧ f.sequence.toNat + 64 < 2 ^ 64

variable {type sessionId frames arrivals} {pre post : List (UdpHeader × Bytes)}

/-- **The receiver tracks an interleaving** up to any point before which there was room. -/
theorem Interleaving.received_tracks (hI : Interleaving type sessionId frames arrivals)
    (hfits : ∀ f ∈ frames, f.Fits) (hsplit : arrivals = pre ++ post)
    (hroom : ∀ p q, pre = p ++ q → RoomAt frames p (q ++ post)) :
    ∃ r, received type pre = .ok r ∧ Tracks type sessionId frames pre post r := by
  induction pre using List.reverseRecOn generalizing post with
  | nil => exact ⟨_, rfl, Tracks.initial post type⟩
  | append_singleton pre fr ih =>
      have hsplit' : arrivals = pre ++ fr :: post := by simp [hsplit]
      obtain ⟨r, hrun, hT⟩ := ih hsplit' (fun p q hpq => by
        have := hroom p (q ++ [fr]) (by simp [hpq])
        simpa using this)
      obtain ⟨f, hf, i, hi, hfr⟩ := hI.mem_arrivals (show fr ∈ arrivals by simp [hsplit'])
      obtain ⟨r', hfeed, hT'⟩ := hT.feed hI hfits hsplit' hf ((f.mem_fragments fr).2 ⟨i, hi, hfr⟩)
      have hroom' : RoomAt frames (pre ++ [fr]) post := by
        simpa using hroom (pre ++ [fr]) [] (by simp)
      refine ⟨r', ?_, hT'⟩
      rw [received, runFrom_concat]
      rw [received] at hrun
      rw [hrun, receiveStep_of_feed hfeed, hT'.gc_eq_self hI hsplit hroom']

/-! ## No buffer grows beyond 1024 slots -/

/-- Every buffer has at most 1024 slots. -/
def Bounded (r : FragmentReassembler) : Prop :=
  ∀ (s : UInt64) fb, r.frames[s]? = some fb → fb.data.length ≤ 1024 * kMaxUdpPayload

theorem Bounded.feed {r r' : FragmentReassembler} (hB : Bounded r) {h : UdpHeader} {payload : Bytes}
    {out : Option AssembledFrame} (hmax : h.fragmentCount ≤ kMaxFragments)
    (hfeed : r.feed h payload = .ok (out, r')) :
    Bounded r' ∧ ∀ frame, out = some frame → frame.data.length ≤ 1024 * kMaxUdpPayload := by
  by_cases h1 : h.fragmentCount = 1
  · rw [FragmentReassembler.feed, if_pos h1] at hfeed
    obtain ⟨rfl, rfl⟩ := Prod.mk.inj (Except.ok.inj hfeed)
    refine ⟨hB, ?_⟩
    intro frame hframe
    obtain rfl := Option.some.inj hframe
    have hle : (h.unfragmented payload).data.length ≤ h.payloadSize.toNat := List.length_take_le _ _
    have := h.payloadSize.toNat_lt
    unfold kMaxUdpPayload
    omega
  · have hfresh : (FrameBuf.fresh h).data.length ≤ 1024 * kMaxUdpPayload := by
      have hcount : h.fragmentCount.toNat ≤ 1024 := UInt16.le_iff_toNat_le.1 hmax
      simp only [FrameBuf.fresh, List.length_replicate]
      exact Nat.mul_le_mul_right _ hcount
    obtain ⟨hbuffers, hout⟩ := FragmentReassembler.feed_buffers
      (P := fun _ fb => fb.data.length ≤ 1024 * kMaxUdpPayload) hB h1 hfresh
      (fun fb hfb _ _ hin => by
        rw [FrameBuf.store, length_overwrite _ _ _ (by rw [List.length_take]; omega)]
        exact hfb) hfeed
    refine ⟨hbuffers, ?_⟩
    intro frame hframe
    obtain ⟨fb, hfb, -, -, rfl⟩ := hout frame hframe
    exact Nat.le_trans (List.length_take_le' _ _) hfb

theorem Bounded.gc {r : FragmentReassembler} (hB : Bounded r) : Bounded r.gc :=
  fun s fb hs => hB s fb (r.gcLoop_frames_sub _ s fb hs)

/-- The receiver of accepted fragments stays bounded. -/
theorem received_bounded (hI : Interleaving type sessionId frames arrivals)
    (hsplit : arrivals = pre ++ post) {r : FragmentReassembler}
    (hrun : received type pre = .ok r) : Bounded r := by
  induction pre using List.reverseRecOn generalizing post r with
  | nil =>
      obtain rfl := Except.ok.inj hrun
      exact fun s fb hs => absurd hs (by simp)
  | append_singleton pre fr ih =>
      rw [received, runFrom_concat, ← received] at hrun
      cases hpre : received type pre with
      | error e =>
          rw [hpre] at hrun
          exact absurd hrun (by simp [receiveStep, Except.bind])
      | ok r0 =>
          have hB := ih (show arrivals = pre ++ fr :: post by simp [hsplit]) hpre
          obtain ⟨f, hf, i, hi, rfl⟩ := hI.mem_arrivals (show fr ∈ arrivals by simp [hsplit])
          rw [hpre] at hrun
          cases hfeed : r0.feed (f.fragment type sessionId i).1 (f.fragment type sessionId i).2 with
          | error e =>
              simp only [receiveStep, Except.bind, hfeed, Except.map] at hrun
              exact absurd hrun (by simp)
          | ok result =>
              rw [receiveStep_of_feed (show _ = Except.ok (result.1, result.2) from hfeed)] at hrun
              obtain rfl := Except.ok.inj hrun
              exact (hB.feed (hI.fragmentCount_le hf hi) hfeed).1.gc

/-! ## A fragment that is not coming again -/

/-- Every buffer of `f` lacks fragment `i`. -/
def Missing (f : MediaFrame) (i : Nat) (r : FragmentReassembler) : Prop :=
  ∀ fb, r.frames[f.sequence]? = some fb →
    fb.fragmentCount = fragmentCountFor f.data.length ∧ ∃ got, fb.Holds got ∧ got i = none

variable (type sessionId) in
/-- A frame that misses a fragment is not completed by the others. -/
theorem Missing.feed {f : MediaFrame} {i : Nat} {r r' : FragmentReassembler} (hM : Missing f i r)
    (hfits : f.Fits) (hi : i < f.count) (fr : Fragment) {out : Option AssembledFrame}
    (hfr : fr.header.sequence = f.sequence →
      ∃ j < f.count, j ≠ i ∧ fr.header = (f.fragment type sessionId j).1)
    (hfeed : r.feed fr.header fr.payload = .ok (out, r')) :
    Missing f i r' ∧ (fr.header.sequence = f.sequence → out = none) := by
  by_cases h1 : fr.header.fragmentCount = 1
  · -- an unfragmented frame cannot be `f`, which has fragments `i` and `j ≠ i`
    rw [FragmentReassembler.feed, if_pos h1] at hfeed
    obtain ⟨rfl, rfl⟩ := Prod.mk.inj (Except.ok.inj hfeed)
    refine ⟨hM, ?_⟩
    intro hseq
    obtain ⟨j, hj, hne, hhead⟩ := hfr hseq
    rw [hhead] at h1
    have hcount : f.count = 1 := congrArg UInt16.toNat h1
    omega
  have hfresh : fr.header.sequence = f.sequence →
      (FrameBuf.fresh fr.header).fragmentCount = fragmentCountFor f.data.length ∧
        ∃ got, (FrameBuf.fresh fr.header).Holds got ∧ got i = none := by
    intro hseq
    obtain ⟨j, hj, hne, hhead⟩ := hfr hseq
    refine ⟨?_, fun _ => none, FrameBuf.holds_fresh _ (fr.two_le h1), rfl⟩
    rw [hhead]
    rfl
  obtain ⟨hbuffers, hout⟩ := FragmentReassembler.feed_buffers
    (P := fun s fb => s = f.sequence → fb.fragmentCount = fragmentCountFor f.data.length ∧
      ∃ got, fb.Holds got ∧ got i = none)
    (fun s fb hs hseq => hM fb (hseq ▸ hs)) h1 hfresh
    (fun fb hfb hcount htakes _ hseq => by
      obtain ⟨hcount', got, hholds, hgot⟩ := hfb hseq
      obtain ⟨j, hj, hne, hhead⟩ := hfr hseq
      have hidx := MediaFrame.index_toNat type sessionId hfits hj
      have hfill := MediaFrame.fillsSlot type sessionId hfits hj
      rw [← hhead] at hidx hfill
      refine ⟨hcount', _, hholds.store fr hcount htakes hfill, ?_⟩
      rw [hidx, Function.update_of_ne (Ne.symm hne), hgot]) hfeed
  refine ⟨fun fb hfb => hbuffers _ fb hfb rfl, ?_⟩
  intro hseq
  cases out with
  | none => rfl
  | some frame =>
      -- a completed buffer holds every fragment, also `i`
      obtain ⟨fb, hfb, hdone, -, -⟩ := hout frame rfl
      obtain ⟨hcount, got, hholds, hgot⟩ := hfb hseq
      have hsome := (hholds.complete hdone).1 i (by rw [hcount]; exact hi)
      rw [hgot] at hsome
      exact absurd hsome (by simp)

theorem Missing.gc {f : MediaFrame} {i : Nat} {r : FragmentReassembler} (hM : Missing f i r) :
    Missing f i r.gc := fun fb hfb => hM fb (r.gcLoop_frames_sub _ _ fb hfb)

/-! ## When frames are delivered -/

/-- A frame with an arrival in the list has a last one. -/
theorem exists_last_arrival {f : MediaFrame} {frs : List (UdpHeader × Bytes)} (h : f.In frs) :
    ∃ p fr q, frs = p ++ fr :: q ∧ fr.1.sequence = f.sequence ∧ ¬ f.In q := by
  induction frs with
  | nil => exact absurd h (by simp [MediaFrame.In])
  | cons g gs ih =>
      by_cases hrest : f.In gs
      · obtain ⟨p, fr, q, rfl, hseq, hlast⟩ := ih hrest
        exact ⟨g :: p, fr, q, rfl, hseq, hlast⟩
      · refine ⟨[], g, gs, rfl, ?_, hrest⟩
        obtain ⟨g', hg', hseq⟩ := h
        rcases List.mem_cons.1 hg' with rfl | hmem
        · exact hseq
        · exact absurd ⟨g', hmem, hseq⟩ hrest

theorem Delivers.fits (hD : Delivers type sessionId frames arrivals)
    (hI : Interleaving type sessionId frames arrivals) {f : MediaFrame} (hf : f ∈ frames) :
    f.Fits := by
  -- on its last fragment the whole frame comes out of a buffer, or of a datagram, of bounded size
  obtain ⟨pre, fr, post, hsplit, hseq, hlast⟩ :=
    exists_last_arrival ⟨_, hI.fragment_mem hf f.zero_lt_count, rfl⟩
  obtain ⟨i, hi, rfl⟩ := hI.fragment_of_sequence hf (by simp [hsplit]) hseq
  obtain ⟨r, r', hrun, hfeed⟩ := hD pre _ post hsplit f hf ((f.mem_fragments _).2 ⟨i, hi, rfl⟩)
  rw [if_neg hlast] at hfeed
  exact ((received_bounded hI hsplit hrun).feed (hI.fragmentCount_le hf hi) hfeed).2 _ rfl

/-- A fragment that has arrived stays missing from every later buffer of its frame. -/
theorem Delivers.missing (hD : Delivers type sessionId frames arrivals)
    (hI : Interleaving type sessionId frames arrivals) (hfits : ∀ f ∈ frames, f.Fits)
    {f : MediaFrame} (hf : f ∈ frames) {i : Nat} (hi : i < f.count)
    (hin : f.fragment type sessionId i ∈ pre) {r : FragmentReassembler}
    (hrun : received type pre = .ok r) (hM : Missing f i r) {p q : List (UdpHeader × Bytes)}
    (hsplit : arrivals = pre ++ (p ++ q)) :
    ∃ r', received type (pre ++ p) = .ok r' ∧ Missing f i r' := by
  induction p using List.reverseRecOn generalizing q with
  | nil => exact ⟨r, by rw [List.append_nil, hrun], hM⟩
  | append_singleton p fr ih =>
      have hsplit' : arrivals = (pre ++ p) ++ fr :: q := by simp [hsplit]
      obtain ⟨r1, hrun1, hM1⟩ := ih (q := fr :: q) (by simp [hsplit])
      obtain ⟨g, hg, j, hj, rfl⟩ := hI.mem_arrivals (show fr ∈ arrivals by simp [hsplit'])
      obtain ⟨r0, r', hrun0, hfeed⟩ := hD _ _ _ hsplit' g hg ((g.mem_fragments _).2 ⟨j, hj, rfl⟩)
      obtain rfl := Except.ok.inj (hrun1.symm.trans hrun0)
      refine ⟨r'.gc, ?_, Missing.gc ?_⟩
      · rw [← List.append_assoc, received, runFrom_concat, ← received, hrun1]
        exact receiveStep_of_feed hfeed
      · refine (hM1.feed type sessionId (hfits f hf) hi
          (MediaFrame.asFragment (hfits g hg) hj (hI.fragment_accepted hg hj))
          ?_ hfeed).1
        intro hseq
        obtain rfl := hI.eq_of_sequence hg hf hseq
        refine ⟨j, hj, ?_, rfl⟩
        rintro rfl
        exact hI.not_mem_before hsplit' (List.mem_append_left _ hin)

/-- There is always room: once `gc` has dropped every buffer, a frame that was in flight would never
    be handed out. -/
theorem Delivers.room (hD : Delivers type sessionId frames arrivals)
    (hI : Interleaving type sessionId frames arrivals) (hfits : ∀ f ∈ frames, f.Fits)
    {fr : UdpHeader × Bytes} (hsplit : arrivals = pre ++ fr :: post)
    (hroom : ∀ p q, pre = p ++ q → RoomAt frames p (q ++ fr :: post)) :
    RoomAt frames (pre ++ [fr]) post := by
  rintro ⟨f, hf, ⟨fr0, hfr0, hseq0⟩, hpost⟩
  by_contra hno
  have hwrap : ∀ g ∈ frames, g.Partial (pre ++ [fr]) post → 2 ^ 64 ≤ g.sequence.toNat + 64 :=
    fun g hg hp => Nat.le_of_not_lt (fun hlt => hno ⟨g, hg, hp, hlt⟩)
  have hsplit' : arrivals = (pre ++ [fr]) ++ post := by simp [hsplit]
  -- the collection after `fr` empties the map
  obtain ⟨r, hrun, hT⟩ := hI.received_tracks hfits hsplit hroom
  obtain ⟨g, hg, j, hj, hgj⟩ := hI.mem_arrivals (show fr ∈ arrivals by simp [hsplit])
  obtain ⟨r1, hfeed, hT1⟩ := hT.feed hI hfits hsplit hg ((g.mem_fragments fr).2 ⟨j, hj, hgj⟩)
  have hrun1 : received type (pre ++ [fr]) = .ok r1.gc := by
    rw [received, runFrom_concat, ← received, hrun]
    exact receiveStep_of_feed hfeed
  have hempty := hT1.gc_frames hwrap
  -- so the fragment of `f` that came before is missing when its last one comes
  obtain ⟨i, hi, rfl⟩ := hI.fragment_of_sequence hf
    (by rw [hsplit']; exact List.mem_append_left _ hfr0) hseq0
  have hM : Missing f i r1.gc := fun fb hfb => absurd ((hempty _).symm.trans hfb) (by simp)
  obtain ⟨p, last, q, rfl, hseq, hlast⟩ := exists_last_arrival hpost
  obtain ⟨r2, hrun2, hM2⟩ := hD.missing hI hfits hf hi hfr0 hrun1 hM hsplit'
  obtain ⟨k, hk, rfl⟩ := hI.fragment_of_sequence hf (by simp [hsplit']) hseq
  have hsplit2 : arrivals = ((pre ++ [fr]) ++ p) ++ f.fragment type sessionId k :: q := by
    simp [hsplit]
  obtain ⟨r3, r4, hrun3, hfeed3⟩ := hD _ _ _ hsplit2 f hf ((f.mem_fragments _).2 ⟨k, hk, rfl⟩)
  obtain rfl := Except.ok.inj (hrun2.symm.trans hrun3)
  have hne : k ≠ i := by
    rintro rfl
    exact hI.not_mem_before hsplit2 (List.mem_append_left _ hfr0)
  have hnone := (hM2.feed type sessionId (hfits f hf) hi
    (MediaFrame.asFragment (hfits f hf) hk (hI.fragment_accepted hf hk))
    (fun _ => ⟨k, hk, hne, rfl⟩) hfeed3).2 rfl
  rw [if_neg hlast] at hnone
  exact absurd hnone (by simp)

/-- **Fragmentation followed by reassembly is the identity, exactly when** every frame fits and `gc`
    has room. -/
theorem frames_delivered_iff (hI : Interleaving type sessionId frames arrivals) :
    Delivers type sessionId frames arrivals ↔
      (∀ f ∈ frames, f.Fits) ∧ ∀ pre post, arrivals = pre ++ post → RoomAt frames pre post := by
  constructor
  · intro hD
    have hfits : ∀ f ∈ frames, f.Fits := fun f hf => hD.fits hI hf
    -- induction on the prefix: there was room at every point before it
    have hbefore : ∀ pre post, arrivals = pre ++ post →
        ∀ p q, pre = p ++ q → RoomAt frames p (q ++ post) := by
      intro pre
      induction pre using List.reverseRecOn with
      | nil =>
          rintro post - p q hpq ⟨f, -, hp⟩
          obtain ⟨rfl, rfl⟩ := List.append_eq_nil_iff.1 hpq.symm
          exact absurd hp.1 (by simp [MediaFrame.In])
      | append_singleton pre fr ih =>
          intro post hsplit p q hpq
          have hsplit' : arrivals = pre ++ fr :: post := by simp [hsplit]
          rcases List.eq_nil_or_concat q with rfl | ⟨q', fr', rfl⟩
          · rw [List.append_nil] at hpq
            rw [← hpq]
            exact hD.room hI hfits hsplit' (ih _ hsplit')
          · rw [List.concat_eq_append, ← List.append_assoc] at hpq
            obtain ⟨rfl, hfr⟩ := List.append_inj' hpq rfl
            obtain rfl := List.singleton_inj.1 hfr
            simpa using ih _ hsplit' p q' rfl
    refine ⟨hfits, ?_⟩
    intro pre post hsplit
    simpa using hbefore pre post hsplit pre [] (by simp)
  · rintro ⟨hfits, hroom⟩ pre fr post hsplit f hf hfr
    obtain ⟨r, hrun, hT⟩ := hI.received_tracks hfits hsplit (fun p q hpq =>
      hroom p (q ++ fr :: post) (by simp [hsplit, hpq]))
    obtain ⟨r', hfeed, -⟩ := hT.feed hI hfits hsplit hf hfr
    exact ⟨r, r', hrun, hfeed⟩

end RoundTrip

/-- A frame of zeros. -/
def zeroFrame (sequence : UInt64) (size : Nat) : MediaFrame :=
  { sequence := sequence, timestampNs := 0, keyframe := false, data := List.replicate size 0 }

/-- A two-fragment frame, its last fragment first, around a one-fragment frame. -/
def twoFrameArrivals : List (UdpHeader × Bytes) :=
  [(zeroFrame 7 1101).fragment .Video 0 1, (zeroFrame 8 3).fragment .Video 0 0,
    (zeroFrame 7 1101).fragment .Video 0 0]

/-- Fragments whose sequences are close together form an interleaving in any order. -/
theorem interleaving_of_close {type : UdpType} {sessionId : UInt32} {frames : List MediaFrame}
    {arrivals : List (UdpHeader × Bytes)} (distinct : (frames.map MediaFrame.sequence).Nodup)
    (accepted : ∀ f ∈ frames, ∀ fr ∈ f.fragments type sessionId,
      (decodeUdpHeader (encodeUdpHeader fr.1 ++ fr.2) {}).1 = true)
    (perm : arrivals.Perm (frames.flatMap (fun f => f.fragments type sessionId)))
    (close : ∀ f ∈ frames, ∀ g ∈ frames, g.sequence.toNat ≤ f.sequence.toNat + 64) :
    Interleaving type sessionId frames arrivals where
  distinct := distinct
  accepted := accepted
  perm := perm
  window := by
    rintro pre post rfl f hf - g hg
    obtain ⟨f', hf', hmem⟩ := List.mem_flatMap.1 (perm.mem_iff.1 (List.mem_append_left _ hg))
    rw [MediaFrame.sequence_of_mem hmem]
    exact close f hf f' hf'

/-- Both frames of the small interleaving are delivered. -/
theorem frames_delivered_iff_two_frames :
    Delivers .Video 0 [zeroFrame 7 1101, zeroFrame 8 3] twoFrameArrivals := by
  refine (frames_delivered_iff (interleaving_of_close (by decide) (by decide +kernel)
    (by decide +kernel) (by decide))).2 ⟨?_, ?_⟩
  · intro f hf
    unfold MediaFrame.Fits
    revert f
    decide +kernel
  · rintro pre post - ⟨f, hf, hp⟩
    have hroom : ∀ f ∈ [zeroFrame 7 1101, zeroFrame 8 3], f.sequence.toNat + 64 < 2 ^ 64 := by
      decide
    exact ⟨f, hf, hp, hroom f hf⟩

/-- The one fragment that `sendFrame` cuts from 65537 * 1100 bytes: the count is 65537 in sixteen
    bits. -/
theorem fragments_oversized : (zeroFrame 0 (65537 * 1100)).fragments .Video 0
    = [({ fragmentCount := 1, payloadSize := 1100 }, List.replicate 1100 0)] := by
  have hcount : fragmentCountFor (65537 * 1100) = 1 := by decide
  have hlen : (zeroFrame 0 (65537 * 1100)).data.length = 65537 * 1100 := List.length_replicate
  rw [MediaFrame.fragments, UdpTransport.frameFragments, hlen, hcount]
  have hsize : UInt16.ofNat (65537 * 1100) = 1100 := by decide
  simp only [UInt16.toNat_one, List.range_one, List.map_cons, List.map_nil, if_true,
    UdpTransport.fragmentAt, hlen, hcount, Nat.zero_mul, Nat.sub_zero, List.drop_zero, hsize]
  rw [zeroFrame, List.take_replicate]
  rfl

/-- A frame of 65537 * 1100 bytes loses all but its first 1100, and a two-fragment frame with the
    last sequence number is dropped by the `gc` after its first fragment. -/
theorem frames_not_delivered :
    (Interleaving .Video 0 [zeroFrame 0 (65537 * 1100)]
        ((zeroFrame 0 (65537 * 1100)).fragments .Video 0) ∧
      ¬ Delivers .Video 0 [zeroFrame 0 (65537 * 1100)]
        ((zeroFrame 0 (65537 * 1100)).fragments .Video 0)) ∧
    (Interleaving .Video 0 [zeroFrame 0xFFFFFFFFFFFFFFFF 1101]
        ((zeroFrame 0xFFFFFFFFFFFFFFFF 1101).fragments .Video 0) ∧
      ¬ Delivers .Video 0 [zeroFrame 0xFFFFFFFFFFFFFFFF 1101]
        ((zeroFrame 0xFFFFFFFFFFFFFFFF 1101).fragments .Video 0)) := by
  have hover : Interleaving .Video 0 [zeroFrame 0 (65537 * 1100)]
      ((zeroFrame 0 (65537 * 1100)).fragments .Video 0) := by
    refine interleaving_of_close (List.nodup_singleton _) ?_ ?_ ?_
    · simp only [List.mem_singleton, forall_eq, fragments_oversized]
      decide +kernel
    · rw [List.flatMap_singleton]
    · simp only [List.mem_singleton, forall_eq]
      exact Nat.le_add_right _ _
  refine ⟨⟨hover, ?_⟩, ?_, ?_⟩
  · intro hD
    have hfits := hD.fits hover (List.mem_singleton_self _)
    rw [MediaFrame.Fits, zeroFrame, List.length_replicate] at hfits
    exact absurd hfits (by decide)
  · exact interleaving_of_close (by decide) (by decide +kernel) (by decide +kernel) (by decide)
  · intro hD
    obtain ⟨r, r', hrun, hfeed⟩ := hD [(zeroFrame 0xFFFFFFFFFFFFFFFF 1101).fragment .Video 0 0]
      ((zeroFrame 0xFFFFFFFFFFFFFFFF 1101).fragment .Video 0 1) []
      (by decide +kernel) _ (List.mem_singleton_self _) (by decide +kernel)
    have hnone : ((received .Video [(zeroFrame 0xFFFFFFFFFFFFFFFF 1101).fragment .Video 0 0]).bind
        (fun r => (r.feed ((zeroFrame 0xFFFFFFFFFFFFFFFF 1101).fragment .Video 0 1).1
          ((zeroFrame 0xFFFFFFFFFFFFFFFF 1101).fragment .Video 0 1).2).map Prod.fst))
          = .ok none := by
      decide +kernel
    rw [hrun, Except.bind, hfeed, if_neg (by simp [MediaFrame.In])] at hnone
    exact absurd hnone (by simp [Except.map])

end RemotePlay.Net
