import RemotePlay.Networking.Reassembly

set_option autoImplicit false

/-! # Where fragment copies go

The reassembler as a machine whose events are `feed` calls with any accepted fragment and `gc`
calls. `Carries fed r` says that every buffer in flight holds only bytes that fragments of `fed`
brought. A `feed` keeps it, copies inside its own slot, and completes only frames whose bytes were
carried, as long as it is `Safe`: the fragment fills its slot exactly, and its buffer is not the one
that gets evicted. The code checks neither. -/

namespace RemotePlay.Net

/-! ## The machine -/

/-- A call on the reassembler. -/
inductive ReassemblerOp where
  | feed (fr : Fragment)
  | gc

/-- The call's effect on the state; the frame `feed` may return is left to the statements. -/
def ReassemblerOp.apply : ReassemblerOp → FragmentReassembler → Except FeedFault FragmentReassembler
  | .feed fr, r => (r.feed fr.header fr.payload).map Prod.snd
  | .gc, r => .ok r.gc

/-- One step of a run; a fault ends it. -/
def reassemblerStep (s : Except FeedFault FragmentReassembler) (op : ReassemblerOp) :
    Except FeedFault FragmentReassembler := s.bind op.apply

/-- The fragments fed by a list of calls. -/
def fedBy (ops : List ReassemblerOp) : List Fragment :=
  ops.filterMap (fun op => match op with
    | .feed fr => some fr
    | .gc => none)

theorem fedBy_append (ops ops' : List ReassemblerOp) :
    fedBy (ops ++ ops') = fedBy ops ++ fedBy ops' := List.filterMap_append

/-! ## Safe calls -/

/-- `feed` will copy this fragment: its buffer is new, or it expects the same number of fragments
    and does not have this one. -/
def FragmentReassembler.Takes (r : FragmentReassembler) (h : UdpHeader) : Prop :=
  ∀ fb, r.frames[h.sequence]? = some fb →
    fb.fragmentCount = h.fragmentCount ∧ fb.refuses h = false

/-- A `feed` that stays in its slot: an unfragmented frame, or one that does not evict its own
    buffer and, if it is copied, fills its slot exactly. -/
def FragmentReassembler.Safe (r : FragmentReassembler) (h : UdpHeader) : Prop :=
  h.fragmentCount ≠ 1 → ¬ r.SelfEvicts h ∧ (r.Takes h → h.FillsSlot)

def ReassemblerOp.Safe : ReassemblerOp → FragmentReassembler → Prop
  | .feed fr, r => r.Safe fr.header
  | .gc, _ => True

/-! ## What the buffers carry -/

/-- Every buffer in flight holds only what fragments of `fed` brought. -/
def Carries (fed : List Fragment) (r : FragmentReassembler) : Prop :=
  ∀ s fb, r.frames[s]? = some fb → ∃ got, fb.Holds got ∧ ∀ i p, got i = some p →
    ∃ g ∈ fed, g.header.sequence = s ∧ g.header.fragmentCount = fb.fragmentCount ∧
      g.header.fragmentIndex.toNat = i ∧ g.payload = p

/-- Byte `k` of `data` was brought by a fragment of `fed` with the sequence and count of `h` that
    covers position `k`; in a fragmented frame that is the fragment of slot `k / 1100`. -/
def CarriedAt (fed : List Fragment) (h : UdpHeader) (data : Bytes) (k : Nat) : Prop :=
  ∃ g ∈ fed, g.header.sequence = h.sequence ∧ g.header.fragmentCount = h.fragmentCount ∧
    (h.fragmentCount ≠ 1 → g.header.fragmentIndex.toNat = k / kMaxUdpPayload) ∧
    g.header.fragmentIndex.toNat * kMaxUdpPayload ≤ k ∧
    k < g.header.fragmentIndex.toNat * kMaxUdpPayload + g.payload.length ∧
    data[k]? = g.payload[k - g.header.fragmentIndex.toNat * kMaxUdpPayload]?

theorem Carries.mono {fed fed' : List Fragment} {r r' : FragmentReassembler} (hC : Carries fed r)
    (hfed : ∀ g ∈ fed, g ∈ fed')
    (hsub : ∀ (s : UInt64) fb, r'.frames[s]? = some fb → r.frames[s]? = some fb) :
    Carries fed' r' := by
  intro s fb hs
  obtain ⟨got, hH, hgot⟩ := hC s fb (hsub s fb hs)
  refine ⟨got, hH, ?_⟩
  intro i p hp
  obtain ⟨g, hg, hrest⟩ := hgot i p hp
  exact ⟨g, hfed g hg, hrest⟩

theorem Carries.fragmentCount_ne_zero {fed : List Fragment} {r : FragmentReassembler}
    (hC : Carries fed r) {s : UInt64} {fb : FrameBuf} (hs : r.frames[s]? = some fb) :
    fb.fragmentCount ≠ 0 := by
  intro h0
  obtain ⟨got, hH, -⟩ := hC s fb hs
  have := hH.two_le
  simp [h0] at this

theorem Carries.gc {fed : List Fragment} {r : FragmentReassembler} (hC : Carries fed r) :
    Carries fed r.gc :=
  hC.mono (fun _ hg => hg) (fun s fb h => r.gcLoop_frames_sub r.frames.keys s fb h)

/-- What a buffer carries after one more of its fragments was stored. -/
theorem carried_store {fed : List Fragment} {fb : FrameBuf} {fr : Fragment}
    {got : Nat → Option Bytes} (hcount : fb.fragmentCount = fr.header.fragmentCount)
    (hgot : ∀ i p, got i = some p → ∃ g ∈ fed, g.header.sequence = fr.header.sequence ∧
      g.header.fragmentCount = fb.fragmentCount ∧ g.header.fragmentIndex.toNat = i ∧
      g.payload = p) :
    ∀ i p, Function.update got fr.header.fragmentIndex.toNat (some fr.payload) i = some p →
      ∃ g ∈ fed ++ [fr], g.header.sequence = fr.header.sequence ∧
        g.header.fragmentCount = fb.fragmentCount ∧ g.header.fragmentIndex.toNat = i ∧
        g.payload = p := by
  intro i p hp
  by_cases hi : i = fr.header.fragmentIndex.toNat
  · subst hi
    rw [Function.update_self] at hp
    exact ⟨fr, by simp, rfl, hcount.symm, rfl, Option.some.inj hp⟩
  · rw [Function.update_of_ne hi] at hp
    obtain ⟨g, hg, hrest⟩ := hgot i p hp
    exact ⟨g, List.mem_append_left _ hg, hrest⟩

/-- A complete buffer hands out only carried bytes. -/
theorem carriedAt_of_complete {fed : List Fragment} {fb : FrameBuf} {h : UdpHeader}
    {got : Nat → Option Bytes} (hH : fb.Holds got) (hcount : fb.fragmentCount = h.fragmentCount)
    (hgot : ∀ i p, got i = some p → ∃ g ∈ fed, g.header.sequence = h.sequence ∧
      g.header.fragmentCount = fb.fragmentCount ∧ g.header.fragmentIndex.toNat = i ∧ g.payload = p)
    (hdone : fb.received = fb.fragmentCount) :
    ∀ k < (fb.assembled h).data.length, CarriedAt fed h (fb.assembled h).data k := by
  obtain ⟨-, -, hle, hbytes⟩ := hH.complete hdone
  intro k hk
  simp only [FrameBuf.assembled, List.length_take] at hk
  have hkt : k < fb.totalSize := by omega
  obtain ⟨p, hp, hlen, hdata⟩ := hbytes k hkt
  obtain ⟨g, hg, hseq, hgc, hidx, rfl⟩ := hgot _ _ hp
  have hsplit : k / kMaxUdpPayload * kMaxUdpPayload + k % kMaxUdpPayload = k := by
    rw [Nat.mul_comm]
    exact Nat.div_add_mod k _
  refine ⟨g, hg, hseq, hgc.trans hcount, fun _ => hidx, ?_, ?_, ?_⟩
  · rw [hidx]
    omega
  · rw [hidx]
    omega
  · have hoff : k - g.header.fragmentIndex.toNat * kMaxUdpPayload = k % kMaxUdpPayload := by
      rw [hidx]
      omega
    rw [hoff, ← hdata, FrameBuf.assembled, List.getElem?_take_of_lt hkt]

/-- The part of `Carries.feed` after the buffer is found: `fb` holds what `fed` brought, the other
    buffers are as before. -/
theorem Carries.feed_store {fed : List Fragment} {r r1 : FragmentReassembler} {fr : Fragment}
    {fb : FrameBuf} {got : Nat → Option Bytes} (hC : Carries fed r)
    (h1 : fr.header.fragmentCount ≠ 1)
    (hbuf : (r.noteStarted fr.header).bufferFor fr.header = .ok (some fb, r1))
    (hsub : ∀ s ≠ fr.header.sequence, ∀ fb, r1.frames[s]? = some fb → r.frames[s]? = some fb)
    (hH : fb.Holds got) (hcount : fb.fragmentCount = fr.header.fragmentCount)
    (hgot : ∀ i p, got i = some p → ∃ g ∈ fed, g.header.sequence = fr.header.sequence ∧
      g.header.fragmentCount = fb.fragmentCount ∧ g.header.fragmentIndex.toNat = i ∧ g.payload = p)
    (htakes : fb.refuses fr.header = false) (hfill : fr.header.FillsSlot) :
    ∃ o r', r.feed fr.header fr.payload = .ok (o, r') ∧ Carries (fed ++ [fr]) r' ∧
      ∀ frame, o = some frame → ∀ k < frame.data.length,
        CarriedAt (fed ++ [fr]) fr.header frame.data k := by
  have hH' := hH.store fr hcount htakes hfill
  have hgot' := carried_store hcount hgot
  rcases FragmentReassembler.feed_of_buffer h1 hbuf hH hcount htakes hfill with
    ⟨hdone, hfeed⟩ | ⟨-, hfeed⟩
  · refine ⟨_, _, hfeed, ?_, ?_⟩
    · refine hC.mono (fun g hg => List.mem_append_left _ hg) ?_
      intro s fb' hs
      obtain ⟨hne, hs⟩ := of_lookup_erase hs
      exact hsub s hne fb' hs
    · intro frame hframe
      obtain rfl := Option.some.inj hframe
      exact carriedAt_of_complete hH' hcount hgot' hdone
  · refine ⟨_, _, hfeed, ?_, fun frame hframe => absurd hframe (by simp)⟩
    intro s fb' hs
    rcases of_lookup_insert hs with ⟨rfl, rfl⟩ | ⟨hne, hs⟩
    · exact ⟨_, hH', hgot'⟩
    · exact (hC.mono (fun g hg => List.mem_append_left _ hg) (fun _ _ h => h)) s fb'
        (hsub s hne fb' hs)

/-- **One safe `feed`.** It returns, keeps `Carries`, and what it completes was carried. -/
theorem Carries.feed {fed : List Fragment} {r : FragmentReassembler} (hC : Carries fed r)
    (fr : Fragment) (hsafe : r.Safe fr.header) :
    ∃ o r', r.feed fr.header fr.payload = .ok (o, r') ∧ Carries (fed ++ [fr]) r' ∧
      ∀ frame, o = some frame → ∀ k < frame.data.length,
        CarriedAt (fed ++ [fr]) fr.header frame.data k := by
  by_cases h1 : fr.header.fragmentCount = 1
  · -- an unfragmented frame completes at once with its payload
    have hidx : fr.header.fragmentIndex.toNat = 0 := by
      have := fr.index_lt
      rw [h1] at this
      simpa using this
    refine ⟨some (fr.header.unfragmented fr.payload), { r with completed := r.completed + 1 },
      by rw [FragmentReassembler.feed, if_pos h1],
      hC.mono (fun g hg => List.mem_append_left _ hg) (fun _ _ h => h), ?_⟩
    intro frame hframe k hk
    obtain rfl := Option.some.inj hframe
    simp only [UdpHeader.unfragmented, ← fr.size_eq, List.take_length] at hk ⊢
    refine ⟨fr, by simp, rfl, rfl, fun h => absurd h1 h, ?_, ?_, ?_⟩
    · simp [hidx]
    · simpa [hidx] using hk
    · simp [hidx]
  · obtain ⟨hself, hfill⟩ := hsafe h1
    cases hs : r.frames[fr.header.sequence]? with
    | none =>
        -- a fresh buffer holds nothing, so it takes the fragment
        obtain ⟨r1, hbuf, -, -, -, hsub, -⟩ :=
          FragmentReassembler.bufferFor_of_none (r := r.noteStarted fr.header) (h := fr.header) hs
            hself
        have hfresh := FrameBuf.holds_fresh fr.header (fr.two_le h1)
        have htakes : (FrameBuf.fresh fr.header).refuses fr.header = false :=
          (FrameBuf.not_refuses_iff hfresh).2 ⟨fr.index_lt, rfl⟩
        exact hC.feed_store h1 hbuf hsub hfresh rfl (fun i p hp => absurd hp (by simp)) htakes
          (hfill (fun fb hfb => absurd (hs.symm.trans hfb) (by simp)))
    | some fb =>
        obtain ⟨got, hH, hgot⟩ := hC _ _ hs
        have hbuf := FragmentReassembler.bufferFor_of_some (r := r.noteStarted fr.header)
          (h := fr.header) hs (hC.fragmentCount_ne_zero hs)
        have hsub : ∀ s fb', (r.frames.insertIfNew fr.header.sequence {})[s]? = some fb' →
            r.frames[s]? = some fb' := fun s fb' h => by
          rwa [lookup_insertIfNew_of_some _ hs] at h
        by_cases hcount : fb.fragmentCount = fr.header.fragmentCount
        · rw [if_pos hcount] at hbuf
          cases htakes : fb.refuses fr.header with
          | false =>
              refine hC.feed_store h1 hbuf (fun s _ => hsub s) hH hcount hgot htakes (hfill ?_)
              intro fb' hfb'
              obtain rfl := Option.some.inj (hs.symm.trans hfb')
              exact ⟨hcount, htakes⟩
          | true =>
              refine ⟨none, _, FragmentReassembler.feed_of_rejected _ h1 hbuf ?_,
                hC.mono (fun g hg => List.mem_append_left _ hg) hsub,
                fun frame hframe => absurd hframe (by simp)⟩
              intro fb' hfb'
              rw [← Option.some.inj hfb']
              exact htakes
        · rw [if_neg hcount] at hbuf
          exact ⟨none, _, FragmentReassembler.feed_of_rejected _ h1 hbuf
              (fun fb' hfb' => absurd hfb' (by simp)),
            hC.mono (fun g hg => List.mem_append_left _ hg) hsub,
            fun frame hframe => absurd hframe (by simp)⟩

/-- **Exactly when `feed` leaves defined behaviour**: it evicts the buffer it is about to fill, or
    it copies past the end of the frame's buffer. -/
theorem Carries.feed_faults_iff {fed : List Fragment} {r : FragmentReassembler} (hC : Carries fed r)
    (fr : Fragment) (h1 : fr.header.fragmentCount ≠ 1) :
    (∃ e, r.feed fr.header fr.payload = .error e) ↔
      r.SelfEvicts fr.header ∨ (r.Takes fr.header ∧
        fr.header.fragmentCount.toNat * kMaxUdpPayload <
          fr.header.fragmentIndex.toNat * kMaxUdpPayload + fr.header.payloadSize.toNat) := by
  by_cases hself : r.SelfEvicts fr.header
  · have hbuf := FragmentReassembler.bufferFor_of_selfEvicts (r := r.noteStarted fr.header)
      (h := fr.header) hself
    refine iff_of_true ⟨.danglingBuffer, ?_⟩ (Or.inl hself)
    unfold FragmentReassembler.feed
    simp only [if_neg h1, hbuf]
  -- otherwise a buffer is found, and the copy is made exactly when it takes the fragment
  have hcopy : ∀ fb r1, (r.noteStarted fr.header).bufferFor fr.header = .ok (some fb, r1) →
      fb.data.length = fr.header.fragmentCount.toNat * kMaxUdpPayload →
      fb.refuses fr.header = false →
      ((∃ e, r.feed fr.header fr.payload = .error e) ↔
        fr.header.fragmentCount.toNat * kMaxUdpPayload <
          fr.header.fragmentIndex.toNat * kMaxUdpPayload + fr.header.payloadSize.toNat) := by
    intro fb r1 hbuf hlen htakes
    unfold FragmentReassembler.feed
    simp only [if_neg h1, hbuf, htakes, Bool.false_eq_true, if_false, hlen, UdpHeader.copyRange]
    split
    · next hover => exact iff_of_true ⟨_, rfl⟩ hover
    · next hover => exact iff_of_false (by simp) hover
  cases hs : r.frames[fr.header.sequence]? with
  | none =>
      obtain ⟨r1, hbuf, -⟩ := FragmentReassembler.bufferFor_of_none
        (r := r.noteStarted fr.header) (h := fr.header) hs hself
      have hfresh := FrameBuf.holds_fresh fr.header (fr.two_le h1)
      have htakes : r.Takes fr.header := fun fb hfb => absurd (hs.symm.trans hfb) (by simp)
      rw [hcopy _ r1 hbuf hfresh.slots.data_length
        ((FrameBuf.not_refuses_iff hfresh).2 ⟨fr.index_lt, rfl⟩)]
      simp [hself, htakes]
  | some fb =>
      have hbuf := FragmentReassembler.bufferFor_of_some (r := r.noteStarted fr.header)
        (h := fr.header) hs (hC.fragmentCount_ne_zero hs)
      obtain ⟨got, hH, -⟩ := hC _ _ hs
      have htakes : r.Takes fr.header ↔
          fb.fragmentCount = fr.header.fragmentCount ∧ fb.refuses fr.header = false := by
        simp only [FragmentReassembler.Takes, hs, Option.some.injEq, forall_eq']
      rw [htakes]
      by_cases hcount : fb.fragmentCount = fr.header.fragmentCount
      · rw [if_pos hcount] at hbuf
        cases hrefuse : fb.refuses fr.header with
        | false =>
            rw [hcopy fb _ hbuf (hcount ▸ hH.slots.data_length) hrefuse]
            simp [hself, hcount]
        | true =>
            rw [FragmentReassembler.feed_of_rejected _ h1 hbuf
              (fun fb' hfb' => Option.some.inj hfb' ▸ hrefuse)]
            simp [hself]
      · rw [if_neg hcount] at hbuf
        rw [FragmentReassembler.feed_of_rejected _ h1 hbuf (fun fb' hfb' => absurd hfb' (by simp))]
        simp [hself, hcount]

/-! ## Runs -/

/-- A copy that a safe `feed` makes stays in the slot of its fragment. -/
theorem FragmentReassembler.copies_in_slot {fed : List Fragment} {r : FragmentReassembler}
    (hC : Carries fed r) {h : UdpHeader} (hsafe : r.Safe h) {off len : Nat}
    (hcopy : r.copies h = some (off, len)) :
    h.fragmentIndex.toNat * kMaxUdpPayload ≤ off ∧
      off + len ≤ (h.fragmentIndex.toNat + 1) * kMaxUdpPayload := by
  unfold FragmentReassembler.copies at hcopy
  split at hcopy
  · exact absurd hcopy (by simp)
  next h1 =>
  obtain ⟨hself, hfill⟩ := hsafe h1
  have htakes : r.Takes h := by
    intro fb hfb
    rw [FragmentReassembler.bufferFor_of_some (r := r.noteStarted h) hfb
      (hC.fragmentCount_ne_zero hfb)] at hcopy
    by_cases hcount : fb.fragmentCount = h.fragmentCount
    · cases hrefuse : fb.refuses h with
      | false => exact ⟨hcount, rfl⟩
      | true => simp [hcount, hrefuse] at hcopy
    · simp [hcount] at hcopy
  have hrange : h.copyRange = (off, len) := by
    split at hcopy
    · split at hcopy
      · exact absurd hcopy (by simp)
      · exact Option.some.inj hcopy
    · exact absurd hcopy (by simp)
  obtain ⟨rfl, rfl⟩ := Prod.mk.inj hrange
  have := (hfill htakes).1
  rw [Nat.succ_mul]
  omega

/-- Along a run of safe calls nothing faults and every buffer carries what was fed. -/
theorem run_carries (type : UdpType) (ops : List ReassemblerOp)
    (hsafe : ∀ p ∈ history reassemblerStep (.ok { type := type }) ops,
      ∀ r, p.1 = .ok r → p.2.Safe r) :
    ∃ r, runFrom reassemblerStep (.ok { type := type }) ops = .ok r ∧ Carries (fedBy ops) r := by
  induction ops using List.reverseRecOn with
  | nil => exact ⟨_, rfl, fun s fb h => absurd h (by simp)⟩
  | append_singleton ops op ih =>
      rw [history_concat] at hsafe
      obtain ⟨r, hrun, hC⟩ := ih (fun p hp => hsafe p (List.mem_append_left _ hp))
      have hop : op.Safe r := hsafe (_, op) (List.mem_append_right _ (List.mem_singleton_self _)) r
        hrun
      rw [runFrom_concat, hrun, fedBy_append]
      cases op with
      | feed fr =>
          obtain ⟨o, r', hfeed, hC', -⟩ := hC.feed fr hop
          refine ⟨r', ?_, hC'⟩
          simp only [reassemblerStep, Except.bind, ReassemblerOp.apply, hfeed, Except.map]
      | gc =>
          refine ⟨r.gc, rfl, ?_⟩
          simpa [fedBy] using hC.gc

/-- **Fragment copies stay inside their own slot, in every run of safe calls.** At every `feed` of
    such a run the call is defined, the copy lies in the slot of the fragment (and so inside the
    frame's buffer and off every neighbour), and every byte of a frame it completes was carried by
    the fragment covering that position. -/
theorem feed_copies_inside_slot (type : UdpType) (ops : List ReassemblerOp)
    (hsafe : ∀ p ∈ history reassemblerStep (.ok { type := type }) ops,
      ∀ r, p.1 = .ok r → p.2.Safe r)
    (pre post : List ReassemblerOp) (fr : Fragment) (hops : ops = pre ++ .feed fr :: post) :
    ∃ r o r', runFrom reassemblerStep (.ok { type := type }) pre = .ok r ∧
      r.feed fr.header fr.payload = .ok (o, r') ∧
      (∀ off len, r.copies fr.header = some (off, len) →
        fr.header.fragmentIndex.toNat * kMaxUdpPayload ≤ off ∧
          off + len ≤ (fr.header.fragmentIndex.toNat + 1) * kMaxUdpPayload) ∧
      (∀ frame, o = some frame → ∀ k < frame.data.length,
        CarriedAt (fedBy (pre ++ [.feed fr])) fr.header frame.data k) := by
  have hpre : ∀ p ∈ history reassemblerStep (.ok { type := type }) pre,
      ∀ r, p.1 = .ok r → p.2.Safe r := fun p hp => hsafe p (by
    rw [hops, history_append]
    exact List.mem_append_left _ hp)
  obtain ⟨r, hrun, hC⟩ := run_carries type pre hpre
  have hfr : r.Safe fr.header := by
    refine hsafe (.ok r, .feed fr) ?_ r rfl
    rw [mem_history_iff]
    exact ⟨pre, post, hops, hrun.symm⟩
  obtain ⟨o, r', hfeed, -, hcarried⟩ := hC.feed fr hfr
  refine ⟨r, o, r', hrun, hfeed, fun off len hcopy => r.copies_in_slot hC hfr hcopy, ?_⟩
  intro frame hframe k hk
  rw [fedBy_append]
  exact hcarried frame hframe k hk

/-- The first or last fragment of the two-fragment video frame 5, with a payload of zeros. -/
def zeroFragment (last : Bool) (size : UInt16) : Fragment :=
  Fragment.of
    { flags := 1, sequence := 5, fragmentIndex := if last then 1 else 0, fragmentCount := 2,
      payloadSize := size }
    (List.replicate size.toNat 0) ⟨rfl, rfl, (by decide : (0 : UInt8) ≤ 8)⟩ List.length_replicate
    ⟨by simp, (by decide : (2 : UInt16) ≠ 0), (by decide : (2 : UInt16) ≤ 1024),
      by cases last <;> simp⟩

/-- A full first fragment and a last fragment of five bytes make a safe run. -/
theorem feed_copies_inside_slot_two_fragments :
    ∃ r o r', runFrom reassemblerStep (.ok { type := .Video }) [.feed (zeroFragment false 1100)]
        = .ok r ∧
      r.feed (zeroFragment true 5).header (zeroFragment true 5).payload = .ok (o, r') ∧
      (∀ off len, r.copies (zeroFragment true 5).header = some (off, len) →
        1 * kMaxUdpPayload ≤ off ∧ off + len ≤ (1 + 1) * kMaxUdpPayload) ∧
      (∀ frame, o = some frame → ∀ k < frame.data.length,
        CarriedAt (fedBy ([.feed (zeroFragment false 1100)] ++ [.feed (zeroFragment true 5)]))
          (zeroFragment true 5).header frame.data k) := by
  refine feed_copies_inside_slot .Video
    [.feed (zeroFragment false 1100), .feed (zeroFragment true 5)] ?_
    [.feed (zeroFragment false 1100)] [] (zeroFragment true 5) rfl
  intro p hp r hr
  simp only [history_cons, history_nil, List.mem_cons, List.not_mem_nil, or_false] at hp
  rcases hp with rfl | rfl
  · obtain rfl := Except.ok.inj hr
    refine fun _ => ⟨fun hself => absurd hself.2.1 (by decide), fun _ => ?_⟩
    exact ⟨by decide, by decide⟩
  · refine fun _ => ⟨fun hself => ?_, fun _ => ⟨by decide, by decide⟩⟩
    have hsize : (reassemblerStep (.ok { type := .Video }) (.feed (zeroFragment false 1100))).map
        (fun r => r.frames.size) = .ok 1 := by decide +kernel
    dsimp only at hr
    rw [hr, Except.map, Except.ok.injEq] at hsize
    have hfull := hself.2.1
    rw [hsize] at hfull
    exact absurd hfull (by decide)

/-- A last fragment of 1101 bytes, which `decodeUdpHeader` accepts, is copied past the end of its
    frame's buffer. -/
theorem feed_oversized_fragment_overruns :
    let fr := zeroFragment true 1101
    let r : FragmentReassembler := { type := .Video }
    decodeUdpHeader (encodeUdpHeader fr.header ++ fr.payload) {} = (true, fr.header) ∧
      r.copies fr.header = some (1100, 1101) ∧
      ∃ e, r.feed fr.header fr.payload = .error e := by
  refine ⟨(zeroFragment true 1101).accepted, by decide +kernel, ?_⟩
  have hfresh : Carries [] ({ type := .Video } : FragmentReassembler) :=
    fun s fb h => absurd h (by simp)
  rw [hfresh.feed_faults_iff (zeroFragment true 1101) (by decide)]
  exact Or.inr ⟨fun fb h => absurd h (by simp), by decide⟩

end RemotePlay.Net
