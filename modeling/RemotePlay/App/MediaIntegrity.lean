import RemotePlay.App.InputOrder
import RemotePlay.Networking.FrameDelivery
import RemotePlay.Networking.ReassemblyAccounting
import RemotePlay.Networking.Submissions

set_option autoImplicit false

/-! # Media comes out as it went in

Two transports without a crypto sink and a network between them that may lose, repeat, delay and reorder
datagrams. Each buffer at the receiver is holding fragments of one frame that was submitted, since the
frames of a lane have numbers of their own; so whatever the network does, a frame that a poll returns is
one that was submitted, and no fragment is written outside its buffer. -/

namespace RemotePlay.App

open Net
open UdpTransport (next submitted wire Untouched)

/-! ## The jitter buffer -/

theorem mem_queue_push {b : JitterBuffer} {frame : AssembledFrame} {now : UInt64}
    {e : JitterBuffer.Entry} (he : e ∈ (b.push frame now).queue) : e.frame = frame ∨ e ∈ b.queue := by
  unfold JitterBuffer.push at he
  split at he
  · exact Or.inr he
  · rcases (JitterBuffer.mem_sinkIn _ _ _).1 (List.mem_reverse.1 he) with rfl | hold
    · exact Or.inl rfl
    · exact Or.inr (List.mem_of_mem_drop (List.mem_reverse.1 hold))

/-- What is popped was in the queue, and so is what stays there. -/
theorem mem_popLoop (now : UInt64) (q : List JitterBuffer.Entry) (b : JitterBuffer) :
    (∀ frame ∈ (b.popLoop now q).1, ∃ e ∈ q, e.frame = frame) ∧
      ∀ e ∈ (b.popLoop now q).2.queue, e ∈ q := by
  induction q generalizing b with
  | nil =>
      exact ⟨fun _ h => absurd h List.not_mem_nil, fun _ h => absurd h List.not_mem_nil⟩
  | cons front rest ih =>
      rw [JitterBuffer.popLoop]
      split
      · obtain ⟨hpopped, hkept⟩ := ih { b with
          lastPoppedSequence := front.frame.sequence
          initialized := true }
        constructor
        · intro frame hframe
          rcases List.mem_cons.1 hframe with rfl | hlater
          · exact ⟨front, List.mem_cons_self, rfl⟩
          · obtain ⟨e, he, rfl⟩ := hpopped frame hlater
            exact ⟨e, List.mem_cons_of_mem _ he, rfl⟩
        · exact fun e he => List.mem_cons_of_mem _ (hkept e he)
      · exact ⟨fun _ h => absurd h List.not_mem_nil, fun e he => he⟩

/-! ## What the receiver holds -/

/-- The buffer holds fragments of the submission with this number. -/
def Owned (log : List Submission) (lane : Lane) (s : UInt64) (fb : FrameBuf) : Prop :=
  ∃ m ∈ log, m.lane = lane ∧ m.frame.sequence = s ∧ m.frame.Fits ∧
    ∃ pre, Holding lane.type m.sessionId m.frame pre fb

/-- The lane holds nothing but submissions and their fragments. -/
structure Faithful (log : List Submission) (lane : Lane) (l : LaneState) : Prop where
  buffers : ∀ (s : UInt64) fb, l.reassembly.frames[s]? = some fb → Owned log lane s fb
  queue : ∀ e ∈ l.jitter.queue, ∃ m ∈ log, m.lane = lane ∧ e.frame = m.assembled
  accounted : ∃ n, Accounted n l.reassembly

theorem faithful_fresh (log : List Submission) (lane : Lane) : Faithful log lane (LaneState.fresh lane) where
  buffers _ _ hs := absurd hs (by simp [LaneState.fresh])
  queue := nofun
  accounted := ⟨0, accounted_fresh lane.type⟩

/-- The submissions of a lane have numbers of their own, and none is so large that its count wraps. -/
structure Distinct (log : List Submission) : Prop where
  eq_of_number : ∀ m ∈ log, ∀ m' ∈ log, m.lane = m'.lane → m.frame.sequence = m'.frame.sequence → m = m'
  size : ∀ m ∈ log, m.frame.data.length ≤ 65535 * kMaxUdpPayload

/-- A frame that the receiver accepts a fragment of fits. -/
theorem fits_of_count {f : MediaFrame} (hsize : f.data.length ≤ 65535 * kMaxUdpPayload)
    (hcount : f.count ≤ 1024) : f.Fits := by
  unfold MediaFrame.count fragmentCountFor at hcount
  unfold MediaFrame.Fits
  split at hcount
  · next hzero => omega
  · dsimp only at hcount
    have hwide : (f.data.length + kMaxUdpPayload - 1) % 2 ^ 64 = f.data.length + kMaxUdpPayload - 1 := by
      unfold kMaxUdpPayload at *
      omega
    rw [hwide] at hcount
    split at hcount
    · next hless =>
        rw [UInt16.lt_iff_toNat_lt, UInt16.toNat_ofNat'] at hless
        unfold kMaxUdpPayload at *
        simp only [UInt16.toNat_one] at hless
        omega
    · rw [UInt16.toNat_ofNat'] at hcount
      unfold kMaxUdpPayload at *
      omega

/-- The call of `feed` in a step that went through. -/
theorem feed_of_feedGcStep {r r₁ : FragmentReassembler} {fr : Fragment}
    (h : feedGcStep (.ok r) fr = .ok r₁) :
    ∃ out r', r.feed fr.header fr.payload = .ok (out, r') ∧ r'.gc = r₁ := by
  have h : (r.feed fr.header fr.payload).map (fun fed => fed.2.gc) = .ok r₁ := h
  cases hfeed : r.feed fr.header fr.payload with
  | error x => simp [hfeed, Except.map] at h
  | ok fed =>
      rw [hfeed] at h
      exact ⟨fed.1, fed.2, rfl, Except.ok.inj h⟩

section Feed

variable {log : List Submission} {l : LaneState} {m : Submission} {i : Nat}

theorem decode_fragment_any (m : Submission) (hi : i < m.frame.count) :
    decodeUdpHeader (encodeUdpHeader (m.frame.fragment m.lane.type m.sessionId i).1 ++
      (m.frame.fragment m.lane.type m.sessionId i).2) {} =
        (decide (m.frame.count ≤ 1024), (m.frame.fragment m.lane.type m.sessionId i).1) :=
  m.frame.decode_fragment_any (by cases m.lane <;> decide) hi

/-- The receiver reads the header of a fragment back, if the frame fits. -/
theorem decode_fragment (m : Submission) (hfits : m.frame.Fits) (hi : i < m.frame.count) :
    decodeUdpHeader (encodeUdpHeader (m.frame.fragment m.lane.type m.sessionId i).1 ++
      (m.frame.fragment m.lane.type m.sessionId i).2) {} =
        (true, (m.frame.fragment m.lane.type m.sessionId i).1) :=
  MediaFrame.decode_fragment (by cases m.lane <;> decide) hfits hi

/-- A fragment of a submission keeps a buffer with its number in order. -/
theorem Owned.store (hlog : Distinct log) (hm : m ∈ log) (hfits : m.frame.Fits) (hi : i < m.frame.count)
    {fb : FrameBuf} (hfb : Owned log m.lane m.frame.sequence fb)
    (htakes : fb.refuses (m.frame.fragment m.lane.type m.sessionId i).1 = false) :
    Owned log m.lane m.frame.sequence (fb.store (m.frame.fragment m.lane.type m.sessionId i).1
      (m.frame.fragment m.lane.type m.sessionId i).2) := by
  obtain ⟨m', hm', hlane, hseq, -, pre, hholding⟩ := hfb
  obtain rfl := hlog.eq_of_number m' hm' m hm hlane hseq
  have hok := congrArg Prod.fst (decode_fragment m' hfits hi)
  have hnew : m'.frame.fragment m'.lane.type m'.sessionId i ∉ pre := by
    intro hold
    obtain ⟨got, hholds, hgot⟩ := hholding.got
    have hidx := MediaFrame.index_toNat m'.lane.type m'.sessionId hfits hi
    have hmissing := ((FrameBuf.not_refuses_iff hholds).1 htakes).2
    rw [hidx, hgot i hi, if_pos hold] at hmissing
    cases hmissing
  exact ⟨m', hm, rfl, rfl, hfits, _, hholding.store hfits hi hok hnew⟩

/-- **One fragment** goes where it belongs, and what it completes is its own frame. -/
theorem Faithful.feed (hl : Faithful log m.lane l) (hlog : Distinct log) (hm : m ∈ log)
    (hfits : m.frame.Fits) (hi : i < m.frame.count) :
    ∃ out r', l.reassembly.feed (m.frame.fragment m.lane.type m.sessionId i).1
        (m.frame.fragment m.lane.type m.sessionId i).2 = .ok (out, r') ∧
      (∀ (s : UInt64) fb, r'.gc.frames[s]? = some fb → Owned log m.lane s fb) ∧
      (∃ n, Accounted n r'.gc) ∧ ∀ frame, out = some frame → frame = m.assembled := by
  have hok := congrArg Prod.fst (decode_fragment m hfits hi)
  obtain ⟨n, haccounted⟩ := hl.accounted
  obtain ⟨-, r₁, hstep, hnext⟩ := haccounted.step (MediaFrame.asFragment hfits hi hok)
    (MediaFrame.fillsSlot m.lane.type m.sessionId hfits hi).1
  obtain ⟨out, r', hfeed, rfl⟩ := feed_of_feedGcStep hstep
  have hfeed : l.reassembly.feed (m.frame.fragment m.lane.type m.sessionId i).1
      (m.frame.fragment m.lane.type m.sessionId i).2 = .ok (out, r') := hfeed
  refine ⟨out, r', hfeed, ?_⟩
  have hgc : (∀ (s : UInt64) fb, r'.frames[s]? = some fb → Owned log m.lane s fb) →
      ∀ (s : UInt64) fb, r'.gc.frames[s]? = some fb → Owned log m.lane s fb :=
    fun howned s fb hs => howned s fb (r'.gcLoop_frames_sub _ s fb hs)
  by_cases hone : m.frame.count = 1
  · obtain rfl : i = 0 := by omega
    have hwhole : l.reassembly.feed (m.frame.fragment m.lane.type m.sessionId 0).1
        (m.frame.fragment m.lane.type m.sessionId 0).2 =
          .ok (some m.assembled, { l.reassembly with completed := l.reassembly.completed + 1 }) :=
      Tracks.feed_unfragmented hfits hone
    rw [hwhole] at hfeed
    obtain ⟨rfl, rfl⟩ := Prod.mk.inj (Except.ok.inj hfeed)
    exact ⟨hgc hl.buffers, ⟨_, hnext⟩, fun frame hframe => (Option.some.inj hframe).symm⟩
  · have hpos := m.frame.zero_lt_count
    have hmany : (m.frame.fragment m.lane.type m.sessionId i).1.fragmentCount ≠ 1 := fun heq =>
      hone (congrArg UInt16.toNat heq)
    have hfresh : Owned log m.lane m.frame.sequence
        (FrameBuf.fresh (m.frame.fragment m.lane.type m.sessionId i).1) :=
      ⟨m, hm, rfl, rfl, hfits, [], holding_fresh (by omega) (by simp [MediaFrame.In])⟩
    obtain ⟨howned, hcompleted⟩ := FragmentReassembler.feed_buffers hl.buffers hmany hfresh
      (fun fb hfb _ htakes _ => hfb.store hlog hm hfits hi htakes) hfeed
    refine ⟨hgc howned, ⟨_, hnext⟩, fun frame hframe => ?_⟩
    obtain ⟨fb, ⟨m', hm', hlane, hseq, -, pre, hholding⟩, hdone, -, rfl⟩ := hcompleted frame hframe
    obtain rfl := hlog.eq_of_number m' hm' m hm hlane hseq
    exact hholding.assembled_eq hfits hdone

end Feed

/-! ## What a transport does with a datagram -/

section Transport

variable {τ : Type} {sink : UdpCryptoSink τ} {u : UdpTransport τ} {h : UdpHeader} {payload : Bytes}
  {log : List Submission}

theorem lane_noteArrival (u : UdpTransport τ) (now : UInt64) (lane : Lane) :
    (u.noteArrival now).lane lane = u.lane lane := by
  cases lane <;> rfl

theorem lane_handleMediaComplete_input {frame : AssembledFrame} (u : UdpTransport τ) (now : UInt64)
    (hinput : frame.type = .Input) (lane : Lane) :
    (u.handleMediaComplete frame now).1.lane lane = u.lane lane := by
  unfold UdpTransport.handleMediaComplete
  rw [if_pos hinput]

/-- A datagram from another source than the locked one leaves the lanes alone. -/
theorem handleDatagram_of_dropped (sink : UdpCryptoSink τ) (buf : Bytes) {source : Endpoint}
    (clk : Nat → UInt64) (hdrops : u.dropsSource source = true) :
    ∃ v, u.handleDatagram sink buf source clk = .ok (v, []) ∧ ∀ lane, v.lane lane = u.lane lane := by
  have hlanes : ∀ lane, (u.authenticate sink buf (clk 0)).2.lane lane = u.lane lane := fun lane =>
    UdpTransport.authenticate_frame (UdpTransport.lane · lane) sink u
      (fun _ _ => by cases lane <;> rfl) (fun _ _ => by cases lane <;> rfl)
      (fun _ _ => by cases lane <;> rfl) buf (clk 0)
  have hstill : (u.authenticate sink buf (clk 0)).2.dropsSource source = true :=
    (UdpTransport.authenticate_frame (UdpTransport.dropsSource · source) sink u (fun _ _ => rfl)
      (fun _ _ => rfl) (fun _ _ => rfl) buf (clk 0)).trans hdrops
  unfold UdpTransport.handleDatagram
  cases hauth : u.authenticate sink buf (clk 0) with
  | mk accepted v =>
      rw [hauth] at hlanes hstill
      cases accepted with
      | none => exact ⟨v, rfl, hlanes⟩
      | some accepted =>
          obtain ⟨h, payload⟩ := accepted
          have hlearned : (v.learnPeer sink h source).dropsSource source = true :=
            (UdpTransport.learnPeer_frame (UdpTransport.dropsSource · source) sink v
              (fun _ _ _ => rfl) h source).trans hstill
          dsimp only
          rw [if_pos hlearned]
          refine ⟨_, rfl, fun lane => (UdpTransport.learnPeer_frame (UdpTransport.lane · lane) sink v
            (fun _ _ _ => by cases lane <;> rfl) h source).trans (hlanes lane)⟩

/-- The header and the payload of a datagram in the clear pass as they are. -/
theorem accepted_in_clear {buf : Bytes} {now : UInt64} {g : UdpHeader}
    (hdecode : (decodeUdpHeader buf {}).2 = g) (hclear : g.hasFlag UdpFlag.Encrypted = false)
    (haccepted : (u.authenticate sink buf now).1 = some (h, payload)) :
    (decodeUdpHeader buf {}).1 = true ∧ h = g ∧
      payload = (buf.drop kUdpHeaderSize).take g.payloadSize.toNat := by
  unfold UdpTransport.authenticate at haccepted
  dsimp only at haccepted
  split at haccepted
  · cases haccepted
  · next g' heq =>
      rw [heq] at hdecode
      obtain rfl : g' = g := hdecode
      rw [heq]
      split at haccepted
      · cases haccepted
      · rw [hclear] at haccepted
        split at haccepted
        · next hflag => cases hflag
        · split at haccepted
          · cases haccepted
          · obtain ⟨rfl, rfl⟩ := Prod.mk.inj (Option.some.inj haccepted)
            exact ⟨rfl, rfl, rfl⟩

/-- What belongs to neither lane leaves the lanes alone. -/
theorem dispatch_foreign (u : UdpTransport τ) (payload : Bytes) (clk : Nat → UInt64)
    (hlane : (⟨h.type⟩ : UdpType).lane? = none)
    (hwhole : h.type = UdpType.Input.code → h.fragmentCount = 1) :
    ∃ p, u.dispatch h payload clk = .ok p ∧ ∀ lane, p.1.lane lane = u.lane lane := by
  by_cases hinput : (⟨h.type⟩ : UdpType) = .Input
  · have hreassemble : ∃ v : UdpTransport τ, (∀ lane, v.lane lane = u.lane lane) ∧
        (u.noteArrival (clk 1)).reassemble h (payload.take h.payloadSize.toNat) (clk 2)
          = .ok (some (h.unfragmented (payload.take h.payloadSize.toNat)), v) := by
      unfold UdpTransport.reassemble FragmentReassembler.feed
      dsimp only
      rw [hinput, if_neg (by decide), if_neg (by decide), if_pos rfl,
        if_pos (hwhole (congrArg UdpType.code hinput))]
      refine ⟨_, fun lane => ?_, rfl⟩
      cases lane <;> rfl
    obtain ⟨v, hlanes, hr⟩ := hreassemble
    refine ⟨_, dispatch_of_reassemble hinput hr, fun lane => ?_⟩
    rw [lane_handleMediaComplete_input v (clk 3) hinput, hlanes]
  · have hvideo : (⟨h.type⟩ : UdpType) ≠ .Video := UdpType.ne_of_lane?_eq_none hlane .video
    have haudio : (⟨h.type⟩ : UdpType) ≠ .Audio := UdpType.ne_of_lane?_eq_none hlane .audio
    unfold UdpTransport.dispatch
    dsimp only
    split
    · refine ⟨_, rfl, fun lane => ?_⟩
      unfold UdpTransport.sendSmall
      split <;> cases lane <;> rfl
    · split
      · refine ⟨_, rfl, fun lane => ?_⟩
        unfold UdpTransport.handlePong
        split
        · dsimp only
          split <;> cases lane <;> rfl
        · cases lane <;> rfl
      · split
        · exact ⟨_, rfl, lane_noteArrival u (clk 1)⟩
        · unfold UdpTransport.reassemble
          dsimp only
          rw [if_neg hvideo, if_neg haudio, if_neg hinput]
          exact ⟨_, rfl, lane_noteArrival u (clk 1)⟩

/-- **A fragment of a submission** leaves the lanes with submissions only. -/
theorem dispatch_submitted (hu : ∀ lane, Faithful log lane (u.lane lane)) (hlog : Distinct log)
    {m : Submission} (hm : m ∈ log) (hfits : m.frame.Fits) {i : Nat} (hi : i < m.frame.count)
    (clk : Nat → UInt64) :
    ∃ p, u.dispatch (m.frame.fragment m.lane.type m.sessionId i).1
        (m.frame.fragment m.lane.type m.sessionId i).2 clk = .ok p ∧
      ∀ lane, Faithful log lane (p.1.lane lane) := by
  have hwhole : (m.frame.fragment m.lane.type m.sessionId i).2.take
      (m.frame.fragment m.lane.type m.sessionId i).1.payloadSize.toNat =
        (m.frame.fragment m.lane.type m.sessionId i).2 := by
    rw [← m.frame.length_fragment hi, List.take_length]
  have htype : (⟨(m.frame.fragment m.lane.type m.sessionId i).1.type⟩ : UdpType) = m.lane.type := rfl
  rw [UdpTransport.dispatch_media htype, hwhole]
  obtain ⟨out, r', hfeed, howned, haccounted, hcompleted⟩ := (hu m.lane).feed hlog hm hfits hi
  rw [← lane_noteArrival u (clk 1)] at hfeed
  obtain ⟨v, hv, hlane, hother⟩ := UdpTransport.reassemble_lane htype (clk 2) hfeed
  have hreassembled : ∀ lane, Faithful log lane (v.lane lane) := by
    intro lane
    by_cases heq : lane = m.lane
    · subst heq
      rw [hlane, lane_noteArrival]
      exact ⟨howned, (hu m.lane).queue, haccounted⟩
    · rw [hother lane heq, lane_noteArrival]
      exact hu lane
  rw [hv]
  cases out with
  | none => exact ⟨_, rfl, hreassembled⟩
  | some frame =>
      obtain rfl := hcompleted frame rfl
      have hlane : m.assembled.type = m.lane.type := rfl
      obtain ⟨targetMs, hpushed, hkept⟩ :=
        UdpTransport.handleMediaComplete_lane (t := v) hlane (clk 3)
      refine ⟨_, rfl, fun lane => ?_⟩
      by_cases heq : lane = m.lane
      · subst heq
        rw [hpushed]
        have hv := hreassembled m.lane
        refine ⟨hv.buffers, fun e he => ?_, hv.accounted⟩
        rcases mem_queue_push he with hnew | hold
        · exact ⟨m, hm, rfl, hnew⟩
        · exact hv.queue e hold
      · rw [hkept lane heq]
        exact hreassembled lane

/-- A fragment is sent in the clear. -/
theorem fragment_in_clear (type : UdpType) (sessionId : UInt32) (f : MediaFrame) (i : Nat) :
    (f.fragment type sessionId i).1.hasFlag UdpFlag.Encrypted = false := by
  show (((if f.keyframe then UdpFlag.Keyframe else 0) |||
    (if 1 < fragmentCountFor f.data.length then UdpFlag.Fragment else 0)) &&& UdpFlag.Encrypted != 0)
      = false
  split <;> split <;> decide

/-- **A genuine datagram** never faults, and leaves the lanes with submissions only. -/
theorem handleDatagram_genuine (hu : ∀ lane, Faithful log lane (u.lane lane)) (hlog : Distinct log)
    {buf : Bytes} (hbuf : Genuine log buf) (source : Endpoint) (clk : Nat → UInt64) :
    ∃ p, u.handleDatagram sink buf source clk = .ok p ∧
      ∀ lane, Faithful log lane (p.1.lane lane) := by
  cases hdrops : u.dropsSource source with
  | true =>
      obtain ⟨v, hv, hlanes⟩ := handleDatagram_of_dropped sink buf clk hdrops
      exact ⟨_, hv, fun lane => hlanes lane ▸ hu lane⟩
  | false =>
      cases haccepted : (u.authenticate sink buf (clk 0)).1 with
      | none =>
          obtain ⟨v, hlanes, hv⟩ := UdpTransport.handleDatagram_of_refused haccepted source
          exact ⟨_, hv, fun lane => hlanes lane ▸ hu lane⟩
      | some accepted =>
          obtain ⟨h, payload⟩ := accepted
          obtain ⟨v, hlanes, hv⟩ := UdpTransport.handleDatagram_of_accepted haccepted hdrops
          have hfaithful : ∀ lane, Faithful log lane (v.lane lane) := fun lane => hlanes lane ▸ hu lane
          rw [hv]
          rcases hbuf with ⟨m, hm, hdatagram⟩ | hforeign
          · obtain ⟨fr, hfr, rfl⟩ := List.mem_map.1 hdatagram
            obtain ⟨i, hi, rfl⟩ := (m.frame.mem_fragments fr).1 hfr
            have hdecode := decode_fragment_any m hi
            obtain ⟨hok, rfl, rfl⟩ := accepted_in_clear (congrArg Prod.snd hdecode)
              (fragment_in_clear m.lane.type m.sessionId m.frame i) haccepted
            rw [hdecode] at hok
            have hfits := fits_of_count (hlog.size m hm) (of_decide_eq_true hok)
            have hpayload : ((encodeUdpHeader (m.frame.fragment m.lane.type m.sessionId i).1 ++
                (m.frame.fragment m.lane.type m.sessionId i).2).drop kUdpHeaderSize).take
                  (m.frame.fragment m.lane.type m.sessionId i).1.payloadSize.toNat =
                    (m.frame.fragment m.lane.type m.sessionId i).2 := by
              rw [← length_encodeUdpHeader (m.frame.fragment m.lane.type m.sessionId i).1,
                List.drop_left, ← m.frame.length_fragment hi, List.take_length]
            rw [hpayload]
            exact dispatch_submitted hfaithful hlog hm hfits hi clk
          · obtain ⟨w, hauth⟩ : ∃ w, u.authenticate sink buf (clk 0) = (some (h, payload), w) :=
              ⟨_, Prod.ext haccepted rfl⟩
            obtain ⟨g, hdecode, hsame⟩ := header_of_authenticate hauth
            have hkind : h.type = g.type := by rw [hsame]
            have htype : h.type = getU8 buf 3 := hkind.trans (type_of_decode hdecode)
            have hlane : (⟨h.type⟩ : UdpType).lane? = none := by
              cases hcase : (⟨h.type⟩ : UdpType).lane? with
              | none => rfl
              | some lane =>
                  exact absurd (htype ▸ congrArg UdpType.code (UdpType.eq_of_lane? hcase))
                    (hforeign.lane lane)
            obtain ⟨p, hp, hkept⟩ := dispatch_foreign v payload clk hlane (fun hinput => by
              have hwhole := hforeign.whole (htype ▸ hinput)
              rw [headerOf, hdecode] at hwhole
              exact (congrArg UdpHeader.fragmentCount hsame).trans hwhole)
            exact ⟨p, hp, fun lane => hkept lane ▸ hfaithful lane⟩

/-- What is neither a datagram, a poll nor a reset keeps what depends on the lanes alone. -/
theorem handle_keeps {α : Type} (sink : UdpCryptoSink τ) (u : UdpTransport τ) (f : UdpTransport τ → α)
    (hf : ∀ (u : UdpTransport τ) running peer havePeer sessionId seqCounter pingSeq pingIntervalMs
        pingTimer secure dropUnknownRemote autoKeyframeRequest videoJitterTargetMs audioJitterTargetMs
        lockedRemote relayFallback posted stats,
      f { u with
        running := running, peer := peer, havePeer := havePeer, sessionId := sessionId
        seqCounter := seqCounter, pingSeq := pingSeq, pingIntervalMs := pingIntervalMs
        pingTimer := pingTimer, secure := secure, dropUnknownRemote := dropUnknownRemote
        autoKeyframeRequest := autoKeyframeRequest, videoJitterTargetMs := videoJitterTargetMs
        audioJitterTargetMs := audioJitterTargetMs, lockedRemote := lockedRemote
        relayFallback := relayFallback, posted := posted, stats := stats } = f u)
    {e : UdpEvent} (hdatagram : ∀ buf source clk, e ≠ .datagram buf source clk)
    (hvideo : ∀ now, e ≠ .pollVideo now) (haudio : ∀ now, e ≠ .pollAudio now)
    (hreset : e ≠ .resetStats) : ∃ p, u.handle sink e = .ok p ∧ f p.1 = f u := by
  have hsmall : ∀ (u : UdpTransport τ) type data now, f (u.sendSmall type data now) = f u := by
    intro u type data now
    unfold UdpTransport.sendSmall
    split
    · rfl
    · exact hf u ..
  have hping : ∀ (u : UdpTransport τ) clk, f (u.sendPingOnce clk) = f u := by
    intro u clk
    unfold UdpTransport.sendPingOnce
    split
    · rfl
    · refine (hf _ ..).trans ((hsmall ..).trans ((hf _ ..).trans ?_))
      unfold UdpTransport.returnToRelay
      split
      · rfl
      · exact hf u ..
  have hsend : ∀ (u : UdpTransport τ) target bytes fails, f (u.sendTo target bytes fails).1 = f u := by
    intro u target bytes fails
    unfold UdpTransport.sendTo
    split <;> exact hf u ..
  cases e with
  | datagram buf source clk => exact absurd rfl (hdatagram buf source clk)
  | pollVideo now => exact absurd rfl (hvideo now)
  | pollAudio now => exact absurd rfl (haudio now)
  | resetStats => exact absurd rfl hreset
  | runPosted fails now =>
      simp only [UdpTransport.handle]
      cases hposted : u.posted with
      | nil => exact ⟨_, rfl, rfl⟩
      | cons task rest =>
          refine ⟨_, rfl, ?_⟩
          have hrest : f { u with posted := rest } = f u := hf u ..
          rw [← hrest]
          generalize ({ u with posted := rest } : UdpTransport τ) = v
          cases task with
          | datagram dg =>
              have hwire : f (v.wireBytes sink dg).2 = f v := by
                unfold UdpTransport.wireBytes
                split
                · rfl
                · split
                  · rfl
                  · exact hf v ..
              simp only [UdpTransport.runTask]
              split
              · next v₁ heq => rw [← hwire, heq]
              · next bytes v₁ heq => rw [hsend, ← hwire, heq]
          | relayBind target pkt =>
              simp only [UdpTransport.runTask]
              split
              · rfl
              · split
                · exact hf v ..
                · rfl
          | punch target dg => exact hsend ..
          | requestKeyframe => exact hsmall ..
          | close => exact hf v ..
  | sendFrame type keyframe data timestampNs =>
      refine ⟨_, rfl, ?_⟩
      unfold UdpTransport.sendFrame
      split
      · rfl
      · dsimp only
        rw [UdpTransport.foldl_post]
        exact hf u ..
  | sendSmall type data now => exact ⟨_, rfl, hsmall ..⟩
  | pingTimer clk =>
      refine ⟨_, rfl, ?_⟩
      unfold UdpTransport.pingTimerFires
      split
      · rfl
      · dsimp only
        split
        · exact hf u ..
        · exact (hping _ clk).trans (hf u ..)
  | startPings ms clk =>
      refine ⟨_, rfl, ?_⟩
      unfold UdpTransport.startPings
      split
      · rfl
      · exact (hping _ clk).trans (hf u ..)
  | sendRelayBind token =>
      refine ⟨_, rfl, ?_⟩
      unfold UdpTransport.sendRelayBind
      split
      · rfl
      · exact hf u ..
  | sendPunch target =>
      refine ⟨_, rfl, ?_⟩
      unfold UdpTransport.sendPunch
      split
      · rfl
      · exact hf u ..
  | stop =>
      refine ⟨_, rfl, ?_⟩
      unfold UdpTransport.stop
      split
      · exact hf u ..
      · rfl
  | setSessionId | setPeer | lockToRemote | setRelayFallback | stopPings | setVideoJitterTargetMs
  | setAudioJitterTargetMs | setAutoKeyframeRequest | setDropUnknownRemote =>
      exact ⟨_, rfl, hf u ..⟩

/-- A poll hands out submissions and keeps the others. -/
theorem Faithful.pop {lane : Lane} {l : LaneState} (hl : Faithful log lane l) (now : UInt64) :
    Faithful log lane { l with jitter := (l.jitter.pop now).2 } ∧
      ∀ frame ∈ (l.jitter.pop now).1, ∃ m ∈ log, m.lane = lane ∧ frame = m.assembled := by
  obtain ⟨hpopped, hkept⟩ := mem_popLoop now l.jitter.queue l.jitter
  refine ⟨⟨hl.buffers, fun e he => hl.queue e (hkept e he), hl.accounted⟩, fun frame hframe => ?_⟩
  obtain ⟨e, he, rfl⟩ := hpopped frame hframe
  exact hl.queue e he

/-- **One event at the receiver** never faults, leaves the lanes with submissions only, and polls nothing
    but submissions. -/
theorem handle_faithful (sink : UdpCryptoSink τ) (hu : ∀ lane, Faithful log lane (u.lane lane))
    (hlog : Distinct log) {e : UdpEvent} (harrives : ∀ buf source clk, e = .datagram buf source clk → Genuine log buf) :
    (∃ p, u.handle sink e = .ok p ∧ ∀ lane, Faithful log lane (p.1.lane lane)) ∧
      ∀ lane, ∀ frame ∈ u.polled lane e, ∃ m ∈ log, m.lane = lane ∧ frame = m.assembled := by
  by_cases hdatagram : ∃ buf source clk, e = .datagram buf source clk
  · obtain ⟨buf, source, clk, rfl⟩ := hdatagram
    exact ⟨handleDatagram_genuine hu hlog (harrives buf source clk rfl) source clk, fun _ => nofun⟩
  by_cases hvideo : ∃ now, e = .pollVideo now
  · obtain ⟨now, rfl⟩ := hvideo
    obtain ⟨hpop, hout⟩ := (hu .video).pop now
    refine ⟨⟨_, rfl, fun lane => ?_⟩, fun lane frame hframe => ?_⟩
    · cases lane with
      | video => exact hpop
      | audio => exact hu .audio
    · cases lane with
      | video => exact hout frame hframe
      | audio => cases hframe
  by_cases haudio : ∃ now, e = .pollAudio now
  · obtain ⟨now, rfl⟩ := haudio
    obtain ⟨hpop, hout⟩ := (hu .audio).pop now
    refine ⟨⟨_, rfl, fun lane => ?_⟩, fun lane frame hframe => ?_⟩
    · cases lane with
      | video => exact hu .video
      | audio => exact hpop
    · cases lane with
      | video => cases hframe
      | audio => exact hout frame hframe
  by_cases hreset : e = .resetStats
  · subst hreset
    refine ⟨⟨_, rfl, fun lane => ?_⟩, fun _ => nofun⟩
    cases lane with
    | video => exact ⟨(hu .video).buffers, nofun, (hu .video).accounted⟩
    | audio => exact ⟨(hu .audio).buffers, nofun, (hu .audio).accounted⟩
  have hpolled : ∀ lane, u.polled lane e = [] := by
    intro lane
    cases e with
    | pollVideo now => exact absurd ⟨now, rfl⟩ hvideo
    | pollAudio now => exact absurd ⟨now, rfl⟩ haudio
    | _ => rfl
  obtain ⟨p, hp, hsame⟩ := handle_keeps sink u
    (fun u => (u.lane .video, u.lane .audio)) (by intros; rfl)
    (fun buf source clk heq => hdatagram ⟨buf, source, clk, heq⟩) (fun now heq => hvideo ⟨now, heq⟩)
    (fun now heq => haudio ⟨now, heq⟩) hreset
  refine ⟨⟨p, hp, fun lane => ?_⟩, fun lane frame hframe => ?_⟩
  · cases lane with
    | video =>
        have hlane : p.1.lane .video = u.lane .video := congrArg Prod.fst hsame
        exact hlane ▸ hu .video
    | audio =>
        have hlane : p.1.lane .audio = u.lane .audio := congrArg Prod.snd hsame
        exact hlane ▸ hu .audio
  · rw [hpolled] at hframe
    cases hframe

end Transport

/-! ## Whole runs -/

section Runs

variable {σ τ : Type} {sink : UdpCryptoSink σ} {sink' : UdpCryptoSink τ}

/-- The frames of a lane are numbered in order, so the numbers differ until they wrap. -/
theorem distinct_of_logged {log : List Submission} {t : UdpTransport σ}
    (hlogged : UdpTransport.Logged log t) (hlength : log.length < 2 ^ 64)
    (hsize : ∀ m ∈ log, m.frame.data.length ≤ 65535 * kMaxUdpPayload) : Distinct log where
  eq_of_number m hm m' hm' hlane hseq := by
    have hcount : log.countP (fun x => x.lane = m.lane) ≤ log.length := List.countP_le_length
    have hnodup : ((log.filter (fun x => x.lane = m.lane)).map (fun x => x.frame.sequence)).Nodup := by
      rw [hlogged.numbered]
      refine List.Nodup.map_on ?_ List.nodup_range
      intro i hi j hj hij
      have hi := List.mem_range.1 hi
      have hj := List.mem_range.1 hj
      have hnat := congrArg UInt64.toNat hij
      rw [UInt64.toNat_ofNat', UInt64.toNat_ofNat', Nat.mod_eq_of_lt (by omega),
        Nat.mod_eq_of_lt (by omega)] at hnat
      exact hnat
    refine List.inj_on_of_nodup_map hnodup ?_ ?_ hseq
    · exact List.mem_filter.2 ⟨hm, by simp⟩
    · exact List.mem_filter.2 ⟨hm', by simp [hlane]⟩
  size := hsize

theorem length_submitted_le (t₀ : UdpTransport σ) (es : List UdpEvent) :
    (submitted sink t₀ es).length ≤ es.length := by
  refine (List.length_filterMap_le _ _).trans ?_
  induction es generalizing t₀ with
  | nil => exact Nat.le_refl _
  | cons e es ih =>
      unfold stepsOf
      split
      · exact Nat.succ_le_succ (ih _)
      · simp

/-- **Media comes out as it went in.** Two transports without a crypto sink, and a network that may lose,
    repeat, delay and reorder the sender's datagrams. The receiver never runs into undefined behaviour,
    and every frame that it hands out is one of those that the sender was given, with all its bytes, its
    time and its keyframe flag. -/
theorem media_comes_out_as_it_went_in {t₀ t : UdpTransport σ} {u₀ : UdpTransport τ}
    (hsender : Untouched t₀) (hreceiver : ∀ lane, u₀.lane lane = LaneState.fresh lane)
    (es rs : List UdpEvent) (hrun : runFrom (UdpTransport.step sink) (.ok t₀) es = .ok t)
    (hinput : ∀ e ∈ es, e.framesInput = false) (hlength : es.length < 2 ^ 64)
    (hsize : ∀ m ∈ submitted sink t₀ es, m.frame.data.length ≤ 65535 * kMaxUdpPayload)
    (harrives : ∀ buf source clk, .datagram buf source clk ∈ rs → buf ∈ wire sink t₀ es) :
    (∃ u, runFrom (UdpTransport.step sink') (.ok u₀) rs = .ok u) ∧
      ∀ p ∈ stepsOf (next sink') u₀ rs, ∀ lane, ∀ frame ∈ p.1.polled lane p.2,
        ∃ m ∈ submitted sink t₀ es, m.lane = lane ∧ frame = m.assembled := by
  obtain ⟨hlogged, hwire⟩ := UdpTransport.logged_run hsender hinput hrun
  have hlog := distinct_of_logged hlogged
    ((length_submitted_le t₀ es).trans_lt hlength) hsize
  have hgenuine : ∀ e ∈ rs, ∀ buf source clk, e = .datagram buf source clk →
      Genuine (submitted sink t₀ es) buf := by
    rintro e he buf source clk rfl
    exact hwire buf (harrives buf source clk he)
  have hfresh : ∀ lane, Faithful (submitted sink t₀ es) lane (u₀.lane lane) := fun lane =>
    hreceiver lane ▸ faithful_fresh _ lane
  have hstep : ∀ (u : UdpTransport τ) (e : UdpEvent),
      (∀ lane, Faithful (submitted sink t₀ es) lane (u.lane lane)) →
      (∀ buf source clk, e = .datagram buf source clk → Genuine (submitted sink t₀ es) buf) →
      ∃ v, next sink' u e = .ok v ∧ ∀ lane, Faithful (submitted sink t₀ es) lane (v.lane lane) := by
    intro u e hu he
    obtain ⟨p, hp, hkept⟩ := (handle_faithful sink' hu hlog he).1
    exact ⟨p.1, by rw [UdpTransport.next, hp]; rfl, hkept⟩
  obtain ⟨⟨u, hu, -⟩, hsteps⟩ := faulting_safe (next sink') _ _ hstep hfresh rs hgenuine
  refine ⟨⟨u, hu⟩, fun p hp => ?_⟩
  obtain ⟨hfaithful, harrived⟩ := hsteps p hp
  exact (handle_faithful sink' hfaithful hlog harrived).2

end Runs

/-- A short picture arrives twice and is polled. -/
theorem media_comes_out_as_it_went_in_twice :
    (∃ u, runFrom (UdpTransport.step noSink) (.ok {})
      [arrives (frameDatagram 0) 1, arrives (frameDatagram 0) 2, .pollVideo 100000000] = .ok u) ∧
      ∀ p ∈ stepsOf (next noSink) {}
          [arrives (frameDatagram 0) 1, arrives (frameDatagram 0) 2, .pollVideo 100000000],
        ∀ lane, ∀ frame ∈ p.1.polled lane p.2,
          ∃ m ∈ submitted noSink sendingTransport
              [.sendFrame .Video false [1, 2, 3] 5, .runPosted false 0],
            m.lane = lane ∧ frame = m.assembled := by
  have hsubmitted : submitted noSink sendingTransport
      [.sendFrame .Video false [1, 2, 3] 5, .runPosted false 0] =
        [⟨.video, 0, ⟨0, 5, false, [1, 2, 3]⟩⟩] := rfl
  have hwire : wire noSink sendingTransport
      [.sendFrame .Video false [1, 2, 3] 5, .runPosted false 0] = [frameDatagram 0] := rfl
  refine media_comes_out_as_it_went_in (show Untouched sendingTransport from ⟨rfl, rfl, rfl⟩)
    (fun lane => by cases lane <;> rfl) _ _ rfl (by decide) (by decide) ?_ ?_
  · intro m hm
    rw [hsubmitted, List.mem_singleton] at hm
    rw [hm]
    decide
  · intro buf source clk hmem
    rw [hwire, List.mem_singleton]
    simp only [arrives, List.mem_cons, UdpEvent.datagram.injEq, reduceCtorEq, List.not_mem_nil,
      or_false] at hmem
    rcases hmem with ⟨rfl, -⟩ | ⟨rfl, -⟩
    · rfl
    · rfl

end RemotePlay.App
