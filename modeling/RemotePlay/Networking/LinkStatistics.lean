import RemotePlay.Networking.JitterOrder
import RemotePlay.Networking.ReassemblyAccounting
import RemotePlay.Networking.SendFrame
import RemotePlay.Networking.SequenceTracking

set_option autoImplicit false

/-! # What the statistics say of a perfect link

A sender hands video and audio frames to `sendFrame`, and every datagram of every frame arrives at
the receiver, in order and once. `stats()` sums what the trackers, the reassemblers and the jitter
buffers of the two lanes counted.

The fragments of a frame share one number, and `handleDatagram` calls `track` for each datagram: the
second fragment of a frame is a repeated number to the tracker, which counts it as a duplicate, or
as late. So the statistics of a perfect link are perfect exactly as long as every frame takes one
datagram (`perfect_link_iff`). -/

namespace RemotePlay.Net

section LinkStatistics

variable {σ : Type}

/-! ## The receiving state of a lane -/

/-- What a transport receives the frames of a lane with. -/
structure LaneState where
  tracker : SequenceTracker := {}
  reassembly : FragmentReassembler
  jitter : JitterBuffer := {}

/-- The lane of a transport that has received nothing. -/
def LaneState.fresh (lane : Lane) : LaneState := { reassembly := { type := lane.type } }

namespace UdpTransport

def lane (t : UdpTransport σ) : Lane → LaneState
  | .video => ⟨t.videoSeq, t.videoReassembly, t.videoJitter⟩
  | .audio => ⟨t.audioSeq, t.audioReassembly, t.audioJitter⟩

variable {sink : UdpCryptoSink σ} {t : UdpTransport σ} {h : UdpHeader} {payload : Bytes}
  {clk : Nat → UInt64} {buf : Bytes} {source : Endpoint}

/-- A datagram that is let in is dispatched with the lanes as they were. -/
theorem handleDatagram_of_accepted
    (haccepted : (t.authenticate sink buf (clk 0)).1 = some (h, payload))
    (hsource : t.dropsSource source = false) : ∃ u : UdpTransport σ,
      (∀ lane, u.lane lane = t.lane lane) ∧
        t.handleDatagram sink buf source clk = u.dispatch h payload clk := by
  obtain ⟨accepted, t', hauth⟩ : ∃ accepted t', t.authenticate sink buf (clk 0) = (accepted, t') :=
    ⟨_, _, rfl⟩
  obtain rfl : accepted = some (h, payload) := by
    rw [hauth] at haccepted
    exact haccepted
  have ht' : (t.authenticate sink buf (clk 0)).2 = t' := by rw [hauth]
  refine ⟨t'.learnPeer sink h source, ?_, ?_⟩
  · intro lane
    rw [learnPeer_frame (UdpTransport.lane · lane) sink t' (fun _ _ _ => by cases lane <;> rfl) h
      source, ← ht']
    exact authenticate_frame (UdpTransport.lane · lane) sink t (fun _ _ => by cases lane <;> rfl)
      (fun _ _ => by cases lane <;> rfl) (fun _ _ => by cases lane <;> rfl) buf (clk 0)
  · have hdrops : (t'.learnPeer sink h source).dropsSource source = t.dropsSource source := by
      rw [learnPeer_frame (UdpTransport.dropsSource · source) sink t' (fun _ _ _ => rfl) h source,
        ← ht']
      exact authenticate_frame (UdpTransport.dropsSource · source) sink t (fun _ _ => rfl)
        (fun _ _ => rfl) (fun _ _ => rfl) buf (clk 0)
    unfold handleDatagram
    rw [hauth]
    dsimp only
    rw [hdrops, hsource]
    rfl

/-- A datagram that is refused leaves the lanes as they were. -/
theorem handleDatagram_of_refused (hrefused : (t.authenticate sink buf (clk 0)).1 = none)
    (source : Endpoint) :
    ∃ u : UdpTransport σ, (∀ lane, u.lane lane = t.lane lane) ∧
      t.handleDatagram sink buf source clk = .ok (u, []) := by
  refine ⟨(t.authenticate sink buf (clk 0)).2, ?_, ?_⟩
  · intro lane
    exact authenticate_frame (UdpTransport.lane · lane) sink t (fun _ _ => by cases lane <;> rfl)
      (fun _ _ => by cases lane <;> rfl) (fun _ _ => by cases lane <;> rfl) buf (clk 0)
  · unfold handleDatagram
    split
    · next heq => rw [heq]
    · next heq =>
        rw [heq] at hrefused
        exact absurd hrefused (by simp)

/-- The lanes as `track`, `feed` and `gc` leave them. -/
theorem reassemble_lane {lane : Lane} (htype : (⟨h.type⟩ : UdpType) = lane.type) (now : UInt64)
    {fed : Option AssembledFrame × FragmentReassembler}
    (hfed : (t.lane lane).reassembly.feed h payload = .ok fed) : ∃ u : UdpTransport σ,
      t.reassemble h payload now = .ok (fed.1, u) ∧
      u.lane lane = { t.lane lane with
        tracker := trackStep (t.lane lane).tracker h.sequence
        reassembly := fed.2.gc } ∧
      ∀ other, other ≠ lane → u.lane other = t.lane other := by
  unfold reassemble
  cases lane with
  | video =>
      have htype : (⟨h.type⟩ : UdpType) = .Video := htype
      have hfed : t.videoReassembly.feed h payload = .ok fed := hfed
      dsimp only
      rw [htype, if_pos rfl, hfed]
      refine ⟨_, rfl, ?_, ?_⟩
      · rw [noteVideoGap_frame (UdpTransport.lane · .video) _ (fun _ _ _ => rfl)]
        rfl
      · intro other hother
        rw [noteVideoGap_frame (UdpTransport.lane · other) _ (fun _ _ _ => by cases other <;> rfl)]
        cases other with
        | video => exact absurd rfl hother
        | audio => rfl
  | audio =>
      have htype : (⟨h.type⟩ : UdpType) = .Audio := htype
      have hfed : t.audioReassembly.feed h payload = .ok fed := hfed
      dsimp only
      rw [htype, if_neg (by decide), if_pos rfl, hfed]
      refine ⟨_, rfl, rfl, ?_⟩
      intro other hother
      cases other with
      | video => rfl
      | audio => exact absurd rfl hother

theorem reassemble_fault {lane : Lane} (htype : (⟨h.type⟩ : UdpType) = lane.type) {now : UInt64}
    {e : FeedFault} (hfed : (t.lane lane).reassembly.feed h payload = .error e) :
    t.reassemble h payload now = .error e := by
  unfold reassemble
  cases lane with
  | video =>
      have htype : (⟨h.type⟩ : UdpType) = .Video := htype
      have hfed : t.videoReassembly.feed h payload = .error e := hfed
      dsimp only
      rw [htype, if_pos rfl, hfed]
      rfl
  | audio =>
      have htype : (⟨h.type⟩ : UdpType) = .Audio := htype
      have hfed : t.audioReassembly.feed h payload = .error e := hfed
      dsimp only
      rw [htype, if_neg (by decide), if_pos rfl, hfed]
      rfl

/-- Media datagrams go to reassembly. -/
theorem dispatch_media {lane : Lane} (htype : (⟨h.type⟩ : UdpType) = lane.type) :
    t.dispatch h payload clk =
      match (t.noteArrival (clk 1)).reassemble h (payload.take h.payloadSize.toNat) (clk 2) with
      | .error e => .error e
      | .ok (none, u) => .ok (u, [])
      | .ok (some frame, u) => .ok (u.handleMediaComplete frame (clk 3)) := by
  unfold dispatch
  dsimp only
  rw [htype]
  cases lane with
  | video =>
      rw [if_neg (by decide), if_neg (by decide)]
      exact if_neg (by decide)
  | audio =>
      rw [if_neg (by decide), if_neg (by decide)]
      exact if_neg (by decide)

/-- A completed frame changes no tracker. -/
theorem handleMediaComplete_tracker (frame : AssembledFrame) (now : UInt64) (lane : Lane) :
    ((t.handleMediaComplete frame now).1.lane lane).tracker = (t.lane lane).tracker := by
  unfold handleMediaComplete
  split
  · rfl
  split
  · cases lane <;> rfl
  split
  · cases lane <;> rfl
  · rfl

/-- **A media datagram is tracked**, whatever comes of its frame. -/
theorem dispatch_tracker {lane : Lane} (htype : (⟨h.type⟩ : UdpType) = lane.type)
    {p : UdpTransport σ × List UdpEffect} (hd : t.dispatch h payload clk = .ok p) :
    (p.1.lane lane).tracker = trackStep (t.lane lane).tracker h.sequence ∧
      ∀ other, other ≠ lane → (p.1.lane other).tracker = (t.lane other).tracker := by
  rw [dispatch_media htype] at hd
  have hnote : ∀ l, (t.noteArrival (clk 1)).lane l = t.lane l := fun l => by cases l <;> rfl
  cases hfed : ((t.noteArrival (clk 1)).lane lane).reassembly.feed h
      (payload.take h.payloadSize.toNat) with
  | error e =>
      rw [reassemble_fault htype hfed] at hd
      exact absurd hd (by simp)
  | ok fed =>
      obtain ⟨u, hu, hlane, hother⟩ := reassemble_lane htype (clk 2) hfed
      rw [hu] at hd
      have htracker : ∀ l, (p.1.lane l).tracker = (u.lane l).tracker := by
        intro l
        obtain ⟨out, r⟩ := fed
        cases out with
        | none =>
            rw [← Except.ok.inj hd]
        | some frame =>
            rw [← Except.ok.inj hd]
            exact handleMediaComplete_tracker frame (clk 3) l
      constructor
      · rw [htracker, hlane, hnote]
      · intro other hne
        rw [htracker, hother other hne, hnote]

/-- A completed frame is pushed to its lane. -/
theorem handleMediaComplete_lane {lane : Lane} {frame : AssembledFrame}
    (htype : frame.type = lane.type) (now : UInt64) : ∃ targetMs,
      (t.handleMediaComplete frame now).1.lane lane = { t.lane lane with
        jitter := { (t.lane lane).jitter with targetMs := targetMs }.push frame now } ∧
      ∀ other, other ≠ lane → (t.handleMediaComplete frame now).1.lane other = t.lane other := by
  unfold handleMediaComplete
  rw [htype]
  cases lane with
  | video =>
      rw [if_neg (by decide), if_pos (by decide)]
      refine ⟨t.videoJitterTargetMs, rfl, ?_⟩
      intro other hother
      cases other with
      | video => exact absurd rfl hother
      | audio => rfl
  | audio =>
      rw [if_neg (by decide), if_neg (by decide), if_pos (by decide)]
      refine ⟨t.audioJitterTargetMs, rfl, ?_⟩
      intro other hother
      cases other with
      | video => rfl
      | audio => exact absurd rfl hother

/-- **An unfragmented media datagram** is tracked, completed and pushed; the other lane stays. -/
theorem dispatch_single (payload : Bytes) (clk : Nat → UInt64) {lane : Lane}
    (htype : (⟨h.type⟩ : UdpType) = lane.type) (h1 : h.fragmentCount = 1) :
    ∃ p targetMs, t.dispatch h payload clk = .ok p ∧
      p.1.lane lane = {
        tracker := trackStep (t.lane lane).tracker h.sequence
        reassembly := { (t.lane lane).reassembly with
          completed := (t.lane lane).reassembly.completed + 1 }.gc
        jitter := { (t.lane lane).jitter with targetMs := targetMs }.push
          (h.unfragmented (payload.take h.payloadSize.toNat)) (clk 3) } ∧
      ∀ other, other ≠ lane → p.1.lane other = t.lane other := by
  have hnote : ∀ l, (t.noteArrival (clk 1)).lane l = t.lane l := fun l => by cases l <;> rfl
  have hfed : ((t.noteArrival (clk 1)).lane lane).reassembly.feed h
      (payload.take h.payloadSize.toNat) = .ok (some (h.unfragmented
        (payload.take h.payloadSize.toNat)), { (t.lane lane).reassembly with
          completed := (t.lane lane).reassembly.completed + 1 }) := by
    rw [hnote, FragmentReassembler.feed, if_pos h1]
  obtain ⟨u, hu, hlane, hother⟩ := reassemble_lane htype (clk 2) hfed
  have hframe : (h.unfragmented (payload.take h.payloadSize.toNat)).type = lane.type := htype
  obtain ⟨targetMs, hpushed, hkept⟩ := handleMediaComplete_lane (t := u) hframe (clk 3)
  refine ⟨_, targetMs, by rw [dispatch_media htype, hu], ?_, ?_⟩
  · rw [hpushed, hlane, hnote]
  · intro other hne
    rw [hkept other hne, hother other hne, hnote]

end UdpTransport

/-! ## Lanes on which nothing went wrong -/

/-- The lane received the frames numbered from 0 to `n - 1`, each in one datagram, and nothing
    else. -/
structure LaneState.Clean (n : Nat) (l : LaneState) : Prop where
  lost : l.tracker.lost = 0
  duplicates : l.tracker.duplicates = 0
  late : l.tracker.late = 0
  started : l.tracker.initialized = decide (0 < n)
  highest : 0 < n → l.tracker.highest.toNat + 1 = n
  frames : l.reassembly.frames.keys = []
  dropped : l.reassembly.droppedIncomplete = 0
  completed : l.reassembly.completed = UInt64.ofNat n
  reordered : l.jitter.reordered = 0
  queued : ∀ e ∈ l.jitter.queue, e.frame.sequence.toNat < n
  popped : l.jitter.initialized = true → l.jitter.lastPoppedSequence.toNat < n

namespace LaneState.Clean

variable {n : Nat} {l : LaneState}

theorem fresh (lane : Lane) : (LaneState.fresh lane).Clean 0 where
  lost := rfl
  duplicates := rfl
  late := rfl
  started := rfl
  highest := fun h => absurd h (by decide)
  frames := rfl
  dropped := rfl
  completed := rfl
  reordered := rfl
  queued := fun e he => absurd he (by simp [LaneState.fresh])
  popped := fun h => absurd h (by simp [LaneState.fresh])

/-- The number of the next frame is new to the tracker, and follows the last one. -/
theorem track (h : l.Clean n) (seq : UInt64) (hseq : seq.toNat = n) :
    (trackStep l.tracker seq).lost = 0 ∧ (trackStep l.tracker seq).duplicates = 0 ∧
      (trackStep l.tracker seq).late = 0 ∧ (trackStep l.tracker seq).highest = seq := by
  by_cases hn : 0 < n
  · have hinit : l.tracker.initialized = true := by rw [h.started, decide_eq_true hn]
    have hhigh := h.highest hn
    have hlt : l.tracker.highest < seq := by
      rw [UInt64.lt_iff_toNat_lt]
      omega
    have hgap : seq - l.tracker.highest - 1 = 0 := by
      have hsucc : seq = l.tracker.highest + 1 := by
        apply UInt64.toNat_inj.1
        have hbound := seq.toNat_lt
        rw [UInt64.toNat_add, UInt64.toNat_one, Nat.mod_eq_of_lt (by omega)]
        omega
      rw [hsucc]
      grind
    rw [SequenceTracker.trackStep_newer hinit hlt, hgap]
    refine ⟨?_, h.duplicates, h.late, rfl⟩
    show l.tracker.lost + 0 = 0
    rw [h.lost]
    rfl
  · have hinit : l.tracker.initialized = false := by rw [h.started, decide_eq_false hn]
    rw [SequenceTracker.trackStep_first hinit]
    exact ⟨h.lost, h.duplicates, h.late, rfl⟩

/-- The next frame is not behind anything the jitter buffer has seen. -/
theorem push (h : l.Clean n) (frame : AssembledFrame) (hseq : frame.sequence.toNat = n)
    (targetMs : UInt32) (now : UInt64) :
    let b := { l.jitter with targetMs := targetMs }.push frame now
    b.reordered = 0 ∧ (∀ e ∈ b.queue, e.frame.sequence.toNat < n + 1) ∧
      (b.initialized = true → b.lastPoppedSequence.toNat < n + 1) := by
  have hnew : ¬ (l.jitter.initialized = true ∧ frame.sequence ≤ l.jitter.lastPoppedSequence ∧
      0 < l.jitter.lastPoppedSequence) := by
    rintro ⟨hinit, hle, -⟩
    have hpopped := h.popped hinit
    have hle := UInt64.le_iff_toNat_le.1 hle
    omega
  dsimp only
  unfold JitterBuffer.push
  rw [if_neg hnew]
  refine ⟨h.reordered, ?_, fun hinit => Nat.lt_succ_of_lt (h.popped hinit)⟩
  intro e he
  rcases List.mem_cons.1 ((JitterBuffer.perm_sinkIn _ _).mem_iff.1 he) with rfl | he
  · show frame.sequence.toNat < n + 1
    omega
  · exact Nat.lt_succ_of_lt (h.queued e (List.mem_of_mem_drop he))

/-- **The next frame in one datagram leaves the lane clean.** -/
theorem single (h : l.Clean n) {hdr : UdpHeader} (hseq : hdr.sequence.toNat = n) (payload : Bytes)
    (targetMs : UInt32) (now : UInt64) : LaneState.Clean (n + 1) {
      tracker := trackStep l.tracker hdr.sequence
      reassembly := { l.reassembly with completed := l.reassembly.completed + 1 }.gc
      jitter := { l.jitter with targetMs := targetMs }.push (hdr.unfragmented payload) now } := by
  obtain ⟨hlost, hdup, hlate, hhigh⟩ := h.track _ hseq
  obtain ⟨hreordered, hqueued, hpopped⟩ := h.push (hdr.unfragmented payload) hseq targetMs now
  have hgc : { l.reassembly with completed := l.reassembly.completed + 1 }.gc
      = { l.reassembly with completed := l.reassembly.completed + 1 } := by
    rw [FragmentReassembler.gc, h.frames, FragmentReassembler.gcLoop]
  refine ⟨hlost, hdup, hlate, ?_, ?_, ?_, ?_, ?_, hreordered, hqueued, hpopped⟩
  · rw [SequenceTracker.initialized_trackStep]
    simp
  · intro _
    rw [hhigh, hseq]
  · rw [hgc]
    exact h.frames
  · rw [hgc]
    exact h.dropped
  · rw [hgc]
    show l.reassembly.completed + 1 = _
    rw [h.completed, UInt64.ofNat_add]
    rfl

/-- A poll hands out queued frames only. -/
theorem pop (h : l.Clean n) (now : UInt64) : { l with jitter := (l.jitter.pop now).2 }.Clean n := by
  have hpop : ∀ (q : List JitterBuffer.Entry) (b : JitterBuffer),
      (∀ e ∈ q, e.frame.sequence.toNat < n) →
      (b.initialized = true → b.lastPoppedSequence.toNat < n) →
      (∀ e ∈ (b.popLoop now q).2.queue, e.frame.sequence.toNat < n) ∧
        ((b.popLoop now q).2.initialized = true →
          (b.popLoop now q).2.lastPoppedSequence.toNat < n) := by
    intro q
    induction q with
    | nil => exact fun b _ hb => ⟨fun e he => absurd he (by simp [JitterBuffer.popLoop]), hb⟩
    | cons front rest ih =>
        intro b hq hb
        rw [JitterBuffer.popLoop]
        split
        · exact ih _ (fun e he => hq e (List.mem_cons_of_mem _ he))
            (fun _ => hq front List.mem_cons_self)
        · exact ⟨hq, hb⟩
  obtain ⟨hqueued, hpopped⟩ := hpop l.jitter.queue l.jitter h.queued h.popped
  exact {
    h with
    reordered := (JitterBuffer.popLoop_counters now _ _).1.trans h.reordered
    queued := hqueued
    popped := hpopped }

end LaneState.Clean

/-! ## The link -/

/-- A datagram as it reaches the receiver: the bytes from the socket, where they came from, and the
    clock readings of the handler. -/
structure Arrival where
  buf : Bytes
  source : Endpoint
  clk : Nat → UInt64

def Arrival.event (a : Arrival) : UdpEvent := .datagram a.buf a.source a.clk

/-- What happens on the link: a frame is sent and its datagrams arrive, or the receiver polls. -/
inductive LinkOp where
  | frame (lane : Lane) (keyframe : Bool) (data : Bytes) (timestampNs : UInt64)
      (arrivals : List Arrival)
  | poll (lane : Lane) (now : UInt64)

/-- The two ends, and how many frames of each lane were sent. -/
structure Link (σ : Type) where
  sender : UdpTransport σ
  receiver : Except FeedFault (UdpTransport σ)
  sent : Lane → Nat := fun _ => 0

def Lane.poll (lane : Lane) (now : UInt64) : UdpEvent :=
  match lane with
  | .video => .pollVideo now
  | .audio => .pollAudio now

/-- One operation on the link. -/
def linkStep (sink : UdpCryptoSink σ) (s : Link σ) : LinkOp → Link σ
  | .frame lane keyframe data timestampNs arrivals =>
      { sender := s.sender.sendFrame lane.type keyframe data timestampNs
        receiver := runFrom (UdpTransport.step sink) s.receiver (arrivals.map Arrival.event)
        sent := Function.update s.sent lane (s.sent lane + 1) }
  | .poll lane now => { s with receiver := UdpTransport.step sink s.receiver (lane.poll now) }

/-- What is let in, apart from the flags. -/
def withoutFlags (accepted : UdpHeader × Bytes) : UdpHeader × Bytes :=
  ({ accepted.1 with flags := 0 }, accepted.2)

/-- The datagram `dg` arrives as it was sent: what the receiver lets in is its header, up to the
    flags, and its payload, unless the header itself is not acceptable. -/
def UdpTransport.Receives (sink : UdpCryptoSink σ) (t : UdpTransport σ) (dg : Bytes)
    (a : Arrival) : Prop :=
  t.dropsSource a.source = false ∧
    (t.authenticate sink a.buf (a.clk 0)).1.map withoutFlags
      = if (decodeUdpHeader dg {}).1 then some (withoutFlags (headerOf dg, payloadOf dg)) else none

instance (sink : UdpCryptoSink σ) (t : UdpTransport σ) (dg : Bytes) (a : Arrival) :
    Decidable (t.Receives sink dg a) := inferInstanceAs (Decidable (_ ∧ _))

/-- The datagrams arrive, all of them, in order and each once. -/
def Received (sink : UdpCryptoSink σ) :
    Except FeedFault (UdpTransport σ) → List Bytes → List Arrival → Prop
  | .error _, _, _ => True
  | .ok _, [], [] => True
  | .ok t, dg :: dgs, a :: arrivals =>
      t.Receives sink dg a ∧ Received sink (UdpTransport.step sink (.ok t) a.event) dgs arrivals
  | .ok _, _, _ => False

theorem received_error (sink : UdpCryptoSink σ) (e : FeedFault) (dgs : List Bytes)
    (arrivals : List Arrival) : Received sink (.error e) dgs arrivals := by
  cases dgs with
  | nil => trivial
  | cons _ _ => trivial

instance decidableReceived (sink : UdpCryptoSink σ) : (r : Except FeedFault (UdpTransport σ)) →
    (dgs : List Bytes) → (arrivals : List Arrival) → Decidable (Received sink r dgs arrivals)
  | .error e, dgs, arrivals => isTrue (received_error sink e dgs arrivals)
  | .ok _, [], [] => isTrue trivial
  | .ok t, _ :: dgs, a :: arrivals =>
      have := decidableReceived sink (UdpTransport.step sink (.ok t) a.event) dgs arrivals
      inferInstanceAs (Decidable (_ ∧ _))
  | .ok _, [], _ :: _ => isFalse id
  | .ok _, _ :: _, [] => isFalse id

/-- The operation loses, reorders and repeats nothing. -/
def Link.Delivers (sink : UdpCryptoSink σ) (s : Link σ) : LinkOp → Prop
  | .frame lane keyframe data timestampNs arrivals =>
      Received sink s.receiver (s.sender.emitted lane.type keyframe data timestampNs) arrivals
  | .poll _ _ => True

instance (sink : UdpCryptoSink σ) (s : Link σ) (op : LinkOp) : Decidable (s.Delivers sink op) :=
  match op with
  | .frame _ _ _ _ _ => inferInstanceAs (Decidable (Received _ _ _ _))
  | .poll _ _ => isTrue trivial

/-- The receiver runs, and its statistics show every frame sent and nothing else. -/
def Link.Perfect (s : Link σ) : Prop :=
  ∃ t, s.receiver = .ok t ∧
    t.statsSnapshot.lostFrames = 0 ∧ t.statsSnapshot.duplicates = 0 ∧
    t.statsSnapshot.lateFrames = 0 ∧ t.statsSnapshot.droppedIncomplete = 0 ∧
    t.statsSnapshot.reorderedFrames = 0 ∧
    t.statsSnapshot.assembledFrames = UInt64.ofNat (s.sent .video + s.sent .audio)

/-- The frame takes one datagram, and its number is not one that was used before. -/
def Link.SendsOne (s : Link σ) : LinkOp → Prop
  | .frame lane _ data _ _ => fragmentCountFor data.length = 1 ∧ s.sent lane < 2 ^ 64
  | .poll _ _ => True

/-! ## The sender -/

/-- The number of the next frame of a lane. -/
def UdpTransport.nextNumber (t : UdpTransport σ) (lane : Lane) : UInt64 := (t.nextSeq lane.type).1

theorem UdpTransport.nextNumber_nextSeq (t : UdpTransport σ) (lane other : Lane) :
    (t.nextSeq lane.type).2.nextNumber other
      = if other = lane then t.nextNumber lane + 1 else t.nextNumber other := by
  unfold UdpTransport.nextNumber UdpTransport.nextSeq
  cases lane with
  | video =>
      cases other with
      | video => simp [Lane.type, UdpType.Video]
      | audio => simp [Lane.type, UdpType.Video, UdpType.Audio]
  | audio =>
      cases other with
      | video => simp [Lane.type, UdpType.Video, UdpType.Audio]
      | audio => simp [Lane.type, UdpType.Audio]

/-- A frame takes the next number of its lane. -/
theorem UdpTransport.sendFrame_keeps {t : UdpTransport σ} (hsends : t.sends = true) (lane : Lane)
    (keyframe : Bool) (data : Bytes) (timestampNs : UInt64) :
    (t.sendFrame lane.type keyframe data timestampNs).sends = true ∧
      ∀ other, (t.sendFrame lane.type keyframe data timestampNs).nextNumber other
        = if other = lane then t.nextNumber lane + 1 else t.nextNumber other := by
  have hready : ¬ ((!t.running) = true ∨ (!t.socket) = true ∨ (!t.havePeer) = true) := by
    simp only [UdpTransport.sends, Bool.and_eq_true] at hsends
    simp [hsends]
  unfold UdpTransport.sendFrame
  rw [if_neg hready]
  dsimp only
  rw [UdpTransport.foldl_post]
  exact ⟨hsends, fun other => UdpTransport.nextNumber_nextSeq (t.count _) lane other⟩

/-- The datagrams of a frame: as many as it has fragments, all with its number, and acceptable when
    they are at most 1024. -/
theorem UdpTransport.mem_emitted {t : UdpTransport σ} (hsends : t.sends = true) (lane : Lane)
    (keyframe : Bool) (data : Bytes) (timestampNs : UInt64) :
    (t.emitted lane.type keyframe data timestampNs).length = (fragmentCountFor data.length).toNat ∧
    ∀ dg ∈ t.emitted lane.type keyframe data timestampNs,
      (decodeUdpHeader dg {}).1 = decide ((fragmentCountFor data.length).toNat ≤ 1024) ∧
      (⟨(headerOf dg).type⟩ : UdpType) = lane.type ∧
      (headerOf dg).sequence = t.nextNumber lane ∧
      (headerOf dg).fragmentCount = fragmentCountFor data.length := by
  rw [emitted_of_sends hsends]
  constructor
  · rw [List.length_map, MediaFrame.fragments, UdpTransport.frameFragments, List.length_map,
      List.length_range]
    rfl
  · intro dg hdg
    obtain ⟨fr, hfr, rfl⟩ := List.mem_map.1 hdg
    obtain ⟨i, hi, rfl⟩ := (MediaFrame.mem_fragments _ fr).1 hfr
    have htype : lane.type.code ≤ 8 := by cases lane <;> decide
    rw [headerOf, MediaFrame.decode_fragment_any _ htype hi]
    exact ⟨rfl, rfl, rfl, rfl⟩

/-! ## The receiver -/

namespace UdpTransport

variable {sink : UdpCryptoSink σ} {t u : UdpTransport σ} {dg : Bytes} {a : Arrival}

theorem Receives.step_accepted (hrecv : t.Receives sink dg a)
    (hok : (decodeUdpHeader dg {}).1 = true) : ∃ (v : UdpTransport σ) (flags : UInt8),
      (∀ lane, v.lane lane = t.lane lane) ∧ step sink (.ok t) a.event
        = (v.dispatch { headerOf dg with flags := flags } (payloadOf dg) a.clk).map Prod.fst := by
  obtain ⟨hsource, haccepted⟩ := hrecv
  rw [hok, if_pos rfl, Option.map_eq_some_iff] at haccepted
  obtain ⟨⟨h, payload⟩, haccepted, hsame⟩ := haccepted
  obtain ⟨hheader, hpayload⟩ := Prod.mk.inj hsame
  obtain ⟨v, hlanes, hv⟩ := handleDatagram_of_accepted haccepted hsource
  have hh : h = { headerOf dg with flags := h.flags } :=
    congrArg (fun x : UdpHeader => { x with flags := h.flags }) hheader
  refine ⟨v, h.flags, hlanes, ?_⟩
  rw [← hh, ← show payload = payloadOf dg from hpayload]
  exact congrArg (Except.map Prod.fst) hv

theorem Receives.step_rejected (hrecv : t.Receives sink dg a)
    (hok : (decodeUdpHeader dg {}).1 = false) : ∃ v : UdpTransport σ,
      (∀ lane, v.lane lane = t.lane lane) ∧ step sink (.ok t) a.event = .ok v := by
  obtain ⟨-, hrefused⟩ := hrecv
  rw [hok, if_neg (by simp), Option.map_eq_none_iff] at hrefused
  obtain ⟨v, hlanes, hv⟩ := handleDatagram_of_refused hrefused a.source
  exact ⟨v, hlanes, congrArg (Except.map Prod.fst) hv⟩

/-- An accepted media datagram is tracked. -/
theorem Receives.tracker (hrecv : t.Receives sink dg a) (hok : (decodeUdpHeader dg {}).1 = true)
    {lane : Lane} (htype : (⟨(headerOf dg).type⟩ : UdpType) = lane.type)
    (hstep : step sink (.ok t) a.event = .ok u) :
    (u.lane lane).tracker = trackStep (t.lane lane).tracker (headerOf dg).sequence ∧
      ∀ other, other ≠ lane → (u.lane other).tracker = (t.lane other).tracker := by
  obtain ⟨v, flags, hlanes, hv⟩ := hrecv.step_accepted hok
  rw [hv] at hstep
  cases hd : v.dispatch { headerOf dg with flags := flags } (payloadOf dg) a.clk with
  | error e =>
      rw [hd] at hstep
      exact absurd hstep (by simp [Except.map])
  | ok p =>
      rw [hd] at hstep
      obtain rfl := Except.ok.inj hstep
      obtain ⟨htracker, hother⟩ := dispatch_tracker (h := { headerOf dg with flags := flags })
        htype hd
      refine ⟨by rw [htracker, hlanes], ?_⟩
      intro other hne
      rw [hother other hne, hlanes]

end UdpTransport

section Receiving

variable {sink : UdpCryptoSink σ} {t u : UdpTransport σ} {dgs : List Bytes}
  {arrivals : List Arrival}

theorem runFrom_step_error (e : FeedFault) (es : List UdpEvent) :
    runFrom (UdpTransport.step sink) (.error e) es = .error e := by
  induction es with
  | nil => rfl
  | cons event es ih => exact ih

/-- The first arrival is that of the first datagram. -/
theorem Received.cons {dg : Bytes} (hrecv : Received sink (.ok t) (dg :: dgs) arrivals) :
    ∃ a rest, arrivals = a :: rest ∧ t.Receives sink dg a ∧
      Received sink (UdpTransport.step sink (.ok t) a.event) dgs rest := by
  cases arrivals with
  | nil => exact absurd hrecv (by simp [Received])
  | cons a rest => exact ⟨a, rest, rfl, hrecv⟩

/-- In a run that ends well the first arrival is handled well. -/
theorem step_ok_of_run {a : Arrival}
    (hrun : runFrom (UdpTransport.step sink) (.ok t) ((a :: arrivals).map Arrival.event) = .ok u) :
    ∃ v, UdpTransport.step sink (.ok t) a.event = .ok v ∧
      runFrom (UdpTransport.step sink) (.ok v) (arrivals.map Arrival.event) = .ok u := by
  rw [List.map_cons, runFrom_cons] at hrun
  cases hstep : UdpTransport.step sink (.ok t) a.event with
  | error e =>
      rw [hstep, runFrom_step_error] at hrun
      exact absurd hrun (by simp)
  | ok v =>
      rw [hstep] at hrun
      exact ⟨v, rfl, hrun⟩

/-- Datagrams with unacceptable headers change no lane. -/
theorem Received.rejected (hrecv : Received sink (.ok t) dgs arrivals)
    (hdgs : ∀ dg ∈ dgs, (decodeUdpHeader dg {}).1 = false) : ∃ u : UdpTransport σ,
      runFrom (UdpTransport.step sink) (.ok t) (arrivals.map Arrival.event) = .ok u ∧
        ∀ lane, u.lane lane = t.lane lane := by
  induction dgs generalizing t arrivals with
  | nil =>
      cases arrivals with
      | nil => exact ⟨t, rfl, fun _ => rfl⟩
      | cons a arrivals => exact absurd hrecv (by simp [Received])
  | cons dg dgs ih =>
      obtain ⟨a, arrivals, rfl, hfirst, hrest⟩ := hrecv.cons
      obtain ⟨v, hlanes, hv⟩ := hfirst.step_rejected (hdgs dg List.mem_cons_self)
      rw [hv] at hrest
      obtain ⟨u, hrun, hkept⟩ := ih hrest fun d hd => hdgs d (List.mem_cons_of_mem _ hd)
      refine ⟨u, ?_, fun lane => (hkept lane).trans (hlanes lane)⟩
      rw [List.map_cons, runFrom_cons, hv]
      exact hrun

/-- **Every datagram with a number at or below the highest counts** as a duplicate or as late. -/
theorem Received.older {lane : Lane} {seq : UInt64} (hrecv : Received sink (.ok t) dgs arrivals)
    (hdgs : ∀ dg ∈ dgs, (decodeUdpHeader dg {}).1 = true ∧
      (⟨(headerOf dg).type⟩ : UdpType) = lane.type ∧ (headerOf dg).sequence = seq)
    (hinit : (t.lane lane).tracker.initialized = true) (hle : seq ≤ (t.lane lane).tracker.highest)
    (hrun : runFrom (UdpTransport.step sink) (.ok t) (arrivals.map Arrival.event) = .ok u) :
    (u.lane lane).tracker.duplicates + (u.lane lane).tracker.late
        = (t.lane lane).tracker.duplicates + (t.lane lane).tracker.late
          + UInt64.ofNat dgs.length ∧
      ∀ other, other ≠ lane → (u.lane other).tracker = (t.lane other).tracker := by
  induction dgs generalizing t arrivals with
  | nil =>
      cases arrivals with
      | nil =>
          obtain rfl := Except.ok.inj hrun
          exact ⟨(UInt64.add_zero _).symm, fun _ _ => rfl⟩
      | cons a arrivals => exact absurd hrecv (by simp [Received])
  | cons dg dgs ih =>
      obtain ⟨a, arrivals, rfl, hfirst, hrest⟩ := hrecv.cons
      obtain ⟨hok, htype, hseq⟩ := hdgs dg List.mem_cons_self
      obtain ⟨v, hstep, hrun⟩ := step_ok_of_run hrun
      rw [hstep] at hrest
      obtain ⟨htracker, hkept⟩ := hfirst.tracker hok htype hstep
      rw [hseq] at htracker
      have hhigh : seq ≤ (v.lane lane).tracker.highest := by
        rw [htracker, UInt64.le_iff_toNat_le]
        exact (UInt64.le_iff_toNat_le.1 hle).trans (SequenceTracker.highest_le_trackStep hinit seq)
      obtain ⟨hsum, hother⟩ := ih hrest (fun d hd => hdgs d (List.mem_cons_of_mem _ hd))
        (by rw [htracker]; exact SequenceTracker.initialized_trackStep _ _) hhigh hrun
      refine ⟨?_, fun other hne => (hother other hne).trans (hkept other hne)⟩
      obtain ⟨hdup, hlate⟩ := SequenceTracker.counts_older hinit hle
      rw [hsum, htracker, hdup, hlate, List.length_cons, FragmentReassembler.ofNat_succ]
      split
      · grind
      · grind

end Receiving

/-! ## The main result -/

/-- The link as long as every frame took one datagram. -/
structure Link.Tidy (s : Link σ) (t : UdpTransport σ) : Prop where
  receiver : s.receiver = .ok t
  sends : s.sender.sends = true
  numbers : ∀ lane, s.sender.nextNumber lane = UInt64.ofNat (s.sent lane)
  clean : ∀ lane, (t.lane lane).Clean (s.sent lane)

section Runs

variable {sink : UdpCryptoSink σ} {s : Link σ} {t : UdpTransport σ}

theorem Link.Tidy.perfect (h : s.Tidy t) : s.Perfect := by
  have hvideo := h.clean .video
  have haudio := h.clean .audio
  refine ⟨t, h.receiver, ?_, ?_, ?_, ?_, ?_, ?_⟩
  · show (t.lane .video).tracker.lost + (t.lane .audio).tracker.lost = 0
    rw [hvideo.lost, haudio.lost]
    rfl
  · show (t.lane .video).tracker.duplicates + (t.lane .audio).tracker.duplicates = 0
    rw [hvideo.duplicates, haudio.duplicates]
    rfl
  · show (t.lane .video).tracker.late + (t.lane .audio).tracker.late = 0
    rw [hvideo.late, haudio.late]
    rfl
  · show (t.lane .video).reassembly.droppedIncomplete
      + (t.lane .audio).reassembly.droppedIncomplete = 0
    rw [hvideo.dropped, haudio.dropped]
    rfl
  · show (t.lane .video).jitter.reordered + (t.lane .audio).jitter.reordered = 0
    rw [hvideo.reordered, haudio.reordered]
    rfl
  · show (t.lane .video).reassembly.completed + (t.lane .audio).reassembly.completed = _
    rw [hvideo.completed, haudio.completed, UInt64.ofNat_add]

theorem Link.Tidy.poll (h : s.Tidy t) (lane : Lane) (now : UInt64) :
    ∃ u, (linkStep sink s (.poll lane now)).Tidy u := by
  have hreceiver := h.receiver
  cases lane with
  | video =>
      refine ⟨{ t with videoJitter := (t.videoJitter.pop now).2 }, ?_, h.sends, h.numbers, ?_⟩
      · show UdpTransport.step sink s.receiver (.pollVideo now) = _
        rw [hreceiver]
        rfl
      · intro l
        cases l with
        | video => exact (h.clean .video).pop now
        | audio => exact h.clean .audio
  | audio =>
      refine ⟨{ t with audioJitter := (t.audioJitter.pop now).2 }, ?_, h.sends, h.numbers, ?_⟩
      · show UdpTransport.step sink s.receiver (.pollAudio now) = _
        rw [hreceiver]
        rfl
      · intro l
        cases l with
        | video => exact h.clean .video
        | audio => exact (h.clean .audio).pop now

/-- **A frame in one datagram** keeps the link tidy. -/
theorem Link.Tidy.frame (h : s.Tidy t) {lane : Lane} {keyframe : Bool} {data : Bytes}
    {timestampNs : UInt64} {arrivals : List Arrival}
    (hrecv : s.Delivers sink (.frame lane keyframe data timestampNs arrivals))
    (hone : s.SendsOne (.frame lane keyframe data timestampNs arrivals)) :
    ∃ u, (linkStep sink s (.frame lane keyframe data timestampNs arrivals)).Tidy u := by
  obtain ⟨h1, hlt⟩ := hone
  obtain ⟨hlength, hdgs⟩ := UdpTransport.mem_emitted h.sends lane keyframe data timestampNs
  rw [h1] at hlength hdgs
  obtain ⟨dg, hemitted⟩ := List.length_eq_one_iff.1 hlength
  have hrecv : Received sink s.receiver (s.sender.emitted lane.type keyframe data timestampNs)
      arrivals := hrecv
  rw [hemitted] at hdgs hrecv
  rw [h.receiver] at hrecv
  obtain ⟨hok, htype, hseq, hcount⟩ := hdgs dg (List.mem_singleton_self dg)
  cases arrivals with
  | nil => exact absurd hrecv (by simp [Received])
  | cons a rest =>
      obtain ⟨hfirst, hrest⟩ := hrecv
      obtain ⟨v, flags, hlanes, hv⟩ := hfirst.step_accepted hok
      obtain ⟨p, targetMs, hp, hlane, hother⟩ := UdpTransport.dispatch_single (t := v)
        (h := { headerOf dg with flags := flags }) (payloadOf dg) a.clk htype hcount
      have hstep : UdpTransport.step sink (.ok t) a.event = .ok p.1 := by
        rw [hv, hp]
        rfl
      -- nothing else arrives
      have hnone : rest = [] := by
        cases rest with
        | nil => rfl
        | cons b rest =>
            rw [hstep] at hrest
            exact absurd hrest (by simp [Received])
      obtain ⟨hsends, hnumbers⟩ :=
        UdpTransport.sendFrame_keeps h.sends lane keyframe data timestampNs
      refine ⟨p.1, ?_, hsends, ?_, ?_⟩
      · show runFrom (UdpTransport.step sink) s.receiver ((a :: rest).map Arrival.event) = _
        rw [hnone, h.receiver]
        exact hstep
      · intro l
        show _ = UInt64.ofNat (Function.update s.sent lane (s.sent lane + 1) l)
        refine (hnumbers l).trans ?_
        by_cases hl : l = lane
        · rw [if_pos hl, hl, Function.update_self, h.numbers, FragmentReassembler.ofNat_succ]
        · rw [if_neg hl, Function.update_of_ne hl, h.numbers]
      · intro l
        show (p.1.lane l).Clean (Function.update s.sent lane (s.sent lane + 1) l)
        by_cases hl : l = lane
        · rw [hl, Function.update_self, hlane, hlanes]
          refine (h.clean lane).single ?_ _ _ _
          show (headerOf dg).sequence.toNat = _
          rw [hseq, h.numbers, UInt64.toNat_ofNat', Nat.mod_eq_of_lt hlt]
        · rw [Function.update_of_ne hl, hother l hl, hlanes]
          exact h.clean l

/-- Several acceptable datagrams of one frame, or one whose number was used before: some of them
    count as duplicates or late. -/
theorem LaneState.Clean.counted {lane : Lane} {n : Nat} {dgs : List Bytes}
    {arrivals : List Arrival} {u : UdpTransport σ} (h : (t.lane lane).Clean n)
    (hrecv : Received sink (.ok t) dgs arrivals)
    (hdgs : ∀ dg ∈ dgs, (decodeUdpHeader dg {}).1 = true ∧
      (⟨(headerOf dg).type⟩ : UdpType) = lane.type ∧ (headerOf dg).sequence = UInt64.ofNat n)
    (hmany : 1 < dgs.length ∨ (0 < dgs.length ∧ 2 ^ 64 ≤ n))
    (hrun : runFrom (UdpTransport.step sink) (.ok t) (arrivals.map Arrival.event) = .ok u) :
    (∃ m, 0 < m ∧ m ≤ dgs.length ∧
      (u.lane lane).tracker.duplicates + (u.lane lane).tracker.late = UInt64.ofNat m) ∧
      ∀ other, other ≠ lane → (u.lane other).tracker = (t.lane other).tracker := by
  by_cases hwrapped : 2 ^ 64 ≤ n
  · -- every number was used before
    have hpos : 0 < n := by omega
    have hinit : (t.lane lane).tracker.initialized = true := by
      rw [h.started, decide_eq_true hpos]
    have hhigh := h.highest hpos
    have hle : UInt64.ofNat n ≤ (t.lane lane).tracker.highest := by
      have hlt := (UInt64.ofNat n).toNat_lt
      rw [UInt64.le_iff_toNat_le]
      omega
    obtain ⟨hsum, hother⟩ := hrecv.older hdgs hinit hle hrun
    refine ⟨⟨dgs.length, by omega, Nat.le_refl _, ?_⟩, hother⟩
    rw [hsum, h.duplicates, h.late]
    exact UInt64.zero_add _
  · -- the first datagram has a new number, and the others repeat it
    have hlt : n < 2 ^ 64 := Nat.lt_of_not_le hwrapped
    cases dgs with
    | nil => exact absurd hmany (by simp)
    | cons dg dgs =>
        obtain ⟨a, arrivals, rfl, hfirst, hrest⟩ := hrecv.cons
        obtain ⟨hok, htype, hseq⟩ := hdgs dg List.mem_cons_self
        obtain ⟨v, hstep, hrun⟩ := step_ok_of_run hrun
        rw [hstep] at hrest
        obtain ⟨htracker, hkept⟩ := hfirst.tracker hok htype hstep
        obtain ⟨-, hdup, hlate, hhigh⟩ := h.track (UInt64.ofNat n)
          (by rw [UInt64.toNat_ofNat', Nat.mod_eq_of_lt hlt])
        rw [hseq] at htracker
        obtain ⟨hsum, hother⟩ := hrest.older (fun d hd => hdgs d (List.mem_cons_of_mem _ hd))
          (by rw [htracker]; exact SequenceTracker.initialized_trackStep _ _)
          (by rw [htracker, hhigh]; exact UInt64.le_refl _) hrun
        rw [List.length_cons] at hmany ⊢
        refine ⟨⟨dgs.length, by omega, by omega, ?_⟩,
          fun other hne => (hother other hne).trans (hkept other hne)⟩
        rw [hsum, htracker, hdup, hlate]
        exact UInt64.zero_add _

/-- A frame of more datagrams than a receiver takes is missing in the statistics: none of them is let
    in. -/
theorem Link.Tidy.count_le (h : s.Tidy t) {lane : Lane} {keyframe : Bool} {data : Bytes}
    {timestampNs : UInt64} {arrivals : List Arrival}
    (hrecv : s.Delivers sink (.frame lane keyframe data timestampNs arrivals))
    (hperfect : (linkStep sink s (.frame lane keyframe data timestampNs arrivals)).Perfect) :
    (fragmentCountFor data.length).toNat ≤ 1024 := by
  by_contra hmax
  obtain ⟨u, hrun, -, -, -, -, -, hassembled⟩ := hperfect
  have hrun : runFrom (UdpTransport.step sink) s.receiver (arrivals.map Arrival.event) = .ok u :=
    hrun
  have hrecv : Received sink s.receiver (s.sender.emitted lane.type keyframe data timestampNs)
      arrivals := hrecv
  rw [h.receiver] at hrun hrecv
  obtain ⟨-, hdgs⟩ := UdpTransport.mem_emitted h.sends lane keyframe data timestampNs
  obtain ⟨v, hv, hlanes⟩ := hrecv.rejected (by
    intro dg hdg
    rw [(hdgs dg hdg).1, decide_eq_false hmax])
  obtain rfl := Except.ok.inj (hrun.symm.trans hv)
  have hassembled : (u.lane .video).reassembly.completed + (u.lane .audio).reassembly.completed
      = UInt64.ofNat (Function.update s.sent lane (s.sent lane + 1) .video +
        Function.update s.sent lane (s.sent lane + 1) .audio) := hassembled
  have hsum : Function.update s.sent lane (s.sent lane + 1) .video +
      Function.update s.sent lane (s.sent lane + 1) .audio
        = s.sent .video + s.sent .audio + 1 := by
    cases lane with
    | video => simp [Function.update, Nat.add_right_comm]
    | audio => simp [Function.update, Nat.add_assoc]
  rw [hsum, hlanes, hlanes, (h.clean .video).completed, (h.clean .audio).completed,
    ← UInt64.ofNat_add, FragmentReassembler.ofNat_succ] at hassembled
  have hone : (1 : UInt64) = 0 := by grind
  exact absurd hone (by decide)

/-- **A frame of several datagrams, or one whose number was used before, shows up** in the
    statistics. -/
theorem Link.Tidy.sendsOne (h : s.Tidy t) {lane : Lane} {keyframe : Bool} {data : Bytes}
    {timestampNs : UInt64} {arrivals : List Arrival}
    (hrecv : s.Delivers sink (.frame lane keyframe data timestampNs arrivals))
    (hperfect : (linkStep sink s (.frame lane keyframe data timestampNs arrivals)).Perfect) :
    s.SendsOne (.frame lane keyframe data timestampNs arrivals) := by
  have hmax := h.count_le hrecv hperfect
  obtain ⟨u, hrun, -, hdup, hlate, -⟩ := hperfect
  have hrun : runFrom (UdpTransport.step sink) s.receiver (arrivals.map Arrival.event) = .ok u :=
    hrun
  have hrecv : Received sink s.receiver (s.sender.emitted lane.type keyframe data timestampNs)
      arrivals := hrecv
  rw [h.receiver] at hrun hrecv
  obtain ⟨hlength, hdgs⟩ := UdpTransport.mem_emitted h.sends lane keyframe data timestampNs
  have hpos : 0 < (fragmentCountFor data.length).toNat :=
    (s.sender.mediaFrame lane.type keyframe data timestampNs).zero_lt_count
  by_contra hnot
  have hmany : 1 < (fragmentCountFor data.length).toNat ∨
      (0 < (fragmentCountFor data.length).toNat ∧ 2 ^ 64 ≤ s.sent lane) := by
    by_contra hfew
    have h1 : (fragmentCountFor data.length).toNat = (1 : UInt16).toNat := by
      show _ = 1
      omega
    exact hnot ⟨UInt16.toNat_inj.1 h1, by omega⟩
  rw [← hlength] at hmany
  obtain ⟨⟨m, hm, hle, hsum⟩, hother⟩ := (h.clean lane).counted hrecv (by
    intro dg hdg
    obtain ⟨hok, htype, hseq, -⟩ := hdgs dg hdg
    exact ⟨by rw [hok, decide_eq_true hmax], htype, by rw [hseq, h.numbers]⟩) hmany hrun
  -- the other lane has counted nothing, so both counters of this lane would be zero
  have hzero : (u.lane lane).tracker.duplicates + (u.lane lane).tracker.late = 0 := by
    have hdup : (u.lane .video).tracker.duplicates + (u.lane .audio).tracker.duplicates = 0 :=
      hdup
    have hlate : (u.lane .video).tracker.late + (u.lane .audio).tracker.late = 0 := hlate
    cases lane with
    | video =>
        rw [hother .audio (by simp), (h.clean .audio).duplicates, UInt64.add_zero] at hdup
        rw [hother .audio (by simp), (h.clean .audio).late, UInt64.add_zero] at hlate
        rw [hdup, hlate]
        rfl
    | audio =>
        rw [hother .video (by simp), (h.clean .video).duplicates, UInt64.zero_add] at hdup
        rw [hother .video (by simp), (h.clean .video).late, UInt64.zero_add] at hlate
        rw [hdup, hlate]
        rfl
  have hwrap := congrArg UInt64.toNat (hsum.symm.trans hzero)
  rw [UInt64.toNat_ofNat', UInt64.toNat_zero] at hwrap
  omega

end Runs

/-- **When a perfect link reports a perfect link.** Whatever frames are sent, with every datagram
    arriving in order and once: after each of them the statistics show every frame assembled, and
    nothing lost, repeated, late, dropped or reordered, exactly when each frame takes one datagram
    and no lane has used up its 64-bit numbers. -/
theorem perfect_link_iff (sink : UdpCryptoSink σ) (sender receiver : UdpTransport σ)
    (hsends : sender.sends = true) (hunused : ∀ lane, sender.nextNumber lane = 0)
    (hfresh : ∀ lane, receiver.lane lane = .fresh lane) (ops : List LinkOp)
    (hlink : ∀ p ∈ history (linkStep sink) { sender := sender, receiver := .ok receiver } ops,
      p.1.Delivers sink p.2) :
    (∀ p ∈ history (linkStep sink) { sender := sender, receiver := .ok receiver } ops,
        (linkStep sink p.1 p.2).Perfect) ↔
      ∀ p ∈ history (linkStep sink) { sender := sender, receiver := .ok receiver } ops,
        p.1.SendsOne p.2 := by
  have htidy : (⟨sender, .ok receiver, fun _ => 0⟩ : Link σ).Tidy receiver := by
    refine ⟨rfl, hsends, hunused, ?_⟩
    intro lane
    rw [hfresh]
    exact LaneState.Clean.fresh lane
  have hiff := forall_history_iff (linkStep sink) (fun s : Link σ => ∃ t, s.Tidy t)
    (fun s op => s.Delivers sink op ∧ (linkStep sink s op).Perfect)
    (fun s op => s.Delivers sink op ∧ s.SendsOne op) (by
      rintro s op ⟨t, ht⟩ ⟨hrecv, hone⟩
      have hnext : ∃ u, (linkStep sink s op).Tidy u := by
        cases op with
        | frame lane keyframe data timestampNs arrivals => exact ht.frame hrecv hone
        | poll lane now => exact ht.poll lane now
      obtain ⟨u, hu⟩ := hnext
      exact ⟨⟨hrecv, hu.perfect⟩, u, hu⟩) (by
      rintro s op ⟨t, ht⟩ ⟨hrecv, hperfect⟩
      refine ⟨hrecv, ?_⟩
      cases op with
      | frame lane keyframe data timestampNs arrivals => exact ht.sendsOne hrecv hperfect
      | poll lane now => trivial) ⟨sender, .ok receiver, fun _ => 0⟩ ops ⟨receiver, htidy⟩
  constructor
  · intro h p hp
    exact (hiff.1 (fun q hq => ⟨hlink q hq, h q hq⟩) p hp).2
  · intro h p hp
    exact (hiff.2 (fun q hq => ⟨hlink q hq, h q hq⟩) p hp).2

end LinkStatistics

/-- The datagrams of a frame reach a receiver in the clear. -/
def inTheClear (sender : UdpTransport Unit) (lane : Lane) (data : Bytes) : LinkOp :=
  .frame lane false data 5 ((sender.emitted lane.type false data 5).map fun dg =>
    ⟨dg, ⟨[], 0⟩, fun _ => 1⟩)

/-- A link that has carried nothing. -/
def plainLink : Link Unit := { sender := sendingTransport, receiver := .ok {} }

theorem perfect_link_iff_short :
    (∀ p ∈ history (linkStep noSink) plainLink [inTheClear sendingTransport .video [1, 2, 3]],
        (linkStep noSink p.1 p.2).Perfect) ↔
      ∀ p ∈ history (linkStep noSink) plainLink [inTheClear sendingTransport .video [1, 2, 3]],
        p.1.SendsOne p.2 :=
  perfect_link_iff noSink sendingTransport {} rfl (fun lane => by cases lane <;> rfl)
    (fun lane => by cases lane <;> rfl) [inTheClear sendingTransport .video [1, 2, 3]] (by
      intro p hp
      rw [history_cons, history_nil, List.mem_singleton] at hp
      rw [hp]
      decide +kernel)

/-- One frame of 1101 bytes arrives complete, and its second fragment counts as a duplicate. -/
theorem second_fragment_counted_duplicate :
    let op := inTheClear sendingTransport .video (List.replicate 1101 0)
    plainLink.Delivers noSink op ∧ ¬ (linkStep noSink plainLink op).Perfect ∧
      (linkStep noSink plainLink op).receiver.map (fun t => t.statsSnapshot.assembledFrames) = .ok 1 ∧
      (linkStep noSink plainLink op).receiver.map (fun t => t.statsSnapshot.duplicates)
        = .ok 1 := by
  intro op
  have hduplicate : (linkStep noSink plainLink op).receiver.map
      (fun t => t.statsSnapshot.duplicates) = .ok 1 := by decide +kernel
  refine ⟨by decide +kernel, ?_, by decide +kernel, hduplicate⟩
  rintro ⟨t, ht, -, hnone, -⟩
  rw [ht] at hduplicate
  exact absurd (hnone.symm.trans (Except.ok.inj hduplicate)) (by decide)

end RemotePlay.Net
