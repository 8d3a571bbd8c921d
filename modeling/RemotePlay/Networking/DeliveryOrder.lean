import RemotePlay.Lib.Runs
import RemotePlay.Networking.UdpTransport

set_option autoImplicit false

/-! # The order in which media frames are delivered

Duplicates are nobody's job: the sequence tracker only counts, the reassembler forgets a frame it
has completed, and the jitter buffer compares a new frame with the last one popped, not with those
it still holds. A duplicate that completes while its original waits in the buffer is handed out
twice; so is one of frame 0, since `push` takes `lastPoppedSequence_ == 0` for "nothing popped".
Without these two the frames of a lane come out in strictly increasing order. -/

namespace RemotePlay.Net

/-! ## The jitter buffer -/

/-- The buffer takes a frame of this number although it holds or has handed out one. -/
def JitterBuffer.repeats (b : JitterBuffer) (seq : UInt64) : Bool :=
  b.dropBacklog.queue.any (fun e => e.frame.sequence == seq) ||
    (b.initialized && b.lastPoppedSequence == 0 && seq == 0)

/-- The buffer after the frames `out` were handed out. -/
structure JitterBuffer.Ordered (b : JitterBuffer) (out : List AssembledFrame) : Prop where
  queue : b.queue.Pairwise fun x y => x.frame.sequence < y.frame.sequence
  ahead : b.initialized = true → ∀ e ∈ b.queue, b.lastPoppedSequence < e.frame.sequence
  handed : out.Pairwise fun f g => f.sequence < g.sequence
  behind : ∀ f ∈ out, b.initialized = true ∧ f.sequence ≤ b.lastPoppedSequence

theorem JitterBuffer.mem_sinkIn (e x : JitterBuffer.Entry) (q : List JitterBuffer.Entry) :
    x ∈ JitterBuffer.sinkIn e q ↔ x = e ∨ x ∈ q := by
  induction q with
  | nil => simp [JitterBuffer.sinkIn]
  | cons y ys ih =>
      rw [JitterBuffer.sinkIn]
      split
      · rw [List.mem_cons, ih, List.mem_cons]
        tauto
      · rw [List.mem_cons]

/-- The swaps put a new number into its place. -/
theorem JitterBuffer.sinkIn_pairwise (e : JitterBuffer.Entry) (q : List JitterBuffer.Entry)
    (hq : q.Pairwise fun x y => y.frame.sequence < x.frame.sequence)
    (hnew : ∀ x ∈ q, x.frame.sequence ≠ e.frame.sequence) :
    (JitterBuffer.sinkIn e q).Pairwise fun x y => y.frame.sequence < x.frame.sequence := by
  induction q with
  | nil => exact List.pairwise_singleton _ _
  | cons y ys ih =>
      obtain ⟨hy, hys⟩ := List.pairwise_cons.1 hq
      rw [JitterBuffer.sinkIn]
      split
      · next hlt =>
          refine List.pairwise_cons.2 ⟨?_, ih hys fun x hx => hnew x (List.mem_cons_of_mem _ hx)⟩
          intro x hx
          rcases (JitterBuffer.mem_sinkIn e x ys).1 hx with rfl | hx
          · exact hlt
          · exact hy x hx
      · next hge =>
          have hlt : y.frame.sequence < e.frame.sequence :=
            UInt64.lt_of_le_of_ne (UInt64.not_lt.1 hge) (hnew y List.mem_cons_self)
          refine List.pairwise_cons.2 ⟨?_, hq⟩
          intro x hx
          rcases List.mem_cons.1 hx with rfl | hx
          · exact hlt
          · exact UInt64.lt_trans (hy x hx) hlt

/-- A frame that is not a repetition keeps the order. -/
theorem JitterBuffer.Ordered.push {b : JitterBuffer} {out : List AssembledFrame}
    (h : b.Ordered out) (frame : AssembledFrame) (now : UInt64)
    (hnew : b.repeats frame.sequence = false) : (b.push frame now).Ordered out := by
  rw [JitterBuffer.repeats, Bool.or_eq_false_iff, List.any_eq_false] at hnew
  obtain ⟨hqueued, hzero⟩ := hnew
  unfold JitterBuffer.push
  split
  · exact ⟨h.queue, h.ahead, h.handed, h.behind⟩
  next hfresh =>
  have hsub : b.dropBacklog.queue.Sublist b.queue := List.drop_sublist _ _
  refine ⟨?_, ?_, h.handed, h.behind⟩
  · show (JitterBuffer.sinkIn ⟨frame, now⟩ b.dropBacklog.queue.reverse).reverse.Pairwise _
    rw [List.pairwise_reverse]
    refine JitterBuffer.sinkIn_pairwise _ _ ?_ ?_
    · rw [List.pairwise_reverse]
      exact h.queue.sublist hsub
    · intro x hx
      simpa using hqueued x (List.mem_reverse.1 hx)
  · intro hinit e he
    have hinit : b.initialized = true := hinit
    show b.lastPoppedSequence < e.frame.sequence
    rcases (JitterBuffer.mem_sinkIn _ e _).1 (List.mem_reverse.1 he) with rfl | he
    · -- the check of `push` covers every last number but 0, `repeats` the rest
      by_contra hle
      rw [UInt64.not_lt] at hle
      by_cases hlast : 0 < b.lastPoppedSequence
      · exact hfresh ⟨hinit, hle, hlast⟩
      · have hlast0 : b.lastPoppedSequence = 0 := by grind
        have hframe0 : frame.sequence = 0 := by grind
        simp [hinit, hlast0, hframe0] at hzero
    · exact h.ahead hinit e (hsub.mem (List.mem_reverse.1 he))

/-- What `pop` hands out continues the order. -/
theorem JitterBuffer.Ordered.popLoop (now : UInt64) (q : List JitterBuffer.Entry)
    (b : JitterBuffer) (out : List AssembledFrame) (h : { b with queue := q }.Ordered out) :
    (b.popLoop now q).2.Ordered (out ++ (b.popLoop now q).1) := by
  induction q generalizing b out with
  | nil => simpa [JitterBuffer.popLoop] using h
  | cons front rest ih =>
      rw [JitterBuffer.popLoop]
      split
      · obtain ⟨hfront, hrest⟩ := List.pairwise_cons.1 h.queue
        rw [List.append_cons]
        refine ih _ _ ⟨hrest, fun _ => hfront, ?_, ?_⟩
        · refine List.pairwise_append.2 ⟨h.handed, List.pairwise_singleton _ _, ?_⟩
          intro f hf g hg
          obtain ⟨hinit, hle⟩ := h.behind f hf
          rw [List.mem_singleton.1 hg]
          exact UInt64.lt_of_le_of_lt hle (h.ahead hinit front List.mem_cons_self)
        · intro f hf
          refine ⟨rfl, ?_⟩
          rcases List.mem_append.1 hf with hf | hf
          · obtain ⟨hinit, hle⟩ := h.behind f hf
            have hahead := h.ahead hinit front List.mem_cons_self
            exact UInt64.le_of_lt (UInt64.lt_of_le_of_lt hle hahead)
          · rw [List.mem_singleton.1 hf]
            exact UInt64.le_refl _
      · rw [List.append_nil]
        exact h

theorem JitterBuffer.Ordered.pop {b : JitterBuffer} {out : List AssembledFrame}
    (h : b.Ordered out) (now : UInt64) : (b.pop now).2.Ordered (out ++ (b.pop now).1) :=
  JitterBuffer.Ordered.popLoop now b.queue b out h

/-! ## The two lanes of a transport -/

/-- The media types that go through a jitter buffer. -/
inductive Lane where
  | video
  | audio
deriving DecidableEq, Repr

def Lane.type : Lane → UdpType
  | .video => .Video
  | .audio => .Audio

section Lanes

variable {σ : Type}

def UdpTransport.jitter (t : UdpTransport σ) : Lane → JitterBuffer
  | .video => t.videoJitter
  | .audio => t.audioJitter

/-- The frames that a poll of the lane returns. -/
def UdpTransport.polled (t : UdpTransport σ) (lane : Lane) : UdpEvent → List AssembledFrame
  | .pollVideo now => if lane = .video then (t.videoJitter.pop now).1 else []
  | .pollAudio now => if lane = .audio then (t.audioJitter.pop now).1 else []
  | _ => []

/-- The types `dispatch` answers without reassembly. -/
def UdpType.answered (type : UdpType) : Bool :=
  type = .Ping ∨ type = .Pong ∨ type = .Control ∨ type = .KeyframeRequest ∨ type = .StreamStart ∨
    type = .StreamStop

/-- The frame that a datagram completes once it was let in. -/
def UdpTransport.assembles (t : UdpTransport σ) (h : UdpHeader) (payload : Bytes)
    (clk : Nat → UInt64) : Option AssembledFrame :=
  if UdpType.answered ⟨h.type⟩ then none
  else
    match (t.noteArrival (clk 1)).reassemble h (payload.take h.payloadSize.toNat) (clk 2) with
    | .ok (frame, _) => frame
    | .error _ => none

/-- The frame that an event completes: what `handleMediaComplete` is called with. -/
def UdpTransport.completes (sink : UdpCryptoSink σ) (t : UdpTransport σ) :
    UdpEvent → Option AssembledFrame
  | .datagram buf source clk =>
      match t.authenticate sink buf (clk 0) with
      | (none, _) => none
      | (some (h, payload), t) =>
          let t := t.learnPeer sink h source
          if t.dropsSource source then none else t.assembles h payload clk
  | _ => none

/-! ## Handlers that leave the buffers alone -/

variable (sink : UdpCryptoSink σ) (t : UdpTransport σ) (lane : Lane)

theorem sendSmall_jitter (type : UdpType) (data : Bytes) (now : UInt64) :
    (t.sendSmall type data now).jitter lane = t.jitter lane := by
  unfold UdpTransport.sendSmall
  split
  · rfl
  · rfl

theorem sendFrame_jitter (type : UdpType) (keyframe : Bool) (data : Bytes) (ts : UInt64) :
    (t.sendFrame type keyframe data ts).jitter lane = t.jitter lane := by
  unfold UdpTransport.sendFrame
  split
  · rfl
  · dsimp only
    rw [UdpTransport.foldl_post]
    rfl

theorem sendTo_jitter (target : Endpoint) (bytes : Bytes) (fails : Bool) :
    (t.sendTo target bytes fails).1.jitter lane = t.jitter lane := by
  unfold UdpTransport.sendTo
  split
  · rfl
  · rfl

theorem wireBytes_jitter (dg : Bytes) :
    (t.wireBytes sink dg).2.jitter lane = t.jitter lane := by
  unfold UdpTransport.wireBytes
  split
  · rfl
  split
  · rfl
  · rfl

theorem runTask_jitter (task : UdpTask) (fails : Bool) (now : UInt64) :
    (t.runTask sink task fails now).1.jitter lane = t.jitter lane := by
  cases task with
  | datagram dg =>
      have hwire := wireBytes_jitter sink t lane dg
      simp only [UdpTransport.runTask]
      split
      · next t1 heq =>
          rw [heq] at hwire
          exact hwire
      · next bytes t1 heq =>
          rw [heq] at hwire
          rw [sendTo_jitter]
          exact hwire
  | relayBind target pkt =>
      simp only [UdpTransport.runTask]
      split
      · rfl
      split
      · rfl
      · rfl
  | punch target dg => exact sendTo_jitter t lane target dg fails
  | requestKeyframe => exact sendSmall_jitter t lane _ _ now
  | close => rfl

theorem sendPingOnce_jitter (clk : Nat → UInt64) :
    (t.sendPingOnce clk).jitter lane = t.jitter lane := by
  unfold UdpTransport.sendPingOnce
  split
  · rfl
  have harm : ∀ u : UdpTransport σ, u.armPingTimer.jitter lane = u.jitter lane := by
    intro u
    rfl
  have hcount : ∀ u : UdpTransport σ, u.countPing.jitter lane = u.jitter lane := by
    intro u
    rfl
  dsimp only
  rw [harm, sendSmall_jitter, hcount]
  unfold UdpTransport.returnToRelay
  split
  · rfl
  · rfl

theorem pingTimerFires_jitter (clk : Nat → UInt64) :
    (t.pingTimerFires clk).jitter lane = t.jitter lane := by
  unfold UdpTransport.pingTimerFires
  split
  · rfl
  dsimp only
  split
  · rfl
  · rw [sendPingOnce_jitter]
    rfl

theorem startPings_jitter (ms : UInt32) (clk : Nat → UInt64) :
    (t.startPings ms clk).jitter lane = t.jitter lane := by
  unfold UdpTransport.startPings
  split
  · rfl
  · rw [sendPingOnce_jitter]
    rfl

theorem sendRelayBind_jitter (token : Bytes) :
    (t.sendRelayBind token).jitter lane = t.jitter lane := by
  unfold UdpTransport.sendRelayBind
  split
  · rfl
  · rfl

theorem sendPunch_jitter (target : Endpoint) :
    (t.sendPunch target).jitter lane = t.jitter lane := by
  unfold UdpTransport.sendPunch
  split
  · rfl
  · rfl

theorem stop_jitter : t.stop.jitter lane = t.jitter lane := by
  unfold UdpTransport.stop
  split
  · rfl
  · rfl

theorem authenticate_jitter (buf : Bytes) (now : UInt64) :
    (t.authenticate sink buf now).2.jitter lane = t.jitter lane :=
  UdpTransport.authenticate_frame (UdpTransport.jitter · lane) sink t (fun _ _ => rfl)
    (fun _ _ => rfl) (fun _ _ => rfl) buf now

theorem learnPeer_jitter (h : UdpHeader) (source : Endpoint) :
    (t.learnPeer sink h source).jitter lane = t.jitter lane :=
  UdpTransport.learnPeer_frame (UdpTransport.jitter · lane) sink t (fun _ _ _ => rfl) h source

theorem noteVideoGap_jitter (gap : Int64) (now : UInt64) :
    (t.noteVideoGap gap now).jitter lane = t.jitter lane :=
  UdpTransport.noteVideoGap_frame (UdpTransport.jitter · lane) t (fun _ _ _ => rfl) gap now

variable {sink t lane}

theorem reassemble_jitter {h : UdpHeader} {payload : Bytes} {now : UInt64}
    {out : Option AssembledFrame} {t' : UdpTransport σ}
    (hr : t.reassemble h payload now = .ok (out, t')) : t'.jitter lane = t.jitter lane := by
  unfold UdpTransport.reassemble at hr
  dsimp only at hr
  split at hr
  · cases hfed : t.videoReassembly.feed h payload with
    | error fault =>
        rw [hfed] at hr
        exact absurd hr (by simp [Except.map])
    | ok fed =>
        rw [hfed] at hr
        obtain ⟨-, rfl⟩ := Prod.mk.inj (Except.ok.inj hr)
        rw [noteVideoGap_jitter]
        rfl
  split at hr
  · cases hfed : t.audioReassembly.feed h payload with
    | error fault =>
        rw [hfed] at hr
        exact absurd hr (by simp [Except.map])
    | ok fed =>
        rw [hfed] at hr
        obtain ⟨-, rfl⟩ := Prod.mk.inj (Except.ok.inj hr)
        rfl
  split at hr
  · cases hfed : t.inputReassembly.feed h payload with
    | error fault =>
        rw [hfed] at hr
        exact absurd hr (by simp [Except.map])
    | ok fed =>
        rw [hfed] at hr
        obtain ⟨-, rfl⟩ := Prod.mk.inj (Except.ok.inj hr)
        rfl
  · obtain ⟨-, rfl⟩ := Prod.mk.inj (Except.ok.inj hr)
    rfl

/-! ## What one event does to a lane -/

/-- A lane keeps its buffer, takes the frame just completed, or is polled. -/
inductive LaneStep (lane : Lane) (b : JitterBuffer) (completed : Option AssembledFrame) :
    List AssembledFrame → JitterBuffer → Prop where
  | kept : LaneStep lane b completed [] b
  | pushed (frame : AssembledFrame) (now : UInt64) (targetMs : UInt32)
      (hcompleted : completed = some frame) (htype : frame.type = lane.type) :
      LaneStep lane b completed [] ({ b with targetMs := targetMs }.push frame now)
  | popped (now : UInt64) : LaneStep lane b completed (b.pop now).1 (b.pop now).2

theorem handleMediaComplete_laneStep (frame : AssembledFrame) (now : UInt64) :
    LaneStep lane (t.jitter lane) (some frame) []
      ((t.handleMediaComplete frame now).1.jitter lane) := by
  unfold UdpTransport.handleMediaComplete
  split
  · exact .kept
  split
  · next hvideo =>
      cases lane with
      | video => exact .pushed frame now t.videoJitterTargetMs rfl hvideo
      | audio => exact .kept
  split
  · next haudio =>
      cases lane with
      | video => exact .kept
      | audio => exact .pushed frame now t.audioJitterTargetMs rfl haudio
  · exact .kept

theorem dispatch_laneStep {h : UdpHeader} {payload : Bytes} {clk : Nat → UInt64}
    {p : UdpTransport σ × List UdpEffect} (hd : t.dispatch h payload clk = .ok p) :
    LaneStep lane (t.jitter lane) (t.assembles h payload clk) [] (p.1.jitter lane) := by
  have hnote : (t.noteArrival (clk 1)).jitter lane = t.jitter lane := rfl
  rw [← hnote]
  unfold UdpTransport.dispatch at hd
  unfold UdpTransport.assembles
  dsimp only at hd
  generalize t.noteArrival (clk 1) = u at hd
  split at hd
  · obtain rfl := Except.ok.inj hd
    rw [sendSmall_jitter]
    exact .kept
  split at hd
  · obtain rfl := Except.ok.inj hd
    have hpong : (u.handlePong (payload.take h.payloadSize.toNat) (clk 2) (clk 3)).jitter lane
        = u.jitter lane := by
      unfold UdpTransport.handlePong
      split
      · dsimp only
        split
        · rfl
        · rfl
      · rfl
    rw [hpong]
    exact .kept
  split at hd
  · obtain rfl := Except.ok.inj hd
    exact .kept
  next hping hpong hcontrol =>
  have hanswered : UdpType.answered ⟨h.type⟩ = false := by
    simp only [not_or] at hcontrol
    simp [UdpType.answered, hping, hpong, hcontrol]
  rw [hanswered]
  split at hd
  · exact absurd hd (by simp)
  · next t' heq =>
      obtain rfl := Except.ok.inj hd
      rw [heq, reassemble_jitter heq]
      exact .kept
  · next frame t' heq =>
      obtain rfl := Except.ok.inj hd
      rw [heq, ← reassemble_jitter heq]
      exact handleMediaComplete_laneStep frame (clk 3)

/-- `resetStats` also empties the buffers and starts the numbering anew. -/
def UdpEvent.isReset : UdpEvent → Bool
  | .resetStats => true
  | _ => false

theorem handleDatagram_laneStep {buf : Bytes} {source : Endpoint} {clk : Nat → UInt64}
    {p : UdpTransport σ × List UdpEffect} (h : t.handleDatagram sink buf source clk = .ok p) :
    LaneStep lane (t.jitter lane) (t.completes sink (.datagram buf source clk))
      (t.polled lane (.datagram buf source clk)) (p.1.jitter lane) := by
  have hauth := authenticate_jitter sink t lane buf (clk 0)
  simp only [UdpTransport.handleDatagram] at h
  simp only [UdpTransport.completes, UdpTransport.polled]
  rcases hr : t.authenticate sink buf (clk 0) with ⟨o, t1⟩
  rw [hr] at hauth h
  rw [← show t1.jitter lane = t.jitter lane from hauth]
  cases o with
  | none =>
      obtain rfl := Except.ok.inj h
      exact .kept
  | some hp =>
      obtain ⟨hd, payload⟩ := hp
      dsimp only at h ⊢
      rw [← learnPeer_jitter sink t1 lane hd source]
      by_cases hdrop : (t1.learnPeer sink hd source).dropsSource source = true
      · rw [if_pos hdrop] at h ⊢
        obtain rfl := Except.ok.inj h
        exact .kept
      · rw [if_neg hdrop] at h ⊢
        exact dispatch_laneStep h

/-- **What a transport event can do to a lane.** -/
theorem handle_laneStep {e : UdpEvent} {p : UdpTransport σ × List UdpEffect}
    (h : t.handle sink e = .ok p) (hreset : e.isReset = false) :
    LaneStep lane (t.jitter lane) (t.completes sink e) (t.polled lane e) (p.1.jitter lane) := by
  cases e with
  | datagram buf source clk => exact handleDatagram_laneStep h
  | runPosted fails now =>
      simp only [UdpTransport.handle] at h
      split at h
      · obtain rfl := Except.ok.inj h
        exact .kept
      · obtain rfl := Except.ok.inj h
        rw [runTask_jitter]
        exact .kept
  | pollVideo now =>
      obtain rfl := Except.ok.inj h
      cases lane with
      | video => exact .popped now
      | audio => exact .kept
  | pollAudio now =>
      obtain rfl := Except.ok.inj h
      cases lane with
      | video => exact .kept
      | audio => exact .popped now
  | resetStats => exact absurd hreset (by decide)
  | pingTimer clk =>
      obtain rfl := Except.ok.inj h
      rw [pingTimerFires_jitter]
      exact .kept
  | sendFrame type keyframe data ts =>
      obtain rfl := Except.ok.inj h
      rw [sendFrame_jitter]
      exact .kept
  | sendSmall type data now =>
      obtain rfl := Except.ok.inj h
      rw [sendSmall_jitter]
      exact .kept
  | sendRelayBind token =>
      obtain rfl := Except.ok.inj h
      rw [sendRelayBind_jitter]
      exact .kept
  | sendPunch target =>
      obtain rfl := Except.ok.inj h
      rw [sendPunch_jitter]
      exact .kept
  | startPings ms clk =>
      obtain rfl := Except.ok.inj h
      rw [startPings_jitter]
      exact .kept
  | stop =>
      obtain rfl := Except.ok.inj h
      rw [stop_jitter]
      exact .kept
  | setSessionId id | setPeer ep | lockToRemote ep | setRelayFallback ep | stopPings
  | setVideoJitterTargetMs ms | setAudioJitterTargetMs ms | setAutoKeyframeRequest enabled
  | setDropUnknownRemote drop =>
      obtain rfl := Except.ok.inj h
      exact .kept

/-! ## Whole runs -/

/-- The frames that the polls of a run return, in order. -/
def delivered (sink : UdpCryptoSink σ) (lane : Lane) (s : Except FeedFault (UdpTransport σ))
    (es : List UdpEvent) : List AssembledFrame :=
  (history (UdpTransport.step sink) s es).flatMap fun p =>
    match p.1 with
    | .ok t => t.polled lane p.2
    | .error _ => []

/-- The step does not complete a frame that the lane holds already, nor frame 0 after frame 0 was
    the last one handed out. -/
def NoRepetition (sink : UdpCryptoSink σ) (lane : Lane) :
    Except FeedFault (UdpTransport σ) → UdpEvent → Prop
  | .ok t, e => ∀ frame ∈ t.completes sink e, frame.type = lane.type →
      (t.jitter lane).repeats frame.sequence = false
  | .error _, _ => True

instance (sink : UdpCryptoSink σ) (lane : Lane) (s : Except FeedFault (UdpTransport σ))
    (e : UdpEvent) : Decidable (NoRepetition sink lane s e) :=
  match s with
  | .ok t => inferInstanceAs (Decidable (∀ frame ∈ t.completes sink e, frame.type = lane.type →
      (t.jitter lane).repeats frame.sequence = false))
  | .error _ => inferInstanceAs (Decidable True)

theorem LaneStep.ordered {b b' : JitterBuffer} {completed : Option AssembledFrame}
    {polled out : List AssembledFrame} (h : LaneStep lane b completed polled b')
    (hord : b.Ordered out)
    (hnew : ∀ frame ∈ completed, frame.type = lane.type →
      b.repeats frame.sequence = false) : b'.Ordered (out ++ polled) := by
  cases h with
  | kept =>
      rw [List.append_nil]
      exact hord
  | pushed frame now targetMs hcompleted htype =>
      rw [List.append_nil]
      have hretimed : JitterBuffer.Ordered { b with targetMs := targetMs } out :=
        ⟨hord.queue, hord.ahead, hord.handed, hord.behind⟩
      exact hretimed.push frame now (hnew frame hcompleted htype)
  | popped now => exact hord.pop now

/-- Only the arrival of a datagram can fault. -/
theorem polled_of_error {e : UdpEvent} {fault : FeedFault} (h : t.handle sink e = .error fault) :
    t.polled lane e = [] := by
  cases e with
  | pollVideo now => exact absurd h (by simp [UdpTransport.handle])
  | pollAudio now => exact absurd h (by simp [UdpTransport.handle])
  | _ => rfl

/-- A lane's buffer stays in order with what was delivered; a fault ends the run. -/
theorem delivered_ordered (sink : UdpCryptoSink σ) (lane : Lane) (t₀ : UdpTransport σ)
    (h0 : (t₀.jitter lane).Ordered []) (es : List UdpEvent)
    (hreset : ∀ e ∈ es, e.isReset = false)
    (hnew : ∀ p ∈ history (UdpTransport.step sink) (.ok t₀) es, NoRepetition sink lane p.1 p.2) :
    (∀ t, runFrom (UdpTransport.step sink) (.ok t₀) es = .ok t →
      (t.jitter lane).Ordered (delivered sink lane (.ok t₀) es)) ∧
    (delivered sink lane (.ok t₀) es).Pairwise fun f g => f.sequence < g.sequence := by
  induction es using List.reverseRecOn with
  | nil =>
      refine ⟨?_, List.Pairwise.nil⟩
      intro t ht
      obtain rfl := Except.ok.inj ht
      exact h0
  | append_singleton es e ih =>
      rw [history_concat] at hnew
      obtain ⟨hord, hout⟩ := ih (fun d hd => hreset d (List.mem_append_left _ hd))
        (fun p hp => hnew p (List.mem_append_left _ hp))
      have hlast := hnew _ (List.mem_append_right _ (List.mem_singleton_self _))
      have hreset := hreset e (List.mem_append_right _ (List.mem_singleton_self _))
      have hdelivered : delivered sink lane (.ok t₀) (es ++ [e]) =
          delivered sink lane (.ok t₀) es ++
            match runFrom (UdpTransport.step sink) (.ok t₀) es with
            | .ok t => t.polled lane e
            | .error _ => [] := by
        rw [delivered, history_concat, List.flatMap_append, List.flatMap_singleton]
        rfl
      rw [runFrom_concat, hdelivered]
      generalize runFrom (UdpTransport.step sink) (.ok t₀) es = s at hord hlast
      cases s with
      | error fault =>
          rw [List.append_nil]
          refine ⟨?_, hout⟩
          intro t ht
          exact absurd ht (by simp [UdpTransport.step, Except.bind])
      | ok t =>
          cases hstep : t.handle sink e with
          | error fault =>
              dsimp only
              rw [polled_of_error hstep, List.append_nil]
              refine ⟨?_, hout⟩
              intro t' ht'
              exact absurd ht' (by simp [UdpTransport.step, Except.bind, hstep, Except.map])
          | ok p =>
              have hp : (p.1.jitter lane).Ordered
                  (delivered sink lane (.ok t₀) es ++ t.polled lane e) :=
                (handle_laneStep hstep hreset).ordered (hord t rfl) hlast
              refine ⟨?_, hp.handed⟩
              intro t' ht'
              rw [UdpTransport.step, Except.bind, hstep] at ht'
              obtain rfl := Except.ok.inj ht'
              exact hp

/-- **When media frames are delivered once and in order.** A transport starts with an empty jitter
    buffer; datagrams of any content arrive in any order and multiplicity, and the owner polls at
    any times. As long as no datagram completes a frame that still waits in the buffer, or frame 0
    once more right after frame 0 was handed out, the frames returned by the polls of a lane have
    strictly increasing sequence numbers. -/
theorem polled_frames_increase (sink : UdpCryptoSink σ) (lane : Lane) (t₀ : UdpTransport σ)
    (h0 : t₀.jitter lane = {}) (es : List UdpEvent) (hreset : ∀ e ∈ es, e.isReset = false)
    (hnew : ∀ p ∈ history (UdpTransport.step sink) (.ok t₀) es, NoRepetition sink lane p.1 p.2) :
    (delivered sink lane (.ok t₀) es).Pairwise fun f g => f.sequence < g.sequence := by
  refine (delivered_ordered sink lane t₀ ?_ es hreset hnew).2
  rw [h0]
  exact ⟨List.Pairwise.nil, by simp, List.Pairwise.nil, by simp⟩

end Lanes

/-! ## A frame sent twice by the network -/

/-- No sink. -/
def noSink : UdpCryptoSink Unit where
  sealDatagram := fun s _ payload => (some payload, s)
  openDatagram := fun s _ sealed => (some sealed, s)
  active := fun _ => false

/-- The sender's side: a transport that is up. -/
def sendingTransport : UdpTransport Unit := { running := true, socket := true, havePeer := true }

/-- What `sendFrame` posts for a short frame. -/
def frameDatagram (seq : UInt64) : Bytes :=
  encodeUdpHeader (UdpTransport.fragmentAt .Video 0 seq false [1, 2, 3] 5 0).1 ++ [1, 2, 3]

/-- The arrival of a datagram at a time in nanoseconds. -/
def arrives (dg : Bytes) (now : UInt64) : UdpEvent := .datagram dg ⟨[], 0⟩ fun _ => now

theorem polled_frames_increase_reordered :
    (delivered noSink .video (.ok {}) [arrives (frameDatagram 1) 10, arrives (frameDatagram 0) 20,
        .pollVideo 100000000]).Pairwise (fun f g => f.sequence < g.sequence) := by
  refine polled_frames_increase noSink .video {} rfl _ (by decide) ?_
  decide +kernel

/-- One frame sent, its datagram duplicated on the way, one poll: the frame comes out twice. -/
theorem duplicated_frame_delivered_twice :
    (sendingTransport.sendFrame .Video false [1, 2, 3] 5).posted = [.datagram (frameDatagram 0)] ∧
      (delivered noSink .video (.ok {}) [arrives (frameDatagram 0) 10, arrives (frameDatagram 0) 20,
        .pollVideo 100000000]).map AssembledFrame.sequence = [0, 0] := by
  refine ⟨?_, ?_⟩
  · decide +kernel
  · decide +kernel

end RemotePlay.Net
