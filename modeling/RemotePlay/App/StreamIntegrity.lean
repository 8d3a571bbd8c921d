import RemotePlay.App.MediaIntegrity
import RemotePlay.Client.StreamRuns
import RemotePlay.Host.EncoderRuns
import RemotePlay.Networking.JitterOrder

set_option autoImplicit false

/-! # From the host's encoder to the client's decoder

A host streams through one transport and a client plays through another, without a crypto sink; the
network between them may lose, repeat, delay and reorder. What the decode thread gives to FFmpeg are
packets that the host's FFmpeg made of captured frames, in the order in which they were sent. A packet
can come twice, one after the other, but never too late. -/

namespace RemotePlay.Media

open Net
open Net.UdpTransport (submitted wire Untouched)
open App (Faithful Distinct)

/-! ## The host -/

namespace HostStreamer

/-- What a step of a streamer does outside of it. -/
def effects (lib : Libav) (s : HostStreamer) (e : StreamerEvent) : List StreamerEffect :=
  match s.handle lib e with
  | .ok r => r.2
  | .error _ => []

/-- The packet was made of this frame in a step of the capture thread. -/
def Encoded (lib : Libav) (s : HostStreamer) (e : StreamerEvent) (frame : CaptureFrame)
    (p : EncodedPacket) : Prop :=
  ∃ a encoder, e = .thread a ∧ s.position = .encode frame ∧ s.encoder = some encoder ∧
    p ∈ (encoder.encode lib frame.width frame.height a.encode).out

/-- A frame that is sent is a packet of the encoder, at the time of its capture. -/
theorem encoded_of_sendFrame {lib : Libav} {s : HostStreamer} {e : StreamerEvent} {keyframe : Bool}
    {data : Bytes} {timestampNs : UInt64}
    (h : .sendFrame keyframe data timestampNs ∈ s.effects lib e) :
    ∃ frame p, s.Encoded lib e frame p ∧ data = p.data ∧ keyframe = p.keyframe ∧
      timestampNs = frame.timestampUs * 1000 := by
  unfold effects at h
  cases e with
  | thread a =>
      simp only [handle] at h
      cases hloop : s.captureLoop lib a with
      | error x =>
          rw [hloop] at h
          cases h
      | ok r =>
          obtain ⟨s', out⟩ := r
          rw [hloop] at h
          by_cases hlive : s.position = .ended
          · unfold captureLoop at hloop
            simp only [hlive] at hloop
            obtain ⟨-, rfl⟩ := Prod.mk.inj (Except.ok.inj hloop)
            cases h
          · cases captureLoop_pass hlive hloop with
            | encoded encoder frame hpos henc hok =>
                obtain ⟨p, hp, heq⟩ := List.mem_map.1 h
                obtain ⟨rfl, rfl, rfl⟩ := StreamerEffect.sendFrame.inj heq
                exact ⟨frame, p, ⟨a, encoder, rfl, hpos, henc, hp⟩, rfl, rfl, rfl⟩
            | _ => simp at h
  | stop =>
      simp only [handle] at h
      split at h
      · simp at h
      · cases h
  | setBitrate | lateBitrate | requestKeyframe | requestEncoderRestart | requestSoftwareEncoder
  | joined =>
      cases h

end HostStreamer

/-- A video frame that a transport was given came from `sendFrame`, if not from `sendSmall`. -/
theorem sendFrame_of_submitted {σ : Type} {sink : UdpCryptoSink σ} {t₀ : UdpTransport σ}
    {es : List UdpEvent} {m : Submission} (hm : m ∈ submitted sink t₀ es) (hlane : m.lane = .video)
    (hsmall : ∀ data now, .sendSmall .Video data now ∉ es) :
    .sendFrame .Video m.frame.keyframe m.frame.data m.frame.timestampNs ∈ es := by
  obtain ⟨p, hp, hsubmits⟩ := List.mem_filterMap.1 hm
  have hmem := event_of_mem_stepsOf _ hp
  unfold UdpTransport.submits at hsubmits
  split at hsubmits
  · next type keyframe data timestampNs heq =>
      split at hsubmits
      · obtain ⟨lane, hlane', rfl⟩ := Option.map_eq_some_iff.1 hsubmits
        obtain rfl : lane = .video := hlane
        obtain rfl := UdpType.eq_of_lane? hlane'
        exact heq ▸ hmem
      · cases hsubmits
  · next type data now heq =>
      split at hsubmits
      · obtain ⟨lane, hlane', rfl⟩ := Option.map_eq_some_iff.1 hsubmits
        obtain rfl : lane = .video := hlane
        obtain rfl := UdpType.eq_of_lane? hlane'
        exact absurd (heq ▸ hmem) (hsmall data now)
      · cases hsubmits
  · cases hsubmits

/-! ## The client -/

namespace ClientStreamer

variable {τ κ : Type} {sink' : UdpCryptoSink τ} {lib : Libavcodec κ} {s s' : ClientStreamer τ κ}

/-- The event of the transport in an event of the engine. -/
def transportEvent (s : ClientStreamer τ κ) (e : ClientEvent) : Option UdpEvent :=
  match e, s.position with
  | .io e, _ => some e
  | .thread a, .poll => some (.pollVideo (a.clk 0))
  | .thread a, .audio =>
      if s.audio.lost || s.audio.audioDecoder.isNone then none else some (.pollAudio (a.clk 0))
  | .thread a, .watchdog =>
      if s.stalled (a.clk 0) then some (.sendSmall .KeyframeRequest [0] (a.clk 1)) else none
  | .stop now, _ => if s.running then some (.sendSmall .StreamStop [0] now) else none
  | _, _ => none

/-- **The engine drives its transport** by its events: one of them, or none, in each event. -/
theorem transport_next (sink' : UdpCryptoSink τ) (lib : Libavcodec κ) (s : ClientStreamer τ κ)
    (e : ClientEvent) :
    (s.next sink' lib e).map transport =
      match s.transportEvent e with
      | none => .ok s.transport
      | some d => UdpTransport.next sink' s.transport d := by
  cases e with
  | io e =>
      simp only [next, handle, transportEvent, UdpTransport.next]
      cases s.transport.handle sink' e with
      | error x => rfl
      | ok p => rfl
  | renders need => rfl
  | stop now =>
      simp only [next, handle, transportEvent]
      cases s.running with
      | false => rfl
      | true => rfl
  | thread a =>
      simp only [next, handle, transportEvent, decodeLoop]
      cases s.position with
      | loop | poll | ended => rfl
      | decode frames decoded =>
          cases frames with
          | nil => rfl
          | cons f frames => rfl
      | present decoded =>
          cases decoded with
          | nil => rfl
          | cons frame decoded => rfl
      | audio =>
          unfold playAudio
          cases s.audio.lost with
          | true => rfl
          | false =>
              cases s.audio.audioDecoder.isNone with
              | true => rfl
              | false => rfl
      | watchdog =>
          dsimp only
          cases s.stalled (a.clk 0) with
          | false => rfl
          | true => rfl

/-- What was polled and not decoded yet. -/
theorem waiting_next {e : ClientEvent} (h : s.next sink' lib e = .ok s') :
    ∀ f ∈ s'.position.waiting, f ∈ s.position.waiting ∨ f ∈ s.polledFrames e := by
  intro f hf
  have hmem : f ∈ (s.fedFrame e).toList ++ s'.position.waiting := List.mem_append_right _ hf
  rw [← (passes_next h).frames] at hmem
  exact List.mem_append.1 hmem

/-- What the thread polls is polled from its transport. -/
theorem polled_of_transportEvent (s : ClientStreamer τ κ) (e : ClientEvent) :
    s.polledFrames e = [] ∨
      ∃ now, s.transportEvent e = some (.pollVideo now) ∧
        s.polledFrames e = s.transport.polled .video (.pollVideo now) := by
  cases e with
  | io | renders | stop => exact .inl rfl
  | thread a =>
      cases hposition : s.position with
      | poll =>
          refine .inr ⟨a.clk 0, ?_, ?_⟩
          · simp only [transportEvent, hposition]
          · simp only [polledFrames, action, hposition]
            rfl
      | decode frames decoded =>
          cases frames <;> simp [polledFrames, action, hposition]
      | present decoded =>
          cases decoded <;> simp [polledFrames, action, hposition]
      | watchdog =>
          refine .inl ?_
          simp only [polledFrames, action, hposition]
          cases s.stalled (a.clk 0) <;> rfl
      | loop | audio | ended => simp [polledFrames, action, hposition]

/-- What the engine itself does to the transport is to poll it and to send small datagrams. -/
theorem transportEvent_cases {e : ClientEvent} {d : UdpEvent} (h : s.transportEvent e = some d) :
    e = .io d ∨ (∃ now, d = .pollVideo now) ∨ (∃ now, d = .pollAudio now) ∨
      ∃ type data now, d = .sendSmall type data now := by
  unfold transportEvent at h
  split at h
  · exact .inl (by rw [Option.some.inj h])
  · exact .inr (.inl ⟨_, (Option.some.inj h).symm⟩)
  · split at h
    · cases h
    · exact .inr (.inr (.inl ⟨_, (Option.some.inj h).symm⟩))
  · split at h
    · exact .inr (.inr (.inr ⟨_, _, _, (Option.some.inj h).symm⟩))
    · cases h
  · split at h
    · exact .inr (.inr (.inr ⟨_, _, _, (Option.some.inj h).symm⟩))
    · cases h
  · cases h

/-- The lanes of the transport, and what was polled from them, hold submissions only. -/
structure Holds (log : List Submission) (s : ClientStreamer τ κ) : Prop where
  lanes : ∀ lane, Faithful log lane (s.transport.lane lane)
  waiting : ∀ f ∈ s.position.waiting, ∃ m ∈ log, m.lane = .video ∧ f = m.assembled

/-- **One event at the client**, if what arrives is genuine. -/
theorem Holds.next {log : List Submission} (h : Holds log s) (hlog : Distinct log) {e : ClientEvent}
    (harrives : ∀ buf source clk, e = .io (.datagram buf source clk) → Genuine log buf) :
    ∃ s', s.next sink' lib e = .ok s' ∧ Holds log s' := by
  have hpolled : ∀ f ∈ s.polledFrames e, ∃ m ∈ log, m.lane = .video ∧ f = m.assembled := by
    intro f hf
    rcases polled_of_transportEvent s e with hnone | ⟨now, -, heq⟩
    · rw [hnone] at hf
      cases hf
    · rw [heq] at hf
      exact (App.handle_faithful sink' h.lanes hlog (fun _ _ _ heq => by cases heq)).2 .video f hf
  have hlanes : ∃ v, (s.next sink' lib e).map transport = .ok v ∧
      ∀ lane, Faithful log lane (v.lane lane) := by
    rw [transport_next]
    cases hevent : s.transportEvent e with
    | none => exact ⟨_, rfl, h.lanes⟩
    | some d =>
        have hgenuine : ∀ buf source clk, d = .datagram buf source clk → Genuine log buf := by
          rintro buf source clk rfl
          rcases transportEvent_cases hevent with hio | ⟨_, hpoll⟩ | ⟨_, hpoll⟩ | ⟨_, _, _, hsmall⟩
          · exact harrives buf source clk hio
          · cases hpoll
          · cases hpoll
          · cases hsmall
        obtain ⟨p, hp, hkept⟩ := (App.handle_faithful sink' h.lanes hlog hgenuine).1
        exact ⟨p.1, congrArg (Except.map Prod.fst) hp, hkept⟩
  obtain ⟨v, hv, hfaithful⟩ := hlanes
  cases hnext : s.next sink' lib e with
  | error x =>
      rw [hnext] at hv
      cases hv
  | ok s' =>
      rw [hnext] at hv
      obtain rfl := Except.ok.inj hv
      refine ⟨s', rfl, hfaithful, fun f hf => ?_⟩
      rcases waiting_next hnext f hf with hold | hnew
      · exact h.waiting f hold
      · exact hpolled f hnew

/-- The player is not lost in a step in which its device would come up. -/
theorem goes_next {e : ClientEvent} (h : s.audio.lost = false) (hnext : s.next sink' lib e = .ok s')
    (hdevice : ∀ a, e = .thread a → a.device = true) : s'.audio.lost = false := by
  cases e with
  | io e =>
      simp only [next, handle] at hnext
      cases htransport : s.transport.handle sink' e with
      | error x =>
          rw [htransport] at hnext
          cases hnext
      | ok p =>
          rw [htransport] at hnext
          obtain rfl := Except.ok.inj hnext
          exact h
  | renders need =>
      obtain rfl := Except.ok.inj hnext
      exact h
  | stop now =>
      obtain rfl := Except.ok.inj hnext
      dsimp only
      split <;> exact h
  | thread a =>
      obtain rfl := Except.ok.inj hnext
      have hup := hdevice a rfl
      unfold decodeLoop
      split
      · exact h
      · exact h
      · exact h
      · exact h
      · exact h
      · exact h
      · dsimp only
        unfold playAudio
        split
        · exact h
        split
        · exact h
        dsimp only
        exact AudioPath.step_goes h _ (fun _ _ heq => (AudioEvent.poll.inj heq).2 ▸ hup)
      · split <;> exact h
      · exact h

theorem goes_run {s₀ : ClientStreamer τ κ} (h : s₀.audio.lost = false) (cs : List ClientEvent)
    (hdevice : ∀ a, .thread a ∈ cs → a.device = true)
    (hrun : runFrom (faulting (next sink' lib)) (.ok s₀) cs = .ok s) : s.audio.lost = false := by
  refine runFrom_faulting_induction (next sink' lib)
    (fun cs s => (∀ a, .thread a ∈ cs → a.device = true) → s.audio.lost = false) (fun _ => h) ?_ cs
    hrun hdevice
  intro cs s e s' _ ih hnext hdevice
  refine goes_next (ih fun a ha => hdevice a (List.mem_append_left _ ha)) hnext ?_
  rintro a rfl
  exact hdevice a (List.mem_append_right _ List.mem_cons_self)

/-- The frame that is decoded in a step was waiting for it. -/
theorem waiting_of_fedFrame {e : ClientEvent} {f : AssembledFrame} (h : s.fedFrame e = some f) :
    f ∈ s.position.waiting := by
  unfold fedFrame at h
  split at h
  · next g a haction =>
      obtain rfl := Option.some.inj h
      unfold action at haction
      split at haction
      · cases haction
      · next hposition =>
          obtain ⟨rfl, -⟩ := LoopAction.decode.inj haction
          rw [hposition]
          exact List.mem_cons_self
      · cases haction
      · split at haction <;> cases haction
      · cases haction
  · cases h

/-! ## The order -/

/-- What was polled so far is in order, and so is what the queue still holds. -/
theorem inOrder_of_laneStep {b b' : JitterBuffer} {completed : Option AssembledFrame}
    {polled out : List AssembledFrame} (h : LaneStep .video b completed polled b')
    (hout : b.InOrder out) : b'.InOrder (out ++ polled) := by
  cases h with
  | kept =>
      rw [List.append_nil]
      exact hout
  | pushed frame now targetMs hcompleted htype =>
      rw [List.append_nil]
      have htarget : JitterBuffer.InOrder { b with targetMs := targetMs } out :=
        ⟨hout.sorted, hout.ahead, hout.handed, hout.behind⟩
      exact htarget.push frame now
  | popped now => exact JitterBuffer.InOrder.popLoop now b.queue b out hout

/-- Fewer frames are in order, too. -/
theorem InOrder.sublist {b : JitterBuffer} {out out' : List AssembledFrame} (h : b.InOrder out)
    (hsub : out'.Sublist out) : b.InOrder out' :=
  ⟨h.sorted, h.ahead, h.handed.sublist hsub, fun f hf => h.behind f (hsub.mem hf)⟩

/-- **One event**, on the queue of the transport and what the thread has polled from it. -/
theorem inOrder_next {e : ClientEvent} {out : List AssembledFrame}
    (h : s.transport.videoJitter.InOrder out) (hnext : s.next sink' lib e = .ok s')
    (hreset : e ≠ .io .resetStats) :
    s'.transport.videoJitter.InOrder (out ++ s.polledFrames e) := by
  have htransport := transport_next sink' lib s e
  rw [hnext] at htransport
  cases hevent : s.transportEvent e with
  | none =>
      rw [hevent] at htransport
      have hsame : s'.transport = s.transport := Except.ok.inj htransport
      rcases polled_of_transportEvent s e with hnone | ⟨now, hpoll, -⟩
      · rw [hnone, List.append_nil, hsame]
        exact h
      · rw [hevent] at hpoll
        cases hpoll
  | some d =>
      rw [hevent] at htransport
      have hd : d.isReset = false := by
        rcases transportEvent_cases hevent with hio | ⟨_, rfl⟩ | ⟨_, rfl⟩ | ⟨_, _, _, rfl⟩
        · cases d with
          | resetStats => exact absurd hio hreset
          | _ => rfl
        · rfl
        · rfl
        · rfl
      have hstep : LaneStep .video s.transport.videoJitter (s.transport.completes sink' d)
          (s.transport.polled .video d) s'.transport.videoJitter :=
        handle_laneStep (UdpTransport.next_ok htransport.symm) hd
      have hall := inOrder_of_laneStep hstep h
      rcases polled_of_transportEvent s e with hnone | ⟨now, hpoll, heq⟩
      · rw [hnone]
        exact InOrder.sublist hall (List.Sublist.append_left (List.nil_sublist _) out)
      · rw [hevent] at hpoll
        obtain rfl := Option.some.inj hpoll
        rw [heq]
        exact hall

/-- What was polled in a run is in order. -/
theorem polled_inOrder {s₀ : ClientStreamer τ κ}
    (hfresh : s₀.transport.videoJitter.InOrder []) (cs : List ClientEvent)
    (hreset : .io .resetStats ∉ cs) (hrun : runFrom (faulting (next sink' lib)) (.ok s₀) cs = .ok s) :
    s.transport.videoJitter.InOrder
      ((stepsOf (next sink' lib) s₀ cs).flatMap (fun p => p.1.polledFrames p.2)) := by
  refine runFrom_faulting_induction (next sink' lib)
    (fun cs s => .io .resetStats ∉ cs → s.transport.videoJitter.InOrder
      ((stepsOf (next sink' lib) s₀ cs).flatMap (fun p => p.1.polledFrames p.2)))
    (fun _ => hfresh) ?_ cs hrun hreset
  intro cs s e s' hrun ih hnext hreset
  have hold : .io .resetStats ∉ cs := fun hmem => hreset (List.mem_append_left _ hmem)
  have hlast : e ≠ .io .resetStats := fun heq =>
    hreset (List.mem_append_right _ (List.mem_singleton.2 heq.symm))
  rw [stepsOf_concat _ hrun, List.flatMap_append, List.flatMap_singleton]
  exact inOrder_next (ih hold) hnext hlast

end ClientStreamer

/-! ## Both ends -/

section Runs

open ClientStreamer (next)

variable {σ τ κ : Type} {sink : UdpCryptoSink σ} {sink' : UdpCryptoSink τ} {lib : Libav}
  {codec : Libavcodec κ}

/-- The number of a frame says which one of its lane it is. -/
theorem getElem?_of_logged {log : List Submission} {t : UdpTransport σ} (h : UdpTransport.Logged log t)
    (hlength : log.length < 2 ^ 64) {m : Submission} (hm : m ∈ log) :
    (log.filter (fun x => x.lane = m.lane))[m.frame.sequence.toNat]? = some m := by
  obtain ⟨i, hi⟩ := List.getElem?_of_mem (List.mem_filter.2 ⟨hm, by simp⟩ :
    m ∈ log.filter (fun x => x.lane = m.lane))
  have hcount : log.countP (fun x => x.lane = m.lane) ≤ log.length := List.countP_le_length
  have hnumber := congrArg (·[i]?) (h.numbered m.lane)
  simp only [List.getElem?_map, hi, Option.map_some] at hnumber
  have hlt : i < log.countP (fun x => x.lane = m.lane) := by
    rw [List.countP_eq_length_filter]
    exact (List.getElem?_eq_some_iff.1 hi).1
  rw [List.getElem?_range hlt, Option.map_some, Option.some.injEq] at hnumber
  have hnat : m.frame.sequence.toNat = i := by
    rw [hnumber, UInt64.toNat_ofNat']
    exact Nat.mod_eq_of_lt (by omega)
  rw [hnat, hi]

/-- **The client decodes what the host encoded.** A host's transport gets its video from the streamer, and
    what arrives at the client was on the wire. Receiving never runs into undefined behaviour, and neither
    does playing if the audio device comes up; the packets that the client gives to its decoder are, in
    the order of the host, such as the host's encoder made of captured frames, with all their bytes, the
    keyframe flag and the time of the capture. -/
theorem decodes_what_was_encoded {h₀ : HostStreamer} (hs : List StreamerEvent)
    {t₀ t : UdpTransport σ} (hsender : Untouched t₀) (es : List UdpEvent)
    (hrun : runFrom (UdpTransport.step sink) (.ok t₀) es = .ok t)
    (hinput : ∀ e ∈ es, e.framesInput = false) (hlength : es.length < 2 ^ 64)
    (hsize : ∀ m ∈ submitted sink t₀ es, m.frame.data.length ≤ 65535 * kMaxUdpPayload)
    (hvideo : ∀ keyframe data timestampNs, .sendFrame .Video keyframe data timestampNs ∈ es →
      ∃ p ∈ stepsOf (HostStreamer.next lib) h₀ hs,
        .sendFrame keyframe data timestampNs ∈ p.1.effects lib p.2)
    (hsmall : ∀ data now, .sendSmall .Video data now ∉ es)
    {s₀ : ClientStreamer τ κ} (hstart : s₀.position = .loop)
    (hreceiver : ∀ lane, s₀.transport.lane lane = LaneState.fresh lane) (cs : List ClientEvent)
    (harrives : ∀ buf source clk, .io (.datagram buf source clk) ∈ cs → buf ∈ wire sink t₀ es)
    (hreset : .io .resetStats ∉ cs) :
    (∃ s, runFrom (faulting (next sink' codec)) (.ok s₀) cs = .ok s ∧
        (s₀.audio.lost = false → (∀ a, .thread a ∈ cs → a.device = true) → s.audio.lost = false)) ∧
      ((stepsOf (next sink' codec) s₀ cs).filterMap (fun p => p.1.fedFrame p.2)).Pairwise
        (fun f g => f.sequence ≤ g.sequence) ∧
      ∀ f ∈ (stepsOf (next sink' codec) s₀ cs).filterMap (fun p => p.1.fedFrame p.2),
        ∃ m, ((submitted sink t₀ es).filter (fun m => m.lane = .video))[f.sequence.toNat]? = some m ∧
          f = m.assembled ∧
          ∃ p ∈ stepsOf (HostStreamer.next lib) h₀ hs, ∃ frame packet,
            p.1.Encoded lib p.2 frame packet ∧ f.data = packet.data ∧
              f.keyframe = packet.keyframe ∧ f.timestampNs = frame.timestampUs * 1000 := by
  obtain ⟨hlogged, hwire⟩ := UdpTransport.logged_run hsender hinput hrun
  have hshort : (submitted sink t₀ es).length < 2 ^ 64 :=
    (App.length_submitted_le t₀ es).trans_lt hlength
  have hlog := App.distinct_of_logged hlogged hshort hsize
  have hgenuine : ∀ e ∈ cs, ∀ buf source clk, e = .io (.datagram buf source clk) →
      Genuine (submitted sink t₀ es) buf := by
    rintro e he buf source clk rfl
    exact hwire buf (harrives buf source clk he)
  have hfresh : s₀.Holds (submitted sink t₀ es) := by
    refine ⟨fun lane => hreceiver lane ▸ App.faithful_fresh _ lane, fun f hf => ?_⟩
    rw [hstart] at hf
    cases hf
  obtain ⟨⟨s, hend, -⟩, hsteps⟩ := faulting_safe (next sink' codec)
    (ClientStreamer.Holds (submitted sink t₀ es)) _ (fun s e h harrives => h.next hlog harrives)
    hfresh cs hgenuine
  refine ⟨⟨s, hend, fun hgoes hdevice => ?_⟩, ?_, fun f hf => ?_⟩
  · exact ClientStreamer.goes_run hgoes cs hdevice hend
  · have hqueue : s₀.transport.videoJitter = {} := congrArg LaneState.jitter (hreceiver .video)
    have hempty : s₀.transport.videoJitter.InOrder [] := by
      rw [hqueue]
      exact ⟨List.Pairwise.nil, nofun, List.Pairwise.nil, nofun⟩
    have hpolled := (ClientStreamer.polled_inOrder hempty cs hreset hend).handed
    rw [(ClientStreamer.nothing_is_dropped hstart cs hend).1] at hpolled
    exact hpolled.sublist (List.sublist_append_left _ _)
  · obtain ⟨p, hp, hfed⟩ := List.mem_filterMap.1 hf
    obtain ⟨m, hm, hlane, rfl⟩ := (hsteps p hp).1.waiting f (ClientStreamer.waiting_of_fedFrame hfed)
    obtain ⟨q, hq, hsent⟩ := hvideo _ _ _ (sendFrame_of_submitted hm hlane hsmall)
    obtain ⟨frame, packet, hencoded, hdata, hkeyframe, htime⟩ :=
      HostStreamer.encoded_of_sendFrame hsent
    have hindex := getElem?_of_logged hlogged hshort hm
    rw [hlane] at hindex
    exact ⟨m, hindex, rfl, q, hq, frame, packet, hencoded, hdata, hkeyframe, htime⟩

end Runs

/-- The platform of a host whose encoder makes one packet of a frame. -/
def onePacket : PassAnswers :=
  { HostStreamer.desktop with encode := { packets := [{ data := [1, 2, 3], dts := 0, keyframe := false }] } }

/-- The datagram of that packet. -/
def packetDatagram : Bytes :=
  encodeUdpHeader (UdpTransport.fragmentAt .Video 0 0 false [1, 2, 3] 0 0).1 ++ [1, 2, 3]

/-- It arrives twice, is polled and decoded. -/
def arrivals : List ClientEvent :=
  [.io (arrives packetDatagram 1), .io (arrives packetDatagram 2),
    .thread (ClientStreamer.answersAt 100000000), .thread (ClientStreamer.answersAt 100000000),
    .thread (ClientStreamer.answersAt 100000000), .thread (ClientStreamer.answersAt 100000000)]

theorem decodes_what_was_encoded_twice :
    (∃ s, runFrom (faulting (ClientStreamer.next noSink ClientStreamer.onePicture))
        (.ok ClientStreamer.playing) arrivals = .ok s ∧
      (ClientStreamer.playing.audio.lost = false →
        (∀ a, .thread a ∈ arrivals → a.device = true) → s.audio.lost = false)) ∧
      ((stepsOf (ClientStreamer.next noSink ClientStreamer.onePicture) ClientStreamer.playing
          arrivals).filterMap (fun p => p.1.fedFrame p.2)).Pairwise
        (fun f g => f.sequence ≤ g.sequence) ∧
      ∀ f ∈ (stepsOf (ClientStreamer.next noSink ClientStreamer.onePicture) ClientStreamer.playing
          arrivals).filterMap (fun p => p.1.fedFrame p.2),
        ∃ m, ((submitted noSink sendingTransport
            [.sendFrame .Video false [1, 2, 3] 0, .runPosted false 0]).filter
              (fun m => m.lane = .video))[f.sequence.toNat]? = some m ∧
          f = m.assembled ∧
          ∃ p ∈ stepsOf (HostStreamer.next ScalerRun.imgutils) HostStreamer.streaming
              [.thread onePacket, .thread onePacket, .thread onePacket, .thread onePacket],
            ∃ frame packet, p.1.Encoded ScalerRun.imgutils p.2 frame packet ∧
              f.data = packet.data ∧ f.keyframe = packet.keyframe ∧
              f.timestampNs = frame.timestampUs * 1000 := by
  have hsubmitted : submitted noSink sendingTransport
      [.sendFrame .Video false [1, 2, 3] 0, .runPosted false 0] =
        [⟨.video, 0, ⟨0, 0, false, [1, 2, 3]⟩⟩] := rfl
  have hwire : wire noSink sendingTransport
      [.sendFrame .Video false [1, 2, 3] 0, .runPosted false 0] = [packetDatagram] := rfl
  have hstep : (stepsOf (HostStreamer.next ScalerRun.imgutils) HostStreamer.streaming
      [.thread onePacket, .thread onePacket, .thread onePacket, .thread onePacket])[3]? =
        some (HostStreamer.grabbed, .thread onePacket) := rfl
  have hsent : HostStreamer.grabbed.effects ScalerRun.imgutils (.thread onePacket) =
      [.sendFrame false [1, 2, 3] 0] := by decide +kernel
  refine decodes_what_was_encoded _ (show Untouched sendingTransport from ⟨rfl, rfl, rfl⟩) _ rfl
    (by decide) (by decide) ?_ ?_ ?_ rfl (fun lane => by cases lane <;> rfl) _ ?_ ?_
  · intro m hm
    rw [hsubmitted, List.mem_singleton] at hm
    rw [hm]
    decide
  · intro keyframe data timestampNs hmem
    simp only [List.mem_cons, UdpEvent.sendFrame.injEq, true_and, reduceCtorEq, List.not_mem_nil,
      or_false] at hmem
    obtain ⟨rfl, rfl, rfl⟩ := hmem
    exact ⟨_, List.mem_of_getElem? hstep, hsent ▸ List.mem_cons_self⟩
  · intro data now hmem
    simp at hmem
  · intro buf source clk hmem
    rw [hwire, List.mem_singleton]
    simp only [arrivals, arrives, List.mem_cons, ClientEvent.io.injEq, UdpEvent.datagram.injEq,
      reduceCtorEq, List.not_mem_nil, or_false] at hmem
    rcases hmem with ⟨rfl, -⟩ | ⟨rfl, -⟩
    · rfl
    · rfl
  · intro hmem
    simp [arrivals, arrives] at hmem

end RemotePlay.Media
