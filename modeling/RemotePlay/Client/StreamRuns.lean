import RemotePlay.Client.ClientStreamer
import RemotePlay.Networking.DeliveryOrder

set_option autoImplicit false

/-! # Whole runs of the decode thread

Between the video queue of the transport and the present callback nothing is lost, repeated or put out
of order (`nothing_is_dropped`). One packet that FFmpeg refuses is the end of the video
(`refused_for_good`): the empty packet that answers it drains the context, and nobody makes a new one. The
watchdog asks for keyframes all the same; when it does is `asks_iff_stalled`, and how often
`requests_spaced`. -/

namespace RemotePlay.Media

open Net

/-- The polled frames that were not decoded yet. -/
def DecodePosition.waiting : DecodePosition → List AssembledFrame
  | .decode frames _ => frames
  | .loop | .poll | .present _ | .audio | .watchdog | .ended => []

/-- The pictures that were not presented yet. -/
def DecodePosition.pending : DecodePosition → List DecodedFrame
  | .decode _ decoded | .present decoded => decoded
  | .loop | .poll | .audio | .watchdog | .ended => []

namespace ClientStreamer

variable {σ κ : Type} {sink : UdpCryptoSink σ} {lib : Libavcodec κ} {s s' : ClientStreamer σ κ}
  {e : ClientEvent}

/-! ## One step -/

/-- What is not a step of the thread leaves the thread's own state alone. -/
theorem next_other (h : s.next sink lib e = .ok s') (hother : ∀ a, e ≠ .thread a) :
    s'.decoder = s.decoder ∧ s'.lastFrameNs = s.lastFrameNs ∧ s'.position = s.position := by
  cases e with
  | io e =>
      simp only [next, handle] at h
      cases htransport : s.transport.handle sink e with
      | error x =>
          rw [htransport] at h
          cases h
      | ok p =>
          rw [htransport] at h
          obtain rfl := Except.ok.inj h
          exact ⟨rfl, rfl, rfl⟩
  | thread a => exact absurd rfl (hother a)
  | renders need =>
      obtain rfl := Except.ok.inj h
      exact ⟨rfl, rfl, rfl⟩
  | stop now =>
      obtain rfl := Except.ok.inj h
      dsimp only
      split
      · exact ⟨rfl, rfl, rfl⟩
      · exact ⟨rfl, rfl, rfl⟩

theorem next_thread (a : LoopAnswers) (h : s.next sink lib (.thread a) = .ok s') :
    s' = (s.decodeLoop lib a).1 :=
  (Except.ok.inj h).symm

theorem action_other (hother : ∀ a, e ≠ .thread a) : s.action e = .none := by
  cases e with
  | thread a => exact absurd rfl (hother a)
  | io e => rfl
  | renders need => rfl
  | stop now => rfl

theorem playAudio_keeps (a : LoopAnswers) (hposition : s.position = .audio) :
    (s.playAudio a).decoder = s.decoder ∧ (s.playAudio a).lastFrameNs = s.lastFrameNs ∧
      ((s.playAudio a).position = .audio ∨ (s.playAudio a).position = .watchdog) := by
  unfold playAudio
  split
  · exact ⟨rfl, rfl, .inl hposition⟩
  split
  · exact ⟨rfl, rfl, .inr rfl⟩
  dsimp only
  split
  · exact ⟨rfl, rfl, .inl rfl⟩
  · exact ⟨rfl, rfl, .inr rfl⟩

/-- **One step**, by what is seen of it. -/
structure Passes (lib : Libavcodec κ) (s : ClientStreamer σ κ) (e : ClientEvent)
    (s' : ClientStreamer σ κ) : Prop where
  frames : s.position.waiting ++ s.polledFrames e =
    (s.fedFrame e).toList ++ s'.position.waiting
  pictures : s.position.pending ++ s.decodedFrames lib e =
    (s.presentedFrame e).toList ++ s'.position.pending
  decoder : s'.decoder =
    match s.action e with
    | .decode f a => (s.decodeCall lib f a).1
    | _ => s.decoder
  last : s'.lastFrameNs = (s.mark lib e).getD s.lastFrameNs

theorem passes_none (haction : s.action e = .none)
    (hwaiting : s'.position.waiting = s.position.waiting)
    (hpending : s'.position.pending = s.position.pending) (hdecoder : s'.decoder = s.decoder)
    (hlast : s'.lastFrameNs = s.lastFrameNs) : Passes lib s e s' where
  frames := by
    rw [polledFrames, fedFrame, haction, hwaiting]
    exact List.append_nil _
  pictures := by
    rw [decodedFrames, presentedFrame, haction, hpending]
    exact List.append_nil _
  decoder := by
    rw [haction]
    exact hdecoder
  last := by
    rw [mark, haction]
    exact hlast

theorem passes_poll {frames : List AssembledFrame} (haction : s.action e = .poll frames)
    (hwaiting : s.position.waiting = []) (hwaiting' : s'.position.waiting = frames)
    (hpending : s'.position.pending = s.position.pending) (hdecoder : s'.decoder = s.decoder)
    (hlast : s'.lastFrameNs = s.lastFrameNs) : Passes lib s e s' where
  frames := by
    rw [polledFrames, fedFrame, haction, hwaiting, hwaiting']
    rfl
  pictures := by
    rw [decodedFrames, presentedFrame, haction, hpending]
    exact List.append_nil _
  decoder := by
    rw [haction]
    exact hdecoder
  last := by
    rw [mark, haction]
    exact hlast

theorem passes_decodeLoop (s : ClientStreamer σ κ) (a : LoopAnswers) :
    Passes lib s (.thread a) (s.decodeLoop lib a).1 := by
  unfold decodeLoop
  cases hposition : s.position with
  | loop =>
      refine passes_none (by simp only [action, hposition]) ?_ ?_ rfl rfl
      · rw [hposition]
        dsimp only
        split <;> rfl
      · rw [hposition]
        dsimp only
        split <;> rfl
  | poll =>
      have haction : s.action (.thread a) = .poll (s.transport.videoJitter.pop (a.clk 0)).1 := by
        simp only [action, hposition]
      exact passes_poll haction (by rw [hposition]; rfl) rfl (by rw [hposition]; rfl) rfl rfl
  | decode frames decoded =>
      cases frames with
      | nil =>
          exact passes_none (by simp only [action, hposition]) (by rw [hposition]; rfl)
            (by rw [hposition]; rfl) rfl rfl
      | cons f frames =>
          have haction : s.action (.thread a) = .decode f a := by simp only [action, hposition]
          refine ⟨?_, ?_, ?_, ?_⟩
          · rw [polledFrames, fedFrame, haction, hposition]
            exact List.append_nil _
          · rw [decodedFrames, presentedFrame, haction, hposition]
            rfl
          · rw [haction]
            rfl
          · rw [mark, haction]
            show (if (s.decodeCall lib f a).2.2 then a.clk 0 else s.lastFrameNs) = _
            dsimp only
            split <;> rfl
  | present decoded =>
      cases decoded with
      | nil =>
          exact passes_none (by simp only [action, hposition]) (by rw [hposition]; rfl)
            (by rw [hposition]; rfl) rfl rfl
      | cons frame decoded =>
          have haction : s.action (.thread a) = .present frame := by simp only [action, hposition]
          refine ⟨?_, ?_, ?_, ?_⟩
          · rw [polledFrames, fedFrame, haction, hposition]
            rfl
          · rw [decodedFrames, presentedFrame, haction, hposition]
            exact List.append_nil _
          · rw [haction]
          · rw [mark, haction]
            rfl
  | audio =>
      obtain ⟨hdecoder, hlast, haudio | haudio⟩ := playAudio_keeps a hposition
      · exact passes_none (by simp only [action, hposition]) (by rw [hposition, haudio])
          (by rw [hposition, haudio]) hdecoder hlast
      · exact passes_none (by simp only [action, hposition]) (by rw [hposition, haudio]; rfl)
          (by rw [hposition, haudio]; rfl) hdecoder hlast
  | watchdog =>
      cases hstalled : s.stalled (a.clk 0) with
      | false =>
          exact passes_none (by simp [action, hposition, hstalled]) (by rw [hposition]; rfl)
            (by rw [hposition]; rfl) rfl rfl
      | true =>
          have haction : s.action (.thread a) = .ask (a.clk 0) (a.clk 2) := by
            simp [action, hposition, hstalled]
          refine ⟨?_, ?_, ?_, ?_⟩
          · rw [polledFrames, fedFrame, haction, hposition]
            rfl
          · rw [decodedFrames, presentedFrame, haction, hposition]
            rfl
          · rw [haction]
            rfl
          · rw [mark, haction]
            rfl
  | ended =>
      exact passes_none (by simp only [action, hposition]) (by rw [hposition]) (by rw [hposition]) rfl rfl

theorem passes_next (h : s.next sink lib e = .ok s') : Passes lib s e s' := by
  by_cases hthread : ∃ a, e = .thread a
  · obtain ⟨a, rfl⟩ := hthread
    rw [next_thread a h]
    exact passes_decodeLoop s a
  · have hother : ∀ a, e ≠ .thread a := fun a heq => hthread ⟨a, heq⟩
    obtain ⟨hdecoder, hlast, hposition⟩ := next_other h hother
    exact passes_none (action_other hother) (by rw [hposition]) (by rw [hposition]) hdecoder hlast

/-! ## Nothing is dropped -/

/-- **Between the queue and the screen.** Over a run of a thread that has nothing in hand, the frames that
    were polled are those that were handed to `decode`, refused ones included, and those that wait for it,
    in this order; and the pictures that came out are those that were presented and those that wait for
    it. -/
theorem nothing_is_dropped {s₀ : ClientStreamer σ κ} (hstart : s₀.position = .loop)
    (es : List ClientEvent) (hrun : runFrom (faulting (next sink lib)) (.ok s₀) es = .ok s) :
    (stepsOf (next sink lib) s₀ es).flatMap (fun p => p.1.polledFrames p.2) =
        (stepsOf (next sink lib) s₀ es).filterMap (fun p => p.1.fedFrame p.2) ++
          s.position.waiting ∧
      (stepsOf (next sink lib) s₀ es).flatMap (fun p => p.1.decodedFrames lib p.2) =
        (stepsOf (next sink lib) s₀ es).filterMap (fun p => p.1.presentedFrame p.2) ++
          s.position.pending := by
  have hframes := faulting_conserved (next sink lib) (fun s => s.position.waiting) polledFrames
    (fun s e => (s.fedFrame e).toList) (fun s e s' h => (passes_next h).frames) es hrun
  have hpictures := faulting_conserved (next sink lib) (fun s => s.position.pending)
    (decodedFrames lib) (fun s e => (s.presentedFrame e).toList)
    (fun s e s' h => (passes_next h).pictures) es hrun
  rw [hstart] at hframes hpictures
  rw [List.filterMap_eq_flatMap_toList, List.filterMap_eq_flatMap_toList]
  exact ⟨hframes, hpictures⟩

/-- A codec that makes a picture of each packet with bytes and refuses packets without. -/
def onePicture : Libavcodec Bool where
  opens _ := some false
  sendPacket drained p :=
    match p.data with
    | none => (true, !drained)
    | some bytes => (drained, !drained && !bytes.isEmpty)
  receiveFrames drained := (drained, if drained then [] else [{ width := 1, height := 1, format := 0 }], true)
  getsContext _ := true
  scale _ _ buffer := buffer

/-- An engine that has just started, without audio. -/
def playing : ClientStreamer Unit Bool := (start onePicture {} .H264 false).1

/-- The answers of a quiet platform at this time. -/
def answersAt (now : UInt64) : LoopAnswers where
  clk _ := now
  nullData := false
  opus _ _ := .rejected
  device := false

/-- A video frame of one byte, as it comes from the host. -/
def oneByteFrame : Bytes :=
  encodeUdpHeader
    { type := UdpType.Video.code
      flags := UdpFlag.Keyframe
      payloadSize := 1 } ++ [7]

/-- The frame comes in, and the thread passes once through its loop, up to the watchdog. -/
def framePlayed : List ClientEvent :=
  .io (.datagram oneByteFrame ⟨[127, 0, 0, 1], 5000⟩ (fun _ => 0)) ::
    List.replicate 7 (.thread (answersAt 1000000000))

theorem nothing_is_dropped_framePlayed :
    ∃ s, runFrom (faulting (next noSink onePicture)) (.ok playing) framePlayed = .ok s ∧
      (stepsOf (next noSink onePicture) playing framePlayed).flatMap
          (fun p => p.1.polledFrames p.2) =
        (stepsOf (next noSink onePicture) playing framePlayed).filterMap
            (fun p => p.1.fedFrame p.2) ++ s.position.waiting ∧
      (stepsOf (next noSink onePicture) playing framePlayed).flatMap
          (fun p => p.1.decodedFrames onePicture p.2) =
        (stepsOf (next noSink onePicture) playing framePlayed).filterMap
            (fun p => p.1.presentedFrame p.2) ++ s.position.pending :=
  ⟨_, rfl, nothing_is_dropped rfl framePlayed rfl⟩

example : (stepsOf (next noSink onePicture) playing framePlayed).flatMap
      (fun p => (p.1.polledFrames p.2).map (·.data)) = [[7]] ∧
    ((stepsOf (next noSink onePicture) playing framePlayed).filterMap
      (fun p => p.1.presentedFrame p.2)).length = 1 := by
  decide +kernel

/-! ## A packet that is refused -/

section Drained

variable {drained : κ → Prop} (hlib : lib.Drains drained)
include hlib

theorem drained_of_refuses (hrefuses : s.refuses lib e = true) (h : s.next sink lib e = .ok s') :
    s'.decoder.Drained drained := by
  have hdecoder := (passes_next h).decoder
  unfold refuses at hrefuses
  cases haction : s.action e with
  | decode f a =>
      rw [haction] at hrefuses hdecoder
      rw [hdecoder]
      exact VideoDecoder.drained_of_refuses hlib _ _ _ hrefuses
  | none | poll | present | ask =>
      rw [haction] at hrefuses
      cases hrefuses

theorem drained_next (hdrained : s.decoder.Drained drained) (h : s.next sink lib e = .ok s') :
    s'.decoder.Drained drained := by
  have hdecoder := (passes_next h).decoder
  cases haction : s.action e with
  | decode f a =>
      rw [haction] at hdecoder
      rw [hdecoder]
      exact (VideoDecoder.decode_of_drained hlib _ _ _ hdrained).2.1
  | none | poll | present | ask =>
      rw [haction] at hdecoder
      rw [hdecoder]
      exact hdrained

/-- A drained decoder refuses what it is given, and gives nothing. -/
theorem step_of_drained (hdrained : s.decoder.Drained drained) (e : ClientEvent) :
    ((s.fedFrame e).isSome = true → s.refuses lib e = true) ∧ s.decodedFrames lib e = [] := by
  unfold fedFrame refuses decodedFrames
  cases s.action e with
  | decode f a =>
      obtain ⟨hrefuses, -, hout⟩ := VideoDecoder.decode_of_drained hlib (packetData f a.nullData)
        (f.timestampNs / 1000) f.keyframe hdrained
      exact ⟨fun _ => hrefuses, congrArg Prod.fst hout⟩
  | none | poll | present | ask => exact ⟨nofun, rfl⟩

/-- **Refused for good.** In every run, once FFmpeg has refused a packet it refuses every packet, the
    keyframes that are asked for as well, and no picture comes out any more. -/
theorem refused_for_good (s₀ : ClientStreamer σ κ) (es : List ClientEvent) :
    (stepsOf (next sink lib) s₀ es).Pairwise (fun p q => p.1.refuses lib p.2 = true →
      ((q.1.fedFrame q.2).isSome = true → q.1.refuses lib q.2 = true) ∧
        q.1.decodedFrames lib q.2 = []) := by
  refine (stepsOf_pairwise (next sink lib) (fun s => s.decoder.Drained drained)
    (fun s e s' hdrained h => drained_next hlib hdrained h) s₀ es).imp ?_
  intro p q hleads hrefuses
  exact step_of_drained hlib (hleads fun s' h => drained_of_refuses hlib hrefuses h) q.2

end Drained

theorem drains_onePicture : onePicture.Drains (fun drained => drained = true) where
  ends drained p hp := by
    simp only [onePicture, hp]
  refuses drained p hdrained := by
    subst hdrained
    cases hp : p.data <;> simp [onePicture, hp]
  receives drained hdrained := hdrained

/-- A packet without bytes, and then one with. -/
def twoFrames : ClientStreamer Unit Bool :=
  { playing with position := .decode [{ data := [] }, { data := [1], keyframe := true }] [] }

theorem refused_for_good_twoFrames :
    twoFrames.refuses onePicture (.thread (answersAt 1)) = true ∧
      (stepsOf (next noSink onePicture) twoFrames
        [.thread (answersAt 1), .thread (answersAt 2)]).Pairwise
        (fun p q => p.1.refuses onePicture p.2 = true →
          ((q.1.fedFrame q.2).isSome = true → q.1.refuses onePicture q.2 = true) ∧
            q.1.decodedFrames onePicture q.2 = []) :=
  ⟨by decide +kernel, refused_for_good drains_onePicture twoFrames _⟩

/-! ## The watchdog -/

/-- What the watchdog stores is the last mark. -/
theorem lastFrameNs_run {s₀ : ClientStreamer σ κ} (es : List ClientEvent)
    (hrun : runFrom (faulting (next sink lib)) (.ok s₀) es = .ok s) :
    s.lastFrameNs =
      ((stepsOf (next sink lib) s₀ es).filterMap (fun p => p.1.mark lib p.2)).getLastD
        s₀.lastFrameNs := by
  refine runFrom_faulting_induction (next sink lib)
    (fun es s => s.lastFrameNs =
      ((stepsOf (next sink lib) s₀ es).filterMap (fun p => p.1.mark lib p.2)).getLastD
        s₀.lastFrameNs) rfl ?_ es hrun
  intro es s e s' hrun ih hnext
  rw [stepsOf_concat _ hrun, getLastD_filterMap_concat, ← ih]
  exact (passes_next hnext).last

/-- **When the watchdog asks.** In every run, a look of the watchdog leads to a request exactly if a packet
    went through or the watchdog itself asked before, and the last of these was more than two seconds ago.
    The requests of `start` and of the loss detection leave no mark here. -/
theorem asks_iff_stalled {s₀ : ClientStreamer σ κ} (hstart : s₀.lastFrameNs = 0)
    (es : List ClientEvent) (hrun : runFrom (faulting (next sink lib)) (.ok s₀) es = .ok s)
    (hposition : s.position = .watchdog) (a : LoopAnswers) :
    .requestKeyframe ∈ (s.decodeLoop lib a).2 ↔
      ∃ m, ((stepsOf (next sink lib) s₀ es).filterMap (fun p => p.1.mark lib p.2)).getLast? = some m ∧
        m ≠ 0 ∧ kStallNs < a.clk 0 - m := by
  have hlast := lastFrameNs_run es hrun
  rw [hstart, List.getLastD_eq_getLast?] at hlast
  have hasks : .requestKeyframe ∈ (s.decodeLoop lib a).2 ↔ s.stalled (a.clk 0) = true := by
    unfold decodeLoop
    rw [hposition]
    cases s.stalled (a.clk 0) <;> simp
  rw [hasks, stalled, decide_eq_true_eq, hlast]
  cases ((stepsOf (next sink lib) s₀ es).filterMap (fun p => p.1.mark lib p.2)).getLast? with
  | none => simp
  | some m => simp

theorem asks_iff_stalled_framePlayed :
    ∃ s, runFrom (faulting (next noSink onePicture)) (.ok playing) framePlayed = .ok s ∧
      s.position = .watchdog ∧
      (.requestKeyframe ∈ (s.decodeLoop onePicture (answersAt 4000000000)).2 ↔
        ∃ m, ((stepsOf (next noSink onePicture) playing framePlayed).filterMap
            (fun p => p.1.mark onePicture p.2)).getLast? = some m ∧
          m ≠ 0 ∧ kStallNs < (answersAt 4000000000).clk 0 - m) :=
  ⟨_, rfl, rfl, asks_iff_stalled rfl framePlayed rfl rfl (answersAt 4000000000)⟩

theorem stalled_of_ask {now stored : UInt64} (h : s.action e = .ask now stored) :
    s.stalled now = true := by
  unfold action at h
  split at h
  · cases h
  · cases h
  · cases h
  · split at h
    · next hstalled =>
        obtain ⟨rfl, -⟩ := LoopAction.ask.inj h
        exact hstalled
    · cases h
  · cases h

/-- The readings of the clock in a step that concern the watchdog. -/
def readings (s : ClientStreamer σ κ) (e : ClientEvent) : List Nat :=
  match s.action e with
  | .decode _ a => [(a.clk 0).toNat]
  | .ask now stored => [now.toNat, stored.toNat]
  | _ => []

theorem stored_of_readings (h : s.next sink lib e = .ok s') :
    s'.lastFrameNs.toNat = s.lastFrameNs.toNat ∨ s'.lastFrameNs.toNat ∈ s.readings e := by
  have hlast := (passes_next h).last
  unfold mark at hlast
  unfold readings
  cases haction : s.action e with
  | decode f a =>
      rw [haction] at hlast
      dsimp only at hlast ⊢
      split at hlast
      · exact .inr (List.mem_singleton.2 (congrArg UInt64.toNat hlast))
      · exact .inl (congrArg UInt64.toNat hlast)
  | ask now stored =>
      rw [haction] at hlast
      exact .inr (List.mem_cons_of_mem _ (List.mem_singleton.2 (congrArg UInt64.toNat hlast)))
  | none | poll | present =>
      rw [haction] at hlast
      exact .inl (congrArg UInt64.toNat hlast)

/-- **How often the watchdog asks.** With a clock that does not go back, its requests are more than two
    seconds apart in every run. -/
theorem requests_spaced {s₀ : ClientStreamer σ κ} (hstart : s₀.lastFrameNs = 0)
    (es : List ClientEvent)
    (hclock : ((stepsOf (next sink lib) s₀ es).flatMap (fun p => p.1.readings p.2)).Pairwise
      (· ≤ ·)) :
    ((stepsOf (next sink lib) s₀ es).filterMap (fun p => p.1.asksAt p.2)).Pairwise
      (fun m n => m.toNat + 2000000000 < n.toNat) := by
  have hspaced := (faulting_spaced (next sink lib) readings (fun s => s.lastFrameNs.toNat)
    (fun s e => (s.asksAt e).map UInt64.toNat) 2000000000 (fun s e s' h => stored_of_readings h)
    ?_ ?_ s₀ es hclock ?_).1
  · rw [← List.map_filterMap, List.pairwise_map] at hspaced
    exact hspaced
  · intro s e n hn hclock
    unfold asksAt at hn
    unfold readings at hclock
    cases haction : s.action e with
    | ask now stored =>
        rw [haction] at hn hclock
        obtain rfl := Option.some.inj hn
        have hahead := hclock now.toNat List.mem_cons_self
        have hstalled := of_decide_eq_true (stalled_of_ask haction)
        have hfar := UInt64.lt_iff_toNat_lt.1 hstalled.2
        rw [UInt64.toNat_sub_of_le _ _ (UInt64.le_iff_toNat_le.2 hahead)] at hfar
        have hstall : kStallNs.toNat = 2000000000 := rfl
        omega
    | none | poll | decode | present =>
        rw [haction] at hn
        cases hn
  · intro s e s' n h hn hsorted
    have hlast := (passes_next h).last
    unfold asksAt at hn
    unfold mark at hlast
    unfold readings at hsorted
    cases haction : s.action e with
    | ask now stored =>
        rw [haction] at hn hlast hsorted
        obtain rfl := Option.some.inj hn
        have hlast : s'.lastFrameNs = stored := hlast
        rw [hlast]
        exact (List.pairwise_cons.1 hsorted).1 _ (List.mem_singleton.2 rfl)
    | none | poll | decode | present =>
        rw [haction] at hn
        cases hn
  · intro r _
    rw [hstart]
    exact Nat.zero_le r

/-- No frame comes after the first; the watchdog looks at the fourth second and at the seventh. -/
def silence : List ClientEvent :=
  framePlayed ++ List.replicate 6 (.thread (answersAt 4000000000)) ++
    [.thread (answersAt 7000000000)]

theorem requests_spaced_silence :
    ((stepsOf (next noSink onePicture) playing silence).filterMap
        (fun p => p.1.asksAt p.2)).Pairwise (fun m n => m.toNat + 2000000000 < n.toNat) :=
  requests_spaced rfl silence (by decide +kernel)

example : (stepsOf (next noSink onePicture) playing silence).filterMap (fun p => p.1.asksAt p.2) =
    [4000000000, 7000000000] := by
  decide +kernel

end ClientStreamer

end RemotePlay.Media
