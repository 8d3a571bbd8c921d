import RemotePlay.Encoding.ScalerCache
import RemotePlay.Host.HostStreamer
import RemotePlay.Lib.Faults

set_option autoImplicit false

/-! # What the capture thread does over a run (`host/HostStreamer.cpp`)

`Pass` says what a step of the thread can do, with its guards; a run is the machine `faulting (next lib)`
from a streamer that has started. -/

namespace RemotePlay.Media

namespace HostStreamer

/-- A restart would get an encoder. -/
def reopens (lib : Libav) (s : HostStreamer) (opens : Bytes → OpenEnd) : Bool :=
  s.running && (VideoEncoder.init lib {} (s.encoderParams s.currentKbps) opens).2

/-- The steps of the thread that do not fault. -/
inductive Pass (lib : Libav) (s : HostStreamer) (a : PassAnswers) :
    HostStreamer → List StreamerEffect → Prop
  | enter (hpos : s.position = .loop) (hrun : s.running = true) :
      Pass lib s a { s with position := .restart } []
  | leave (hpos : s.position = .loop) (hrun : s.running = false) :
      Pass lib s a { s with position := .ended } []
  | keep (hpos : s.position = .restart) (hreq : s.restartRequested = false) :
      Pass lib s a { s with position := .capture } []
  | restarted (e : VideoEncoder) (hpos : s.position = .restart) (hreq : s.restartRequested = true)
      (hrun : s.running = true)
      (hinit : VideoEncoder.init lib {} (s.encoderParams s.currentKbps) a.opens = (e, true)) :
      Pass lib s a { s with restartRequested := false, encoder := some e, position := .capture } []
  | restartFailed (hpos : s.position = .restart) (hreq : s.restartRequested = true)
      (hfails : s.reopens lib a.opens = false) :
      Pass lib s a
        { s with
          restartRequested := false
          forcedEncoder := recoveryEncoder s.cfg.codec
          position := .recovery }
        [.error .restartFailed]
  | recovered (e : VideoEncoder) (hpos : s.position = .recovery) (hrun : s.running = true)
      (hinit : VideoEncoder.init lib {} (s.encoderParams s.currentKbps) a.opens = (e, true)) :
      Pass lib s a { s with encoder := some e, position := .capture } []
  | recoveryFailed (hpos : s.position = .recovery)
      (hfails : s.reopens lib a.opens = false) :
      Pass lib s a { s with running := false, position := .ended } [.error .recoveryFailed]
  | waited (e : VideoEncoder) (capture : DisplayCapture) (hpos : s.position = .capture)
      (henc : s.encoder = some e)
      (hcap : (s.refreshCrop a.window).capture.capture true a.capture = .ok (capture, .timedOut)) :
      Pass lib s a { s.refreshCrop a.window with capture := capture, position := .loop } []
  | failedOnce (e : VideoEncoder) (capture : DisplayCapture) (hpos : s.position = .capture)
      (henc : s.encoder = some e)
      (hcap : (s.refreshCrop a.window).capture.capture true a.capture = .ok (capture, .failed))
      (hfew : s.consecutiveFailures + 1 < kMaxConsecutiveCaptureFailures) :
      Pass lib s a
        { s.refreshCrop a.window with
          capture := capture
          consecutiveFailures := s.consecutiveFailures + 1
          position := .reinit }
        []
  | gaveUp (e : VideoEncoder) (capture : DisplayCapture) (hpos : s.position = .capture)
      (henc : s.encoder = some e)
      (hcap : (s.refreshCrop a.window).capture.capture true a.capture = .ok (capture, .failed))
      (hmany : kMaxConsecutiveCaptureFailures ≤ s.consecutiveFailures + 1) :
      Pass lib s a
        { s.refreshCrop a.window with
          capture := capture
          consecutiveFailures := s.consecutiveFailures + 1
          running := false
          position := .ended }
        [.error .captureFailed]
  | captured (e : VideoEncoder) (capture : DisplayCapture) (frame : CaptureFrame)
      (hpos : s.position = .capture) (henc : s.encoder = some e)
      (hcap : (s.refreshCrop a.window).capture.capture true a.capture =
        .ok (capture, .captured frame)) :
      Pass lib s a
        { s.refreshCrop a.window with
          capture := capture
          consecutiveFailures := 0
          position := .encode frame }
        []
  | reinitialised (capture : DisplayCapture) (ok : Bool) (hpos : s.position = .reinit)
      (hinit : s.capture.init s.cfg.outputIndex false a.init = .ok (capture, ok)) :
      Pass lib s a { s with capture := capture, position := .loop } []
  | encodeFailed (e : VideoEncoder) (frame : CaptureFrame) (hpos : s.position = .encode frame)
      (henc : s.encoder = some e)
      (hok : (e.encode lib frame.width frame.height a.encode).ok = some false) :
      Pass lib s a
        { s with
          encoder := some (e.encode lib frame.width frame.height a.encode).encoder
          restartRequested := true
          position := .loop }
        []
  | encoded (e : VideoEncoder) (frame : CaptureFrame) (hpos : s.position = .encode frame)
      (henc : s.encoder = some e)
      (hok : (e.encode lib frame.width frame.height a.encode).ok = some true) :
      Pass lib s a
        { s with
          encoder := some (e.encode lib frame.width frame.height a.encode).encoder
          position := .bitrate }
        ((e.encode lib frame.width frame.height a.encode).out.map
          (fun p => .sendFrame p.keyframe p.data (frame.timestampUs * 1000)))
  | repaced (e : VideoEncoder) (hpos : s.position = .bitrate) (henc : s.encoder = some e) :
      Pass lib s a
        { s with
          encoder := some (e.applyBitrateIfDirty lib a.opens).1
          position := .loop }
        []
  | stranded (henc : s.encoder = none) : Pass lib s a { s with position := .ended } []

/-- `performEncoderRestart` opens an encoder while the streamer runs, or it changes nothing. -/
theorem performEncoderRestart_cases (lib : Libav) (s : HostStreamer) (opens : Bytes → OpenEnd) :
    (∃ e, s.running = true ∧
      VideoEncoder.init lib {} (s.encoderParams s.currentKbps) opens = (e, true) ∧
      s.performEncoderRestart lib opens = ({ s with encoder := some e }, true)) ∨
    s.reopens lib opens = false ∧ s.performEncoderRestart lib opens = (s, false) := by
  unfold performEncoderRestart reopens
  cases hrun : s.running with
  | false => exact Or.inr ⟨rfl, rfl⟩
  | true =>
      cases hinit : VideoEncoder.init lib {} (s.encoderParams s.currentKbps) opens with
      | mk e ok =>
          cases ok with
          | true => exact Or.inl ⟨e, rfl, rfl, rfl⟩
          | false => exact Or.inr ⟨rfl, rfl⟩

@[simp] theorem refreshCrop_consecutiveFailures (s : HostStreamer) (window : Option ClientArea) :
    (s.refreshCrop window).consecutiveFailures = s.consecutiveFailures := by
  unfold refreshCrop
  split
  · rfl
  · split <;> rfl

theorem captureFrame_pass {lib : Libav} {s s' : HostStreamer} {a : PassAnswers} {e : VideoEncoder}
    {out : List StreamerEffect} (hpos : s.position = .capture) (henc : s.encoder = some e)
    (h : s.captureFrame a = .ok (s', out)) : Pass lib s a s' out := by
  unfold captureFrame at h
  dsimp only at h
  split at h
  · cases h
  · next capture hcap =>
      obtain ⟨rfl, rfl⟩ := Prod.mk.inj (Except.ok.inj h)
      exact .waited e capture hpos henc hcap
  · next capture hcap =>
      rw [refreshCrop_consecutiveFailures] at h
      split at h
      · next hmany =>
          obtain ⟨rfl, rfl⟩ := Prod.mk.inj (Except.ok.inj h)
          exact .gaveUp e capture hpos henc hcap hmany
      · next hfew =>
          obtain ⟨rfl, rfl⟩ := Prod.mk.inj (Except.ok.inj h)
          exact .failedOnce e capture hpos henc hcap (Nat.lt_of_not_le hfew)
  · next capture frame hcap =>
      obtain ⟨rfl, rfl⟩ := Prod.mk.inj (Except.ok.inj h)
      exact .captured e capture frame hpos henc hcap

theorem encodeFrame_pass {lib : Libav} {s s' : HostStreamer} {a : PassAnswers} {e : VideoEncoder}
    {frame : CaptureFrame} {out : List StreamerEffect} (hpos : s.position = .encode frame)
    (henc : s.encoder = some e) (h : s.encodeFrame lib e frame a = .ok (s', out)) :
    Pass lib s a s' out := by
  unfold encodeFrame at h
  dsimp only at h
  split at h
  · cases h
  · next hok =>
      obtain ⟨rfl, rfl⟩ := Prod.mk.inj (Except.ok.inj h)
      exact .encodeFailed e frame hpos henc hok
  · next hok =>
      obtain ⟨rfl, rfl⟩ := Prod.mk.inj (Except.ok.inj h)
      exact .encoded e frame hpos henc hok

/-- **One step of the thread.** -/
theorem captureLoop_pass {lib : Libav} {s s' : HostStreamer} {a : PassAnswers}
    {out : List StreamerEffect} (hlive : s.position ≠ .ended)
    (h : s.captureLoop lib a = .ok (s', out)) : Pass lib s a s' out := by
  unfold captureLoop at h
  split at h
  · next hpos =>
      obtain ⟨rfl, rfl⟩ := Prod.mk.inj (Except.ok.inj h)
      by_cases hrun : s.running = true
      · rw [if_pos hrun]
        exact .enter hpos hrun
      · rw [if_neg hrun]
        exact .leave hpos (Bool.eq_false_iff.2 hrun)
  · next hpos =>
      split at h
      · next hreq =>
          obtain ⟨rfl, rfl⟩ := Prod.mk.inj (Except.ok.inj h)
          exact .keep hpos (by simpa using hreq)
      · next hreq =>
          rw [Bool.not_eq_true', Bool.not_eq_false] at hreq
          rcases performEncoderRestart_cases lib { s with restartRequested := false } a.opens with
            ⟨e, hrun, hinit, heq⟩ | ⟨hfails, heq⟩
          · rw [heq] at h
            obtain ⟨rfl, rfl⟩ := Prod.mk.inj (Except.ok.inj h)
            exact .restarted e hpos hreq hrun hinit
          · rw [heq] at h
            obtain ⟨rfl, rfl⟩ := Prod.mk.inj (Except.ok.inj h)
            exact .restartFailed hpos hreq hfails
  · next hpos =>
      rcases performEncoderRestart_cases lib s a.opens with
        ⟨e, hrun, hinit, heq⟩ | ⟨hfails, heq⟩
      · rw [heq] at h
        obtain ⟨rfl, rfl⟩ := Prod.mk.inj (Except.ok.inj h)
        exact .recovered e hpos hrun hinit
      · rw [heq] at h
        obtain ⟨rfl, rfl⟩ := Prod.mk.inj (Except.ok.inj h)
        exact .recoveryFailed hpos hfails
  · next e hpos henc => exact captureFrame_pass hpos henc h
  · next hpos =>
      split at h
      · cases h
      · next capture ok hinit =>
          obtain ⟨rfl, rfl⟩ := Prod.mk.inj (Except.ok.inj h)
          exact .reinitialised capture ok hpos hinit
  · next frame e hpos henc => exact encodeFrame_pass hpos henc h
  · next e hpos henc =>
      obtain ⟨rfl, rfl⟩ := Prod.mk.inj (Except.ok.inj h)
      exact .repaced e hpos henc
  · next henc =>
      obtain ⟨rfl, rfl⟩ := Prod.mk.inj (Except.ok.inj h)
      exact .stranded henc
  · next henc =>
      obtain ⟨rfl, rfl⟩ := Prod.mk.inj (Except.ok.inj h)
      exact .stranded henc
  · next henc =>
      obtain ⟨rfl, rfl⟩ := Prod.mk.inj (Except.ok.inj h)
      exact .stranded henc
  · next hpos => exact absurd hpos hlive

/-- What a successful `start` leaves. -/
theorem start_cases {lib : Libav} {forced : Bytes} {cfg : StreamConfig} {init : InitEnd}
    {opens : Bytes → OpenEnd} {s : HostStreamer} (h : start lib forced cfg init opens = .ok (s, true)) :
    ∃ capture e,
      DisplayCapture.init {} cfg.outputIndex true init = .ok (capture, true) ∧
      VideoEncoder.init lib {}
        (encoderParams { cfg, forcedEncoder := forced } cfg.bitrateKbps) opens = (e, true) ∧
      s =
        { cfg
          forcedEncoder := forced
          running := true
          capture := capture
          encoder := some e
          position := .loop } := by
  unfold start at h
  dsimp only at h
  split at h
  · cases h
  · cases (Prod.mk.inj (Except.ok.inj h)).2
  · next capture hcapture =>
      split at h
      · cases (Prod.mk.inj (Except.ok.inj h)).2
      · next e hinit =>
          obtain ⟨rfl, -⟩ := Prod.mk.inj (Except.ok.inj h)
          exact ⟨capture, e, hcapture, hinit, rfl⟩

/-- What an event is reported or sends; nothing if it faults. -/
def outputs (lib : Libav) (s : HostStreamer) (e : StreamerEvent) : List StreamerEffect :=
  match s.handle lib e with
  | .ok (_, out) => out
  | .error _ => []

/-- A step of the thread that does not fault is a pass, unless the thread has ended. -/
theorem next_thread {lib : Libav} {s s' : HostStreamer} {a : PassAnswers}
    (h : s.next lib (.thread a) = .ok s') :
    s.position = .ended ∧ s' = s ∧ s.outputs lib (.thread a) = [] ∨
      s.position ≠ .ended ∧ s.Pass lib a s' (s.outputs lib (.thread a)) := by
  have hhandle : s.handle lib (.thread a) = s.captureLoop lib a := rfl
  unfold next at h
  unfold outputs
  rw [hhandle] at h ⊢
  by_cases hended : s.position = .ended
  · have heq : s.captureLoop lib a = .ok (s, []) := by
      unfold captureLoop
      simp [hended]
    rw [heq] at h ⊢
    exact Or.inl ⟨hended, (Except.ok.inj h).symm, rfl⟩
  · cases hok : s.captureLoop lib a with
    | error x =>
        rw [hok] at h
        cases h
    | ok r =>
        rw [hok] at h
        obtain rfl := Except.ok.inj h
        exact Or.inr ⟨hended, captureLoop_pass hended hok⟩

/-! ## What a pass leaves alone -/

/-- Without its window, a window capture becomes one of the monitor; nothing else changes. -/
theorem refreshCrop_eq (s : HostStreamer) (window : Option ClientArea) :
    ∃ stays, s.refreshCrop window =
      { s with
        cfg := { s.cfg with window := stays }
        capture := (s.refreshCrop window).capture } := by
  unfold refreshCrop
  split
  · exact ⟨s.cfg.window, rfl⟩
  · split
    · exact ⟨s.cfg.window, rfl⟩
    · exact ⟨false, rfl⟩

section RefreshCrop

variable (s : HostStreamer) (window : Option ClientArea)

@[simp] theorem refreshCrop_encoder : (s.refreshCrop window).encoder = s.encoder := by
  obtain ⟨stays, heq⟩ := s.refreshCrop_eq window
  rw [heq]

@[simp] theorem refreshCrop_running : (s.refreshCrop window).running = s.running := by
  obtain ⟨stays, heq⟩ := s.refreshCrop_eq window
  rw [heq]

@[simp] theorem refreshCrop_restartRequested :
    (s.refreshCrop window).restartRequested = s.restartRequested := by
  obtain ⟨stays, heq⟩ := s.refreshCrop_eq window
  rw [heq]

@[simp] theorem refreshCrop_forcedEncoder : (s.refreshCrop window).forcedEncoder = s.forcedEncoder := by
  obtain ⟨stays, heq⟩ := s.refreshCrop_eq window
  rw [heq]

@[simp] theorem refreshCrop_codec : (s.refreshCrop window).cfg.codec = s.cfg.codec := by
  obtain ⟨stays, heq⟩ := s.refreshCrop_eq window
  rw [heq]

end RefreshCrop

/-- The bitrate of the encoder that a step opens. -/
def openedKbps (lib : Libav) (s : HostStreamer) (e : StreamerEvent) : Option Int :=
  match e with
  | .thread a =>
      match s.position, s.encoder with
      | .restart, _ => if s.restartRequested && s.reopens lib a.opens then some s.currentKbps else none
      | .recovery, _ => if s.reopens lib a.opens then some s.currentKbps else none
      | .bitrate, some e =>
          if (e.applyBitrateIfDirty lib a.opens).2 then some e.params.bitrateKbps else none
      | _, _ => none
  | _ => none

/-- The encoder after a pass: the one before, a new one, or the one before after a call. -/
theorem Pass.encoder {lib : Libav} {s s' : HostStreamer} {a : PassAnswers} {out : List StreamerEffect}
    (h : Pass lib s a s' out) {e : VideoEncoder} (he : s.encoder = some e) :
    s'.encoder = some e ∧ s.openedKbps lib (.thread a) = none ∨
      (∃ e', VideoEncoder.init lib {} (s.encoderParams s.currentKbps) a.opens = (e', true) ∧
        s'.encoder = some e' ∧ s.openedKbps lib (.thread a) = some s.currentKbps) ∨
      (∃ frame, s.position = .encode frame ∧
        s'.encoder = some (e.encode lib frame.width frame.height a.encode).encoder ∧
        s.openedKbps lib (.thread a) = none) ∨
      s.position = .bitrate ∧ s'.encoder = some (e.applyBitrateIfDirty lib a.opens).1 ∧
        s.openedKbps lib (.thread a) =
          if (e.applyBitrateIfDirty lib a.opens).2 then some e.params.bitrateKbps else none := by
  unfold openedKbps
  cases h with
  | enter hpos | leave hpos | reinitialised capture ok hpos => exact Or.inl ⟨he, by simp [hpos]⟩
  | keep hpos hreq => exact Or.inl ⟨he, by simp [hpos, hreq]⟩
  | restartFailed hpos hreq hfails => exact Or.inl ⟨he, by simp [hpos, hfails]⟩
  | recoveryFailed hpos hfails => exact Or.inl ⟨he, by simp [hpos, hfails]⟩
  | waited e' capture hpos henc hcap | failedOnce e' capture hpos henc hcap
  | gaveUp e' capture hpos henc hcap | captured e' capture frame hpos henc hcap =>
      exact Or.inl ⟨by simpa using he, by simp [hpos]⟩
  | restarted e' hpos hreq hrun hinit =>
      exact Or.inr (Or.inl ⟨e', hinit, rfl, by simp [hpos, hreq, reopens, hrun, hinit]⟩)
  | recovered e' hpos hrun hinit =>
      exact Or.inr (Or.inl ⟨e', hinit, rfl, by simp [hpos, reopens, hrun, hinit]⟩)
  | encodeFailed e' frame hpos henc hok =>
      obtain rfl := Option.some.inj (he.symm.trans henc)
      exact Or.inr (Or.inr (Or.inl ⟨frame, hpos, rfl, by simp [hpos]⟩))
  | encoded e' frame hpos henc hok =>
      obtain rfl := Option.some.inj (he.symm.trans henc)
      exact Or.inr (Or.inr (Or.inl ⟨frame, hpos, rfl, by simp [hpos]⟩))
  | repaced e' hpos henc =>
      obtain rfl := Option.some.inj (he.symm.trans henc)
      exact Or.inr (Or.inr (Or.inr ⟨hpos, rfl, by simp [hpos, henc]⟩))
  | stranded henc =>
      rw [he] at henc
      cases henc

/-- The thread has an encoder until it has ended. -/
def Equipped (s : HostStreamer) : Prop := s.position ≠ .ended → s.encoder.isSome = true

theorem Pass.equipped {lib : Libav} {s s' : HostStreamer} {a : PassAnswers} {out : List StreamerEffect}
    (h : Pass lib s a s' out) (hs : s.encoder.isSome = true) : s'.encoder.isSome = true := by
  obtain ⟨e, he⟩ := Option.isSome_iff_exists.1 hs
  rcases h.encoder he with ⟨heq, -⟩ | ⟨e', -, heq, -⟩ | ⟨frame, -, heq, -⟩ | ⟨-, heq, -⟩
  · rw [heq]; rfl
  · rw [heq]; rfl
  · rw [heq]; rfl
  · rw [heq]; rfl

theorem equipped_next {lib : Libav} (s : HostStreamer) (e : StreamerEvent) (s' : HostStreamer)
    (hs : s.Equipped) (h : s.next lib e = .ok s') : s'.Equipped := by
  cases e with
  | thread a =>
      rcases next_thread h with ⟨hended, rfl, -⟩ | ⟨hlive, hpass⟩
      · exact hs
      · exact fun _ => hpass.equipped (hs hlive)
  | setBitrate kbps =>
      obtain rfl := Except.ok.inj h
      exact fun hlive => by simpa using hs hlive
  | lateBitrate kbps taken =>
      obtain rfl := Except.ok.inj h
      cases taken with
      | false => exact hs
      | true => exact fun hlive => by simpa using hs hlive
  | requestKeyframe =>
      obtain rfl := Except.ok.inj h
      exact fun hlive => by simpa using hs hlive
  | requestEncoderRestart | requestSoftwareEncoder | stop =>
      obtain rfl := Except.ok.inj h
      exact hs
  | joined =>
      obtain rfl := Except.ok.inj h
      by_cases hended : s.position = .ended
      · rw [if_pos hended]
        exact fun hlive => absurd hended hlive
      · rw [if_neg hended]
        exact hs

/-! ## How the thread ends -/

/-- What a call of `capture` in a step ends with. -/
def captureCall (s : HostStreamer) (e : StreamerEvent) : Option CaptureEnd :=
  match e with
  | .thread a =>
      match s.position, s.encoder with
      | .capture, some _ =>
          match (s.refreshCrop a.window).capture.capture true a.capture with
          | .ok (_, r) => some r
          | .error _ => none
      | _, _ => none
  | _ => none

/-- Whether a call of `capture` fails; a call that only waits does not count. -/
def captureFails (s : HostStreamer) (e : StreamerEvent) : Option Bool :=
  match s.captureCall e with
  | some .failed => some true
  | some (.captured _) => some false
  | some .timedOut | none => none

/-- How many of the calls of `capture` have failed since the last frame. -/
def failuresInARow (lib : Libav) (s : HostStreamer) (es : List StreamerEvent) : Nat :=
  (((stepsOf (next lib) s es).filterMap (fun p => p.1.captureFails p.2)).reverse.takeWhile id).length

/-- The counter after a pass. -/
theorem Pass.consecutiveFailures {lib : Libav} {s s' : HostStreamer} {a : PassAnswers}
    {out : List StreamerEffect} (h : Pass lib s a s' out) :
    s'.consecutiveFailures =
      match s.captureFails (.thread a) with
      | none => s.consecutiveFailures
      | some true => s.consecutiveFailures + 1
      | some false => 0 := by
  unfold captureFails captureCall
  cases h with
  | enter hpos | leave hpos | keep hpos | restarted e hpos | restartFailed hpos | recovered e hpos
  | recoveryFailed hpos | reinitialised capture ok hpos | encodeFailed e frame hpos
  | encoded e frame hpos | repaced e hpos =>
      simp [hpos]
  | waited e capture hpos henc hcap => simp [hpos, henc, hcap]
  | failedOnce e capture hpos henc hcap hfew => simp [hpos, henc, hcap]
  | gaveUp e capture hpos henc hcap hmany => simp [hpos, henc, hcap]
  | captured e capture frame hpos henc hcap => simp [hpos, henc, hcap]
  | stranded henc => simp [henc]

theorem consecutiveFailures_next {lib : Libav} (s : HostStreamer) (e : StreamerEvent)
    (s' : HostStreamer) (h : s.next lib e = .ok s') :
    s'.consecutiveFailures =
      match s.captureFails e with
      | none => s.consecutiveFailures
      | some true => s.consecutiveFailures + 1
      | some false => 0 := by
  cases e with
  | thread a =>
      rcases next_thread h with ⟨hended, rfl, -⟩ | ⟨hlive, hpass⟩
      · simp [captureFails, captureCall, hended]
      · exact hpass.consecutiveFailures
  | setBitrate | lateBitrate | requestKeyframe | requestEncoderRestart | requestSoftwareEncoder | stop =>
      obtain rfl := Except.ok.inj h
      rfl
  | joined =>
      obtain rfl := Except.ok.inj h
      by_cases hended : s.position = .ended
      · rw [if_pos hended]
        rfl
      · rw [if_neg hended]
        rfl

/-- While the thread goes on, fewer than ten calls in a row have failed. -/
def Patient (s : HostStreamer) : Prop :=
  s.position ≠ .ended → s.consecutiveFailures < kMaxConsecutiveCaptureFailures

theorem Pass.patient {lib : Libav} {s s' : HostStreamer} {a : PassAnswers} {out : List StreamerEffect}
    (h : Pass lib s a s' out) (hs : s.consecutiveFailures < kMaxConsecutiveCaptureFailures) :
    s'.Patient := by
  cases h with
  | enter | keep | restarted | restartFailed | recovered | reinitialised | encodeFailed | encoded
  | repaced =>
      exact fun _ => hs
  | waited => exact fun _ => by simpa using hs
  | failedOnce e capture hpos henc hcap hfew => exact fun _ => hfew
  | captured => exact fun _ => Nat.succ_pos _
  | leave | recoveryFailed | gaveUp | stranded => exact fun hlive => absurd rfl hlive

theorem patient_next {lib : Libav} (s : HostStreamer) (e : StreamerEvent) (s' : HostStreamer)
    (hs : s.Patient) (h : s.next lib e = .ok s') : s'.Patient := by
  cases e with
  | thread a =>
      rcases next_thread h with ⟨hended, rfl, -⟩ | ⟨hlive, hpass⟩
      · exact hs
      · exact hpass.patient (hs hlive)
  | setBitrate | lateBitrate | requestKeyframe | requestEncoderRestart | requestSoftwareEncoder | stop =>
      obtain rfl := Except.ok.inj h
      exact hs
  | joined =>
      obtain rfl := Except.ok.inj h
      by_cases hended : s.position = .ended
      · rw [if_pos hended]
        exact fun hlive => absurd hended hlive
      · rw [if_neg hended]
        exact hs

/-- The reports after which the thread is over. -/
def Final (e : StreamerEffect) : Prop := e = .error .captureFailed ∨ e = .error .recoveryFailed

/-- A pass stops the streamer exactly with a final report. -/
theorem Pass.running_iff {lib : Libav} {s s' : HostStreamer} {a : PassAnswers}
    {out : List StreamerEffect} (h : Pass lib s a s' out) :
    s'.running = false ↔ s.running = false ∨ ∃ r ∈ out, Final r := by
  cases h with
  | enter | leave | keep | restarted | recovered | reinitialised | encodeFailed | repaced | stranded =>
      simp
  | waited | failedOnce | captured => simp
  | restartFailed => simp [Final]
  | recoveryFailed | gaveUp => simp [Final]
  | encoded => simp [Final]

/-- Where a report of ten failures comes from. -/
theorem Pass.captureFailed_iff {lib : Libav} {s s' : HostStreamer} {a : PassAnswers}
    {out : List StreamerEffect} (h : Pass lib s a s' out) :
    .error .captureFailed ∈ out ↔
      s.captureFails (.thread a) = some true ∧
        kMaxConsecutiveCaptureFailures ≤ s.consecutiveFailures + 1 := by
  unfold captureFails captureCall
  cases h with
  | enter hpos | leave hpos | keep hpos | restarted e hpos | restartFailed hpos | recovered e hpos
  | recoveryFailed hpos | reinitialised capture ok hpos | encodeFailed e frame hpos
  | encoded e frame hpos | repaced e hpos =>
      simp [hpos]
  | waited e capture hpos henc hcap => simp [hpos, henc, hcap]
  | failedOnce e capture hpos henc hcap hfew => simpa [hpos, henc, hcap] using hfew
  | gaveUp e capture hpos henc hcap hmany => simpa [hpos, henc, hcap] using hmany
  | captured e capture frame hpos henc hcap => simp [hpos, henc, hcap]
  | stranded henc => simp [henc]

theorem running_next {lib : Libav} (s : HostStreamer) (e : StreamerEvent) (s' : HostStreamer)
    (h : s.next lib e = .ok s') :
    s'.running = false ↔
      s.running = false ∨ e = .stop ∨ ∃ r ∈ s.outputs lib e, Final r := by
  cases e with
  | thread a =>
      rcases next_thread h with ⟨hended, rfl, hout⟩ | ⟨hlive, hpass⟩
      · simp [hout]
      · simpa using hpass.running_iff
  | setBitrate | lateBitrate | requestKeyframe | requestEncoderRestart | requestSoftwareEncoder =>
      obtain rfl := Except.ok.inj h
      simp [outputs, handle]
  | stop =>
      obtain rfl := Except.ok.inj h
      simp
  | joined =>
      obtain rfl := Except.ok.inj h
      by_cases hended : s.position = .ended
      · rw [if_pos hended]
        simp [outputs, handle]
      · rw [if_neg hended]
        simp [outputs, handle]

/-- The thread is over only when the streamer does not run. -/
def EndsStopped (s : HostStreamer) : Prop := s.Equipped ∧ (s.position = .ended → s.running = false)

theorem Pass.endsStopped {lib : Libav} {s s' : HostStreamer} {a : PassAnswers}
    {out : List StreamerEffect} (h : Pass lib s a s' out) (henc : s.encoder.isSome = true)
    (hended : s'.position = .ended) : s'.running = false := by
  cases h with
  | enter | keep | restarted | restartFailed | recovered | waited | failedOnce | captured
  | reinitialised | encodeFailed | encoded | repaced =>
      cases hended
  | leave hpos hrun => exact hrun
  | recoveryFailed | gaveUp => rfl
  | stranded hnone =>
      rw [hnone] at henc
      cases henc

theorem endsStopped_next {lib : Libav} (s : HostStreamer) (e : StreamerEvent) (s' : HostStreamer)
    (hs : s.EndsStopped) (h : s.next lib e = .ok s') : s'.EndsStopped := by
  refine ⟨equipped_next s e s' hs.1 h, fun hended => ?_⟩
  cases e with
  | thread a =>
      rcases next_thread h with ⟨-, rfl, -⟩ | ⟨hlive, hpass⟩
      · exact hs.2 hended
      · exact hpass.endsStopped (hs.1 hlive) hended
  | setBitrate | lateBitrate | requestKeyframe | requestEncoderRestart | requestSoftwareEncoder =>
      obtain rfl := Except.ok.inj h
      exact hs.2 hended
  | stop =>
      obtain rfl := Except.ok.inj h
      rfl
  | joined =>
      obtain rfl := Except.ok.inj h
      by_cases hpos : s.position = .ended
      · rw [if_pos hpos]
        exact hs.2 hpos
      · rw [if_neg hpos] at hended
        exact absurd hended hpos

/-- How many steps the thread takes at most once the streamer does not run any more. -/
def stepsLeft : CapturePosition → Nat
  | .ended => 0
  | .loop | .recovery => 1
  | .bitrate | .reinit => 2
  | .encode _ => 3
  | .capture => 4
  | .restart => 5

theorem Pass.stepsLeft_lt {lib : Libav} {s s' : HostStreamer} {a : PassAnswers}
    {out : List StreamerEffect} (h : Pass lib s a s' out) (hlive : s.position ≠ .ended)
    (hrun : s.running = false) : stepsLeft s'.position < stepsLeft s.position := by
  cases h with
  | enter hpos htrue | restarted e hpos hreq htrue hinit | recovered e hpos htrue hinit =>
      rw [hrun] at htrue
      cases htrue
  | leave hpos | keep hpos | restartFailed hpos | recoveryFailed hpos | waited e capture hpos
  | failedOnce e capture hpos | gaveUp e capture hpos | captured e capture frame hpos
  | reinitialised capture ok hpos | encodeFailed e frame hpos | encoded e frame hpos
  | repaced e hpos =>
      simp [hpos, stepsLeft]
  | stranded henc =>
      cases hpos : s.position with
      | ended => exact absurd hpos hlive
      | loop | restart | recovery | capture | reinit | encode frame | bitrate => exact Nat.succ_pos _

/-- A step of the thread. -/
def isThread : StreamerEvent → Bool
  | .thread _ => true
  | _ => false

/-- Whatever else happens: five steps after it was stopped, the thread is over. -/
theorem ended_of_not_running {lib : Libav} {s t : HostStreamer} (hrun : s.running = false)
    (es : List StreamerEvent) (hreach : runFrom (faulting (next lib)) (.ok s) es = .ok t)
    (hsteps : 5 ≤ es.countP isThread) : t.position = .ended := by
  have hinv : t.running = false ∧
      (t.position = .ended ∨
        stepsLeft t.position + es.countP isThread ≤ stepsLeft s.position) := by
    refine runFrom_faulting_induction (next lib)
      (fun es t => t.running = false ∧
        (t.position = .ended ∨
          stepsLeft t.position + es.countP isThread ≤ stepsLeft s.position))
      ⟨hrun, Or.inr (Nat.le_refl _)⟩ ?_ es hreach
    rintro es t e t' - ⟨hstopped, hleft⟩ hnext
    refine ⟨(running_next t e t' hnext).2 (Or.inl hstopped), ?_⟩
    rw [List.countP_append, List.countP_singleton]
    cases e with
    | thread a =>
        rcases next_thread hnext with ⟨hended, rfl, -⟩ | ⟨hlive, hpass⟩
        · exact Or.inl hended
        · have hlt := hpass.stepsLeft_lt hlive hstopped
          have hle := hleft.resolve_left hlive
          exact Or.inr (by simp only [isThread, if_true]; omega)
    | setBitrate | lateBitrate | requestKeyframe | requestEncoderRestart | requestSoftwareEncoder | stop =>
        obtain rfl := Except.ok.inj hnext
        exact hleft
    | joined =>
        obtain rfl := Except.ok.inj hnext
        by_cases hpos : t.position = .ended
        · rw [if_pos hpos]
          exact Or.inl hpos
        · rw [if_neg hpos]
          exact hleft
  rcases hinv with ⟨-, hended | hle⟩
  · exact hended
  · have hzero : stepsLeft t.position = 0 := by
      have hmax : stepsLeft s.position ≤ 5 := by
        cases s.position <;> simp [stepsLeft]
      omega
    cases hpos : t.position with
    | ended => rfl
    | loop | restart | recovery | capture | reinit | encode frame | bitrate =>
        rw [hpos] at hzero
        cases hzero

open ScalerRun (imgutils)

section Started

variable {lib : Libav} {forced : Bytes} {cfg : StreamConfig} {init : InitEnd}
  {opens : Bytes → OpenEnd} {s t : HostStreamer}

theorem running_iff (hstart : start lib forced cfg init opens = .ok (s, true))
    (es : List StreamerEvent) (hrun : runFrom (faulting (next lib)) (.ok s) es = .ok t) :
    t.running = false ↔
      .stop ∈ es ∨ ∃ p ∈ stepsOf (next lib) s es, ∃ r ∈ p.1.outputs lib p.2, Final r := by
  obtain ⟨capture, e, -, -, rfl⟩ := start_cases hstart
  refine runFrom_faulting_induction (next lib)
    (fun es t => t.running = false ↔
      .stop ∈ es ∨ ∃ p ∈ stepsOf (next lib) _ es, ∃ r ∈ p.1.outputs lib p.2, Final r)
    (by simp [stepsOf]) ?_ es hrun
  intro es t e t' hreach ih hnext
  rw [running_next t e t' hnext, ih, stepsOf_concat (next lib) hreach]
  simp only [List.mem_append, List.mem_singleton, or_and_right, exists_or, exists_eq_left,
    eq_comm (a := StreamerEvent.stop)]
  exact or_or_or_comm

/-- **How a stream ends.** The thread is over only in a streamer that does not run; and a streamer stops
    for a call of `stop` or with a final report, five steps before the end of its thread at most. -/
theorem ended_only_for_a_reason (hstart : start lib forced cfg init opens = .ok (s, true))
    (es : List StreamerEvent) (hrun : runFrom (faulting (next lib)) (.ok s) es = .ok t) :
    (t.position = .ended → t.running = false) ∧
      (t.running = false ↔
        .stop ∈ es ∨ ∃ p ∈ stepsOf (next lib) s es, ∃ r ∈ p.1.outputs lib p.2, Final r) ∧
      ∀ fs t', t.running = false → runFrom (faulting (next lib)) (.ok t) fs = .ok t' →
        5 ≤ fs.countP isThread → t'.position = .ended := by
  have hends : t.EndsStopped := by
    obtain ⟨capture, e, -, -, rfl⟩ := start_cases hstart
    exact runFrom_faulting_invariant (next lib) EndsStopped endsStopped_next
      ⟨fun _ => rfl, fun hended => by cases hended⟩ es hrun
  refine ⟨hends.2, running_iff hstart es hrun, fun fs t' hstopped hreach hsteps => ?_⟩
  exact ended_of_not_running hstopped fs hreach hsteps

/-- A platform without a frame to capture. -/
def noFrame : PassAnswers where
  opens _ := .opened
  window := none
  capture := { map := .noTexture }
  init := .ready ⟨0, 0, 1920, 1080⟩
  encode := {}

/-- A streamer of the whole desktop that has just started. -/
def streaming : HostStreamer where
  running := true
  capture :=
    { duplication := true
      staging := some (1920, 1080)
      monWidth := 1920
      monHeight := 1080
      outWidth := 1920
      outHeight := 1080 }
  encoder := some { opened := true, encoderName := ascii "h264_nvenc" }
  position := .loop

theorem start_streaming :
    start imgutils [] {} (.ready ⟨0, 0, 1920, 1080⟩) (fun _ => .opened) = .ok (streaming, true) := rfl

theorem ended_only_for_a_reason_noFrame :
    ∃ t, runFrom (faulting (next imgutils)) (.ok streaming) [.stop, .thread noFrame] = .ok t ∧
      (t.position = .ended → t.running = false) ∧
      (t.running = false ↔
        StreamerEvent.stop ∈ [.stop, .thread noFrame] ∨
          ∃ p ∈ stepsOf (next imgutils) streaming [.stop, .thread noFrame],
            ∃ r ∈ p.1.outputs imgutils p.2, Final r) ∧
      ∀ fs t', t.running = false → runFrom (faulting (next imgutils)) (.ok t) fs = .ok t' →
        5 ≤ fs.countP isThread → t'.position = .ended :=
  ⟨_, rfl, ended_only_for_a_reason start_streaming _ rfl⟩

/-- The counter of the thread is that of the run. -/
theorem failures_of_run (hstart : start lib forced cfg init opens = .ok (s, true))
    (es : List StreamerEvent) (hrun : runFrom (faulting (next lib)) (.ok s) es = .ok t) :
    t.consecutiveFailures = failuresInARow lib s es ∧ t.Patient := by
  obtain ⟨capture, e, -, -, rfl⟩ := start_cases hstart
  refine ⟨?_, ?_⟩
  · exact faulting_eq_tally (next lib) captureFails HostStreamer.consecutiveFailures
      consecutiveFailures_next rfl es hrun
  · exact runFrom_faulting_invariant (next lib) Patient patient_next
      (fun _ => Nat.succ_pos _) es hrun

/-- **When a stream gives up.** The report of it comes with the tenth failure in a row. -/
theorem captureFailed_reported_iff (hstart : start lib forced cfg init opens = .ok (s, true))
    (es : List StreamerEvent) (hrun : runFrom (faulting (next lib)) (.ok s) es = .ok t)
    (e : StreamerEvent) {t' : HostStreamer} (hnext : t.next lib e = .ok t') :
    .error .captureFailed ∈ t.outputs lib e ↔
      t.captureFails e = some true ∧ failuresInARow lib s es = 9 := by
  obtain ⟨hcount, hpatient⟩ := failures_of_run hstart es hrun
  rw [← hcount]
  cases e with
  | thread a =>
      rcases next_thread hnext with ⟨hended, rfl, hout⟩ | ⟨hlive, hpass⟩
      · simp [hout, captureFails, captureCall, hended]
      · have hfew := hpatient hlive
        rw [hpass.captureFailed_iff]
        refine and_congr_right fun _ => ?_
        unfold kMaxConsecutiveCaptureFailures at hfew ⊢
        omega
  | setBitrate | lateBitrate | requestKeyframe | requestEncoderRestart | requestSoftwareEncoder | joined =>
      simp [outputs, handle, captureFails, captureCall]
  | stop =>
      simp only [outputs, handle, captureFails, captureCall]
      split <;> simp

theorem captureFailed_reported_iff_noFrame :
    ∃ t t',
      runFrom (faulting (next imgutils)) (.ok streaming) [.thread noFrame, .thread noFrame] = .ok t ∧
        t.next imgutils (.thread noFrame) = .ok t' ∧
        (.error .captureFailed ∈ t.outputs imgutils (.thread noFrame) ↔
          t.captureFails (.thread noFrame) = some true ∧
            failuresInARow imgutils streaming [.thread noFrame, .thread noFrame] = 9) :=
  ⟨_, _, rfl, rfl, captureFailed_reported_iff start_streaming _ rfl _ rfl⟩

end Started

end HostStreamer

end RemotePlay.Media
