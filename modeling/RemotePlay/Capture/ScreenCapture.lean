import RemotePlay.Encoding.VideoEncoder

set_option autoImplicit false

/-! # Desktop capture (`capture/ScreenCapture.cpp`)

The desktop is duplicated into a staging texture that the CPU can map; a window is captured by cropping
the frame to its client area. What DXGI and D3D11 answer is part of a call, and undefined behaviour is
the result `CaptureFault`. An `int` is an `Int`. The device and the output, which `init` makes anew each
time, the pixels, times and error texts are left out. -/

namespace RemotePlay.Media

/-- `DXGI_OUTPUT_DESC::DesktopCoordinates`. -/
structure DesktopRect where
  left : Int
  top : Int
  right : Int
  bottom : Int
deriving DecidableEq, Repr

/-- The client area of a window: where its corner is on the screen, and its size. -/
structure ClientArea where
  x : Int
  y : Int
  w : Int
  h : Int
deriving DecidableEq, Repr

/-- How far `init` gets, with the coordinates of the output once they are known. -/
inductive InitEnd where
  | noFactory
  | noOutput
  | noAdapter
  | noDevice
  | noDesc
  | noOutput1 (od : DesktopRect)
  | notDuplicated (od : DesktopRect)
  | noStaging (od : DesktopRect)
  | ready (od : DesktopRect)
deriving DecidableEq, Repr

/-- What `AcquireNextFrame` returns. -/
inductive AcquireEnd where
  | acquired
  | waitTimeout
  | accessLost
  | failed
deriving DecidableEq, Repr

/-- What becomes of an acquired frame: it is a texture, and the staging texture is mapped. -/
inductive MapEnd where
  | noTexture
  | notMapped
  | mapped (rowPitch : Int)
deriving DecidableEq, Repr

/-- What a call of `capture` meets: `attempts` are the three of the loop after lost access. -/
structure CaptureAnswers where
  acquire : AcquireEnd := .acquired
  attempts : Vector (InitEnd × AcquireEnd) 3 := Vector.replicate 3 (.noFactory, .failed)
  map : MapEnd
  timestampUs : UInt64 := 0
deriving DecidableEq, Repr

inductive CaptureFault where
  /-- `duplicateOutput` writes to `*err` without a look at `err`. -/
  | nullErr
  /-- A frame is copied to a texture that is not there. -/
  | noStaging
deriving DecidableEq, Repr

/-- `CaptureFrame`, with `data` as an offset into the mapped texture. -/
structure CaptureFrame where
  data : Int
  width : Int
  height : Int
  stride : Int
  timestampUs : UInt64
  frameId : UInt32
deriving DecidableEq, Repr

/-- How a call of `capture` ends. -/
inductive CaptureEnd where
  | captured (frame : CaptureFrame)
  | timedOut
  | failed
deriving DecidableEq, Repr

/-- `DisplayCapture`; `staging` is the size of the staging texture and `mapped` the pitch it is mapped
    with. -/
structure DisplayCapture where
  duplication : Bool := false
  staging : Option (Int × Int) := none
  mapped : Option Int := none
  outputIndex : Int := 0
  monWidth : Int := 0
  monHeight : Int := 0
  monLeft : Int := 0
  monTop : Int := 0
  outWidth : Int := 0
  outHeight : Int := 0
  cropX : Int := 0
  cropY : Int := 0
  hasCrop : Bool := false
  frameCounter : UInt32 := 0
  accessLostCount : UInt32 := 0
deriving DecidableEq, Repr

namespace DisplayCapture

/-- `releaseAll`. -/
def releaseAll (s : DisplayCapture) : DisplayCapture :=
  { s with duplication := false, staging := none, mapped := none }

/-- The monitor, as `init` reads it off the output. -/
def setMonitor (s : DisplayCapture) (od : DesktopRect) : DisplayCapture :=
  { s with
    monWidth := od.right - od.left
    monHeight := od.bottom - od.top
    monLeft := od.left
    monTop := od.top }

/-- `clearCrop`. -/
def clearCrop (s : DisplayCapture) : DisplayCapture :=
  { s with
    hasCrop := false
    cropX := 0
    cropY := 0
    outWidth := s.monWidth
    outHeight := s.monHeight }

/-- The end of `init`: a staging texture of the size of the monitor, and no crop. -/
def setStaging (s : DisplayCapture) : DisplayCapture :=
  { s.clearCrop with staging := some (s.monWidth, s.monHeight), frameCounter := 0 }

/-- `DisplayCapture::init`; `err` says whether the caller passes a string for the error. -/
def init (s : DisplayCapture) (outputIndex : Int) (err : Bool) (e : InitEnd) :
    Except CaptureFault (DisplayCapture × Bool) :=
  let s := { s.releaseAll with outputIndex := outputIndex }
  match e with
  | .noFactory | .noOutput | .noAdapter | .noDevice | .noDesc => .ok (s, false)
  | .noOutput1 od => .ok (s.setMonitor od, false)
  | .notDuplicated od => if err then .ok (s.setMonitor od, false) else .error .nullErr
  | .noStaging od => .ok ({ s.setMonitor od with duplication := true }, false)
  | .ready od => .ok ({ s.setMonitor od with duplication := true }.setStaging, true)

/-- `++accessLostCount_`. -/
def countAccessLost (s : DisplayCapture) : DisplayCapture :=
  { s with accessLostCount := s.accessLostCount + 1 }

/-- The loop of `capture` after lost access; the result says whether it has a frame. -/
def reacquire (err : Bool) (s : DisplayCapture) :
    List (InitEnd × AcquireEnd) → Except CaptureFault (DisplayCapture × Bool)
  | [] => .ok (s, false)
  | (e, acquire) :: attempts =>
      match s.init s.outputIndex err e with
      | .error fault => .error fault
      | .ok (s, false) => s.reacquire err attempts
      | .ok (s, true) =>
          match acquire with
          | .acquired => .ok (s, true)
          | .accessLost => s.countAccessLost.reacquire err attempts
          | .waitTimeout | .failed => .ok (s, false)

/-- The frame that a mapped texture gives. -/
def frameAt (s : DisplayCapture) (rowPitch : Int) (timestampUs : UInt64) : CaptureFrame where
  data := s.cropY * rowPitch + s.cropX * 4
  width := s.outWidth
  height := s.outHeight
  stride := toInt rowPitch
  timestampUs := timestampUs
  frameId := s.frameCounter

/-- `capture` from an acquired frame on: it is copied to the staging texture, which is mapped. -/
def mapFrame (s : DisplayCapture) (o : CaptureAnswers) :
    Except CaptureFault (DisplayCapture × CaptureEnd) :=
  match o.map with
  | .noTexture => .ok (s, .failed)
  | .notMapped =>
      if s.staging.isNone then .error .noStaging else .ok ({ s with mapped := none }, .failed)
  | .mapped rowPitch =>
      if s.staging.isNone then .error .noStaging
      else
        let s := { s with mapped := some rowPitch, frameCounter := s.frameCounter + 1 }
        .ok (s, .captured (s.frameAt rowPitch o.timestampUs))

/-- `DisplayCapture::capture`. -/
def capture (s : DisplayCapture) (err : Bool) (o : CaptureAnswers) :
    Except CaptureFault (DisplayCapture × CaptureEnd) :=
  if !s.duplication then .ok (s, .failed)
  else
    match o.acquire with
    | .acquired => s.mapFrame o
    | .waitTimeout => .ok (s, .timedOut)
    | .failed => .ok (s, .failed)
    | .accessLost =>
        match s.countAccessLost.reacquire err o.attempts.toList with
        | .error fault => .error fault
        | .ok (s, false) => .ok (s, .failed)
        | .ok (s, true) => s.mapFrame o

/-- `setCropRect`. -/
def setCropRect (s : DisplayCapture) (x y w h : Int) : DisplayCapture :=
  { s with
    cropX := x
    cropY := y
    outWidth := w
    outHeight := h
    hasCrop := true }

/-- One axis of `updateWindowCrop`: `if (x < 0) { w += x; x = 0; } if (x + w > mon) w = mon - x;`. -/
def clipAxis (x w mon : Int) : Int × Int :=
  let p := if x < 0 then (0, w + x) else (x, w)
  (p.1, if mon < p.1 + p.2 then mon - p.1 else p.2)

/-- `updateWindowCrop`; a window that has vanished has no client area. -/
def updateWindowCrop (s : DisplayCapture) (window : Option ClientArea) : DisplayCapture × Bool :=
  match window with
  | none => (s, false)
  | some rc =>
      let (x, w) := clipAxis (rc.x - s.monLeft) rc.w s.monWidth
      let (y, h) := clipAxis (rc.y - s.monTop) rc.h s.monHeight
      if w < 16 ∨ h < 16 then (s, false)
      else (s.setCropRect x y w h, true)

end DisplayCapture

/-! ## Where the frames lie -/

/-- The bytes of a frame: those of its pixels, row by row. -/
def CaptureFrame.Holds (f : CaptureFrame) (a : Int) : Prop :=
  ∃ row col, 0 ≤ row ∧ row < f.height ∧ 0 ≤ col ∧ col < 4 * f.width ∧
    a = f.data + row * f.stride + col

/-- The bytes of the pixels of a mapped texture; what is between its rows does not count. -/
def TexelByte (w h rowPitch a : Int) : Prop :=
  ∃ row col, 0 ≤ row ∧ row < h ∧ 0 ≤ col ∧ col < 4 * w ∧ a = row * rowPitch + col

namespace DisplayCapture

/-- The crop lies in the texture that the frames are copied to. -/
structure Cropped (s : DisplayCapture) : Prop where
  staged : ∀ w h, s.staging = some (w, h) → w = s.monWidth ∧ h = s.monHeight
  corner : s.staging.isSome = true → 0 ≤ s.cropX ∧ 0 ≤ s.cropY
  extent : s.staging.isSome = true →
    s.cropX + s.outWidth ≤ s.monWidth ∧ s.cropY + s.outHeight ≤ s.monHeight

theorem clipAxis_bounds (x w mon : Int) :
    0 ≤ (clipAxis x w mon).1 ∧ (clipAxis x w mon).1 + (clipAxis x w mon).2 ≤ mon := by
  unfold clipAxis
  generalize hp : (if x < 0 then (0, w + x) else (x, w)) = p
  have hcorner : 0 ≤ p.1 := by
    rw [← hp]
    split
    · exact Int.le_refl 0
    · next hx => exact Int.not_lt.1 hx
  refine ⟨hcorner, ?_⟩
  dsimp only
  split
  · omega
  · next hfits => exact Int.not_lt.1 hfits

theorem cropped_of_no_staging {s : DisplayCapture} (h : s.staging = none) : s.Cropped := by
  refine ⟨fun _ _ hsome => ?_, fun hsome => ?_, fun hsome => ?_⟩
  · rw [h] at hsome
    cases hsome
  · rw [h] at hsome
    cases hsome
  · rw [h] at hsome
    cases hsome

theorem Cropped.clearCrop {s : DisplayCapture} (h : s.Cropped) : s.clearCrop.Cropped where
  staged := h.staged
  corner _ := ⟨Int.le_refl 0, Int.le_refl 0⟩
  extent _ := ⟨Int.le_of_eq (Int.zero_add _), Int.le_of_eq (Int.zero_add _)⟩

theorem Cropped.countAccessLost {s : DisplayCapture} (h : s.Cropped) : s.countAccessLost.Cropped :=
  ⟨h.staged, h.corner, h.extent⟩

theorem cropped_setStaging (s : DisplayCapture) : s.setStaging.Cropped where
  staged w h hstaging := by
    obtain ⟨rfl, rfl⟩ := Prod.mk.inj (Option.some.inj hstaging)
    exact ⟨rfl, rfl⟩
  corner _ := ⟨Int.le_refl 0, Int.le_refl 0⟩
  extent _ := ⟨Int.le_of_eq (Int.zero_add _), Int.le_of_eq (Int.zero_add _)⟩

/-- Whatever `init` comes to: an old texture is gone, and a new one has no crop. -/
theorem cropped_init {s s' : DisplayCapture} {outputIndex : Int} {err ok : Bool} {e : InitEnd}
    (h : s.init outputIndex err e = .ok (s', ok)) : s'.Cropped := by
  cases e with
  | noFactory | noOutput | noAdapter | noDevice | noDesc | noOutput1 od | noStaging od =>
      obtain ⟨rfl, rfl⟩ := Prod.mk.inj (Except.ok.inj h)
      exact cropped_of_no_staging rfl
  | notDuplicated od =>
      cases err with
      | false => cases h
      | true =>
          obtain ⟨rfl, rfl⟩ := Prod.mk.inj (Except.ok.inj h)
          exact cropped_of_no_staging rfl
  | ready od =>
      obtain ⟨rfl, rfl⟩ := Prod.mk.inj (Except.ok.inj h)
      exact cropped_setStaging _

theorem Cropped.updateWindowCrop {s : DisplayCapture} (h : s.Cropped) (window : Option ClientArea) :
    (s.updateWindowCrop window).1.Cropped := by
  cases window with
  | none => exact h
  | some rc =>
      obtain ⟨hx, hw⟩ := clipAxis_bounds (rc.x - s.monLeft) rc.w s.monWidth
      obtain ⟨hy, hh⟩ := clipAxis_bounds (rc.y - s.monTop) rc.h s.monHeight
      unfold DisplayCapture.updateWindowCrop
      dsimp only
      split
      · exact h
      · exact ⟨h.staged, fun _ => ⟨hx, hy⟩, fun _ => ⟨hw, hh⟩⟩

theorem Cropped.reacquire {err ok : Bool} {attempts : List (InitEnd × AcquireEnd)}
    {s s' : DisplayCapture} (h : s.Cropped) (hok : s.reacquire err attempts = .ok (s', ok)) :
    s'.Cropped := by
  induction attempts generalizing s with
  | nil =>
      obtain ⟨rfl, rfl⟩ := Prod.mk.inj (Except.ok.inj hok)
      exact h
  | cons attempt attempts ih =>
      obtain ⟨e, acquire⟩ := attempt
      rw [DisplayCapture.reacquire] at hok
      split at hok
      · cases hok
      · next s₁ hinit => exact ih (cropped_init hinit) hok
      · next s₁ hinit =>
          have h₁ := cropped_init hinit
          cases acquire with
          | accessLost => exact ih h₁.countAccessLost hok
          | acquired | waitTimeout | failed =>
              obtain ⟨rfl, rfl⟩ := Prod.mk.inj (Except.ok.inj hok)
              exact h₁

/-- What D3D11 promises of a mapped texture: each row has room for its pixels, and the pitch is an
    `int`. -/
def PitchFits (s : DisplayCapture) : Prop :=
  ∀ w h rowPitch, s.staging = some (w, h) → s.mapped = some rowPitch →
    4 * w ≤ rowPitch ∧ 0 ≤ rowPitch ∧ rowPitch < 2 ^ 31

/-- The frame is one of the texture that is mapped. -/
structure Shows (s : DisplayCapture) (f : CaptureFrame) : Prop where
  cropped : s.Cropped
  mapped : ∃ w h rowPitch timestampUs, s.staging = some (w, h) ∧ s.mapped = some rowPitch ∧
    f = s.frameAt rowPitch timestampUs

/-- **Where a frame lies.** With the crop inside the texture, a frame has only pixels of it. -/
theorem Shows.inside {s : DisplayCapture} {f : CaptureFrame} (h : s.Shows f) (hfits : s.PitchFits) :
    ∃ w hgt rowPitch, s.staging = some (w, hgt) ∧ s.mapped = some rowPitch ∧
      ∀ a, f.Holds a → TexelByte w hgt rowPitch a := by
  obtain ⟨hcropped, w, hgt, rowPitch, timestampUs, hstaging, hmapped, rfl⟩ := h
  refine ⟨w, hgt, rowPitch, hstaging, hmapped, fun a ha => ?_⟩
  obtain ⟨row, col, hrow0, hrowlt, hcol0, hcollt, rfl⟩ := ha
  obtain ⟨hrow, hpitch⟩ := hfits w hgt rowPitch hstaging hmapped
  have hsome : s.staging.isSome = true := by rw [hstaging]; rfl
  obtain ⟨rfl, rfl⟩ := hcropped.staged w hgt hstaging
  obtain ⟨hx, hy⟩ := hcropped.corner hsome
  obtain ⟨hright, hbottom⟩ := hcropped.extent hsome
  have hstride : (s.frameAt rowPitch timestampUs).stride = rowPitch :=
    Int.bmod_eq_of_le (by omega) (by omega)
  have hwidth : (s.frameAt rowPitch timestampUs).width = s.outWidth := rfl
  have hheight : (s.frameAt rowPitch timestampUs).height = s.outHeight := rfl
  have hdata : (s.frameAt rowPitch timestampUs).data = s.cropY * rowPitch + s.cropX * 4 := rfl
  rw [hwidth] at hcollt
  rw [hheight] at hrowlt
  refine ⟨s.cropY + row, 4 * s.cropX + col, by omega, by omega, by omega, by omega, ?_⟩
  rw [hstride, hdata, Int.add_mul]
  omega

theorem Cropped.mapFrame {s s' : DisplayCapture} {o : CaptureAnswers} {r : CaptureEnd} (h : s.Cropped)
    (hok : s.mapFrame o = .ok (s', r)) : s'.Cropped ∧ ∀ f, r = .captured f → s'.Shows f := by
  unfold DisplayCapture.mapFrame at hok
  split at hok
  · obtain ⟨rfl, rfl⟩ := Prod.mk.inj (Except.ok.inj hok)
    exact ⟨h, nofun⟩
  · split at hok
    · cases hok
    · obtain ⟨rfl, rfl⟩ := Prod.mk.inj (Except.ok.inj hok)
      exact ⟨⟨h.staged, h.corner, h.extent⟩, nofun⟩
  · next rowPitch _ =>
      split at hok
      · cases hok
      · next hstaging =>
          obtain ⟨rfl, rfl⟩ := Prod.mk.inj (Except.ok.inj hok)
          have hcropped : DisplayCapture.Cropped
              { s with mapped := some rowPitch, frameCounter := s.frameCounter + 1 } :=
            ⟨h.staged, h.corner, h.extent⟩
          rw [Option.isNone_iff_eq_none] at hstaging
          obtain ⟨⟨w, hgt⟩, hsize⟩ := Option.ne_none_iff_exists'.1 hstaging
          refine ⟨hcropped, fun f hf => ⟨hcropped, w, hgt, rowPitch, o.timestampUs, hsize, rfl, ?_⟩⟩
          exact (CaptureEnd.captured.inj hf).symm

/-- **One call.** Whatever DXGI answers, the crop stays inside, and a frame is one of the texture that
    is mapped then. -/
theorem Cropped.capture {s s' : DisplayCapture} {err : Bool} {o : CaptureAnswers} {r : CaptureEnd}
    (h : s.Cropped) (hok : s.capture err o = .ok (s', r)) :
    s'.Cropped ∧ ∀ f, r = .captured f → s'.Shows f := by
  unfold DisplayCapture.capture at hok
  split at hok
  · obtain ⟨rfl, rfl⟩ := Prod.mk.inj (Except.ok.inj hok)
    exact ⟨h, nofun⟩
  · split at hok
    · exact h.mapFrame hok
    · obtain ⟨rfl, rfl⟩ := Prod.mk.inj (Except.ok.inj hok)
      exact ⟨h, nofun⟩
    · obtain ⟨rfl, rfl⟩ := Prod.mk.inj (Except.ok.inj hok)
      exact ⟨h, nofun⟩
    · split at hok
      · cases hok
      · next s₁ hattempts =>
          obtain ⟨rfl, rfl⟩ := Prod.mk.inj (Except.ok.inj hok)
          exact ⟨h.countAccessLost.reacquire hattempts, nofun⟩
      · next s₁ hattempts => exact (h.countAccessLost.reacquire hattempts).mapFrame hok

end DisplayCapture

end RemotePlay.Media
