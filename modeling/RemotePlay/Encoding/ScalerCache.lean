import RemotePlay.Encoding.Letterbox
import RemotePlay.Lib.Runs

set_option autoImplicit false

/-! # Which scaler a frame gets

The scaler is looked up by the fitted size, but it is made for a source size as well. Sources of
different sizes can fit into the same rectangle, and the second one is then read with the geometry
of the first (`scaler_matches_iff`). The buffer is always large enough. -/

namespace RemotePlay.Media

/-- The scaler is the one for these sizes, and the buffer holds the scaled image. -/
structure ScaleCall.Matches (c : ScaleCall) : Prop where
  source : c.context.srcW = c.srcW ∧ c.context.srcH = c.srcH
  target : c.context.dstW = c.fitW ∧ c.context.dstH = c.fitH
  buffer : yuv420Size c.fitW c.fitH ≤ c.buffer

namespace VideoEncoder

/-! ## The buffer -/

/-- The buffer that is asked for is large enough, if the image has any pixels. -/
theorem yuv420Size_le {lib : Libav} (hlib : lib.Sound) {tw th w h : Int}
    (hallocates : lib.allocates tw th = true) (hw : 0 ≤ w ∧ w ≤ tw) (hh : 0 ≤ h ∧ h ≤ th)
    {size : Int} (hsize : 0 ≤ size) (hbuffer : lib.bufferSize w h ≤ size) : yuv420Size w h ≤ size := by
  rcases hw.1.eq_or_lt with rfl | hwpos
  · rw [yuv420Size, Int.zero_mul, show ((0 : Int) + 1) / 2 = 0 from rfl, Int.zero_mul]
    exact hsize
  · rcases hh.1.eq_or_lt with rfl | hhpos
    · rw [yuv420Size, Int.mul_zero, show ((0 : Int) + 1) / 2 = 0 from rfl, Int.mul_zero]
      exact hsize
    · rw [← hlib.bufferSize tw th w h hallocates hwpos hw.2 hhpos hh.2]
      exact hbuffer

/-! ## The cache -/

/-- What the cached sizes say about the scaler and the buffer. -/
structure Cached (lib : Libav) (s : VideoEncoder) : Prop where
  frame : s.opened = true → lib.allocates s.params.width s.params.height = true
  size : 0 ≤ s.scaleBufSize
  buffer : ∀ b, s.scaleBuffer = some b → b = s.scaleBufSize
  scaler : ∀ c, s.sws = some c → c.dstW = s.lastFitW ∧ c.dstH = s.lastFitH ∧
    yuv420Size s.lastFitW s.lastFitH ≤ s.scaleBufSize

/-- The scaler in the cache has the fitted size of this source and was made for another one; and there
    is a buffer. -/
def staleFor (s : VideoEncoder) (srcW srcH : Int) : Bool :=
  match letterbox s.params.width s.params.height srcW srcH, s.sws, s.scaleBuffer with
  | some fit, some context, some _ =>
      s.opened && decide (s.lastFitW = fit.fitW ∧ s.lastFitH = fit.fitH) &&
        !decide (context.srcW = srcW ∧ context.srcH = srcH)
  | _, _, _ => false

/-- The buffer after a look at its size. -/
theorem cached_grow {lib : Libav} {s : VideoEncoder} (h : Cached lib s) (yuvSize : Int) (malloc : Bool)
    {s₁ : VideoEncoder}
    (hs₁ : s₁ = if s.scaleBufSize < yuvSize then
        { s with scaleBuffer := if malloc then some yuvSize else none, scaleBufSize := yuvSize }
      else s) :
    Cached lib s₁ ∧ yuvSize ≤ s₁.scaleBufSize ∧ s₁.params = s.params ∧ s₁.opened = s.opened := by
  subst hs₁
  split
  · next hgrows =>
      have hsize : 0 ≤ yuvSize := Int.le_trans h.size (Int.le_of_lt hgrows)
      refine ⟨⟨h.frame, hsize, ?_, ?_⟩, Int.le_refl _, rfl, rfl⟩
      · intro b hb
        cases malloc with
        | true => exact (Option.some.inj hb).symm
        | false => cases hb
      · intro c hc
        obtain ⟨hw, hh, hfits⟩ := h.scaler c hc
        exact ⟨hw, hh, Int.le_trans hfits (Int.le_of_lt hgrows)⟩
  · next hlarge => exact ⟨h, Int.not_lt.1 hlarge, rfl, rfl⟩

/-- The scaler that is there after `refit`, which was made for this source or was there before. -/
theorem refit_spec {lib : Libav} (hlib : lib.Sound) {s : VideoEncoder} (h : Cached lib s)
    (hopened : s.opened = true) {srcW srcH : Int} {fit : Fit}
    (hfit : letterbox s.params.width s.params.height srcW srcH = some fit) (o : EncodeLibrary) :
    Cached lib (s.refit lib srcW srcH fit o).1 ∧
      ((s.refit lib srcW srcH fit o).2 = true →
        ∃ c, (s.refit lib srcW srcH fit o).1.sws = some c ∧
          (c.dstW = fit.fitW ∧ c.dstH = fit.fitH) ∧
          yuv420Size fit.fitW fit.fitH ≤ (s.refit lib srcW srcH fit o).1.scaleBufSize) := by
  obtain ⟨htw, hth⟩ := hlib.positive _ _ (h.frame hopened)
  obtain ⟨hw, hh⟩ := letterbox_bounds htw hth hfit
  unfold refit
  split
  · obtain ⟨hgrown, hlarge, hparams, hstill⟩ := cached_grow h (lib.bufferSize fit.fitW fit.fitH) o.malloc rfl
    have hfits := yuv420Size_le hlib (h.frame hopened) hw hh hgrown.size hlarge
    dsimp only
    split
    · refine ⟨⟨hgrown.frame, hgrown.size, hgrown.buffer, ?_⟩, fun _ => ⟨_, rfl, ⟨rfl, rfl⟩, hfits⟩⟩
      intro c hc
      obtain rfl := Option.some.inj hc
      exact ⟨rfl, rfl, hfits⟩
    · exact ⟨⟨hgrown.frame, hgrown.size, hgrown.buffer, fun _ hc => nomatch hc⟩,
        fun hok => nomatch hok⟩
  · next hkept =>
      rw [not_or, not_or, not_not, not_not] at hkept
      obtain ⟨hsome, hsameW, hsameH⟩ := hkept
      rw [Option.isNone_iff_eq_none] at hsome
      obtain ⟨c, hc⟩ := Option.ne_none_iff_exists'.1 hsome
      obtain ⟨hdstW, hdstH, hfits⟩ := h.scaler c hc
      rw [hsameW] at hdstW hfits
      rw [hsameH] at hdstH hfits
      exact ⟨h, fun _ => ⟨c, hc, ⟨hdstW, hdstH⟩, hfits⟩⟩

/-- The scaler is made for this source, unless one of the same fitted size is kept. -/
theorem refit_cases (lib : Libav) (s : VideoEncoder) (srcW srcH : Int) (fit : Fit)
    (o : EncodeLibrary) :
    (s.sws = none ∨ ¬ (s.lastFitW = fit.fitW ∧ s.lastFitH = fit.fitH)) ∧
        ((s.refit lib srcW srcH fit o).2 = true → (s.refit lib srcW srcH fit o).1.sws =
          some { srcW := srcW, srcH := srcH, dstW := fit.fitW, dstH := fit.fitH }) ∨
      (∃ c, s.sws = some c) ∧ (s.lastFitW = fit.fitW ∧ s.lastFitH = fit.fitH) ∧
        s.refit lib srcW srcH fit o = (s, true) := by
  unfold refit
  split
  · next hfresh =>
      rw [Option.isNone_iff_eq_none, ← not_and_or] at hfresh
      refine .inl ⟨hfresh, fun hok => ?_⟩
      dsimp only at hok ⊢
      split at hok
      · next hcontext => rw [if_pos hcontext]
      · cases hok
  · next hkept =>
      rw [not_or, not_or, not_not, not_not, Option.isNone_iff_eq_none] at hkept
      exact .inr ⟨Option.ne_none_iff_exists'.1 hkept.1, hkept.2, rfl⟩

theorem scaled_submit (s : VideoEncoder) (call : ScaleCall) (o : EncodeLibrary) :
    (s.submit call o).scaled = some call := by
  unfold submit
  split
  · rfl
  · dsimp only
    split
    · rfl
    · rfl

/-- The call of `sws_scale` in a call of `encode`. -/
theorem scaled_encode {lib : Libav} {s : VideoEncoder} (hopened : s.opened = true) {srcW srcH : Int}
    {fit : Fit} (hfit : letterbox s.params.width s.params.height srcW srcH = some fit)
    (o : EncodeLibrary) :
    (s.encode lib srcW srcH o).scaled =
      if (s.refit lib srcW srcH fit o).2 then (s.refit lib srcW srcH fit o).1.scaleCall srcW srcH fit
      else none := by
  unfold encode
  rw [if_neg (by rw [hopened]; exact nofun), hfit]
  dsimp only
  generalize s.refit lib srcW srcH fit o = refitted
  obtain ⟨s', ok⟩ := refitted
  cases ok with
  | false => rfl
  | true =>
      dsimp only
      rw [if_pos rfl]
      cases hcall : s'.scaleCall srcW srcH fit with
      | none => rfl
      | some call => exact scaled_submit s' call o

/-- With a scaler for the fitted size it is a matter of the source. -/
theorem matches_scaleCall_iff {lib : Libav} {s : VideoEncoder} (h : Cached lib s) {c : SwsContext}
    {fit : Fit} (hc : s.sws = some c) (htarget : c.dstW = fit.fitW ∧ c.dstH = fit.fitH)
    (hfits : yuv420Size fit.fitW fit.fitH ≤ s.scaleBufSize) (srcW srcH : Int) :
    (∀ call, s.scaleCall srcW srcH fit = some call → call.Matches) ↔
      (s.scaleBuffer.isSome = true → c.srcW = srcW ∧ c.srcH = srcH) := by
  unfold scaleCall
  rw [hc]
  cases hbuffer : s.scaleBuffer with
  | none => exact iff_of_true (fun _ hcall => nomatch hcall) (fun hsome => nomatch hsome)
  | some b =>
      constructor
      · intro hall _
        exact (hall _ rfl).source
      · rintro hsource call hcall
        rw [← Option.some.inj hcall]
        exact ⟨hsource rfl, htarget, h.buffer b hbuffer ▸ hfits⟩

theorem not_staleFor_of_fresh {s : VideoEncoder} {srcW srcH : Int} {fit : Fit}
    (hfit : letterbox s.params.width s.params.height srcW srcH = some fit)
    (hfresh : s.sws = none ∨ ¬ (s.lastFitW = fit.fitW ∧ s.lastFitH = fit.fitH)) :
    s.staleFor srcW srcH = false := by
  unfold staleFor
  rw [hfit]
  rcases hfresh with hnone | hother
  · rw [hnone]
  · split
    · next fit' _ _ hsame _ _ =>
        obtain rfl := Option.some.inj hsame
        rw [decide_eq_false hother, Bool.and_false, Bool.false_and]
    · rfl

theorem not_staleFor_iff {s : VideoEncoder} {srcW srcH : Int} {fit : Fit} {c : SwsContext}
    (hopened : s.opened = true)
    (hfit : letterbox s.params.width s.params.height srcW srcH = some fit) (hc : s.sws = some c)
    (hsame : s.lastFitW = fit.fitW ∧ s.lastFitH = fit.fitH) :
    s.staleFor srcW srcH = false ↔
      (s.scaleBuffer.isSome = true → c.srcW = srcW ∧ c.srcH = srcH) := by
  unfold staleFor
  rw [hfit, hc, hopened]
  cases s.scaleBuffer with
  | none => exact iff_of_true rfl (fun hsome => nomatch hsome)
  | some b => simp [hsame]

theorem scaled_of_no_fit (lib : Libav) {s : VideoEncoder} {srcW srcH : Int}
    (h : s.opened = false ∨ letterbox s.params.width s.params.height srcW srcH = none)
    (o : EncodeLibrary) :
    (s.encode lib srcW srcH o).scaled = none ∧ s.staleFor srcW srcH = false := by
  unfold encode staleFor
  rcases h with hclosed | hnone
  · rw [hclosed]
    refine ⟨rfl, ?_⟩
    split
    · rfl
    · rfl
  · rw [hnone]
    refine ⟨?_, rfl⟩
    split
    · rfl
    · rfl

/-- **One call.** A call of `encode` scales with the right scaler, if it scales, exactly if the one in
    the cache is not stale for its source. -/
theorem matches_encode_iff {lib : Libav} (hlib : lib.Sound) {s : VideoEncoder} (h : Cached lib s)
    (srcW srcH : Int) (o : EncodeLibrary) :
    (∀ call, (s.encode lib srcW srcH o).scaled = some call → call.Matches) ↔
      s.staleFor srcW srcH = false := by
  by_cases hidle : s.opened = false ∨ letterbox s.params.width s.params.height srcW srcH = none
  · obtain ⟨hnothing, hnot⟩ := scaled_of_no_fit lib hidle o
    rw [hnothing]
    exact iff_of_true (fun _ hcall => nomatch hcall) hnot
  · rw [not_or, Bool.not_eq_false] at hidle
    obtain ⟨hopened, hsome⟩ := hidle
    obtain ⟨fit, hfit⟩ := Option.ne_none_iff_exists'.1 hsome
    obtain ⟨hcached, hscaler⟩ := refit_spec hlib h hopened hfit o
    rw [scaled_encode hopened hfit]
    rcases refit_cases lib s srcW srcH fit o with ⟨hfresh, hmade⟩ | ⟨⟨c, hc⟩, hsame, hkept⟩
    · rw [not_staleFor_of_fresh hfit hfresh]
      refine iff_of_true ?_ rfl
      split
      · next hok =>
          obtain ⟨c, hc, htarget, hfits⟩ := hscaler hok
          rw [matches_scaleCall_iff hcached hc htarget hfits]
          rw [hmade hok] at hc
          rw [← Option.some.inj hc]
          exact fun _ => ⟨rfl, rfl⟩
      · exact fun _ hcall => nomatch hcall
    · rw [hkept] at hscaler ⊢
      obtain ⟨c', hc', htarget, hfits⟩ := hscaler rfl
      obtain rfl : c = c' := Option.some.inj (hc.symm.trans hc')
      rw [if_pos rfl, not_staleFor_iff hopened hfit hc hsame]
      exact matches_scaleCall_iff h hc htarget hfits srcW srcH

theorem scaleCall_eq_some {s : VideoEncoder} {srcW srcH : Int} {fit : Fit} {call : ScaleCall}
    (h : s.scaleCall srcW srcH fit = some call) :
    s.sws = some call.context ∧ s.scaleBuffer.isSome = true ∧ call.srcW = srcW ∧ call.srcH = srcH := by
  unfold scaleCall at h
  split at h
  · next context buffer hc hbuffer =>
      obtain rfl := Option.some.inj h
      exact ⟨hc, by rw [hbuffer]; rfl, rfl, rfl⟩
  · cases h

/-- What `sws_scale` is told about the source, and what its scaler was made for. -/
theorem source_of_scaled {lib : Libav} {s : VideoEncoder} {srcW srcH : Int} {o : EncodeLibrary}
    {call : ScaleCall} (hcall : (s.encode lib srcW srcH o).scaled = some call) :
    call.srcW = srcW ∧ call.srcH = srcH ∧
      (s.staleFor srcW srcH = false → call.context.srcW = srcW ∧ call.context.srcH = srcH) := by
  by_cases hidle : s.opened = false ∨ letterbox s.params.width s.params.height srcW srcH = none
  · rw [(scaled_of_no_fit lib hidle o).1] at hcall
    cases hcall
  · rw [not_or, Bool.not_eq_false] at hidle
    obtain ⟨hopened, hsome⟩ := hidle
    obtain ⟨fit, hfit⟩ := Option.ne_none_iff_exists'.1 hsome
    rw [scaled_encode hopened hfit] at hcall
    split at hcall
    · next hok =>
        obtain ⟨hcontext, hbuffer, hsrcW, hsrcH⟩ := scaleCall_eq_some hcall
        refine ⟨hsrcW, hsrcH, fun hfresh => ?_⟩
        rcases refit_cases lib s srcW srcH fit o with ⟨-, hmade⟩ | ⟨⟨c, hc⟩, hsame, hkept⟩
        · rw [hmade hok] at hcontext
          rw [← Option.some.inj hcontext]
          exact ⟨rfl, rfl⟩
        · rw [hkept] at hcontext hbuffer
          exact (not_staleFor_iff hopened hfit hcontext hsame).1 hfresh hbuffer
    · cases hcall

/-! ## Runs -/

theorem cached_init (lib : Libav) {s : VideoEncoder} (h : 0 ≤ s.scaleBufSize)
    (p : VideoEncoderParams) (opens : Bytes → OpenEnd) : Cached lib (s.init lib p opens).1 := by
  have hsize : 0 ≤ s.close.scaleBufSize := by
    show 0 ≤ if s.scaleBuffer.isSome then 0 else s.scaleBufSize
    split
    · exact Int.le_refl 0
    · exact h
  unfold init
  dsimp only
  split
  · next name hfound =>
      have hopens := List.find?_some hfound
      refine ⟨fun _ => ?_, hsize, fun _ hb => (nomatch hb), fun _ hc => nomatch hc⟩
      generalize opens name = e at hopens
      cases e with
      | opened => exact hopens
      | notFound | noContext | notOpened | noFrame | noPacket => cases hopens
  · exact ⟨fun hopened => (nomatch hopened), hsize, fun _ hb => (nomatch hb),
      fun _ hc => nomatch hc⟩

theorem cached_submit {lib : Libav} {s : VideoEncoder} (h : Cached lib s) (call : ScaleCall)
    (o : EncodeLibrary) : Cached lib (s.submit call o).encoder := by
  unfold submit
  split
  · exact h
  · dsimp only
    split
    · exact ⟨h.frame, h.size, h.buffer, h.scaler⟩
    · exact ⟨h.frame, h.size, h.buffer, h.scaler⟩

theorem cached_encode {lib : Libav} (hlib : lib.Sound) {s : VideoEncoder} (h : Cached lib s)
    (srcW srcH : Int) (o : EncodeLibrary) : Cached lib (s.encode lib srcW srcH o).encoder := by
  unfold encode
  split
  · exact h
  · next hopened =>
      rw [Bool.not_eq_true', Bool.not_eq_false] at hopened
      split
      · exact h
      · next fit hfit =>
          have hrefit := (refit_spec hlib h hopened hfit o).1
          split
          · next s' hs' =>
              rw [hs'] at hrefit
              exact hrefit
          · next s' hs' =>
              rw [hs'] at hrefit
              split
              · exact hrefit
              · exact cached_submit hrefit _ o

end VideoEncoder

/-- A call on an encoder. -/
inductive VideoEncoderCall where
  | init (p : VideoEncoderParams) (opens : Bytes → OpenEnd)
  | encode (srcW srcH : Int) (o : EncodeLibrary)
  | requestKeyframe
  | setBitrate (kbps : Int)
  | applyBitrateIfDirty (opens : Bytes → OpenEnd)

/-- An encoder with its process. -/
structure ScalerRun where
  encoder : VideoEncoder := {}
  ended : Bool := false

namespace ScalerRun

variable (lib : Libav)

def step (w : ScalerRun) (call : VideoEncoderCall) : ScalerRun :=
  if w.ended then w
  else
    match call with
    | .init p opens => { w with encoder := (w.encoder.init lib p opens).1 }
    | .encode srcW srcH o =>
        let result := w.encoder.encode lib srcW srcH o
        { encoder := result.encoder, ended := result.ok.isNone }
    | .requestKeyframe => { w with encoder := w.encoder.requestKeyframe }
    | .setBitrate kbps => { w with encoder := w.encoder.setBitrate kbps }
    | .applyBitrateIfDirty opens => { w with encoder := (w.encoder.applyBitrateIfDirty lib opens).1 }

/-- The call of `sws_scale` in this step. -/
def scaled (w : ScalerRun) : VideoEncoderCall → Option ScaleCall
  | .encode srcW srcH o => if w.ended then none else (w.encoder.encode lib srcW srcH o).scaled
  | _ => none

/-- The call scales with a scaler that was made for another source. -/
def stale (w : ScalerRun) : VideoEncoderCall → Bool
  | .encode srcW srcH _ => !w.ended && w.encoder.staleFor srcW srcH
  | _ => false

theorem cached_step {lib : Libav} (hlib : lib.Sound) {w : ScalerRun} (h : w.encoder.Cached lib)
    (call : VideoEncoderCall) : (w.step lib call).encoder.Cached lib := by
  unfold step
  split
  · exact h
  cases call with
  | init p opens => exact VideoEncoder.cached_init lib h.size p opens
  | encode srcW srcH o => exact VideoEncoder.cached_encode hlib h srcW srcH o
  | requestKeyframe => exact ⟨h.frame, h.size, h.buffer, h.scaler⟩
  | setBitrate kbps =>
      show (w.encoder.setBitrate kbps).Cached lib
      unfold VideoEncoder.setBitrate
      dsimp only
      split
      · exact h
      · exact ⟨h.frame, h.size, h.buffer, h.scaler⟩
  | applyBitrateIfDirty opens =>
      show (w.encoder.applyBitrateIfDirty lib opens).1.Cached lib
      have hinit := VideoEncoder.cached_init lib h.size w.encoder.params opens
      unfold VideoEncoder.applyBitrateIfDirty
      split
      · exact h
      · split
        · next s hs =>
            rw [hs] at hinit
            exact ⟨hinit.frame, hinit.size, hinit.buffer, hinit.scaler⟩
        · next s hs =>
            rw [hs] at hinit
            exact hinit

theorem matches_step_iff {lib : Libav} (hlib : lib.Sound) {w : ScalerRun} (h : w.encoder.Cached lib)
    (call : VideoEncoderCall) :
    (∀ c, w.scaled lib call = some c → c.Matches) ↔ w.stale call = false := by
  cases call with
  | init _ _ | requestKeyframe | setBitrate _ | applyBitrateIfDirty _ =>
      exact iff_of_true (fun _ hc => nomatch hc) rfl
  | encode srcW srcH o =>
      unfold scaled stale
      cases w.ended with
      | true => exact iff_of_true (fun _ hc => nomatch hc) rfl
      | false => exact VideoEncoder.matches_encode_iff hlib h srcW srcH o

/-- **When the scaler matches.** In a run of calls on an encoder every `sws_scale` gets the scaler for
    its source and its fitted size, and a buffer that is large enough, exactly if no call finds the
    scaler of another source under the same fitted size. -/
theorem scaler_matches_iff (hlib : lib.Sound) (calls : List VideoEncoderCall) :
    (∀ p ∈ history (step lib) {} calls, ∀ c, p.1.scaled lib p.2 = some c → c.Matches) ↔
      ∀ p ∈ history (step lib) {} calls, p.1.stale p.2 = false :=
  forall_history_iff (step lib) (fun w => w.encoder.Cached lib)
    (fun w call => ∀ c, w.scaled lib call = some c → c.Matches) (fun w call => w.stale call = false)
    (fun _ call h hfresh => ⟨(matches_step_iff hlib h call).2 hfresh, cached_step hlib h call⟩)
    (fun _ call h hmatches => (matches_step_iff hlib h call).1 hmatches) {} calls
    ⟨fun hopened => (nomatch hopened), Int.le_refl 0, fun _ hb => (nomatch hb),
      fun _ hc => nomatch hc⟩

/-- The check of an image size in FFmpeg. -/
def checksSize (w h : Int) : Bool := decide (0 < w ∧ 0 < h ∧ (8 * w + 1024) * (h + 128) < 2 ^ 31 - 1)

def imgutils : Libav where
  allocates := checksSize
  bufferSize w h := if checksSize w h then yuv420Size w h else -22

theorem sound_imgutils : imgutils.Sound where
  positive := by
    intro tw th h
    have hchecked := of_decide_eq_true h
    exact ⟨hchecked.1, hchecked.2.1⟩
  bufferSize := by
    intro tw th w h hframe hw hwle hh hhle
    have hchecked := of_decide_eq_true hframe
    have hsmaller : (8 * w + 1024) * (h + 128) ≤ (8 * tw + 1024) * (th + 128) :=
      Int.mul_le_mul (by omega) (by omega) (by omega) (by omega)
    exact if_pos (decide_eq_true ⟨hw, hh, Int.lt_of_le_of_lt hsmaller hchecked.2.2⟩)

theorem scaler_matches_iff_imgutils :
    (∀ p ∈ history (step imgutils) {} [.init {} (fun _ => .opened), .encode 1920 1080 {}],
        ∀ c, p.1.scaled imgutils p.2 = some c → c.Matches) ↔
      ∀ p ∈ history (step imgutils) {} [.init {} (fun _ => .opened), .encode 1920 1080 {}],
        p.1.stale p.2 = false :=
  scaler_matches_iff imgutils sound_imgutils _

/-- The screen changes from 1920x1080 to 1280x720, with a target of 1920x1080. -/
theorem scaler_of_other_source :
    ¬ ∀ lib : Libav, lib.Sound → ∀ calls : List VideoEncoderCall,
      ∀ p ∈ history (step lib) {} calls, ∀ c, p.1.scaled lib p.2 = some c → c.Matches := by
  intro hall
  have hscaled : (runFrom (step imgutils) {}
      [.init {} (fun _ => .opened), .encode 1920 1080 {}]).scaled imgutils (.encode 1280 720 {}) =
      some
        { context := { srcW := 1920, srcH := 1080, dstW := 1920, dstH := 1080 }
          srcW := 1280, srcH := 720, fitW := 1920, fitH := 1080, buffer := 3110400 } := by
    decide +kernel
  have hmatches := hall imgutils sound_imgutils
    [.init {} (fun _ => .opened), .encode 1920 1080 {}, .encode 1280 720 {}] _
    ((mem_history_iff ..).2 ⟨[.init {} (fun _ => .opened), .encode 1920 1080 {}], [], rfl, rfl⟩) _ hscaled
  exact absurd hmatches.source.1 (by decide)

end ScalerRun

end RemotePlay.Media
