import RemotePlay.Host.CaptureRuns

set_option autoImplicit false

/-! # What is asked of the encoder survives its replacements (`host/HostStreamer.cpp`)

The capture thread opens an encoder at a restart, at a recovery and for another bitrate. The bitrate
and the requests for a key frame live in the encoder that is thrown away then; here they are followed
from the calls that ask for them to the frames. -/

namespace RemotePlay.Media

namespace VideoEncoder

/-- What `init` leaves, whether it opens an encoder or not. -/
theorem init_spec {lib : Libav} {s e : VideoEncoder} {p : VideoEncoderParams} {opens : Bytes → OpenEnd}
    {ok : Bool} (h : s.init lib p opens = (e, ok)) :
    e.params = p ∧ e.keyframeRequested = true ∧ e.opened = ok ∧ e.bitrateDirty = s.bitrateDirty ∧
      (ok = true → e.encoderName ∈ candidates p) ∧ (ok = false → e.encoderName = s.encoderName) := by
  unfold init at h
  dsimp only at h
  split at h
  · next name hfind =>
      obtain ⟨rfl, rfl⟩ := Prod.mk.inj h
      exact ⟨rfl, rfl, rfl, rfl, fun _ => List.mem_of_find?_eq_some hfind, nofun⟩
  · obtain ⟨rfl, rfl⟩ := Prod.mk.inj h
    exact ⟨rfl, rfl, rfl, rfl, nofun, fun _ => rfl⟩

/-- What an encoder is and is for. -/
structure Setup where
  params : VideoEncoderParams
  opened : Bool
  encoderName : Bytes
  bitrateDirty : Bool

/-- What no frame changes. -/
def setup (s : VideoEncoder) : Setup where
  params := s.params
  opened := s.opened
  encoderName := s.encoderName
  bitrateDirty := s.bitrateDirty

section Setup

variable {s s' : VideoEncoder} (h : s'.setup = s.setup)
include h

theorem params_of_setup : s'.params = s.params := congrArg Setup.params h

theorem opened_of_setup : s'.opened = s.opened := congrArg Setup.opened h

theorem encoderName_of_setup : s'.encoderName = s.encoderName := congrArg Setup.encoderName h

theorem bitrateDirty_of_setup : s'.bitrateDirty = s.bitrateDirty := congrArg Setup.bitrateDirty h

end Setup

theorem refit_frame (lib : Libav) (s : VideoEncoder) (srcW srcH : Int) (fit : Fit)
    (o : EncodeLibrary) :
    (s.refit lib srcW srcH fit o).1.setup = s.setup ∧
      (s.refit lib srcW srcH fit o).1.keyframeRequested = s.keyframeRequested := by
  unfold refit
  dsimp only
  split
  · split
    · split <;> exact ⟨rfl, rfl⟩
    · split <;> exact ⟨rfl, rfl⟩
  · exact ⟨rfl, rfl⟩

/-- How a call of `encode` deals with a request for a key frame: it stays as it is if no frame is handed
    over, and otherwise goes with the frame. -/
theorem encode_spec (lib : Libav) (s : VideoEncoder) (srcW srcH : Int) (o : EncodeLibrary) :
    (s.encode lib srcW srcH o).encoder.setup = s.setup ∧
      ((s.encode lib srcW srcH o).sentFrame = none ∧
          (s.encode lib srcW srcH o).encoder.keyframeRequested = s.keyframeRequested ∧
          (s.encode lib srcW srcH o).ok ≠ some true ∨
        ∃ frame, (s.encode lib srcW srcH o).sentFrame = some frame ∧ s.opened = true ∧
          frame.keyframe = s.keyframeRequested ∧
          (s.encode lib srcW srcH o).encoder.keyframeRequested = false ∧
          (o.sent = false → (s.encode lib srcW srcH o).ok = some false)) := by
  unfold encode
  split
  · exact ⟨rfl, Or.inl ⟨rfl, rfl, nofun⟩⟩
  · next hopened =>
      rw [Bool.not_eq_true', Bool.not_eq_false] at hopened
      split
      · exact ⟨rfl, Or.inl ⟨rfl, rfl, nofun⟩⟩
      · next fit _ =>
          obtain ⟨hsetup, hkey⟩ := s.refit_frame lib srcW srcH fit o
          split
          · next s₁ hrefit =>
              rw [hrefit] at hsetup hkey
              exact ⟨hsetup, Or.inl ⟨rfl, hkey, nofun⟩⟩
          · next s₁ hrefit =>
              rw [hrefit] at hsetup hkey
              split
              · exact ⟨hsetup, Or.inl ⟨rfl, hkey, nofun⟩⟩
              · next call _ =>
                  unfold submit
                  split
                  · exact ⟨hsetup, Or.inl ⟨rfl, hkey, nofun⟩⟩
                  · dsimp only
                    split
                    · exact ⟨hsetup, Or.inr ⟨_, rfl, hopened, hkey, rfl, fun _ => rfl⟩⟩
                    · next hsent =>
                        refine ⟨hsetup, Or.inr ⟨_, rfl, hopened, hkey, rfl, fun hnot => ?_⟩⟩
                        rw [hnot] at hsent
                        exact absurd rfl hsent

/-- `applyBitrateIfDirty` opens the encoder anew, or it leaves it alone, or there is none any more. -/
theorem applyBitrateIfDirty_cases (lib : Libav) (s : VideoEncoder) (opens : Bytes → OpenEnd) :
    s.applyBitrateIfDirty lib opens = (s, false) ∧ (s.bitrateDirty = false ∨ s.opened = false) ∨
      (∃ e, s.init lib s.params opens = (e, true) ∧
        s.applyBitrateIfDirty lib opens = ({ e with bitrateDirty := false }, true)) ∨
      ∃ e, s.init lib s.params opens = (e, false) ∧ s.applyBitrateIfDirty lib opens = (e, false) := by
  unfold applyBitrateIfDirty
  split
  · next hidle =>
      refine Or.inl ⟨rfl, ?_⟩
      simpa using hidle
  · cases hinit : s.init lib s.params opens with
    | mk e ok =>
        cases ok with
        | true => exact Or.inr (Or.inl ⟨e, rfl, rfl⟩)
        | false => exact Or.inr (Or.inr ⟨e, rfl, rfl⟩)

/-- The bitrate that `setBitrate` leaves. -/
def clampKbps (kbps : Int) : Int := max 2000 (min kbps 50000)

theorem setBitrate_cases (s : VideoEncoder) (kbps : Int) :
    s.setBitrate kbps = s ∧ s.params.bitrateKbps = clampKbps kbps ∨
      s.setBitrate kbps =
        { s with
          params := { s.params with bitrateKbps := clampKbps kbps }
          bitrateDirty := true } := by
  unfold setBitrate
  dsimp only
  split
  · next hsame => exact Or.inl ⟨rfl, hsame.symm⟩
  · exact Or.inr rfl

theorem setBitrate_kbps (s : VideoEncoder) (kbps : Int) :
    (s.setBitrate kbps).params.bitrateKbps = clampKbps kbps := by
  rcases s.setBitrate_cases kbps with ⟨heq, hkbps⟩ | heq
  · rw [heq, hkbps]
  · rw [heq]

theorem takeBitrate_eq (s : VideoEncoder) (kbps : Int) :
    s.takeBitrate kbps = { s with params := { s.params with bitrateKbps := clampKbps kbps } } := by
  unfold takeBitrate
  rcases s.setBitrate_cases kbps with ⟨heq, hkbps⟩ | heq
  · rw [heq, ← hkbps]
  · rw [heq]

/-- The preferred encoder comes first. -/
theorem init_preferred {lib : Libav} (s : VideoEncoder) {p : VideoEncoderParams} {opens : Bytes → OpenEnd}
    (hpreferred : p.preferredEncoder.isEmpty = false)
    (hopens : openEncoder lib p (opens p.preferredEncoder) = true) :
    ∃ e, s.init lib p opens = (e, true) ∧ e.encoderName = p.preferredEncoder := by
  have hfind : (candidates p).find? (fun name => openEncoder lib p (opens name)) =
      some p.preferredEncoder := by
    unfold candidates
    rw [hpreferred]
    exact List.find?_cons_of_pos hopens
  unfold init
  rw [hfind]
  exact ⟨_, rfl, rfl⟩

end VideoEncoder

namespace HostStreamer

open ScalerRun (imgutils)
open VideoEncoder (clampKbps)

/-! ## The bitrate -/

/-- The bitrate that a call leaves the encoder with; a call that is lost leaves it alone. -/
def askedKbps : StreamerEvent → Option Int
  | .setBitrate kbps | .lateBitrate kbps true => some (clampKbps kbps)
  | _ => none

/-- The bitrate asked for last, by a call that was not lost. -/
def lastKbps (cfg : StreamConfig) (es : List StreamerEvent) : Int :=
  (es.filterMap askedKbps).getLastD cfg.bitrateKbps

/-- The bitrate that an encoder was opened with last. -/
def lastOpenedKbps (lib : Libav) (cfg : StreamConfig) (s : HostStreamer) (es : List StreamerEvent) :
    Int :=
  ((stepsOf (next lib) s es).filterMap (fun p => p.1.openedKbps lib p.2)).getLastD cfg.bitrateKbps

/-- Whether the encoder has a bitrate without its mark after a step. -/
def takenLate (lib : Libav) (late : Bool) (p : HostStreamer × StreamerEvent) : Bool :=
  match p.2 with
  | .lateBitrate _ taken => taken || late
  | _ => if (p.1.openedKbps lib p.2).isSome then false else late

/-- Whether it has been given one since it was opened last. -/
def lastTakenLate (lib : Libav) (s : HostStreamer) (es : List StreamerEvent) : Bool :=
  (stepsOf (next lib) s es).foldl (takenLate lib) false

/-- The encoder has the bitrate asked for, and what it was opened with is the same, or marked for a
    change, or taken on too late for that. -/
def Paced (asked opened : Int) (late : Bool) (e : VideoEncoder) : Prop :=
  e.params.bitrateKbps = asked ∧
    (late = false → e.opened = true → e.bitrateDirty = false → opened = asked)

theorem Pass.paced {lib : Libav} {s s' : HostStreamer} {a : PassAnswers} {out : List StreamerEffect}
    (h : Pass lib s a s' out) {e : VideoEncoder} (he : s.encoder = some e) {asked opened : Int}
    {late : Bool} (hs : Paced asked opened late e) :
    ∃ e', s'.encoder = some e' ∧
      Paced asked ((s.openedKbps lib (.thread a)).getD opened) (takenLate lib late (s, .thread a)) e' := by
  unfold takenLate
  dsimp only
  obtain ⟨hasked, hopened⟩ := hs
  rcases h.encoder he with ⟨heq, hnone⟩ | ⟨e', hinit, heq, hsome⟩ | ⟨frame, -, heq, hnone⟩ |
    ⟨-, heq, hkbps⟩
  · rw [hnone]
    exact ⟨e, heq, hasked, hopened⟩
  · have hcurrent : s.currentKbps = asked := by
      unfold currentKbps
      rw [he]
      exact hasked
    obtain ⟨hparams, -, -, -, -⟩ := VideoEncoder.init_spec hinit
    rw [hsome]
    refine ⟨e', heq, ?_, fun _ _ _ => hcurrent⟩
    rw [hparams, ← hcurrent]
    rfl
  · obtain ⟨hsetup, -⟩ := e.encode_spec lib frame.width frame.height a.encode
    rw [hnone]
    refine ⟨_, heq, ?_, ?_⟩
    · rw [VideoEncoder.params_of_setup hsetup]
      exact hasked
    · rw [VideoEncoder.opened_of_setup hsetup, VideoEncoder.bitrateDirty_of_setup hsetup]
      exact hopened
  · rw [hkbps]
    refine ⟨_, heq, ?_⟩
    rcases e.applyBitrateIfDirty_cases lib a.opens with ⟨hsame, -⟩ | ⟨e', hinit, hsame⟩ |
      ⟨e', hinit, hsame⟩
    · rw [hsame]
      exact ⟨hasked, hopened⟩
    · obtain ⟨hparams, -, -, -, -⟩ := VideoEncoder.init_spec hinit
      rw [hsame]
      refine ⟨?_, fun _ _ _ => hasked⟩
      dsimp only
      rw [hparams]
      exact hasked
    · obtain ⟨hparams, -, hclosed, -, -⟩ := VideoEncoder.init_spec hinit
      rw [hsame]
      refine ⟨by rw [hparams]; exact hasked, fun _ hop => ?_⟩
      rw [hclosed] at hop
      cases hop

theorem paced_next {lib : Libav} {s s' : HostStreamer} {ev : StreamerEvent} (hequipped : s.Equipped)
    {asked opened : Int} {late : Bool} (hs : ∀ e, s.encoder = some e → Paced asked opened late e)
    (h : s.next lib ev = .ok s') {e' : VideoEncoder} (he' : s'.encoder = some e') :
    Paced ((askedKbps ev).getD asked) ((s.openedKbps lib ev).getD opened)
      (takenLate lib late (s, ev)) e' := by
  cases ev with
  | thread a =>
      rcases next_thread h with ⟨hended, rfl, -⟩ | ⟨hlive, hpass⟩
      · have hnone : s'.openedKbps lib (.thread a) = none := by simp [openedKbps, hended]
        rw [takenLate, hnone]
        exact hs e' he'
      · obtain ⟨e, he⟩ := Option.isSome_iff_exists.1 (hequipped hlive)
        obtain ⟨e₁, he₁, hpaced⟩ := hpass.paced he (hs e he)
        obtain rfl := Option.some.inj (he₁.symm.trans he')
        exact hpaced
  | setBitrate kbps =>
      obtain rfl := Except.ok.inj h
      obtain ⟨e, he, rfl⟩ := Option.map_eq_some_iff.1 he'
      obtain ⟨hasked, hopened⟩ := hs e he
      refine ⟨e.setBitrate_kbps kbps, ?_⟩
      rcases e.setBitrate_cases kbps with ⟨hsame, hkbps⟩ | hchanged
      · rw [hsame]
        intro hmarked hop hclean
        exact (hopened hmarked hop hclean).trans (hasked.symm.trans hkbps)
      · rw [hchanged]
        exact fun _ _ hclean => by cases hclean
  | lateBitrate kbps taken =>
      obtain rfl := Except.ok.inj h
      cases taken with
      | false => exact hs e' he'
      | true =>
          obtain ⟨e, he, rfl⟩ := Option.map_eq_some_iff.1 he'
          rw [e.takeBitrate_eq kbps]
          exact ⟨rfl, fun hmarked => by cases hmarked⟩
  | requestKeyframe =>
      obtain rfl := Except.ok.inj h
      obtain ⟨e, he, rfl⟩ := Option.map_eq_some_iff.1 he'
      exact hs e he
  | requestEncoderRestart | requestSoftwareEncoder | stop =>
      obtain rfl := Except.ok.inj h
      exact hs e' he'
  | joined =>
      obtain rfl := Except.ok.inj h
      by_cases hended : s.position = .ended
      · rw [if_pos hended] at he'
        cases he'
      · rw [if_neg hended] at he'
        exact hs e' he'

section Started

variable {lib : Libav} {forced : Bytes} {cfg : StreamConfig} {init : InitEnd}
  {opens : Bytes → OpenEnd} {s t : HostStreamer}

/-- **The bitrate asked for last.** Whatever has been restarted, the encoder is one for the bitrate that
    was asked for last by a call that was not lost; and if it is open, then with this bitrate, unless the
    change is still marked or was taken on after the encoder had been opened. -/
theorem bitrate_survives (hstart : start lib forced cfg init opens = .ok (s, true))
    (es : List StreamerEvent) (hrun : runFrom (faulting (next lib)) (.ok s) es = .ok t)
    (e : VideoEncoder) (he : t.encoder = some e) :
    Paced (lastKbps cfg es) (lastOpenedKbps lib cfg s es) (lastTakenLate lib s es) e := by
  have hinv : t.Equipped ∧ ∀ e, t.encoder = some e →
      Paced (lastKbps cfg es) (lastOpenedKbps lib cfg s es) (lastTakenLate lib s es) e := by
    refine runFrom_faulting_induction (next lib)
      (fun es t => t.Equipped ∧ ∀ e, t.encoder = some e →
        Paced (lastKbps cfg es) (lastOpenedKbps lib cfg s es) (lastTakenLate lib s es) e)
      ?_ ?_ es hrun
    · obtain ⟨capture, e, -, hinit, rfl⟩ := start_cases hstart
      obtain ⟨hparams, -, -, -, -⟩ := VideoEncoder.init_spec hinit
      refine ⟨fun _ => rfl, fun e' he' => ?_⟩
      obtain rfl := Option.some.inj he'
      exact ⟨by rw [hparams]; rfl, fun _ _ _ => rfl⟩
    · rintro es t ev t' hreach ⟨hequipped, ih⟩ hnext
      refine ⟨equipped_next t ev t' hequipped hnext, fun e' he' => ?_⟩
      unfold lastKbps lastOpenedKbps lastTakenLate
      rw [stepsOf_concat (next lib) hreach, getLastD_filterMap_concat, getLastD_filterMap_concat,
        List.foldl_append]
      exact paced_next hequipped ih hnext he'
  exact hinv.2 e he

/-- A restart, with one call before it and one that falls into it. -/
def restartRun : List StreamerEvent :=
  [.setBitrate 60000, .requestEncoderRestart, .thread noFrame, .thread noFrame,
    .lateBitrate 3000 false]

theorem bitrate_survives_restartRun :
    ∃ t e, runFrom (faulting (next imgutils)) (.ok streaming) restartRun = .ok t ∧
      t.encoder = some e ∧
      Paced (lastKbps {} restartRun) (lastOpenedKbps imgutils {} streaming restartRun)
        (lastTakenLate imgutils streaming restartRun) e :=
  ⟨_, _, rfl, rfl, bitrate_survives start_streaming restartRun rfl _ rfl⟩

example : lastKbps {} restartRun = 50000 ∧
    lastOpenedKbps imgutils {} streaming restartRun = 50000 := by
  decide +kernel

end Started

/-! ## The codec -/

/-- The name says an encoder of this codec. -/
def IsEncoderOf (codec : VideoCodec) (name : Bytes) : Prop := name ∈ encoderCandidates codec

/-- The last candidate is the software encoder of the codec. -/
theorem softwareEncoder_isEncoderOf (codec : VideoCodec) :
    IsEncoderOf codec (softwareEncoder codec) := by
  unfold IsEncoderOf softwareEncoder encoderCandidates
  split
  · simp
  · split <;> simp

theorem recoveryEncoder_isEncoderOf {codec : VideoCodec} (h : codec ≠ .Av1) :
    IsEncoderOf codec (recoveryEncoder codec) := by
  unfold IsEncoderOf recoveryEncoder encoderCandidates
  rw [if_neg h]
  split <;> simp

/-- What the encoder is forced to be fits the codec. -/
def ForcedFits (codec : VideoCodec) (name : Bytes) : Prop := name = [] ∨ IsEncoderOf codec name

theorem isEncoderOf_of_candidate {p : VideoEncoderParams} (hforced : ForcedFits p.codec p.preferredEncoder)
    {name : Bytes} (h : name ∈ VideoEncoder.candidates p) : IsEncoderOf p.codec name := by
  unfold VideoEncoder.candidates at h
  rcases List.mem_append.1 h with hpreferred | hlisted
  · rcases hforced with hnone | hfits
    · rw [hnone] at hpreferred
      cases hpreferred
    · split at hpreferred
      · cases hpreferred
      · exact List.mem_singleton.1 hpreferred ▸ hfits
  · exact (List.mem_filter.1 hlisted).1

/-- The encoder, and every one that comes after it, is of the codec. -/
structure Coded (codec : VideoCodec) (s : HostStreamer) : Prop where
  configured : s.cfg.codec = codec
  forced : ForcedFits codec s.forcedEncoder
  encoder : ∀ e, s.encoder = some e →
    IsEncoderOf codec e.encoderName ∧ e.params.codec = codec ∧ ForcedFits codec e.params.preferredEncoder

theorem coded_init {codec : VideoCodec} {lib : Libav} {s e : VideoEncoder} {p : VideoEncoderParams}
    {opens : Bytes → OpenEnd} (hcodec : p.codec = codec) (hforced : ForcedFits codec p.preferredEncoder)
    {ok : Bool} (hname : IsEncoderOf codec s.encoderName ∨ ok = true)
    (h : s.init lib p opens = (e, ok)) :
    IsEncoderOf codec e.encoderName ∧ e.params.codec = codec ∧
      ForcedFits codec e.params.preferredEncoder := by
  obtain ⟨hparams, -, -, -, hopened, hkept⟩ := VideoEncoder.init_spec h
  subst hcodec
  rw [hparams]
  refine ⟨?_, rfl, hforced⟩
  cases ok with
  | true => exact isEncoderOf_of_candidate hforced (hopened rfl)
  | false =>
      rw [hkept rfl]
      exact hname.resolve_right nofun

theorem Pass.codec {lib : Libav} {s s' : HostStreamer} {a : PassAnswers} {out : List StreamerEffect}
    (h : Pass lib s a s' out) : s'.cfg.codec = s.cfg.codec := by
  cases h with
  | waited | failedOnce | gaveUp | captured => exact refreshCrop_codec _ _
  | enter | leave | keep | restarted | restartFailed | recovered | recoveryFailed | reinitialised
  | encodeFailed | encoded | repaced | stranded =>
      rfl

/-- The thread forces an encoder only after a restart that failed. -/
theorem Pass.forcedEncoder {lib : Libav} {s s' : HostStreamer} {a : PassAnswers}
    {out : List StreamerEffect} (h : Pass lib s a s' out) :
    s'.forcedEncoder = s.forcedEncoder ∨
      .error .restartFailed ∈ out ∧ s'.forcedEncoder = recoveryEncoder s.cfg.codec := by
  cases h with
  | waited | failedOnce | gaveUp | captured => exact Or.inl (refreshCrop_forcedEncoder _ _)
  | restartFailed => exact Or.inr ⟨List.mem_singleton.2 rfl, rfl⟩
  | enter | leave | keep | restarted | recovered | recoveryFailed | reinitialised | encodeFailed
  | encoded | repaced | stranded =>
      exact Or.inl rfl

theorem Pass.coded {lib : Libav} {s s' : HostStreamer} {a : PassAnswers} {out : List StreamerEffect}
    (h : Pass lib s a s' out) {codec : VideoCodec} (hs : s.Coded codec)
    (henc : s.encoder.isSome = true)
    (hgood : codec = .Av1 → .error .restartFailed ∉ out) : s'.Coded codec := by
  obtain ⟨hcodec, hforced, hencoder⟩ := hs
  obtain ⟨e, he⟩ := Option.isSome_iff_exists.1 henc
  refine ⟨h.codec.trans hcodec, ?_, fun e' he' => ?_⟩
  · rcases h.forcedEncoder with hsame | ⟨hreport, hnew⟩
    · rwa [hsame]
    · rw [hnew, hcodec]
      exact Or.inr (recoveryEncoder_isEncoderOf fun hav1 => hgood hav1 hreport)
  · obtain ⟨hname, hparams, hpreferred⟩ := hencoder e he
    rcases h.encoder he with ⟨heq, -⟩ | ⟨e₁, hinit, heq, -⟩ | ⟨frame, -, heq, -⟩ | ⟨-, heq, -⟩
    · obtain rfl := Option.some.inj (heq.symm.trans he')
      exact ⟨hname, hparams, hpreferred⟩
    · obtain rfl := Option.some.inj (heq.symm.trans he')
      exact coded_init hcodec hforced (Or.inr rfl) hinit
    · obtain rfl := Option.some.inj (heq.symm.trans he')
      obtain ⟨hsetup, -⟩ := e.encode_spec lib frame.width frame.height a.encode
      rw [VideoEncoder.params_of_setup hsetup, VideoEncoder.encoderName_of_setup hsetup]
      exact ⟨hname, hparams, hpreferred⟩
    · obtain rfl := Option.some.inj (heq.symm.trans he')
      rcases e.applyBitrateIfDirty_cases lib a.opens with ⟨hsame, -⟩ | ⟨e₁, hinit, hsame⟩ |
        ⟨e₁, hinit, hsame⟩
      · rw [hsame]
        exact ⟨hname, hparams, hpreferred⟩
      · have hcoded := coded_init hparams hpreferred (Or.inr rfl) hinit
        rw [hsame]
        exact hcoded
      · rw [hsame]
        exact coded_init hparams hpreferred (Or.inl hname) hinit

theorem coded_next {lib : Libav} {s s' : HostStreamer} {ev : StreamerEvent} (hequipped : s.Equipped)
    {codec : VideoCodec} (hs : s.Coded codec) (h : s.next lib ev = .ok s')
    (hgood : codec = .Av1 → .error .restartFailed ∉ s.outputs lib ev) : s'.Coded codec := by
  cases ev with
  | thread a =>
      rcases next_thread h with ⟨hended, rfl, -⟩ | ⟨hlive, hpass⟩
      · exact hs
      · exact hpass.coded hs (hequipped hlive) hgood
  | lateBitrate kbps taken =>
      obtain rfl := Except.ok.inj h
      cases taken with
      | false => exact ⟨hs.configured, hs.forced, hs.encoder⟩
      | true =>
          refine ⟨hs.configured, hs.forced, fun e' he' => ?_⟩
          obtain ⟨e, he, rfl⟩ := Option.map_eq_some_iff.1 he'
          rw [e.takeBitrate_eq kbps]
          exact hs.encoder e he
  | setBitrate kbps =>
      obtain rfl := Except.ok.inj h
      refine ⟨hs.configured, hs.forced, fun e' he' => ?_⟩
      obtain ⟨e, he, rfl⟩ := Option.map_eq_some_iff.1 he'
      rcases e.setBitrate_cases kbps with ⟨hsame, -⟩ | hchanged
      · rw [hsame]
        exact hs.encoder e he
      · rw [hchanged]
        exact hs.encoder e he
  | requestKeyframe =>
      obtain rfl := Except.ok.inj h
      refine ⟨hs.configured, hs.forced, fun e' he' => ?_⟩
      obtain ⟨e, he, rfl⟩ := Option.map_eq_some_iff.1 he'
      exact hs.encoder e he
  | requestEncoderRestart | stop =>
      obtain rfl := Except.ok.inj h
      exact ⟨hs.configured, hs.forced, hs.encoder⟩
  | requestSoftwareEncoder =>
      obtain rfl := Except.ok.inj h
      exact ⟨hs.configured, Or.inr (hs.configured ▸ softwareEncoder_isEncoderOf s.cfg.codec), hs.encoder⟩
  | joined =>
      obtain rfl := Except.ok.inj h
      by_cases hended : s.position = .ended
      · rw [if_pos hended]
        exact ⟨hs.configured, hs.forced, fun e' he' => by cases he'⟩
      · rw [if_neg hended]
        exact hs

theorem codec_next {lib : Libav} (s : HostStreamer) (ev : StreamerEvent) (s' : HostStreamer)
    (h : s.next lib ev = .ok s') : s'.cfg.codec = s.cfg.codec := by
  cases ev with
  | thread a =>
      rcases next_thread h with ⟨-, rfl, -⟩ | ⟨-, hpass⟩
      · rfl
      · exact hpass.codec
  | setBitrate | lateBitrate | requestKeyframe | requestEncoderRestart | requestSoftwareEncoder | stop =>
      obtain rfl := Except.ok.inj h
      rfl
  | joined =>
      obtain rfl := Except.ok.inj h
      by_cases hended : s.position = .ended
      · rw [if_pos hended]
      · rw [if_neg hended]

/-- The recovery opens the encoder that is forced, where it opens at all. -/
theorem recovers_forced {lib : Libav} {s s' : HostStreamer} {a : PassAnswers}
    (h : s.next lib (.thread a) = .ok s') (hpos : s.position = .recovery) (hrunning : s.running = true)
    (hopens : a.opens s.forcedEncoder = .opened) (hsome : s.forcedEncoder.isEmpty = false)
    (hsize : lib.allocates s.cfg.width s.cfg.height = true) :
    ∃ e, s'.encoder = some e ∧ e.encoderName = s.forcedEncoder := by
  have hopen : VideoEncoder.openEncoder lib (s.encoderParams s.currentKbps)
      (a.opens (s.encoderParams s.currentKbps).preferredEncoder) = true := by
    rw [show (s.encoderParams s.currentKbps).preferredEncoder = s.forcedEncoder from rfl, hopens]
    exact hsize
  obtain ⟨e, hinit, hname⟩ := VideoEncoder.init_preferred {} hsome hopen
  have heq : s.captureLoop lib a = .ok ({ s with encoder := some e, position := .capture }, []) := by
    unfold captureLoop performEncoderRestart
    simp [hpos, hrunning, hinit]
  have hstep : s.next lib (.thread a) = .ok { s with encoder := some e, position := .capture } :=
    calc s.next lib (.thread a) = (s.captureLoop lib a).map Prod.fst := rfl
      _ = .ok { s with encoder := some e, position := .capture } := by rw [heq]; rfl
  obtain rfl := Except.ok.inj (hstep.symm.trans h)
  exact ⟨e, rfl, hname⟩

/-- A recovery starts with the encoder that it forces. -/
theorem recovers_with {lib : Libav} {s s₁ s₂ : HostStreamer} {a a₁ : PassAnswers}
    (h : s.next lib (.thread a) = .ok s₁)
    (hfailed : .error .restartFailed ∈ s.outputs lib (.thread a))
    (hrunning : s.running = true)
    (hopens : a₁.opens (recoveryEncoder s.cfg.codec) = .opened)
    (hsize : lib.allocates s.cfg.width s.cfg.height = true)
    (h₁ : s₁.next lib (.thread a₁) = .ok s₂) :
    ∃ e, s₂.encoder = some e ∧ e.encoderName = recoveryEncoder s.cfg.codec := by
  rcases next_thread h with ⟨-, -, hout⟩ | ⟨-, hpass⟩
  · rw [hout] at hfailed
    cases hfailed
  · generalize s.outputs lib (.thread a) = out at hfailed hpass
    cases hpass with
    | enter | leave | keep | restarted | recovered | waited | failedOnce | captured | reinitialised
    | encodeFailed | repaced | stranded =>
        cases hfailed
    | recoveryFailed | gaveUp => simp at hfailed
    | encoded => simp at hfailed
    | restartFailed hpos hreq hfails =>
        have hsome : (recoveryEncoder s.cfg.codec).isEmpty = false := by
          unfold recoveryEncoder
          split <;> decide +kernel
        exact recovers_forced h₁ rfl hrunning hopens hsome hsize

section Started

variable {lib : Libav} {forced : Bytes} {cfg : StreamConfig} {init : InitEnd}
  {opens : Bytes → OpenEnd} {s t : HostStreamer}

/-- **The codec of a stream.** Every encoder is one of the codec of the stream, as long as no restart has
    failed in a stream of AV1; after that, libx264 goes on with it wherever it opens. -/
theorem codec_kept (hstart : start lib forced cfg init opens = .ok (s, true))
    (hforced : ForcedFits cfg.codec forced) (es : List StreamerEvent)
    (hrun : runFrom (faulting (next lib)) (.ok s) es = .ok t) :
    ((cfg.codec = .Av1 →
        ∀ p ∈ stepsOf (next lib) s es, .error .restartFailed ∉ p.1.outputs lib p.2) →
      ∀ e, t.encoder = some e → IsEncoderOf cfg.codec e.encoderName) ∧
    (cfg.codec = .Av1 → ∀ a a₁ t₁ t₂,
      t.next lib (.thread a) = .ok t₁ → .error .restartFailed ∈ t.outputs lib (.thread a) →
      t.running = true → a₁.opens (ascii "libx264") = .opened →
      lib.allocates t.cfg.width t.cfg.height = true → t₁.next lib (.thread a₁) = .ok t₂ →
      ∃ e, t₂.encoder = some e ∧ ¬ IsEncoderOf cfg.codec e.encoderName) := by
  refine ⟨?_, ?_⟩
  · have hinv : t.Equipped ∧
        ((cfg.codec = .Av1 →
          ∀ p ∈ stepsOf (next lib) s es, .error .restartFailed ∉ p.1.outputs lib p.2) →
        t.Coded cfg.codec) := by
      refine runFrom_faulting_induction (next lib)
        (fun es t => t.Equipped ∧
          ((cfg.codec = .Av1 →
            ∀ p ∈ stepsOf (next lib) s es, .error .restartFailed ∉ p.1.outputs lib p.2) →
          t.Coded cfg.codec))
        ?_ ?_ es hrun
      · obtain ⟨capture, e, -, hinit, rfl⟩ := start_cases hstart
        refine ⟨fun _ => rfl, fun _ => ⟨rfl, hforced, fun e' he' => ?_⟩⟩
        obtain rfl := Option.some.inj he'
        exact coded_init rfl hforced (Or.inr rfl) hinit
      · rintro es t ev t' hreach ⟨hequipped, ih⟩ hnext
        refine ⟨equipped_next t ev t' hequipped hnext, fun hgood => ?_⟩
        rw [stepsOf_concat (next lib) hreach] at hgood
        refine coded_next hequipped (ih fun hav1 p hp => ?_) hnext fun hav1 => ?_
        · exact hgood hav1 p (List.mem_append_left _ hp)
        · exact hgood hav1 (t, ev) (List.mem_append_right _ (List.mem_singleton.2 rfl))
    intro hgood e he
    exact ((hinv.2 hgood).encoder e he).1
  · intro hav1 a a₁ t₁ t₂ h hfailed hrunning hopens hsize h₁
    have hcodec : t.cfg.codec = .Av1 := by
      obtain ⟨capture, e, -, -, rfl⟩ := start_cases hstart
      exact runFrom_faulting_invariant (next lib) (fun t => t.cfg.codec = .Av1)
        (fun t ev t' ht hnext => (codec_next t ev t' hnext).trans ht) hav1 es hrun
    have hforce : recoveryEncoder t.cfg.codec = ascii "libx264" := by
      rw [hcodec]
      rfl
    obtain ⟨e, he, hname⟩ := recovers_with h hfailed hrunning (hforce ▸ hopens) hsize h₁
    refine ⟨e, he, ?_⟩
    rw [hname, hforce, hav1]
    unfold IsEncoderOf
    decide +kernel

theorem codec_kept_streaming :
    ∃ t, runFrom (faulting (next imgutils)) (.ok streaming) [.requestSoftwareEncoder] = .ok t ∧
      (((({} : StreamConfig).codec = .Av1 →
          ∀ p ∈ stepsOf (next imgutils) streaming [.requestSoftwareEncoder],
            .error .restartFailed ∉ p.1.outputs imgutils p.2) →
        ∀ e, t.encoder = some e → IsEncoderOf ({} : StreamConfig).codec e.encoderName) ∧
      (({} : StreamConfig).codec = .Av1 → ∀ a a₁ t₁ t₂,
        t.next imgutils (.thread a) = .ok t₁ →
        .error .restartFailed ∈ t.outputs imgutils (.thread a) →
        t.running = true → a₁.opens (ascii "libx264") = .opened →
        imgutils.allocates t.cfg.width t.cfg.height = true → t₁.next imgutils (.thread a₁) = .ok t₂ →
        ∃ e, t₂.encoder = some e ∧ ¬ IsEncoderOf ({} : StreamConfig).codec e.encoderName)) :=
  ⟨_, rfl, codec_kept start_streaming (Or.inl rfl) _ rfl⟩

end Started

/-! ## Key frames -/

/-- The frame that FFmpeg takes in a step. -/
def acceptedFrame (lib : Libav) (s : HostStreamer) (ev : StreamerEvent) : Option SentFrame :=
  match ev with
  | .thread a =>
      match s.position, s.encoder with
      | .encode frame, some e =>
          if a.encode.sent then (e.encode lib frame.width frame.height a.encode).sentFrame else none
      | _, _ => none
  | _ => none

/-- A step from which on a key frame is due: it is asked for, or an encoder is opened. -/
def asksKeyframe (lib : Libav) (s : HostStreamer) (ev : StreamerEvent) : Bool :=
  match ev with
  | .requestKeyframe => true
  | _ => (s.openedKbps lib ev).isSome

/-- Whether a key frame is due: none has been taken since it was asked for. -/
def keyframeDue (lib : Libav) (steps : List (HostStreamer × StreamerEvent)) : Bool :=
  steps.foldl
    (fun due p =>
      if p.1.asksKeyframe lib p.2 then true
      else if (p.1.acceptedFrame lib p.2).isSome then false
      else due)
    true

/-- Where a frame that is due can be while the encoder does not know of it: the encoder has lost it with
    a frame that failed, and is about to be replaced. -/
def Replacing (s : HostStreamer) : Prop :=
  s.restartRequested = true ∧ (s.position = .loop ∨ s.position = .restart) ∨
    s.position = .recovery ∨ s.position = .ended

/-- What the encoder knows of a key frame that is due. -/
structure Keyed (due : Bool) (s : HostStreamer) : Prop where
  sound : ∀ e, s.encoder = some e → e.keyframeRequested = true → due = true ∨ e.opened = false
  complete : due = true → ∀ e, s.encoder = some e → e.keyframeRequested = true ∨ s.Replacing

/-- Nothing is due that was not before, and the encoder is the same. -/
theorem Keyed.of_same {due : Bool} {s s' : HostStreamer} (hs : s.Keyed due)
    (hencoder : s'.encoder = s.encoder) (hmoves : s.Replacing → s'.Replacing) : s'.Keyed due where
  sound e he := hs.sound e (hencoder ▸ he)
  complete hdue e he := (hs.complete hdue e (hencoder ▸ he)).imp_right hmoves

/-- Nothing is due that was not before, and the encoder knows of the same. -/
theorem Keyed.of_map {due : Bool} {s s' : HostStreamer} (hs : s.Keyed due)
    {f : VideoEncoder → VideoEncoder} (hencoder : s'.encoder = s.encoder.map f)
    (hsame : ∀ e, (f e).keyframeRequested = e.keyframeRequested ∧ (f e).opened = e.opened)
    (hmoves : s.Replacing → s'.Replacing) : s'.Keyed due where
  sound e' he' hrequested := by
    obtain ⟨e, he, rfl⟩ := Option.map_eq_some_iff.1 (hencoder ▸ he')
    rw [(hsame e).1] at hrequested
    rw [(hsame e).2]
    exact hs.sound e he hrequested
  complete hdue e' he' := by
    obtain ⟨e, he, rfl⟩ := Option.map_eq_some_iff.1 (hencoder ▸ he')
    rw [(hsame e).1]
    exact (hs.complete hdue e he).imp_right hmoves

/-- A new encoder starts with a key frame. -/
theorem keyed_opened {s' : HostStreamer} {p : VideoEncoderParams} {lib : Libav} {e₀ e : VideoEncoder}
    {opens : Bytes → OpenEnd} {ok : Bool} (hinit : e₀.init lib p opens = (e, ok))
    (hs' : s'.encoder = some e) : s'.Keyed true where
  sound _ _ _ := Or.inl rfl
  complete _ e' he' := by
    obtain ⟨-, hkey, -⟩ := VideoEncoder.init_spec hinit
    obtain rfl := Option.some.inj (hs'.symm.trans he')
    exact Or.inl hkey

theorem Pass.keyed {lib : Libav} {s s' : HostStreamer} {a : PassAnswers} {out : List StreamerEffect}
    (h : Pass lib s a s' out) {due : Bool} (hs : s.Keyed due) :
    s'.Keyed
      (if s.asksKeyframe lib (.thread a) then true
        else if (s.acceptedFrame lib (.thread a)).isSome then false
        else due) := by
  unfold asksKeyframe openedKbps acceptedFrame
  cases h with
  | enter hpos hrun =>
      simp only [hpos, Option.isSome_none, Bool.false_eq_true, if_false]
      refine hs.of_same rfl fun hmoves => ?_
      simpa [Replacing, hpos] using hmoves
  | leave hpos hrun =>
      simp only [hpos, Option.isSome_none, Bool.false_eq_true, if_false]
      exact hs.of_same rfl fun _ => Or.inr (Or.inr rfl)
  | keep hpos hreq =>
      simp only [hpos, hreq, Bool.false_and, Option.isSome_none, Bool.false_eq_true, if_false]
      refine hs.of_same rfl fun hmoves => ?_
      simp [Replacing, hpos, hreq] at hmoves
  | restartFailed hpos hreq hfails =>
      simp only [hpos, hfails, Bool.and_false, Option.isSome_none, Bool.false_eq_true, if_false]
      exact hs.of_same rfl fun _ => Or.inr (Or.inl rfl)
  | recoveryFailed hpos hfails =>
      simp only [hpos, hfails, Option.isSome_none, Bool.false_eq_true, if_false]
      exact hs.of_same rfl fun _ => Or.inr (Or.inr rfl)
  | waited e capture hpos henc hcap | failedOnce e capture hpos henc hcap
  | gaveUp e capture hpos henc hcap | captured e capture frame hpos henc hcap =>
      simp only [hpos, Option.isSome_none, Bool.false_eq_true, if_false]
      refine hs.of_same (refreshCrop_encoder _ _) fun hmoves => ?_
      simp [Replacing, hpos] at hmoves
  | reinitialised capture ok hpos hinit =>
      simp only [hpos, Option.isSome_none, Bool.false_eq_true, if_false]
      refine hs.of_same rfl fun hmoves => ?_
      simp [Replacing, hpos] at hmoves
  | restarted e hpos hreq hrun hinit =>
      simp only [hpos, hreq, reopens, hrun, hinit, Bool.and_self, if_true, Option.isSome_some]
      exact keyed_opened hinit rfl
  | recovered e hpos hrun hinit =>
      simp only [hpos, reopens, hrun, hinit, Bool.and_self, if_true, Option.isSome_some]
      exact keyed_opened hinit rfl
  | encodeFailed e frame hpos henc hok =>
      simp only [hpos, henc, Option.isSome_none, Bool.false_eq_true, if_false]
      obtain ⟨hsetup, hkey⟩ := e.encode_spec lib frame.width frame.height a.encode
      refine ⟨fun e' he' hrequested => ?_, fun _ _ _ => Or.inr (Or.inl ⟨rfl, Or.inl rfl⟩)⟩
      obtain rfl := Option.some.inj he'
      rcases hkey with ⟨hnone, hsame, -⟩ | ⟨-, -, -, -, hcleared, -⟩
      · rw [hnone, ite_self, Option.isSome_none, if_neg Bool.false_ne_true]
        rw [hsame] at hrequested
        rw [VideoEncoder.opened_of_setup hsetup]
        exact hs.sound e henc hrequested
      · rw [hcleared] at hrequested
        cases hrequested
  | encoded e frame hpos henc hok =>
      simp only [hpos, henc, Option.isSome_none, Bool.false_eq_true, if_false]
      obtain ⟨hsetup, hkey⟩ := e.encode_spec lib frame.width frame.height a.encode
      rcases hkey with ⟨-, -, hnot⟩ | ⟨taken, hsent, -, -, hcleared, hfailed⟩
      · exact absurd hok hnot
      · have haccepted : a.encode.sent = true := by
          by_contra hnot
          rw [hfailed (Bool.eq_false_iff.2 hnot)] at hok
          cases hok
        rw [haccepted, if_pos rfl, hsent, Option.isSome_some, if_pos rfl]
        refine ⟨fun e' he' hrequested => ?_, fun hdue => absurd hdue Bool.false_ne_true⟩
        obtain rfl := Option.some.inj he'
        rw [hcleared] at hrequested
        cases hrequested
  | repaced e hpos henc =>
      simp only [hpos, henc]
      rcases e.applyBitrateIfDirty_cases lib a.opens with ⟨hsame, -⟩ | ⟨e₁, hinit, hsame⟩ |
        ⟨e₁, hinit, hsame⟩
      · rw [hsame]
        simp only [Option.isSome_none, Bool.false_eq_true, if_false]
        refine hs.of_same henc.symm fun hmoves => ?_
        simp [Replacing, hpos] at hmoves
      · rw [hsame]
        simp only [if_true, Option.isSome_some]
        obtain ⟨-, hkey, -⟩ := VideoEncoder.init_spec hinit
        exact ⟨fun _ _ _ => Or.inl rfl, fun _ e' he' => Or.inl (Option.some.inj he' ▸ hkey)⟩
      · rw [hsame]
        simp only [Option.isSome_none, Bool.false_eq_true, if_false]
        obtain ⟨-, hkey, hclosed, -⟩ := VideoEncoder.init_spec hinit
        refine ⟨fun e' he' _ => Or.inr ?_, fun _ e' he' => Or.inl ?_⟩
        · exact Option.some.inj he' ▸ hclosed
        · exact Option.some.inj he' ▸ hkey
  | stranded henc =>
      refine ⟨fun e he => ?_, fun _ e he => ?_⟩
      · rw [henc] at he
        cases he
      · rw [henc] at he
        cases he

theorem keyed_next {lib : Libav} {s s' : HostStreamer} {ev : StreamerEvent} {due : Bool}
    (hs : s.Keyed due) (h : s.next lib ev = .ok s') :
    s'.Keyed
      (if s.asksKeyframe lib ev then true
        else if (s.acceptedFrame lib ev).isSome then false
        else due) := by
  cases ev with
  | thread a =>
      rcases next_thread h with ⟨hended, rfl, -⟩ | ⟨-, hpass⟩
      · rw [show s'.asksKeyframe lib (.thread a) = false by simp [asksKeyframe, openedKbps, hended],
          show s'.acceptedFrame lib (.thread a) = none by simp [acceptedFrame, hended]]
        exact hs
      · exact hpass.keyed hs
  | setBitrate kbps =>
      obtain rfl := Except.ok.inj h
      refine hs.of_map rfl (fun e => ?_) id
      rcases e.setBitrate_cases kbps with ⟨heq, -⟩ | heq
      · rw [heq]
        exact ⟨rfl, rfl⟩
      · rw [heq]
        exact ⟨rfl, rfl⟩
  | lateBitrate kbps taken =>
      obtain rfl := Except.ok.inj h
      cases taken with
      | false => exact hs.of_same rfl id
      | true =>
          refine hs.of_map rfl (fun e => ?_) id
          rw [e.takeBitrate_eq kbps]
          exact ⟨rfl, rfl⟩
  | requestKeyframe =>
      obtain rfl := Except.ok.inj h
      refine ⟨fun _ _ _ => Or.inl rfl, fun _ e' he' => Or.inl ?_⟩
      obtain ⟨e, he, rfl⟩ := Option.map_eq_some_iff.1 he'
      rfl
  | requestEncoderRestart | requestSoftwareEncoder =>
      obtain rfl := Except.ok.inj h
      refine hs.of_same rfl fun hmoves => ?_
      rcases hmoves with ⟨hreq, hpos⟩ | hlate
      · exact Or.inl ⟨by simp [hreq], hpos⟩
      · exact Or.inr hlate
  | stop =>
      obtain rfl := Except.ok.inj h
      exact hs.of_same rfl id
  | joined =>
      obtain rfl := Except.ok.inj h
      by_cases hended : s.position = .ended
      · rw [if_pos hended]
        exact ⟨fun e he => (by cases he), fun _ e he => (by cases he)⟩
      · rw [if_neg hended]
        exact hs

/-- What a step with an accepted frame is. -/
theorem acceptedFrame_cases {lib : Libav} {s : HostStreamer} {ev : StreamerEvent} {taken : SentFrame}
    (h : s.acceptedFrame lib ev = some taken) :
    ∃ frame e, s.position = .encode frame ∧ s.encoder = some e ∧ e.opened = true ∧
      taken.keyframe = e.keyframeRequested := by
  unfold acceptedFrame at h
  split at h
  · next a =>
      split at h
      · next frame e hpos henc =>
          split at h
          · obtain ⟨-, hkey⟩ := e.encode_spec lib frame.width frame.height a.encode
            rcases hkey with ⟨hnone, -⟩ | ⟨sent, hsome, hopened, hflag, -⟩
            · rw [hnone] at h
              cases h
            · obtain rfl := Option.some.inj (hsome.symm.trans h)
              exact ⟨frame, e, hpos, henc, hopened, hflag⟩
          · cases h
      · cases h
  · cases h

section Started

variable {lib : Libav} {forced : Bytes} {cfg : StreamConfig} {init : InitEnd}
  {opens : Bytes → OpenEnd} {s t : HostStreamer}

/-- **No request for a key frame is lost, and none is made up.** A frame that FFmpeg takes is a forced key
    frame exactly if none has been taken since a key frame was asked for or an encoder opened, however
    many frames, restarts and encoders have failed in between. -/
theorem keyframe_iff_due (hstart : start lib forced cfg init opens = .ok (s, true))
    (es : List StreamerEvent) (hrun : runFrom (faulting (next lib)) (.ok s) es = .ok t)
    (ev : StreamerEvent) (taken : SentFrame) (htaken : t.acceptedFrame lib ev = some taken) :
    taken.keyframe = keyframeDue lib (stepsOf (next lib) s es) := by
  have hkeyed : t.Keyed (keyframeDue lib (stepsOf (next lib) s es)) := by
    refine runFrom_faulting_induction (next lib)
      (fun es t => t.Keyed (keyframeDue lib (stepsOf (next lib) s es))) ?_ ?_ es hrun
    · obtain ⟨capture, e, -, hinit, rfl⟩ := start_cases hstart
      exact keyed_opened hinit rfl
    · intro es t ev t' hreach ih hnext
      rw [stepsOf_concat (next lib) hreach, keyframeDue, List.foldl_append]
      exact keyed_next ih hnext
  obtain ⟨frame, e, hpos, henc, hopened, hflag⟩ := acceptedFrame_cases htaken
  rw [hflag]
  cases hdue : keyframeDue lib (stepsOf (next lib) s es) with
  | true =>
      refine (hkeyed.complete hdue e henc).resolve_right fun hmoves => ?_
      simp [Replacing, hpos] at hmoves
  | false =>
      rw [Bool.eq_false_iff]
      intro hrequested
      rcases hkeyed.sound e henc hrequested with htrue | hclosed
      · rw [hdue] at htrue
        cases htrue
      · rw [hopened] at hclosed
        cases hclosed

/-- A platform with a desktop of 1920x1080. -/
def desktop : PassAnswers where
  opens _ := .opened
  window := none
  capture := { map := .mapped 7680 }
  init := .ready ⟨0, 0, 1920, 1080⟩
  encode := {}

/-- The streamer with its first frame. -/
def grabbed : HostStreamer :=
  { streaming with
    capture := { streaming.capture with mapped := some 7680, frameCounter := 1 }
    position := .encode
      { data := 0, width := 1920, height := 1080, stride := 7680, timestampUs := 0, frameId := 1 } }

theorem keyframe_iff_due_desktop :
    runFrom (faulting (next imgutils)) (.ok streaming)
        [.thread desktop, .thread desktop, .thread desktop] = .ok grabbed ∧
      grabbed.acceptedFrame imgutils (.thread desktop) = some ⟨0, true⟩ ∧
      true = keyframeDue imgutils (stepsOf (next imgutils) streaming
        [.thread desktop, .thread desktop, .thread desktop]) := by
  have hrun : runFrom (faulting (next imgutils)) (.ok streaming)
      [.thread desktop, .thread desktop, .thread desktop] = .ok grabbed := rfl
  have htaken : grabbed.acceptedFrame imgutils (.thread desktop) = some ⟨0, true⟩ := by
    decide +kernel
  exact ⟨hrun, htaken, keyframe_iff_due start_streaming _ hrun _ _ htaken⟩

end Started

end HostStreamer

end RemotePlay.Media
