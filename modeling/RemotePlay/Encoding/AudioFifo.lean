import RemotePlay.Encoding.AudioCodec
import RemotePlay.Lib.Chunks
import RemotePlay.Lib.Runs

set_option autoImplicit false

/-! # What the audio encoder is given

The FIFO counts bytes and `encode` counts samples, so half of the bytes of every call go in, and half
of the bytes of every frame come out; the other half of the frame is what its buffer held from the
beginning. Which calls get through all the same is `fifo_preserves_iff`. -/

namespace RemotePlay.Media

/-- An encoder, and all samples that it was given. -/
structure EncoderRun where
  encoder : AudioEncoderOpus
  input : Bytes := []

structure EncoderEvent where
  call : EncodeCall
  library : Nat → FrameEnd

namespace AudioEncoderOpus

/-! ## The loop -/

/-- What the loop does when FFmpeg takes every frame. -/
structure Sent (s s' : AudioEncoderOpus) (k : Nat) : Prop where
  ctx : s'.ctx = s.ctx
  nbSamples : s'.nbSamples = s.nbSamples
  rest : s'.frame.data.drop (s.nbSamples * 2) = s.frame.data.drop (s.nbSamples * 2)
  fifo : s'.fifo = s.fifo.drop (s.nbSamples * 2 * k)
  count : s'.submitted.length = s.submitted.length + k
  data : s'.submitted.flatMap AudioFrame.data = s.submitted.flatMap AudioFrame.data ++
    pieces k (fun j => chunk (s.nbSamples * 2) j s.fifo ++ s.frame.data.drop (s.nbSamples * 2))

theorem sent_none (s : AudioEncoderOpus) : Sent s s 0 where
  ctx := rfl
  nbSamples := rfl
  rest := rfl
  fifo := rfl
  count := rfl
  data := (List.append_nil _).symm

theorem drop_fillFrame {s : AudioEncoderOpus} (h : s.nbSamples * 2 ≤ s.fifo.length) :
    s.fillFrame.frame.data.drop (s.nbSamples * 2) = s.frame.data.drop (s.nbSamples * 2) := by
  have hlength : (s.fifo.take (s.nbSamples * 2)).length = s.nbSamples * 2 := by
    rw [List.length_take, Nat.min_eq_left h]
  exact List.drop_left' hlength

/-- One frame, and then the others. -/
theorem Sent.cons {s s' : AudioEncoderOpus} {k packets : Nat}
    (h : s.nbSamples * 2 ≤ s.fifo.length) (hsent : Sent (s.fillFrame.submitFrame packets) s' k) :
    Sent s s' (k + 1) := by
  obtain ⟨hctx, hnb, hrest, hfifo, hcount, hdata⟩ := hsent
  have hkept : (s.fillFrame.submitFrame packets).frame.data.drop (s.nbSamples * 2) =
      s.frame.data.drop (s.nbSamples * 2) := drop_fillFrame h
  refine ⟨hctx, hnb, hrest.trans hkept, ?_, ?_, ?_⟩
  · rw [hfifo, Nat.mul_succ (s.nbSamples * 2), Nat.add_comm (s.nbSamples * 2 * k), ← List.drop_drop]
    rfl
  · rw [hcount]
    show (s.submitted ++ [s.fillFrame.frame]).length + k = _
    rw [List.length_append, List.length_singleton, Nat.add_assoc, Nat.add_comm 1]
  · rw [hdata]
    show (s.submitted ++ [s.fillFrame.frame]).flatMap AudioFrame.data ++
        pieces k (fun j => chunk (s.nbSamples * 2) j (s.fifo.drop (s.nbSamples * 2)) ++
          (s.fillFrame.submitFrame packets).frame.data.drop (s.nbSamples * 2)) = _
    rw [hkept, List.flatMap_append, List.flatMap_singleton, List.append_assoc, pieces_succ']
    simp only [chunk_drop]
    rfl

/-- The loop sends every whole frame's worth of elements. -/
theorem sendFrames_spec {library : Nat → FrameEnd}
    (hworks : ∀ i, ∃ packets, library i = .received packets true) :
    ∀ (fuel i : Nat) (s : AudioEncoderOpus) (out : List AudioPacket), 0 < s.nbSamples →
      s.fifo.length ≤ fuel →
        Sent s (sendFrames library fuel i s out).1 (s.fifo.length / (s.nbSamples * 2)) := by
  intro fuel
  induction fuel with
  | zero =>
      intro i s out hnb hfuel
      rw [Nat.le_zero.1 hfuel, Nat.zero_div]
      exact sent_none s
  | succ fuel ih =>
      intro i s out hnb hfuel
      unfold sendFrames
      by_cases hfew : s.fifo.length < s.nbSamples * 2
      · rw [if_pos hfew, Nat.div_eq_of_lt hfew]
        exact sent_none s
      · have henough := Nat.not_lt.1 hfew
        obtain ⟨packets, hreceived⟩ := hworks i
        have hdiv : s.fifo.length / (s.nbSamples * 2) =
            (s.fifo.drop (s.nbSamples * 2)).length / (s.nbSamples * 2) + 1 := by
          rw [List.length_drop]
          exact Nat.div_eq_sub_div (by omega) henough
        rw [if_neg hfew, hreceived, hdiv]
        dsimp only
        rw [if_neg (by simp)]
        refine Sent.cons henough (ih (i + 1) (s.fillFrame.submitFrame packets.length) _ hnb ?_)
        show (s.fifo.drop (s.nbSamples * 2)).length ≤ fuel
        rw [List.length_drop]
        omega

/-- What `encode` writes fits, if there is something to write. -/
def Fits (s : AudioEncoderOpus) (c : EncodeCall) : Prop :=
  c.samples.isSome → s.fifo.length + c.frameCount * 2 ≤ fifoCapacity

/-- The loop starts with the first half of the samples behind what is in the FIFO. -/
theorem encode_eq {s : AudioEncoderOpus} {c : EncodeCall} (hctx : s.ctx = true) (hfits : s.Fits c)
    (library : Nat → FrameEnd) {fifo : Bytes}
    (hfifo : fifo = s.fifo ++ c.input.take (c.input.length / 2)) :
    s.encode c library = sendFrames library fifo.length 0 { s with fifo := fifo } [] := by
  have hopen : ¬ (!s.ctx) = true := by rw [hctx]; exact nofun
  obtain ⟨samples, frameCount, hcovers⟩ := c
  unfold encode
  rw [if_neg hopen]
  cases samples with
  | none =>
      have hempty : fifo = s.fifo := by
        rw [hfifo, EncodeCall.input, Option.getD_none, List.take_nil, List.append_nil]
      rw [hempty]
  | some bytes =>
      have hhalf : bytes.length / 2 = frameCount * 2 := by
        have hlength := hcovers bytes rfl
        omega
      have hwritten : fifo = s.fifo ++ bytes.take (frameCount * 2) := by
        rw [hfifo, ← hhalf]
        rfl
      dsimp only
      split
      · next hzero =>
          rw [hzero, Nat.zero_mul, List.take_zero, List.append_nil] at hwritten
          rw [hwritten]
      · have hwrite : s.writeFifo bytes frameCount = some { s with fifo := fifo } := by
          rw [hwritten]
          exact if_neg (Nat.not_lt.2 (hfits rfl))
        rw [hwrite]

end AudioEncoderOpus

/-! ## Runs -/

namespace EncoderRun

def start (init : EncoderInit) : EncoderRun := { encoder := (AudioEncoderOpus.init init).1 }

def step (w : EncoderRun) (e : EncoderEvent) : EncoderRun where
  encoder := (w.encoder.encode e.call e.library).1
  input := w.input ++ e.call.input

/-- What was submitted is the input, as far as it fills frames, and `bufferedFrames` the rest. -/
def Preserves (w : EncoderRun) : Prop :=
  w.encoder.submitted.flatMap AudioFrame.data =
      w.input.take (w.encoder.nbSamples * 4 * (w.input.length / (w.encoder.nbSamples * 4))) ∧
    w.encoder.nbSamples * w.encoder.submitted.length + w.encoder.bufferedFrames = w.input.length / 4

/-- The write fits, and no call of FFmpeg fails. -/
def Works (w : EncoderRun) (e : EncoderEvent) : Prop :=
  w.encoder.Fits e.call ∧ ∀ i, ∃ packets, e.library i = .received packets true

/-- The call passes whole frames of the encoder, and all of it behind the first half of the first frame
    repeats what the buffer of the frame holds in its second half. -/
def Repeats (w : EncoderRun) (e : EncoderEvent) : Prop :=
  e.call.input.length % (w.encoder.nbSamples * 4) = 0 ∧
    ∀ j, 0 < j → j < e.call.input.length / (w.encoder.nbSamples * 2) →
      chunk (w.encoder.nbSamples * 2) j e.call.input =
        w.encoder.frame.data.drop (w.encoder.nbSamples * 2)

/-- An encoder that was given whole frames and has nothing left in its FIFO. -/
structure Inv (w : EncoderRun) : Prop where
  ctx : w.encoder.ctx = true
  nbSamples : 0 < w.encoder.nbSamples
  rest : (w.encoder.frame.data.drop (w.encoder.nbSamples * 2)).length = w.encoder.nbSamples * 2
  fifo : w.encoder.fifo = []
  length : w.input.length = w.encoder.nbSamples * 4 * w.encoder.submitted.length
  data : w.encoder.submitted.flatMap AudioFrame.data = w.input

theorem inv_start (frameSize : Int) (memory : Nat → UInt8) : Inv (start (.ready frameSize memory)) := by
  have hpos : 0 < (start (.ready frameSize memory)).encoder.nbSamples := by
    show 0 < if 0 < frameSize then frameSize.toNat else kOpusFrameSize
    split
    · omega
    · decide
  refine ⟨rfl, hpos, ?_, rfl, rfl, rfl⟩
  show (((List.range _).map memory).drop _).length = _
  rw [List.length_drop, List.length_map, List.length_range]
  show (start (.ready frameSize memory)).encoder.nbSamples * 4 -
    (start (.ready frameSize memory)).encoder.nbSamples * 2 = _
  omega

/-- Frames that are halves of `l` with `rest` behind them make up `l` exactly if all halves but the
    first are `rest`. -/
theorem pieces_halves {n k : Nat} {l rest : Bytes} (hl : l.length = n * (2 * k))
    (hrest : rest.length = n) :
    pieces k (fun j => chunk n j l ++ rest) = l ↔ ∀ j, 0 < j → j < 2 * k → chunk n j l = rest := by
  have hchunk : ∀ j < 2 * k, (chunk n j l).length = n :=
    fun j hj => length_chunk (hl ▸ Nat.mul_le_mul_left n hj)
  have hwhole : pieces k (fun j => chunk n (2 * j) l ++ chunk n (2 * j + 1) l) = l := by
    rw [← pieces_two_mul k (fun j => chunk n j l), pieces_chunk_of_length hl]
  have hpairs : pieces k (fun j => chunk n j l ++ rest) = l ↔
      ∀ j < k, chunk n j l ++ rest = chunk n (2 * j) l ++ chunk n (2 * j + 1) l := by
    have hinj : pieces k (fun j => chunk n j l ++ rest) =
        pieces k (fun j => chunk n (2 * j) l ++ chunk n (2 * j + 1) l) ↔ _ :=
      pieces_inj (n := 2 * n) (fun j hj => ?_) (fun j hj => ?_)
    · rwa [hwhole] at hinj
    · rw [List.length_append, hchunk j (by omega), hrest]
      omega
    · rw [List.length_append, hchunk _ (by omega), hchunk _ (by omega)]
      omega
  have hsplit : ∀ j < k, (chunk n j l ++ rest = chunk n (2 * j) l ++ chunk n (2 * j + 1) l ↔
      chunk n j l = chunk n (2 * j) l ∧ rest = chunk n (2 * j + 1) l) := by
    intro j hj
    constructor
    · intro h
      exact List.append_inj h ((hchunk j (by omega)).trans (hchunk _ (by omega)).symm)
    · rintro ⟨hfirst, hsecond⟩
      rw [← hfirst, ← hsecond]
  rw [hpairs]
  constructor
  · intro hall j
    -- a half with an even number is the half of half its number
    induction j using Nat.strong_induction_on with
    | _ j ih =>
        intro hpos hj
        have hpair := (hsplit (j / 2) (by omega)).1 (hall (j / 2) (by omega))
        rcases Nat.mod_two_eq_zero_or_one j with heven | hodd
        · have hdouble : 2 * (j / 2) = j := by omega
          rw [hdouble] at hpair
          rw [← hpair.1]
          exact ih (j / 2) (by omega) (by omega) (by omega)
        · have hdouble : 2 * (j / 2) + 1 = j := by omega
          rw [hdouble] at hpair
          exact hpair.2.symm
  · intro hall j hj
    refine (hsplit j hj).2 ⟨?_, (hall (2 * j + 1) (by omega) (by omega)).symm⟩
    rcases Nat.eq_zero_or_pos j with rfl | hpos
    · rfl
    · rw [hall j hpos (by omega), hall (2 * j) (by omega) (by omega)]

/-- A call that works, from a FIFO that is empty. -/
theorem sent_step {w : EncoderRun} (h : Inv w) {e : EncoderEvent} (hworks : w.Works e) :
    AudioEncoderOpus.Sent { w.encoder with fifo := e.call.input.take (e.call.input.length / 2) }
      (w.step e).encoder (e.call.input.length / 2 / (w.encoder.nbSamples * 2)) := by
  have hfifo : e.call.input.take (e.call.input.length / 2) =
      w.encoder.fifo ++ e.call.input.take (e.call.input.length / 2) := by
    rw [h.fifo, List.nil_append]
  have hlength : (e.call.input.take (e.call.input.length / 2)).length = e.call.input.length / 2 := by
    rw [List.length_take, Nat.min_eq_left (Nat.div_le_self ..)]
  have hsent := AudioEncoderOpus.sendFrames_spec hworks.2
    (e.call.input.take (e.call.input.length / 2)).length 0
    { w.encoder with fifo := e.call.input.take (e.call.input.length / 2) } [] h.nbSamples
    (Nat.le_refl _)
  rw [← AudioEncoderOpus.encode_eq h.ctx hworks.1 e.library hfifo] at hsent
  dsimp only at hsent
  rw [hlength] at hsent
  exact hsent

/-- A call covers stereo frames. -/
theorem four_dvd_input (c : EncodeCall) : 4 ∣ c.input.length := by
  obtain ⟨samples, frameCount, hcovers⟩ := c
  cases samples with
  | none => exact Nat.dvd_zero 4
  | some bytes => exact ⟨frameCount, (hcovers bytes rfl).trans (Nat.mul_comm _ _)⟩

/-- What is left of a call in the FIFO is counted right only if nothing is. -/
theorem leftover_iff (nb K f : Nat) :
    nb * (K + 2 * f / (nb * 2)) + (2 * f - nb * 2 * (2 * f / (nb * 2))) / 4 = (nb * 4 * K + 4 * f) / 4 ↔
      4 * f % (nb * 4) = 0 := by
  have hquot : 2 * f / (nb * 2) = f / nb := by
    rw [Nat.mul_comm nb 2, Nat.mul_div_mul_left f nb (by decide)]
  have hmod : 4 * f % (nb * 4) = 4 * (f % nb) := by
    rw [Nat.mul_comm nb 4, Nat.mul_mod_mul_left]
  have hsplit := Nat.div_add_mod f nb
  have hframes : nb * (K + f / nb) = nb * K + nb * (f / nb) := Nat.mul_add ..
  have hbytes : nb * 2 * (f / nb) = 2 * (nb * (f / nb)) := by
    rw [Nat.mul_comm nb 2, Nat.mul_assoc]
  have hold : nb * 4 * K = 4 * (nb * K) := by
    rw [Nat.mul_comm nb 4, Nat.mul_assoc]
  rw [hquot, hmod, hframes, hbytes, hold]
  omega

/-- A call of whole frames empties the FIFO. -/
theorem sent_whole {w : EncoderRun} (h : Inv w) {e : EncoderEvent} (hworks : w.Works e) {k : Nat}
    (hk : e.call.input.length = w.encoder.nbSamples * 4 * k) :
    (w.step e).encoder.fifo = [] ∧
      (w.step e).encoder.submitted.length = w.encoder.submitted.length + k ∧
      (w.step e).encoder.submitted.flatMap AudioFrame.data =
        w.input ++ pieces k (fun j => chunk (w.encoder.nbSamples * 2) j e.call.input ++
          w.encoder.frame.data.drop (w.encoder.nbSamples * 2)) := by
  have hhalf : e.call.input.length / 2 = w.encoder.nbSamples * 2 * k := by
    rw [hk, Nat.mul_right_comm, Nat.mul_right_comm _ 2]
    omega
  have hcount : e.call.input.length / 2 / (w.encoder.nbSamples * 2) = k := by
    rw [hhalf]
    exact Nat.mul_div_cancel_left k (Nat.mul_pos h.nbSamples (by decide))
  have hsent := sent_step h hworks
  rw [hcount, hhalf] at hsent
  refine ⟨?_, hsent.count, ?_⟩
  · rw [hsent.fifo, List.drop_eq_nil_iff, List.length_take]
    exact Nat.min_le_left ..
  · rw [hsent.data]
    show w.encoder.submitted.flatMap AudioFrame.data ++ _ = _
    rw [h.data]
    refine congrArg _ (pieces_congr (fun j hj => ?_))
    show chunk (w.encoder.nbSamples * 2) j (e.call.input.take (w.encoder.nbSamples * 2 * k)) ++ _ = _
    rw [chunk_take hj]

/-- **One call.** A call that works keeps the FIFO's promise exactly if it repeats the rest of the
    frame; and then the FIFO is empty again. -/
theorem preserves_step_iff {w : EncoderRun} (h : Inv w) {e : EncoderEvent} (hworks : w.Works e) :
    (w.step e).Preserves ↔ w.Repeats e := by
  have hsent := sent_step h hworks
  have hnb : (w.step e).encoder.nbSamples = w.encoder.nbSamples := hsent.nbSamples
  obtain ⟨f, hf⟩ := four_dvd_input e.call
  have hinput : (w.step e).input.length =
      w.encoder.nbSamples * 4 * w.encoder.submitted.length + 4 * f := by
    show (w.input ++ e.call.input).length = _
    rw [List.length_append, h.length, hf]
  have hwhole : w.encoder.nbSamples * (w.step e).encoder.submitted.length +
        (w.step e).encoder.bufferedFrames = (w.step e).input.length / 4 ↔
      e.call.input.length % (w.encoder.nbSamples * 4) = 0 := by
    have hhalf : e.call.input.length / 2 = 2 * f := by omega
    have hrest : (w.step e).encoder.fifo.length =
        2 * f - w.encoder.nbSamples * 2 * (2 * f / (w.encoder.nbSamples * 2)) := by
      rw [hsent.fifo, List.length_drop, List.length_take, hhalf, Nat.min_eq_left (by omega)]
    have hcount : (w.step e).encoder.submitted.length =
        w.encoder.submitted.length + 2 * f / (w.encoder.nbSamples * 2) := by
      rw [hsent.count, hhalf]
    rw [AudioEncoderOpus.bufferedFrames, hrest, hcount, hinput, hf]
    exact leftover_iff _ _ f
  rw [Preserves, Repeats, hnb, hwhole, and_comm]
  refine and_congr_right (fun hdvd => ?_)
  obtain ⟨k, hk⟩ := Nat.dvd_of_mod_eq_zero hdvd
  obtain ⟨-, hcount, hdata⟩ := sent_whole h hworks hk
  have hall : w.encoder.nbSamples * 4 * ((w.step e).input.length / (w.encoder.nbSamples * 4)) =
      (w.step e).input.length := by
    refine Nat.mul_div_cancel' ?_
    rw [hinput, ← hf, hk]
    exact Nat.dvd_add (Nat.dvd_mul_right ..) (Nat.dvd_mul_right ..)
  have hpos : 0 < w.encoder.nbSamples * 2 := Nat.mul_pos h.nbSamples (by decide)
  have hhalves : e.call.input.length = w.encoder.nbSamples * 2 * (2 * k) := by
    rw [hk, Nat.mul_assoc, Nat.mul_assoc, ← Nat.mul_assoc 2 2 k]
  have hquot : e.call.input.length / (w.encoder.nbSamples * 2) = 2 * k := by
    rw [hhalves, Nat.mul_div_cancel_left _ hpos]
  rw [hdata, hall, List.take_length, hquot]
  show w.input ++ _ = w.input ++ e.call.input ↔ _
  rw [List.append_cancel_left_eq]
  exact pieces_halves hhalves h.rest

theorem inv_step {w : EncoderRun} (h : Inv w) {e : EncoderEvent} (hworks : w.Works e)
    (hrepeats : w.Repeats e) : Inv (w.step e) := by
  have hsent := sent_step h hworks
  have hnb : (w.step e).encoder.nbSamples = w.encoder.nbSamples := hsent.nbSamples
  have hrest : (w.step e).encoder.frame.data.drop (w.encoder.nbSamples * 2) =
      w.encoder.frame.data.drop (w.encoder.nbSamples * 2) := hsent.rest
  obtain ⟨k, hk⟩ := Nat.dvd_of_mod_eq_zero hrepeats.1
  obtain ⟨hfifo, hcount, -⟩ := sent_whole h hworks hk
  have hlength : (w.step e).input.length =
      w.encoder.nbSamples * 4 * (w.step e).encoder.submitted.length := by
    show (w.input ++ e.call.input).length = _
    rw [List.length_append, h.length, hk, hcount, Nat.mul_add]
  have hpreserves := ((preserves_step_iff h hworks).2 hrepeats).1
  refine ⟨hsent.ctx.trans h.ctx, hnb ▸ h.nbSamples, ?_, hfifo, ?_, ?_⟩
  · rw [hnb, hrest]
    exact h.rest
  · rw [hnb]
    exact hlength
  · rw [hpreserves, hnb, hlength,
      Nat.mul_div_cancel_left _ (Nat.mul_pos h.nbSamples (by decide)), ← hlength, List.take_length]

/-- **When the FIFO preserves samples.** On an encoder that was initialised, with writes that fit and an
    FFmpeg that takes every frame, every call keeps the promise exactly if every call passes whole
    frames and repeats, behind the first half of the first one, what the buffer of the frame held
    from the beginning in its second half. -/
theorem fifo_preserves_iff (frameSize : Int) (memory : Nat → UInt8) (es : List EncoderEvent)
    (hworks : ∀ p ∈ history step (start (.ready frameSize memory)) es, p.1.Works p.2) :
    (∀ p ∈ history step (start (.ready frameSize memory)) es, (step p.1 p.2).Preserves) ↔
      ∀ p ∈ history step (start (.ready frameSize memory)) es, p.1.Repeats p.2 := by
  have hrun := forall_history_iff step Inv (fun w e => w.Works e ∧ (w.step e).Preserves)
    (fun w e => w.Works e ∧ w.Repeats e)
    (fun w e h hQ => ⟨⟨hQ.1, (preserves_step_iff h hQ.1).2 hQ.2⟩, inv_step h hQ.1 hQ.2⟩)
    (fun w e h hP => ⟨hP.1, (preserves_step_iff h hP.1).1 hP.2⟩)
    (start (.ready frameSize memory)) es (inv_start frameSize memory)
  constructor
  · intro hall p hp
    exact (hrun.1 (fun q hq => ⟨hworks q hq, hall q hq⟩) p hp).2
  · intro hall p hp
    exact (hrun.2 (fun q hq => ⟨hworks q hq, hall q hq⟩) p hp).2

/-- A call of `encode` with `n` silent frames. -/
def silence (n : Nat) : EncoderEvent where
  call :=
    { samples := some (List.replicate (n * 4) 0)
      frameCount := n
      covers := by
        intro bytes hbytes
        rw [← Option.some.inj hbytes, List.length_replicate] }
  library _ := .received [] true

theorem works_silence : ∀ p ∈ history step (start (.ready 960 (fun _ => 0))) [silence 480],
    p.1.Works p.2 := by
  intro p hp
  obtain rfl := List.mem_singleton.1 hp
  exact ⟨fun _ => by decide, fun _ => ⟨[], rfl⟩⟩

theorem fifo_preserves_iff_silence :
    (∀ p ∈ history step (start (.ready 960 (fun _ => 0))) [silence 480], (step p.1 p.2).Preserves) ↔
      ∀ p ∈ history step (start (.ready 960 (fun _ => 0))) [silence 480], p.1.Repeats p.2 :=
  fifo_preserves_iff 960 (fun _ => 0) [silence 480] works_silence

/-- After 10 ms of audio, 240 frames are said to be buffered instead of 480. -/
theorem half_of_buffered_frames :
    ¬ ∀ (frameSize : Int) (memory : Nat → UInt8) (es : List EncoderEvent),
      (∀ p ∈ history step (start (.ready frameSize memory)) es, p.1.Works p.2) →
        ∀ p ∈ history step (start (.ready frameSize memory)) es, (step p.1 p.2).Preserves := by
  intro hall
  have hpreserves := hall 960 (fun _ => 0) [silence 480] works_silence _ (List.mem_singleton.2 rfl)
  exact absurd hpreserves.2 (by decide +kernel)

end EncoderRun

end RemotePlay.Media
