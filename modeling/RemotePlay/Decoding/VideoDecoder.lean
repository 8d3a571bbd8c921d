import RemotePlay.Common.Types
import RemotePlay.Lib.Runs

set_option autoImplicit false

/-! # The video decoder (`decoding/VideoDecoder.cpp`)

Packets go to FFmpeg, and what it returns is scaled to BGRA. The scaler is kept from frame to frame and
made anew when the size or the pixel format changes; a decoder that makes one for every frame emits the
same pictures (`decodes_as_plain`). A packet that FFmpeg refuses is answered with an empty one, which
ends the stream: the context takes no packet after that (`ClientStreamer.refused_for_good`).

FFmpeg is a parameter (`Libavcodec`). An `int` is an `Int`; a packet has less than `2 ^ 31` bytes, as
all frames of the transport have. Times, names and error texts are left out. -/

namespace RemotePlay.Media

/-- An `AVPacket`; without `data` it is an empty one. -/
structure AvPacket where
  data : Option Bytes
  pts : Int64 := 0
  keyframe : Bool := false
deriving DecidableEq, Repr

/-- An `AVFrame`, with all that its planes hold. -/
structure AvFrame where
  width : Int
  height : Int
  format : Int
  pts : Int64 := 0
  keyframe : Bool := false
  planes : Bytes := []
deriving DecidableEq, Repr

structure DecodedFrame where
  bgra : Bytes
  width : Int
  height : Int
  ptsUs : UInt64
  keyframe : Bool
deriving DecidableEq, Repr

/-- A scaler to BGRA of the same size, by what it was made for. -/
structure BgraScaler where
  width : Int
  height : Int
  format : Int
deriving DecidableEq, Repr

/-- What the decoder uses of FFmpeg, where `κ` is the state of a context. -/
structure Libavcodec (κ : Type) where
  /-- A context for this codec that is open. -/
  opens : VideoCodec → Option κ
  /-- `avcodec_send_packet`, and whether it takes the packet. -/
  sendPacket : κ → AvPacket → κ × Bool
  /-- What `avcodec_receive_frame` returns until there are no more frames, or until an error. -/
  receiveFrames : κ → κ × List AvFrame × Bool
  /-- `sws_getContext` returns a context. -/
  getsContext : BgraScaler → Bool
  /-- What is in the buffer after `sws_scale`. -/
  scale : BgraScaler → AvFrame → Bytes → Bytes

/-- What the documentation of `avcodec_send_packet` says: an empty packet signals the end of the stream,
    and a context that has seen it takes no more packets. -/
structure Libavcodec.Drains {κ : Type} (lib : Libavcodec κ) (drained : κ → Prop) : Prop where
  ends : ∀ c p, p.data = none → drained (lib.sendPacket c p).1
  refuses : ∀ c p, drained c → (lib.sendPacket c p).2 = false
  receives : ∀ c, drained c → drained (lib.receiveFrames c).1

/-- The decoder; `ctx` stands for the context with its frame and its packet. -/
structure VideoDecoder (κ : Type) where
  ctx : Option κ := none
  sws : Option BgraScaler := none
  codec : VideoCodec := .H264
  width : Int := 0
  height : Int := 0
  lastW : Int := 0
  lastH : Int := 0
  lastFmt : Int := -1
  framesDecoded : UInt64 := 0
  bytesDecoded : UInt64 := 0
deriving DecidableEq, Repr

variable {κ : Type}

/-- What `sws_getContext` is asked for. -/
def AvFrame.scaler (f : AvFrame) : BgraScaler where
  width := f.width
  height := f.height
  format := f.format

/-- The picture that a scaler makes of a frame. -/
def AvFrame.scaledBy (lib : Libavcodec κ) (f : AvFrame) (sws : BgraScaler) : DecodedFrame where
  bgra := lib.scale sws f (List.replicate (f.width * f.height * 4).toNat 0)
  width := f.width
  height := f.height
  ptsUs := if 0 ≤ f.pts then f.pts.toUInt64 else 0
  keyframe := f.keyframe

namespace VideoDecoder

variable (lib : Libavcodec κ) (s : VideoDecoder κ)

/-- `VideoDecoder::close`. -/
def close : VideoDecoder κ := { s with ctx := none, sws := none, width := 0, height := 0 }

/-- `VideoDecoder::init`. -/
def init (codec : VideoCodec) : VideoDecoder κ × Bool :=
  let s := { s.close with codec := codec }
  match lib.opens codec with
  | none => (s, false)
  | some ctx => ({ s with ctx := some ctx }, true)

/-- The scaler in `emitFrame`, if there is one. -/
def refit (f : AvFrame) : VideoDecoder κ × Option BgraScaler :=
  if s.sws.isNone ∨ s.lastW ≠ f.width ∨ s.lastH ≠ f.height ∨ s.lastFmt ≠ f.format then
    let sws := if lib.getsContext f.scaler then some f.scaler else none
    ({ s with sws := sws, lastW := f.width, lastH := f.height, lastFmt := f.format }, sws)
  else (s, s.sws)

/-- `VideoDecoder::emitFrame`; without a picture the result is `false`. -/
def emitFrame (f : AvFrame) : VideoDecoder κ × Option DecodedFrame :=
  let s := { s with width := f.width, height := f.height }
  if f.width ≤ 0 ∨ f.height ≤ 0 then (s, none)
  else
    match s.refit lib f with
    | (s, none) => (s, none)
    | (s, some sws) => ({ s with framesDecoded := s.framesDecoded + 1 }, some (f.scaledBy lib sws))

/-- The loop over the frames of a context: the pictures, and whether every frame gave one. -/
def emitFrames : VideoDecoder κ → List AvFrame → VideoDecoder κ × List DecodedFrame × Bool
  | s, [] => (s, [], true)
  | s, f :: frames =>
      match s.emitFrame lib f with
      | (s, picture) =>
          match emitFrames s frames with
          | (s, out, ok) => (s, picture.toList ++ out, picture.isSome && ok)

/-- The loop of `decode` and `flush`, on a context: the pictures, and whether there was no error. -/
def receive (ctx : κ) : VideoDecoder κ × List DecodedFrame × Bool :=
  match lib.receiveFrames ctx with
  | (ctx, frames, received) =>
      match { s with ctx := some ctx }.emitFrames lib frames with
      | (s, out, ok) => (s, out, ok && received)

/-- `VideoDecoder::decode`: the pictures that are added to `out`, and the result. -/
def decode (data : Option Bytes) (ptsUs : UInt64) (keyframe : Bool) :
    VideoDecoder κ × List DecodedFrame × Bool :=
  match s.ctx with
  | none => (s, [], false)
  | some ctx =>
      let packet : AvPacket := { data := data, pts := ptsUs.toInt64, keyframe := keyframe }
      match lib.sendPacket ctx packet with
      | (ctx, false) =>
          ({ s with ctx := some (lib.sendPacket ctx { packet with data := none }).1 }, [], false)
      | (ctx, true) =>
          let size := UInt64.ofNat (data.getD []).length
          { s with bytesDecoded := s.bytesDecoded + size }.receive lib ctx

/-- `VideoDecoder::flush`. -/
def flush : VideoDecoder κ × List DecodedFrame × Bool :=
  match s.ctx with
  | none => (s, [], false)
  | some ctx =>
      match s.receive lib (lib.sendPacket ctx { data := none }).1 with
      | (s, out, _) => (s, out, true)

/-- `VideoDecoder::reset`. -/
def reset : VideoDecoder κ := (s.init lib s.codec).1

/-- FFmpeg does not take this packet. -/
def refuses (data : Option Bytes) (ptsUs : UInt64) (keyframe : Bool) : Bool :=
  s.ctx.any (fun ctx =>
    !(lib.sendPacket ctx { data := data, pts := ptsUs.toInt64, keyframe := keyframe }).2)

/-- What the owner of a decoder calls. -/
inductive DecoderCall where
  | init (codec : VideoCodec)
  | decode (data : Option Bytes) (ptsUs : UInt64) (keyframe : Bool)
  | flush
  | reset

/-- A call, with the pictures and the result. -/
def call (c : DecoderCall) : VideoDecoder κ × List DecodedFrame × Bool :=
  match c with
  | .init codec => ((s.init lib codec).1, [], (s.init lib codec).2)
  | .decode data ptsUs keyframe => s.decode lib data ptsUs keyframe
  | .flush => s.flush lib
  | .reset => (s.reset lib, [], true)

/-! ## The scaler

A decoder without a cache is a context and its codec. -/

structure Plain (κ : Type) where
  ctx : Option κ := none
  codec : VideoCodec := .H264

/-- The picture of a frame, with a scaler made for it. -/
def picture (f : AvFrame) : Option DecodedFrame :=
  if f.width ≤ 0 ∨ f.height ≤ 0 then none
  else if lib.getsContext f.scaler then some (f.scaledBy lib f.scaler)
  else none

namespace Plain

def init (codec : VideoCodec) : Plain κ × Bool :=
  ({ ctx := lib.opens codec, codec := codec }, (lib.opens codec).isSome)

/-- The pictures of the frames that a context has ready. -/
def receive (d : Plain κ) (ctx : κ) : Plain κ × List DecodedFrame × Bool :=
  match lib.receiveFrames ctx with
  | (ctx, frames, received) =>
      ({ d with ctx := some ctx }, frames.filterMap (picture lib),
        frames.all (fun f => (picture lib f).isSome) && received)

def decode (d : Plain κ) (data : Option Bytes) (ptsUs : UInt64) (keyframe : Bool) :
    Plain κ × List DecodedFrame × Bool :=
  match d.ctx with
  | none => (d, [], false)
  | some ctx =>
      let packet : AvPacket := { data := data, pts := ptsUs.toInt64, keyframe := keyframe }
      match lib.sendPacket ctx packet with
      | (ctx, false) =>
          ({ d with ctx := some (lib.sendPacket ctx { packet with data := none }).1 }, [], false)
      | (ctx, true) => d.receive lib ctx

def flush (d : Plain κ) : Plain κ × List DecodedFrame × Bool :=
  match d.ctx with
  | none => (d, [], false)
  | some ctx =>
      match d.receive lib (lib.sendPacket ctx { data := none }).1 with
      | (d, out, _) => (d, out, true)

def call (d : Plain κ) (c : DecoderCall) : Plain κ × List DecodedFrame × Bool :=
  match c with
  | .init codec => ((init lib codec).1, [], (init lib codec).2)
  | .decode data ptsUs keyframe => d.decode lib data ptsUs keyframe
  | .flush => d.flush lib
  | .reset => ((init lib d.codec).1, [], true)

end Plain

/-- The cached scaler is the one for the last sizes and format. -/
def Cached (s : VideoDecoder κ) : Prop :=
  ∀ sws, s.sws = some sws →
    sws = { width := s.lastW, height := s.lastH, format := s.lastFmt } ∧ lib.getsContext sws = true

/-- The decoder without the cache, at the same context. -/
structure Refines (s : VideoDecoder κ) (d : Plain κ) : Prop where
  ctx : s.ctx = d.ctx
  codec : s.codec = d.codec
  cached : Cached lib s

variable {lib s}

/-- The scaler in `emitFrame` is the one that would be made. -/
theorem refit_spec (h : Cached lib s) (f : AvFrame) :
    (s.refit lib f).2 = (if lib.getsContext f.scaler then some f.scaler else none) ∧
      Cached lib (s.refit lib f).1 ∧ (s.refit lib f).1.ctx = s.ctx ∧
      (s.refit lib f).1.codec = s.codec := by
  unfold refit
  split
  · refine ⟨rfl, fun sws hsws => ?_, rfl, rfl⟩
    dsimp only at hsws
    split at hsws
    · next hmade =>
        obtain rfl := Option.some.inj hsws
        exact ⟨rfl, hmade⟩
    · cases hsws
  · next hkept =>
      simp only [not_or, not_not, Option.isNone_iff_eq_none] at hkept
      obtain ⟨hsome, hwidth, hheight, hformat⟩ := hkept
      obtain ⟨sws, hsws⟩ := Option.ne_none_iff_exists'.1 hsome
      obtain ⟨hfits, hmade⟩ := h sws hsws
      rw [hwidth, hheight, hformat] at hfits
      have hscaler : sws = f.scaler := hfits
      subst hscaler
      exact ⟨by rw [if_pos hmade]; exact hsws, h, rfl, rfl⟩

/-- **One frame** gives the picture that a new scaler would have made. -/
theorem Refines.emitFrame {d : Plain κ} (h : Refines lib s d) (f : AvFrame) :
    (s.emitFrame lib f).2 = picture lib f ∧ Refines lib (s.emitFrame lib f).1 d := by
  have hcached : Cached lib { s with width := f.width, height := f.height } := h.cached
  obtain ⟨hscaler, hstill, hctx, hcodec⟩ := refit_spec hcached f
  unfold VideoDecoder.emitFrame picture
  dsimp only
  split
  · exact ⟨rfl, h.ctx, h.codec, hcached⟩
  · generalize VideoDecoder.refit lib { s with width := f.width, height := f.height } f = r
      at hscaler hstill hctx hcodec
    obtain ⟨s', sws⟩ := r
    by_cases hmade : lib.getsContext f.scaler = true
    · rw [if_pos hmade] at hscaler ⊢
      obtain rfl : sws = some f.scaler := hscaler
      exact ⟨rfl, hctx.trans h.ctx, hcodec.trans h.codec, hstill⟩
    · rw [if_neg hmade] at hscaler ⊢
      obtain rfl : sws = none := hscaler
      exact ⟨rfl, hctx.trans h.ctx, hcodec.trans h.codec, hstill⟩

/-- **The frames of a context.** -/
theorem Refines.emitFrames {d : Plain κ} (h : Refines lib s d) (frames : List AvFrame) :
    (s.emitFrames lib frames).2 =
        (frames.filterMap (picture lib), frames.all (fun f => (picture lib f).isSome)) ∧
      Refines lib (s.emitFrames lib frames).1 d := by
  induction frames generalizing s with
  | nil => exact ⟨rfl, h⟩
  | cons f frames ih =>
      obtain ⟨hpicture, hnext⟩ := h.emitFrame f
      obtain ⟨hrest, hstill⟩ := ih hnext
      refine ⟨?_, hstill⟩
      have hout : (s.emitFrames lib (f :: frames)).2 =
          ((s.emitFrame lib f).2.toList ++ ((s.emitFrame lib f).1.emitFrames lib frames).2.1,
            (s.emitFrame lib f).2.isSome && ((s.emitFrame lib f).1.emitFrames lib frames).2.2) := rfl
      rw [hout, hrest, hpicture, List.filterMap_cons, List.all_cons]
      cases picture lib f <;> rfl

theorem Refines.init (codec : VideoCodec) :
    (s.init lib codec).2 = (Plain.init lib codec).2 ∧
      Refines lib (s.init lib codec).1 (Plain.init lib codec).1 := by
  unfold VideoDecoder.init Plain.init
  cases hopens : lib.opens codec with
  | none => exact ⟨rfl, rfl, rfl, nofun⟩
  | some ctx => exact ⟨rfl, rfl, rfl, nofun⟩

/-- **The frames that are ready**, once a packet was sent. -/
theorem Refines.receive {d : Plain κ} (h : Refines lib s d) (ctx : κ) :
    (s.receive lib ctx).2 = (d.receive lib ctx).2 ∧
      Refines lib (s.receive lib ctx).1 (d.receive lib ctx).1 := by
  unfold VideoDecoder.receive Plain.receive
  obtain ⟨ctx', frames, received⟩ := lib.receiveFrames ctx
  have hat : Refines lib { s with ctx := some ctx' } { d with ctx := some ctx' } :=
    ⟨rfl, h.codec, h.cached⟩
  obtain ⟨hout, hnext⟩ := hat.emitFrames frames
  exact ⟨congrArg (fun out => (out.1, out.2 && received)) hout, hnext⟩

theorem Refines.decode {d : Plain κ} (h : Refines lib s d) (data : Option Bytes) (ptsUs : UInt64)
    (keyframe : Bool) :
    (s.decode lib data ptsUs keyframe).2 = (d.decode lib data ptsUs keyframe).2 ∧
      Refines lib (s.decode lib data ptsUs keyframe).1 (d.decode lib data ptsUs keyframe).1 := by
  unfold VideoDecoder.decode Plain.decode
  rw [← h.ctx]
  cases s.ctx with
  | none => exact ⟨rfl, h⟩
  | some ctx =>
      dsimp only
      split
      · exact ⟨rfl, rfl, h.codec, h.cached⟩
      · next ctx' _ =>
          have hcounted : Refines lib
              { s with bytesDecoded := s.bytesDecoded + UInt64.ofNat (data.getD []).length } d :=
            ⟨h.ctx, h.codec, h.cached⟩
          exact hcounted.receive ctx'

theorem Refines.flush {d : Plain κ} (h : Refines lib s d) :
    (s.flush lib).2 = (d.flush lib).2 ∧ Refines lib (s.flush lib).1 (d.flush lib).1 := by
  unfold VideoDecoder.flush Plain.flush
  rw [← h.ctx]
  cases s.ctx with
  | none => exact ⟨rfl, h⟩
  | some ctx =>
      obtain ⟨hout, hnext⟩ := h.receive (lib.sendPacket ctx { data := none }).1
      exact ⟨congrArg (fun out => (out.1, true)) hout, hnext⟩

/-- **One call** puts out what the decoder without a cache does. -/
theorem Refines.call {d : Plain κ} (h : Refines lib s d) (c : DecoderCall) :
    (s.call lib c).2 = (d.call lib c).2 ∧ Refines lib (s.call lib c).1 (d.call lib c).1 := by
  cases c with
  | init codec =>
      have hinit : (s.init lib codec).2 = (Plain.init lib codec).2 ∧
          Refines lib (s.init lib codec).1 (Plain.init lib codec).1 := Refines.init codec
      exact ⟨congrArg (Prod.mk []) hinit.1, hinit.2⟩
  | decode data ptsUs keyframe => exact h.decode data ptsUs keyframe
  | flush => exact h.flush
  | reset =>
      show _ ∧ Refines lib (s.init lib s.codec).1 (Plain.init lib d.codec).1
      rw [← h.codec]
      exact ⟨rfl, (Refines.init s.codec).2⟩

variable (lib)

/-- **The cache is not seen.** Whatever the frames are, and however often the decoder is made anew, every
    call gives the pictures and the result that it would give with a new scaler for every frame. -/
theorem decodes_as_plain (calls : List DecoderCall) :
    outputs (call lib) ({} : VideoDecoder κ) calls = outputs (Plain.call lib) {} calls :=
  outputs_eq_of_simulation (call lib) (Plain.call lib) (Refines lib) (fun _ _ c h => h.call c)
    ⟨rfl, rfl, fun _ hsws => by cases hsws⟩ calls

/-! ## Packets that are refused -/

/-- The context has seen the end of its stream. -/
def Drained (drained : κ → Prop) (s : VideoDecoder κ) : Prop := ∃ ctx, s.ctx = some ctx ∧ drained ctx

section Drained

variable {lib} {drained : κ → Prop} (hlib : lib.Drains drained) (data : Option Bytes)
  (ptsUs : UInt64) (keyframe : Bool)
include hlib

/-- A packet that is refused drains the context. -/
theorem drained_of_refuses (h : s.refuses lib data ptsUs keyframe = true) :
    Drained drained (s.decode lib data ptsUs keyframe).1 := by
  unfold refuses at h
  unfold decode
  cases hctx : s.ctx with
  | none =>
      rw [hctx] at h
      cases h
  | some ctx =>
      rw [hctx, Option.any_some, Bool.not_eq_true'] at h
      dsimp only
      split
      · exact ⟨_, rfl, hlib.ends _ _ rfl⟩
      · next hsent =>
          rw [hsent] at h
          cases h

/-- **A drained decoder** refuses every packet, and stays drained. -/
theorem decode_of_drained (h : Drained drained s) :
    s.refuses lib data ptsUs keyframe = true ∧
      Drained drained (s.decode lib data ptsUs keyframe).1 ∧
      (s.decode lib data ptsUs keyframe).2 = ([], false) := by
  obtain ⟨ctx, hctx, hdrained⟩ := h
  have hno := hlib.refuses ctx { data := data, pts := ptsUs.toInt64, keyframe := keyframe } hdrained
  have hrefuses : s.refuses lib data ptsUs keyframe = true := by
    unfold refuses
    rw [hctx, Option.any_some, hno]
    rfl
  refine ⟨hrefuses, drained_of_refuses hlib data ptsUs keyframe hrefuses, ?_⟩
  unfold decode
  rw [hctx]
  dsimp only
  split
  · rfl
  · next hsent =>
      rw [hsent] at hno
      cases hno

end Drained

end VideoDecoder

end RemotePlay.Media
