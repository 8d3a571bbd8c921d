import RemotePlay.Input.InputInjector
import RemotePlay.Lib.Runs
import RemotePlay.Networking.InputWire

set_option autoImplicit false

/-! # The order of input

Video and audio go through a sequence tracker and a jitter buffer. An `Input` datagram goes through
neither: as soon as it is let in it is a whole frame, and the frame goes to the input callback. So
the callback sees the frames in the order in which their datagrams arrive, whatever their numbers
are. -/

namespace RemotePlay.App

open Net
open UdpTransport (inputWire)

section Receiver

variable {τ : Type}

/-- The datagram passes the checks of `handleDatagram`. -/
def letsIn (sink : UdpCryptoSink τ) (u : UdpTransport τ) (buf : Bytes) (source : Endpoint)
    (clk : Nat → UInt64) : Bool :=
  match u.authenticate sink buf (clk 0) with
  | (none, _) => false
  | (some (h, _), u) => !(u.learnPeer sink h source).dropsSource source

/-- The datagram says that it is input. -/
def bringsInput : UdpEvent → Bool
  | .datagram buf _ _ => getU8 buf 3 == UdpType.Input.code
  | _ => false

/-- The frames that go to the input callback. -/
def inputsOf (out : List UdpEffect) : List AssembledFrame :=
  out.filterMap (fun effect =>
    match effect with
    | .input frame => some frame
    | _ => none)

/-- What happens to the receiver: the datagram of an input call arrives, or anything else. -/
inductive ReceiverEvent where
  | input (call : Nat) (buf : Bytes) (source : Endpoint) (clk : Nat → UInt64)
  | other (e : UdpEvent)

def ReceiverEvent.event : ReceiverEvent → UdpEvent
  | .input _ buf source clk => .datagram buf source clk
  | .other e => e

/-- One step of the receiver; a fault ends it. -/
def receiverStep (sink : UdpCryptoSink τ) (s : Except FeedFault (UdpTransport τ)) (e : ReceiverEvent) :
    Except FeedFault (UdpTransport τ) := UdpTransport.step sink s e.event

/-- The frames that a step hands to the input callback. -/
def framesAt (sink : UdpCryptoSink τ) :
    Except FeedFault (UdpTransport τ) × ReceiverEvent → List AssembledFrame
  | (.error _, _) => []
  | (.ok u, e) =>
      match u.handle sink e.event with
      | .error _ => []
      | .ok (_, out) => inputsOf out

/-- The input call whose datagram a step lets in, while there is a callback. -/
def letInAt (sink : UdpCryptoSink τ) : Except FeedFault (UdpTransport τ) × ReceiverEvent → List Nat
  | (.ok u, .input call buf source clk) =>
      if u.inputCb ∧ letsIn sink u buf source clk then [call] else []
  | _ => []

/-- The frames handed to the input callback over a run. -/
def inputFrames (sink : UdpCryptoSink τ) (u : UdpTransport τ) (rs : List ReceiverEvent) :
    List AssembledFrame := (history (receiverStep sink) (.ok u) rs).flatMap (framesAt sink)

/-- The input calls whose datagrams are let in over a run, in the order of their arrival. -/
def letIn (sink : UdpCryptoSink τ) (u : UdpTransport τ) (rs : List ReceiverEvent) : List Nat :=
  (history (receiverStep sink) (.ok u) rs).flatMap (letInAt sink)

/-! ## What passes the front of `handleDatagram` -/

theorem inputCb_authenticate (sink : UdpCryptoSink τ) (u : UdpTransport τ) (buf : Bytes)
    (now : UInt64) : (u.authenticate sink buf now).2.inputCb = u.inputCb :=
  UdpTransport.authenticate_frame UdpTransport.inputCb sink u (fun _ _ => rfl) (fun _ _ => rfl)
    (fun _ _ => rfl) buf now

theorem inputCb_learnPeer (sink : UdpCryptoSink τ) (u : UdpTransport τ) (h : UdpHeader)
    (source : Endpoint) : (u.learnPeer sink h source).inputCb = u.inputCb :=
  UdpTransport.learnPeer_frame UdpTransport.inputCb sink u (fun _ _ _ => rfl) h source

/-- Only the payload size of a decoded header changes on the way. -/
theorem header_of_authenticate {sink : UdpCryptoSink τ} {u u' : UdpTransport τ} {buf payload : Bytes}
    {now : UInt64} {h : UdpHeader} (heq : u.authenticate sink buf now = (some (h, payload), u')) :
    ∃ g, decodeUdpHeader buf {} = (true, g) ∧ h = { g with payloadSize := h.payloadSize } := by
  unfold UdpTransport.authenticate at heq
  dsimp only at heq
  split at heq
  · exact absurd heq (by simp)
  · next g hdecode =>
      refine ⟨g, hdecode, ?_⟩
      split at heq
      · exact absurd heq (by simp)
      · split at heq
        · split at heq
          · exact absurd heq (by simp)
          · split at heq
            · exact absurd heq (by simp)
            · obtain ⟨hsome, -⟩ := Prod.mk.inj heq
              obtain ⟨rfl, -⟩ := Prod.mk.inj (Option.some.inj hsome)
              rfl
        · split at heq
          · exact absurd heq (by simp)
          · obtain ⟨hsome, -⟩ := Prod.mk.inj heq
            obtain ⟨rfl, -⟩ := Prod.mk.inj (Option.some.inj hsome)
            rfl

/-! ## What one step hands to the callback -/

theorem inputsOf_handleMediaComplete (u : UdpTransport τ) (frame : AssembledFrame) (now : UInt64) :
    inputsOf (u.handleMediaComplete frame now).2 =
      if frame.type = .Input ∧ u.inputCb then [frame] else [] := by
  unfold UdpTransport.handleMediaComplete
  by_cases hinput : frame.type = .Input
  · cases hcb : u.inputCb with
    | false => simp [inputsOf, hinput]
    | true => simp [inputsOf, hinput]
  · have hnone : (if frame.type = .Input ∧ u.inputCb = true then [frame] else []) = [] :=
      if_neg (fun hboth => hinput hboth.1)
    rw [hnone, if_neg hinput]
    split
    · rfl
    · split
      · rfl
      · rfl

theorem dispatch_of_reassemble {u v : UdpTransport τ} {h : UdpHeader} {payload : Bytes}
    {clk : Nat → UInt64} {frame : AssembledFrame} (htype : (⟨h.type⟩ : UdpType) = .Input)
    (hr : (u.noteArrival (clk 1)).reassemble h (payload.take h.payloadSize.toNat) (clk 2)
      = .ok (some frame, v)) :
    u.dispatch h payload clk = .ok (v.handleMediaComplete frame (clk 3)) := by
  unfold UdpTransport.dispatch
  dsimp only
  rw [hr, htype, if_neg (by decide), if_neg (by decide), if_neg (by decide)]

/-- A whole frame in one datagram goes straight to the callback. -/
theorem inputsOf_dispatch (u : UdpTransport τ) {h : UdpHeader}
    (htype : h.type = UdpType.Input.code) (hsingle : h.fragmentCount = 1) (payload : Bytes)
    (clk : Nat → UInt64) :
    ∃ p frame, u.dispatch h payload clk = .ok p ∧ frame.sequence = h.sequence ∧
      inputsOf p.2 = if u.inputCb then [frame] else [] := by
  have hinput : (⟨h.type⟩ : UdpType) = .Input := congrArg UdpType.mk htype
  have hreassemble : ∃ v : UdpTransport τ, v.inputCb = u.inputCb ∧
      (u.noteArrival (clk 1)).reassemble h (payload.take h.payloadSize.toNat) (clk 2)
        = .ok (some (h.unfragmented (payload.take h.payloadSize.toNat)), v) := by
    unfold UdpTransport.reassemble FragmentReassembler.feed
    dsimp only
    rw [hinput, if_neg (by decide), if_neg (by decide), if_pos rfl, if_pos hsingle]
    refine ⟨_, ?_, rfl⟩
    rfl
  obtain ⟨v, hcb, hr⟩ := hreassemble
  refine ⟨v.handleMediaComplete (h.unfragmented (payload.take h.payloadSize.toNat)) (clk 3),
    h.unfragmented (payload.take h.payloadSize.toNat), dispatch_of_reassemble hinput hr, rfl, ?_⟩
  rw [inputsOf_handleMediaComplete, hcb]
  simp [UdpHeader.unfragmented, hinput]

/-- The datagram of an input call, if it is let in, is a frame with the number of the call. -/
theorem frames_of_input (sink : UdpCryptoSink τ) (u : UdpTransport τ) {buf : Bytes} {call : Nat}
    (h : IsInputOf buf call) (source : Endpoint) (clk : Nat → UInt64) :
    (framesAt sink (.ok u, .input call buf source clk)).map AssembledFrame.sequence =
      (letInAt sink (.ok u, .input call buf source clk)).map UInt64.ofNat := by
  obtain ⟨g, rest, rfl, hg⟩ := h
  have hcb := inputCb_authenticate sink u (encodeUdpHeader g ++ rest) (clk 0)
  unfold framesAt letInAt letsIn
  simp only [ReceiverEvent.event, UdpTransport.handle, UdpTransport.handleDatagram]
  cases hauth : u.authenticate sink (encodeUdpHeader g ++ rest) (clk 0) with
  | mk o u1 =>
      rw [hauth] at hcb
      cases o with
      | none => simp [inputsOf]
      | some front =>
          obtain ⟨hd, payload⟩ := front
          dsimp only
          by_cases hdrop : (u1.learnPeer sink hd source).dropsSource source = true
          · rw [if_pos hdrop]
            simp [hdrop, inputsOf]
          · obtain ⟨g', hdecode, hsame⟩ := header_of_authenticate hauth
            have hgg : g = g' := by
              rw [decodeUdpHeader_encode g {} rest hg.framed] at hdecode
              exact (Prod.mk.inj hdecode).2
            obtain ⟨p, frame, hdispatch, hseq, hout⟩ :=
              inputsOf_dispatch (u1.learnPeer sink hd source) (h := hd)
                (by rw [hsame, ← hgg]; exact hg.type) (by rw [hsame, ← hgg]; exact hg.single)
                payload clk
            have hnumber : frame.sequence = UInt64.ofNat call := by
              rw [hseq, hsame, ← hgg]
              exact hg.sequence
            rw [if_neg hdrop, hdispatch]
            dsimp only
            rw [hout, inputCb_learnPeer, hcb]
            cases u.inputCb with
            | false => simp
            | true => simp [hdrop, hnumber]

/-! ## What is not input -/

theorem sent_of_runTask (sink : UdpCryptoSink τ) (u : UdpTransport τ) (task : UdpTask) (fails : Bool)
    (now : UInt64) : inputsOf (u.runTask sink task fails now).2 = [] := by
  have hsend : ∀ (v : UdpTransport τ) target bytes, inputsOf (v.sendTo target bytes fails).2 = [] := by
    intro v target bytes
    unfold UdpTransport.sendTo
    split
    · rfl
    · rfl
  cases task with
  | datagram dg =>
      simp only [UdpTransport.runTask]
      split
      · rfl
      · exact hsend ..
  | relayBind target pkt =>
      simp only [UdpTransport.runTask]
      split
      · rfl
      · split
        · rfl
        · rfl
  | punch target dg => exact hsend ..
  | requestKeyframe => rfl
  | close => rfl

theorem type_of_feed {r r' : FragmentReassembler} {h : UdpHeader} {payload : Bytes}
    {frame : AssembledFrame} (hfeed : r.feed h payload = .ok (some frame, r')) :
    frame.type = ⟨h.type⟩ := by
  unfold FragmentReassembler.feed at hfeed
  split at hfeed
  · obtain ⟨hsome, -⟩ := Prod.mk.inj (Except.ok.inj hfeed)
    obtain rfl := Option.some.inj hsome
    rfl
  · split at hfeed
    · exact absurd hfeed (by simp)
    · exact absurd hfeed (by simp)
    · split at hfeed
      · exact absurd hfeed (by simp)
      · split at hfeed
        · exact absurd hfeed (by simp)
        · have hsettle := Except.ok.inj hfeed
          unfold FragmentReassembler.settle at hsettle
          split at hsettle
          · split at hsettle
            · exact absurd (Prod.mk.inj hsettle).1 (by simp)
            · obtain rfl := Option.some.inj (Prod.mk.inj hsettle).1
              rfl
          · exact absurd (Prod.mk.inj hsettle).1 (by simp)

theorem type_of_reassemble {u u' : UdpTransport τ} {h : UdpHeader} {payload : Bytes} {now : UInt64}
    {frame : AssembledFrame} (hr : u.reassemble h payload now = .ok (some frame, u')) :
    frame.type = ⟨h.type⟩ := by
  have hmap : ∀ {r : FragmentReassembler}
      {f : Option AssembledFrame × FragmentReassembler → Option AssembledFrame × UdpTransport τ},
      (∀ fed, (f fed).1 = fed.1) → (r.feed h payload).map f = .ok (some frame, u') →
      frame.type = ⟨h.type⟩ := by
    intro r f hf hx
    cases hfed : r.feed h payload with
    | error fault =>
        rw [hfed] at hx
        exact absurd hx (by simp [Except.map])
    | ok fed =>
        rw [hfed] at hx
        have hfirst : fed.1 = some frame := (hf fed).symm.trans (congrArg Prod.fst (Except.ok.inj hx))
        obtain ⟨o, r'⟩ := fed
        obtain rfl : o = some frame := hfirst
        exact type_of_feed hfed
  unfold UdpTransport.reassemble at hr
  dsimp only at hr
  split at hr
  · exact hmap (fun _ => rfl) hr
  · split at hr
    · exact hmap (fun _ => rfl) hr
    · split at hr
      · exact hmap (fun _ => rfl) hr
      · exact absurd (Prod.mk.inj (Except.ok.inj hr)).1 (by simp)

theorem inputsOf_dispatch_other {u : UdpTransport τ} {h : UdpHeader} {payload : Bytes}
    {clk : Nat → UInt64} {p : UdpTransport τ × List UdpEffect} (htype : h.type ≠ UdpType.Input.code)
    (hd : u.dispatch h payload clk = .ok p) : inputsOf p.2 = [] := by
  unfold UdpTransport.dispatch at hd
  dsimp only at hd
  split at hd
  · obtain rfl := Except.ok.inj hd
    rfl
  · split at hd
    · obtain rfl := Except.ok.inj hd
      rfl
    · split at hd
      · obtain rfl := Except.ok.inj hd
        dsimp only
        split
        · rfl
        · rfl
      · split at hd
        · exact absurd hd (by simp)
        · obtain rfl := Except.ok.inj hd
          rfl
        · next frame v heq =>
            obtain rfl := Except.ok.inj hd
            rw [inputsOf_handleMediaComplete, if_neg]
            rintro ⟨hinput, -⟩
            rw [type_of_reassemble heq] at hinput
            exact htype (congrArg UdpType.code hinput)

theorem type_of_decode {buf : Bytes} {g : UdpHeader} (h : decodeUdpHeader buf {} = (true, g)) :
    g.type = getU8 buf 3 := by
  unfold decodeUdpHeader at h
  dsimp only at h
  split at h
  · exact absurd h (by simp)
  · split at h
    · exact absurd h (by simp)
    · split at h
      · exact absurd h (by simp)
      · split at h
        · exact absurd h (by simp)
        · split at h
          · exact absurd h (by simp)
          · split at h
            · exact absurd h (by simp)
            · split at h
              · exact absurd h (by simp)
              · obtain rfl := (Prod.mk.inj h).2
                rfl

/-- Nothing else reaches the input callback. -/
theorem frames_of_other (sink : UdpCryptoSink τ) (u : UdpTransport τ) {e : UdpEvent}
    (h : bringsInput e = false) : framesAt sink (.ok u, .other e) = [] := by
  unfold framesAt
  simp only [ReceiverEvent.event]
  cases e with
  | datagram buf source clk =>
      simp only [UdpTransport.handle, UdpTransport.handleDatagram]
      cases hauth : u.authenticate sink buf (clk 0) with
      | mk o u1 =>
          cases o with
          | none => rfl
          | some front =>
              obtain ⟨hd, payload⟩ := front
              obtain ⟨g, hdecode, hsame⟩ := header_of_authenticate hauth
              have htype : hd.type ≠ UdpType.Input.code := by
                rw [hsame]
                show g.type ≠ _
                rw [type_of_decode hdecode]
                exact beq_eq_false_iff_ne.1 h
              dsimp only
              split
              · rfl
              · next u' out heq =>
                  split at heq
                  · obtain ⟨-, rfl⟩ := Prod.mk.inj (Except.ok.inj heq)
                    rfl
                  · exact inputsOf_dispatch_other htype heq
  | runPosted fails now =>
      simp only [UdpTransport.handle]
      split
      · rfl
      · next u' out heq =>
          split at heq
          · obtain ⟨-, rfl⟩ := Prod.mk.inj (Except.ok.inj heq)
            rfl
          · next task rest hposted =>
              have hnone := sent_of_runTask sink { u with posted := rest } task fails now
              rw [Except.ok.inj heq] at hnone
              exact hnone
  | _ => rfl

/-! ## Whole runs -/

variable {σ : Type}

/-- A transport that has sent nothing yet. -/
structure Unused (t : UdpTransport σ) : Prop where
  counter : t.seqCounter = Vector.replicate 9 0
  posted : t.posted = []

theorem Unused.callsWait {t : UdpTransport σ} (h : Unused t) : t.CallsWait 0 := by
  have hwaiting : t.waiting = [] := by
    unfold UdpTransport.waiting
    rw [h.posted]
    rfl
  constructor
  · unfold UdpTransport.inputCounter
    rw [h.counter, hwaiting]
    rfl
  · intro i task hget
    rw [hwaiting] at hget
    exact absurd hget (by simp)

/-- **Input is applied in the order in which it arrives.** The sender calls `sendSmall` for input and
    does anything else in between; its datagrams arrive at the receiver in any order and any number,
    and anything else happens there. Then the frames given to the input callback have strictly
    increasing numbers exactly if the datagrams that are let in arrive in the order of their calls,
    as the calls are counted with 64 bits. -/
theorem input_in_order_iff (sink : UdpCryptoSink σ) (sink' : UdpCryptoSink τ) {t : UdpTransport σ}
    (hunused : Unused t) (es : List UdpEvent) (hsmall : ∀ e ∈ es, e.framesInput = false)
    (u : UdpTransport τ) (rs : List ReceiverEvent)
    (hsent : ∀ call buf source clk, .input call buf source clk ∈ rs →
      (call, buf) ∈ inputWire sink t es 0)
    (hother : ∀ e, .other e ∈ rs → bringsInput e = false) :
    (inputFrames sink' u rs).Pairwise (fun f g => f.sequence < g.sequence) ↔
      (letIn sink' u rs).Pairwise (fun i j => i % 2 ^ 64 < j % 2 ^ 64) := by
  have hstep : ∀ p ∈ history (receiverStep sink') (.ok u) rs,
      (framesAt sink' p).map AssembledFrame.sequence = (letInAt sink' p).map UInt64.ofNat := by
    rintro ⟨s, e⟩ hp
    obtain ⟨pre, post, hrs, -⟩ := (mem_history_iff _ _ _ _ _).1 hp
    have hmem : e ∈ rs := by simp [hrs]
    cases s with
    | error fault => rfl
    | ok v =>
        cases e with
        | input call buf source clk =>
            have hcall := UdpTransport.isInputOf_inputWire sink es t 0 hunused.callsWait hsmall call
              buf (hsent call buf source clk hmem)
            exact frames_of_input sink' v hcall source clk
        | other e =>
            rw [frames_of_other sink' v (hother e hmem)]
            rfl
  have hnumbers : (inputFrames sink' u rs).map AssembledFrame.sequence
      = (letIn sink' u rs).map UInt64.ofNat := by
    unfold inputFrames letIn
    rw [List.map_flatMap, List.map_flatMap]
    exact List.flatMap_congr hstep
  have hframes := List.pairwise_map (f := AssembledFrame.sequence) (R := fun i j => i < j)
    (l := inputFrames sink' u rs)
  rw [← hframes, hnumbers, List.pairwise_map]
  simp only [UInt64.lt_iff_toNat_lt, UInt64.toNat_ofNat']

end Receiver

/-! ## A key that stays down -/

/-- `packEvent` of a key event without flags. -/
def keyPacket (type code : UInt8) : Bytes := [1, type, code] ++ List.replicate 16 0

/-- The sender's side: a transport that is up and has sent nothing yet. -/
def keySender : UdpTransport Unit := { running := true, socket := true, havePeer := true }

/-- The player presses A and lets it go. -/
def pressAndRelease : List UdpEvent :=
  [.sendSmall .Input (keyPacket 1 65) 10, .sendSmall .Input (keyPacket 2 65) 20,
    .runPosted false 30, .runPosted false 40]

/-- What goes on the wire for it. -/
def keyDatagram (call now : UInt64) (type : UInt8) : Bytes :=
  encodeUdpHeader (UdpTransport.smallHeader .Input 0 call now 19) ++ keyPacket type 65

/-- The datagrams of the two calls arrive, the one of a call before that of the other. -/
def arriveInOrder (first second : Nat × Bytes) : List ReceiverEvent :=
  [.input first.1 first.2 ⟨[], 0⟩ (fun _ => 100), .input second.1 second.2 ⟨[], 0⟩ (fun _ => 200)]

/-- The host applies the frames it is given to the player, who may use the keyboard. -/
def keysAfter (frames : List AssembledFrame) : UInt8 → Bool :=
  let j : Input.InputInjector := { clients := ⟨[{ keyboard := true }], by decide⟩ }
  ((frames.foldl (fun j frame => (j.applyInput 0 frame.data {}).1) j).client 0).keysDown

theorem input_in_order_iff_pressed :
    (inputFrames headerTagSink { inputCb := true }
        (arriveInOrder (0, keyDatagram 0 10 1) (1, keyDatagram 1 20 2))).Pairwise
          (fun f g => f.sequence < g.sequence) ↔
      (letIn headerTagSink { inputCb := true }
        (arriveInOrder (0, keyDatagram 0 10 1) (1, keyDatagram 1 20 2))).Pairwise
          (fun i j => i % 2 ^ 64 < j % 2 ^ 64) := by
  refine input_in_order_iff headerTagSink headerTagSink (t := keySender) ⟨rfl, rfl⟩ pressAndRelease
    (by decide) _ _ ?_ ?_
  · have hwire : inputWire headerTagSink keySender pressAndRelease 0
        = [(0, keyDatagram 0 10 1), (1, keyDatagram 1 20 2)] := by decide +kernel
    intro call buf source clk hmem
    rw [hwire]
    simp only [arriveInOrder, List.mem_cons, ReceiverEvent.input.injEq, List.not_mem_nil, or_false]
      at hmem
    rcases hmem with ⟨rfl, rfl, -⟩ | ⟨rfl, rfl, -⟩
    · exact List.mem_cons_self
    · exact List.mem_cons_of_mem _ List.mem_cons_self
  · intro e hmem
    exact absurd hmem (by simp [arriveInOrder])

/-- The network swaps the two datagrams: the release is applied before the press, and the key stays
    down. -/
theorem released_before_pressed :
    inputWire headerTagSink keySender pressAndRelease 0
        = [(0, keyDatagram 0 10 1), (1, keyDatagram 1 20 2)] ∧
      ¬ (inputFrames headerTagSink { inputCb := true }
          (arriveInOrder (1, keyDatagram 1 20 2) (0, keyDatagram 0 10 1))).Pairwise
            (fun f g => f.sequence < g.sequence) ∧
      keysAfter (inputFrames headerTagSink { inputCb := true }
        (arriveInOrder (1, keyDatagram 1 20 2) (0, keyDatagram 0 10 1))) 65 = true := by
  refine ⟨by decide +kernel, ?_, by decide +kernel⟩
  have hnumbers : (inputFrames headerTagSink { inputCb := true }
      (arriveInOrder (1, keyDatagram 1 20 2) (0, keyDatagram 0 10 1))).map AssembledFrame.sequence
        = [1, 0] := by decide +kernel
  intro hsorted
  have hmap := (List.pairwise_map (f := AssembledFrame.sequence) (R := fun i j => i < j)).2 hsorted
  rw [hnumbers] at hmap
  exact absurd hmap (by decide)

end RemotePlay.App
