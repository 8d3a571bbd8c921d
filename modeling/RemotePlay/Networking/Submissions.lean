import RemotePlay.Networking.InputWire
import RemotePlay.Networking.LinkStatistics
import RemotePlay.Networking.PeerSafety

set_option autoImplicit false

/-! # What a transport puts on the wire (`networking/UdpTransport.cpp`)

The owner submits frames with `sendFrame` and `sendSmall`; pings, pongs, keyframe requests, binds and
punches are the transport's own. Without a crypto sink each datagram on the wire is a fragment of a
frame that was submitted, or belongs to neither lane, and the frames of a lane are numbered in the
order in which they were submitted. -/

namespace RemotePlay.Net

/-- The lane that frames of a type go through. -/
def UdpType.lane? (type : UdpType) : Option Lane :=
  if type = .Video then some .video else if type = .Audio then some .audio else none

theorem UdpType.lane?_type (lane : Lane) : lane.type.lane? = some lane := by
  cases lane <;> rfl

theorem UdpType.eq_of_lane? {type : UdpType} {lane : Lane} (h : type.lane? = some lane) :
    type = lane.type := by
  unfold UdpType.lane? at h
  split at h
  · next hvideo => rw [← Option.some.inj h, hvideo]; rfl
  · split at h
    · next haudio => rw [← Option.some.inj h, haudio]; rfl
    · cases h

theorem UdpType.ne_of_lane?_eq_none {type : UdpType} (h : type.lane? = none) (lane : Lane) :
    type ≠ lane.type := by
  rintro rfl
  rw [UdpType.lane?_type] at h
  cases h

/-- A frame of a lane, as a transport was given it to send. -/
structure Submission where
  lane : Lane
  sessionId : UInt32
  frame : MediaFrame
deriving DecidableEq, Repr

/-- The frame as a receiver should hand it out. -/
def Submission.assembled (m : Submission) : AssembledFrame := m.frame.assembled m.lane.type m.sessionId

/-- The datagrams that it is cut into. -/
def Submission.datagrams (m : Submission) : List Bytes :=
  (m.frame.fragments m.lane.type m.sessionId).map (fun fr => encodeUdpHeader fr.1 ++ fr.2)

/-- The bytes that a task puts on the wire. -/
def UdpTask.bytes? : UdpTask → Option Bytes
  | .datagram bytes | .relayBind _ bytes | .punch _ bytes => some bytes
  | .requestKeyframe | .close => none

/-- The bytes belong to neither lane. Input comes in one piece. -/
structure Foreign (bytes : Bytes) : Prop where
  lane : ∀ lane : Lane, getU8 bytes 3 ≠ lane.type.code
  whole : getU8 bytes 3 = UdpType.Input.code → (headerOf bytes).fragmentCount = 1

/-- The bytes are those of a frame that was submitted, or belong to neither lane. -/
def Genuine (log : List Submission) (bytes : Bytes) : Prop :=
  (∃ m ∈ log, bytes ∈ m.datagrams) ∨ Foreign bytes

theorem Genuine.append {log : List Submission} {bytes : Bytes} (h : Genuine log bytes)
    (more : List Submission) : Genuine (log ++ more) bytes := by
  rcases h with ⟨m, hm, hbytes⟩ | hforeign
  · exact Or.inl ⟨m, List.mem_append_left _ hm, hbytes⟩
  · exact Or.inr hforeign

/-- Bytes that start with the header of another type. -/
theorem foreign_of_type {h : UdpHeader} {rest : Bytes} (hlane : (⟨h.type⟩ : UdpType).lane? = none)
    (hinput : h.type ≠ UdpType.Input.code) : Foreign (encodeUdpHeader h ++ rest) where
  lane lane heq := UdpType.ne_of_lane?_eq_none hlane lane (congrArg UdpType.mk heq)
  whole heq := absurd heq hinput

namespace UdpTransport

variable {σ : Type}

/-- The frame that an event submits. -/
def submits (t : UdpTransport σ) : UdpEvent → Option Submission
  | .sendFrame type keyframe data timestampNs =>
      if t.sends then
        type.lane?.map (fun lane => ⟨lane, t.sessionId, t.mediaFrame type keyframe data timestampNs⟩)
      else none
  | .sendSmall type data now =>
      if t.sends then
        type.lane?.map
          (fun lane => ⟨lane, t.sessionId, t.mediaFrame type false (data.take kMaxUdpPayload) now⟩)
      else none
  | _ => none

theorem silent_of_not_sends {t : UdpTransport σ} (h : t.sends = false) :
    (!t.running) = true ∨ (!t.socket) = true ∨ (!t.havePeer) = true := by
  revert h
  unfold sends
  cases t.running <;> cases t.socket <;> simp

/-! ## What submits nothing -/

/-- From one state to the other nothing was submitted, and what was posted is foreign. -/
structure Chores (t t' : UdpTransport σ) : Prop where
  plain : t.secure = none → t'.secure = none
  number : ∀ lane, t'.nextNumber lane = t.nextNumber lane
  posted : ∀ task ∈ t'.posted, task ∈ t.posted ∨ ∀ bytes, task.bytes? = some bytes → Foreign bytes

namespace Chores

theorem of_same {t t' : UdpTransport σ} (hsecure : t.secure = none → t'.secure = none)
    (hseq : t'.seqCounter = t.seqCounter) (hposted : t'.posted = t.posted) : Chores t t' where
  plain := hsecure
  number lane := by
    unfold nextNumber nextSeq
    rw [hseq]
  posted task htask := Or.inl (hposted ▸ htask)

theorem refl (t : UdpTransport σ) : Chores t t := of_same id rfl rfl

theorem trans {t t' t'' : UdpTransport σ} (h : Chores t t') (h' : Chores t' t'') : Chores t t'' where
  plain hplain := h'.plain (h.plain hplain)
  number lane := (h'.number lane).trans (h.number lane)
  posted task htask := by
    rcases h'.posted task htask with hold | hforeign
    · exact h.posted task hold
    · exact Or.inr hforeign

theorem post (t : UdpTransport σ) {task : UdpTask}
    (h : ∀ bytes, task.bytes? = some bytes → Foreign bytes) : Chores t (t.post task) where
  plain := id
  number _ := rfl
  posted other hother := by
    rcases List.mem_append.1 hother with hold | hnew
    · exact Or.inl hold
    · exact Or.inr (List.mem_singleton.1 hnew ▸ h)

end Chores

/-- The lanes have counters of their own. -/
theorem nextNumber_nextSeq_other (t : UdpTransport σ) {type : UdpType} (h : type.lane? = none)
    (lane : Lane) : (t.nextSeq type).2.nextNumber lane = t.nextNumber lane := by
  have hcode : type.code.toNat ≠ lane.type.code.toNat := fun heq =>
    UdpType.ne_of_lane?_eq_none h lane (congrArg UdpType.mk (UInt8.toNat_inj.1 heq))
  unfold nextNumber nextSeq
  simp [hcode]

theorem chores_nextSeq (t : UdpTransport σ) {type : UdpType} (h : type.lane? = none) :
    Chores t (t.nextSeq type).2 where
  plain := id
  number := t.nextNumber_nextSeq_other h
  posted _ htask := Or.inl htask

/-- Small datagrams of the other types, input among them, are foreign. -/
theorem foreign_small {type : UdpType} (h : type.lane? = none) (sessionId : UInt32) (seq now : UInt64)
    (size : Nat) (rest : Bytes) :
    Foreign (encodeUdpHeader (smallHeader type sessionId seq now size) ++ rest) where
  lane lane heq := UdpType.ne_of_lane?_eq_none h lane (congrArg UdpType.mk heq)
  whole hinput := by
    have hframed : (smallHeader type sessionId seq now size).Framed := by
      refine ⟨rfl, rfl, ?_⟩
      show type.code ≤ 8
      rw [show type.code = UdpType.Input.code from hinput]
      decide
    rw [headerOf, decodeUdpHeader_encode _ {} _ hframed]
    rfl

theorem chores_sendSmall (t : UdpTransport σ) {type : UdpType} (h : type.lane? = none) (data : Bytes)
    (now : UInt64) : Chores t (t.sendSmall type data now) := by
  unfold sendSmall
  split
  · exact Chores.refl t
  · refine (t.chores_nextSeq h).trans (Chores.post _ ?_)
    intro bytes hbytes
    obtain rfl := Option.some.inj hbytes
    exact foreign_small h ..

theorem chores_sendFrame (t : UdpTransport σ) {type : UdpType} (h : type.lane? = none)
    (hinput : type ≠ .Input) (keyframe : Bool) (data : Bytes) (timestampNs : UInt64) :
    Chores t (t.sendFrame type keyframe data timestampNs) := by
  unfold sendFrame
  split
  · exact Chores.refl t
  dsimp only
  rw [foldl_post]
  have hcount := (t.count (fun s => { s with sentFrames := s.sentFrames + 1 })).chores_nextSeq h
  refine ⟨hcount.plain, hcount.number, ?_⟩
  intro task htask
  rcases List.mem_append.1 htask with hold | hnew
  · exact Or.inl hold
  · refine Or.inr fun bytes hbytes => ?_
    obtain ⟨fr, hfr, rfl⟩ := List.mem_map.1 hnew
    obtain ⟨i, -, rfl⟩ := List.mem_map.1 hfr
    obtain rfl := Option.some.inj hbytes
    exact foreign_of_type h (fun heq => hinput (congrArg UdpType.mk heq))

theorem chores_sendTo (t : UdpTransport σ) (target : Endpoint) (bytes : Bytes) (fails : Bool) :
    Chores t (t.sendTo target bytes fails).1 := by
  unfold sendTo
  split
  · exact Chores.of_same id rfl rfl
  · exact Chores.of_same id rfl rfl

theorem chores_runTask (sink : UdpCryptoSink σ) (t : UdpTransport σ) (task : UdpTask) (fails : Bool)
    (now : UInt64) (hplain : t.secure = none) : Chores t (t.runTask sink task fails now).1 := by
  cases task with
  | datagram dg =>
      have hwire : Chores t (t.wireBytes sink dg).2 := by
        unfold wireBytes
        split
        · exact Chores.refl t
        · rw [hplain]
          exact Chores.refl t
      simp only [runTask]
      split
      · next t₁ heq =>
          rw [heq] at hwire
          exact hwire
      · next bytes t₁ heq =>
          rw [heq] at hwire
          exact hwire.trans (chores_sendTo ..)
  | relayBind target pkt =>
      simp only [runTask]
      split
      · exact Chores.refl t
      · split
        · exact Chores.of_same id rfl rfl
        · exact Chores.refl t
  | punch target dg => exact chores_sendTo ..
  | requestKeyframe => exact chores_sendSmall t rfl _ now
  | close => exact Chores.of_same id rfl rfl

theorem chores_sendPingOnce (t : UdpTransport σ) (clk : Nat → UInt64) :
    Chores t (t.sendPingOnce clk) := by
  unfold sendPingOnce
  split
  · exact Chores.refl t
  · have hrelay : Chores t (t.returnToRelay (clk 0)) := by
      unfold returnToRelay
      split
      · exact Chores.refl t
      · exact Chores.of_same id rfl rfl
    have hcounted : Chores (t.returnToRelay (clk 0)) (t.returnToRelay (clk 0)).countPing :=
      Chores.of_same id rfl rfl
    exact ((hrelay.trans hcounted).trans (chores_sendSmall _ rfl _ (clk 2))).trans
      (Chores.of_same id rfl rfl)

theorem chores_pingTimerFires (t : UdpTransport σ) (clk : Nat → UInt64) :
    Chores t (t.pingTimerFires clk) := by
  unfold pingTimerFires
  split
  · exact Chores.refl t
  · have hfired : Chores t { t with pingTimer := false } := Chores.of_same id rfl rfl
    dsimp only
    split
    · exact hfired
    · exact hfired.trans (chores_sendPingOnce _ clk)

/-! ## Datagrams that arrive at the sender -/

theorem plain_authenticate (sink : UdpCryptoSink σ) {t : UdpTransport σ} (hplain : t.secure = none)
    (buf : Bytes) (now : UInt64) : (t.authenticate sink buf now).2.secure = none := by
  unfold authenticate
  dsimp only
  split
  · exact hplain
  · split
    · exact hplain
    · split
      · rw [show ((t.countReceived buf.length).noteRx now).secure = none from hplain]
        exact hplain
      · split <;> exact hplain

theorem chores_authenticate (sink : UdpCryptoSink σ) (t : UdpTransport σ) (buf : Bytes)
    (now : UInt64) : Chores t (t.authenticate sink buf now).2 :=
  Chores.of_same (fun hplain => plain_authenticate sink hplain buf now)
    (authenticate_frame seqCounter sink t (fun _ _ => rfl) (fun _ _ => rfl) (fun _ _ => rfl) buf now)
    (authenticate_frame posted sink t (fun _ _ => rfl) (fun _ _ => rfl) (fun _ _ => rfl) buf now)

theorem chores_learnPeer (sink : UdpCryptoSink σ) (t : UdpTransport σ) (h : UdpHeader)
    (source : Endpoint) : Chores t (t.learnPeer sink h source) :=
  Chores.of_same
    (fun hplain => (learnPeer_frame secure sink t (fun _ _ _ => rfl) h source).trans hplain)
    (learnPeer_frame seqCounter sink t (fun _ _ _ => rfl) h source)
    (learnPeer_frame posted sink t (fun _ _ _ => rfl) h source)

theorem chores_noteVideoGap (t : UdpTransport σ) (gap : Int64) (now : UInt64) :
    Chores t (t.noteVideoGap gap now) := by
  unfold noteVideoGap
  split
  · split
    · have hasked : Chores t { t with lastKeyframeReqNs := now } := Chores.of_same id rfl rfl
      exact hasked.trans (Chores.post _ nofun)
    · exact Chores.refl t
  · exact Chores.refl t

theorem chores_dispatch {t t' : UdpTransport σ} {h : UdpHeader} {payload : Bytes}
    {clk : Nat → UInt64} {out : List UdpEffect} (hd : t.dispatch h payload clk = .ok (t', out)) :
    Chores t t' := by
  have hnote : Chores t (t.noteArrival (clk 1)) := Chores.of_same id rfl rfl
  refine hnote.trans ?_
  unfold dispatch at hd
  dsimp only at hd
  generalize t.noteArrival (clk 1) = u at hd
  have hreassemble : ∀ {v : UdpTransport σ} {frame : Option AssembledFrame},
      u.reassemble h (payload.take h.payloadSize.toNat) (clk 2) = .ok (frame, v) → Chores u v := by
    intro v frame hr
    exact reassemble_keeps hr (Chores u) (fun _ _ _ _ _ => Chores.of_same id rfl rfl)
      (fun v gap hv => hv.trans (chores_noteVideoGap v gap (clk 2)))
  split at hd
  · obtain ⟨rfl, -⟩ := Prod.mk.inj (Except.ok.inj hd)
    exact chores_sendSmall u rfl _ (clk 2)
  · split at hd
    · obtain ⟨rfl, -⟩ := Prod.mk.inj (Except.ok.inj hd)
      unfold handlePong
      split
      · dsimp only
        split
        · exact Chores.of_same id rfl rfl
        · exact Chores.refl u
      · exact Chores.refl u
    · split at hd
      · obtain ⟨rfl, -⟩ := Prod.mk.inj (Except.ok.inj hd)
        exact Chores.refl u
      · split at hd
        · cases hd
        · next v hr =>
            obtain ⟨rfl, -⟩ := Prod.mk.inj (Except.ok.inj hd)
            exact hreassemble hr
        · next frame v hr =>
            have hcomplete : Chores v (v.handleMediaComplete frame (clk 3)).1 := by
              unfold handleMediaComplete
              split
              · exact Chores.refl v
              · split
                · exact Chores.of_same id rfl rfl
                · split
                  · exact Chores.of_same id rfl rfl
                  · exact Chores.refl v
            obtain ⟨rfl, -⟩ := Prod.mk.inj (Except.ok.inj hd)
            exact (hreassemble hr).trans hcomplete

theorem chores_handleDatagram {sink : UdpCryptoSink σ} {t t' : UdpTransport σ} {buf : Bytes}
    {source : Endpoint} {clk : Nat → UInt64} {out : List UdpEffect}
    (h : t.handleDatagram sink buf source clk = .ok (t', out)) : Chores t t' := by
  have hauth := chores_authenticate sink t buf (clk 0)
  unfold handleDatagram at h
  split at h
  · next t₁ heq =>
      rw [heq] at hauth
      obtain ⟨rfl, -⟩ := Prod.mk.inj (Except.ok.inj h)
      exact hauth
  · next hd payload t₁ heq =>
      rw [heq] at hauth
      refine (hauth.trans (chores_learnPeer sink t₁ hd source)).trans ?_
      dsimp only at h
      split at h
      · obtain ⟨rfl, -⟩ := Prod.mk.inj (Except.ok.inj h)
        exact Chores.refl _
      · exact chores_dispatch h

/-! ## Posting a frame -/

/-- A frame of one fragment travels as `sendSmall` would send it. -/
theorem datagrams_of_small (lane : Lane) (sessionId : UInt32) (f : MediaFrame)
    (hsmall : f.data.length ≤ kMaxUdpPayload) (hdelta : f.keyframe = false) :
    Submission.datagrams ⟨lane, sessionId, f⟩ =
      [encodeUdpHeader (smallHeader lane.type sessionId f.sequence f.timestampNs f.data.length) ++
        f.data] := by
  have hcount : fragmentCountFor f.data.length = 1 := by
    have hfits : f.data.length ≤ 1024 * kMaxUdpPayload := by
      unfold kMaxUdpPayload at *
      omega
    rw [← UInt16.toNat_inj, fragmentCountFor_toNat _ hfits]
    unfold kMaxUdpPayload at *
    simp only [UInt16.toNat_one]
    omega
  have hsize : (UInt16.ofNat f.data.length).toNat = f.data.length := by
    rw [UInt16.toNat_ofNat']
    unfold kMaxUdpPayload at hsmall
    omega
  unfold Submission.datagrams MediaFrame.fragments frameFragments
  dsimp only
  rw [hcount, show (1 : UInt16).toNat = 1 from rfl, List.range_one, List.map_singleton,
    List.map_singleton]
  unfold fragmentAt smallHeader
  simp [hcount, hdelta, hsize]

/-- The log that `t` has been given: its frames are numbered in order, and what is posted is genuine. -/
structure Logged (log : List Submission) (t : UdpTransport σ) : Prop where
  plain : t.secure = none
  number : ∀ lane, t.nextNumber lane = UInt64.ofNat (log.countP (fun m => m.lane = lane))
  numbered : ∀ lane, (log.filter (fun m => m.lane = lane)).map (fun m => m.frame.sequence) =
    (List.range (log.countP (fun m => m.lane = lane))).map UInt64.ofNat
  posted : ∀ task ∈ t.posted, ∀ bytes, task.bytes? = some bytes → Genuine log bytes

namespace Logged

variable {log : List Submission} {t t' : UdpTransport σ}

theorem chores (hl : Logged log t) (h : Chores t t') : Logged log t' where
  plain := h.plain hl.plain
  number lane := (h.number lane).trans (hl.number lane)
  numbered := hl.numbered
  posted task htask bytes hbytes := by
    rcases h.posted task htask with hold | hforeign
    · exact hl.posted task hold bytes hbytes
    · exact Or.inr (hforeign bytes hbytes)

/-- A frame takes the next number of its lane, and its datagrams are posted. -/
theorem submit (hl : Logged log t) {m : Submission}
    (hsequence : m.frame.sequence = t.nextNumber m.lane) (hplain : t'.secure = none)
    (hnumber : ∀ lane, t'.nextNumber lane =
      if lane = m.lane then t.nextNumber m.lane + 1 else t.nextNumber lane)
    (hposted : t'.posted = t.posted ++ m.datagrams.map UdpTask.datagram) : Logged (log ++ [m]) t' where
  plain := hplain
  number lane := by
    rw [hnumber, List.countP_append, List.countP_singleton]
    by_cases hlane : lane = m.lane
    · rw [if_pos hlane, if_pos (decide_eq_true hlane.symm), hlane, hl.number]
      exact (UInt64.ofNat_add _ 1).symm
    · rw [if_neg hlane, hl.number, if_neg (by simpa using Ne.symm hlane)]
      rfl
  numbered lane := by
    rw [List.filter_append, List.map_append, hl.numbered, List.countP_append, List.countP_singleton]
    by_cases hlane : m.lane = lane
    · rw [if_pos (decide_eq_true hlane), List.range_succ, List.map_append]
      simp [hlane, hsequence, hl.number]
    · simp [hlane]
  posted task htask bytes hbytes := by
    rw [hposted] at htask
    rcases List.mem_append.1 htask with hold | hnew
    · exact (hl.posted task hold bytes hbytes).append [m]
    · obtain ⟨dg, hdg, rfl⟩ := List.mem_map.1 hnew
      obtain rfl := Option.some.inj hbytes
      exact Or.inl ⟨m, List.mem_append_right _ (List.mem_singleton.2 rfl), hdg⟩

/-- `sendFrame` on a lane. -/
theorem sendFrame (hl : Logged log t) (lane : Lane) (keyframe : Bool) (data : Bytes)
    (timestampNs : UInt64) (hsends : t.sends = true) :
    Logged (log ++ [⟨lane, t.sessionId, t.mediaFrame lane.type keyframe data timestampNs⟩])
      (t.sendFrame lane.type keyframe data timestampNs) := by
  obtain ⟨-, hnumber⟩ := sendFrame_keeps hsends lane keyframe data timestampNs
  have hready : ¬ ((!t.running) = true ∨ (!t.socket) = true ∨ (!t.havePeer) = true) := by
    simp only [sends, Bool.and_eq_true] at hsends
    simp [hsends]
  refine hl.submit rfl ?_ hnumber ?_
  · unfold UdpTransport.sendFrame
    rw [if_neg hready]
    dsimp only
    rw [foldl_post]
    exact hl.plain
  · unfold UdpTransport.sendFrame
    rw [if_neg hready]
    dsimp only
    rw [foldl_post]
    dsimp only [Submission.datagrams, MediaFrame.fragments]
    rw [List.map_map]
    rfl

/-- `sendSmall` on a lane posts the frame in one piece. -/
theorem sendSmall (hl : Logged log t) (lane : Lane) (data : Bytes) (now : UInt64)
    (hsends : t.sends = true) :
    Logged (log ++ [⟨lane, t.sessionId, t.mediaFrame lane.type false (data.take kMaxUdpPayload) now⟩])
      (t.sendSmall lane.type data now) := by
  have hready : ¬ ((!t.running) = true ∨ (!t.socket) = true ∨ (!t.havePeer) = true) := by
    simp only [sends, Bool.and_eq_true] at hsends
    simp [hsends]
  have hsmall : (data.take kMaxUdpPayload).length ≤ kMaxUdpPayload := List.length_take_le ..
  refine hl.submit rfl ?_ ?_ ?_
  · unfold UdpTransport.sendSmall
    rw [if_neg hready]
    exact hl.plain
  · intro other
    unfold UdpTransport.sendSmall
    rw [if_neg hready]
    exact nextNumber_nextSeq t lane other
  · unfold UdpTransport.sendSmall
    rw [if_neg hready]
    dsimp only [post]
    have hone : Submission.datagrams
        ⟨lane, t.sessionId, t.mediaFrame lane.type false (data.take kMaxUdpPayload) now⟩ =
        [encodeUdpHeader (smallHeader lane.type t.sessionId (t.nextSeq lane.type).1 now
          (data.take kMaxUdpPayload).length) ++ data.take kMaxUdpPayload] :=
      datagrams_of_small lane t.sessionId
        (t.mediaFrame lane.type false (data.take kMaxUdpPayload) now) hsmall rfl
    rw [hone]
    rfl

end Logged

/-! ## What goes on the wire -/

theorem sentBytes_sendTo (t : UdpTransport σ) (target : Endpoint) (bytes : Bytes) (fails : Bool) :
    ∀ b ∈ sentBytes (t.sendTo target bytes fails).2, b = bytes := by
  unfold sendTo
  split
  · exact nofun
  · exact fun b hb => List.mem_singleton.1 hb

/-- Without a sink a task puts its own bytes on the wire. -/
theorem bytes?_of_runTask (sink : UdpCryptoSink σ) {t : UdpTransport σ} (hplain : t.secure = none)
    (task : UdpTask) (fails : Bool) (now : UInt64) :
    ∀ b ∈ sentBytes (t.runTask sink task fails now).2, task.bytes? = some b := by
  cases task with
  | datagram dg =>
      simp only [runTask]
      split
      · exact fun b hb => absurd hb List.not_mem_nil
      · next bytes t₁ heq =>
          intro b hb
          rw [sentBytes_sendTo _ _ _ _ b hb]
          unfold wireBytes at heq
          split at heq
          · cases (Prod.mk.inj heq).1
          · rw [hplain] at heq
            rw [← Option.some.inj (Prod.mk.inj heq).1]
            rfl
  | relayBind target pkt =>
      simp only [runTask]
      split
      · exact fun b hb => absurd hb List.not_mem_nil
      · split
        · exact fun b hb => absurd hb List.not_mem_nil
        · intro b hb
          rw [List.mem_singleton.1 hb]
          rfl
  | punch target dg =>
      intro b hb
      rw [sentBytes_sendTo _ _ _ _ b hb]
      rfl
  | requestKeyframe => exact fun b hb => absurd hb List.not_mem_nil
  | close => exact fun b hb => absurd hb List.not_mem_nil

/-- A bind is not a datagram of this protocol, and a punch is of type `Control`. -/
theorem foreign_bind (token : Bytes) (pad : Nat) :
    Foreign (ascii "RPBIND" ++ token ++ List.replicate pad 0) where
  lane lane heq := by
    have hbyte : getU8 (ascii "RPBIND" ++ token ++ List.replicate pad 0) 3 = 0x49 := rfl
    rw [hbyte] at heq
    cases lane <;> exact absurd heq (by decide)
  whole heq := by
    have hbyte : getU8 (ascii "RPBIND" ++ token ++ List.replicate pad 0) 3 = 0x49 := rfl
    rw [hbyte] at heq
    exact absurd heq (by decide)

theorem chores_sendRelayBind (t : UdpTransport σ) (token : Bytes) : Chores t (t.sendRelayBind token) := by
  unfold sendRelayBind
  split
  · exact Chores.refl t
  · refine Chores.post t fun bytes hbytes => ?_
    obtain rfl := Option.some.inj hbytes
    exact foreign_bind _ _

theorem chores_sendPunch (t : UdpTransport σ) (target : Endpoint) : Chores t (t.sendPunch target) := by
  unfold sendPunch
  split
  · exact Chores.refl t
  · refine Chores.post t fun bytes hbytes => ?_
    obtain rfl := Option.some.inj hbytes
    exact foreign_of_type rfl (by simp [UdpType.Control, UdpType.Input])

namespace Logged

variable {sink : UdpCryptoSink σ} {log : List Submission} {t t' : UdpTransport σ} {e : UdpEvent}

/-- Only the lambda at the front of the queue sends, and what it sends is genuine. -/
theorem genuine (hl : Logged log t) (e : UdpEvent) : ∀ b ∈ sentBytes (t.outputs sink e), Genuine log b := by
  intro b hb
  obtain ⟨effect, heffect, hbytes⟩ := List.mem_filterMap.1 hb
  cases effect with
  | control type data => cases hbytes
  | input frame => cases hbytes
  | sent target bytes =>
      obtain rfl := Option.some.inj hbytes
      obtain ⟨fails, now, t', rfl, hok⟩ := runPosted_of_sent heffect
      simp only [UdpTransport.handle] at hok
      cases hposted : t.posted with
      | nil =>
          rw [hposted] at hok
          obtain ⟨-, hout⟩ := Prod.mk.inj (Except.ok.inj hok)
          rw [← hout] at hb
          cases hb
      | cons task rest =>
          rw [hposted] at hok
          have hout : ({ t with posted := rest }.runTask sink task fails now).2 = _ :=
            congrArg Prod.snd (Except.ok.inj hok)
          rw [← show _ = t.outputs sink (.runPosted fails now) from hout] at hb
          exact hl.posted task (hposted ▸ List.mem_cons_self) bytes
            (bytes?_of_runTask sink (t := { t with posted := rest }) hl.plain task fails now bytes hb)

theorem idle (hl : Logged log t) (h : t.submits e = none) (hchores : Chores t t') :
    Logged (log ++ (t.submits e).toList) t' := by
  rw [h]
  simpa using hl.chores hchores

/-- **One event** submits what `submits` says. -/
theorem handle (hl : Logged log t) {out : List UdpEffect} (hinput : e.framesInput = false)
    (h : t.handle sink e = .ok (t', out)) : Logged (log ++ (t.submits e).toList) t' := by
  cases e with
  | datagram buf source clk => exact hl.idle rfl (chores_handleDatagram h)
  | runPosted fails now =>
      simp only [UdpTransport.handle] at h
      cases hposted : t.posted with
      | nil =>
          rw [hposted] at h
          obtain ⟨rfl, -⟩ := Prod.mk.inj (Except.ok.inj h)
          exact hl.idle rfl (Chores.refl t)
      | cons task rest =>
          rw [hposted] at h
          have htaken : Chores t { t with posted := rest } := by
            refine ⟨id, fun _ => rfl, fun task' htask' => Or.inl ?_⟩
            exact hposted ▸ List.mem_cons_of_mem _ htask'
          have hrun := chores_runTask sink { t with posted := rest } task fails now hl.plain
          rw [Except.ok.inj h] at hrun
          exact hl.idle rfl (htaken.trans hrun)
  | sendFrame type keyframe data timestampNs =>
      obtain ⟨rfl, -⟩ := Prod.mk.inj (Except.ok.inj h)
      cases hsends : t.sends with
      | false =>
          have hsame : t.sendFrame type keyframe data timestampNs = t := if_pos (silent_of_not_sends hsends)
          rw [hsame]
          exact hl.idle (by simp [submits, hsends]) (Chores.refl t)
      | true =>
          cases hlane : type.lane? with
          | none =>
              have hother : type ≠ .Input := by simpa [UdpEvent.framesInput] using hinput
              exact hl.idle (by simp [submits, hlane])
                (t.chores_sendFrame hlane hother keyframe data timestampNs)
          | some lane =>
              obtain rfl := UdpType.eq_of_lane? hlane
              have hsubmits : t.submits (.sendFrame lane.type keyframe data timestampNs) =
                  some ⟨lane, t.sessionId, t.mediaFrame lane.type keyframe data timestampNs⟩ := by
                simp [submits, hsends, hlane]
              rw [hsubmits]
              exact hl.sendFrame lane keyframe data timestampNs hsends
  | sendSmall type data now =>
      obtain ⟨rfl, -⟩ := Prod.mk.inj (Except.ok.inj h)
      cases hsends : t.sends with
      | false =>
          have hsame : t.sendSmall type data now = t := if_pos (silent_of_not_sends hsends)
          rw [hsame]
          exact hl.idle (by simp [submits, hsends]) (Chores.refl t)
      | true =>
          cases hlane : type.lane? with
          | none => exact hl.idle (by simp [submits, hlane]) (t.chores_sendSmall hlane data now)
          | some lane =>
              obtain rfl := UdpType.eq_of_lane? hlane
              have hsubmits : t.submits (.sendSmall lane.type data now) =
                  some ⟨lane, t.sessionId,
                    t.mediaFrame lane.type false (data.take kMaxUdpPayload) now⟩ := by
                simp [submits, hsends, hlane]
              rw [hsubmits]
              exact hl.sendSmall lane data now hsends
  | pingTimer clk =>
      obtain ⟨rfl, -⟩ := Prod.mk.inj (Except.ok.inj h)
      exact hl.idle rfl (t.chores_pingTimerFires clk)
  | startPings ms clk =>
      obtain ⟨rfl, -⟩ := Prod.mk.inj (Except.ok.inj h)
      refine hl.idle rfl ?_
      unfold startPings
      split
      · exact Chores.refl t
      · have hset : Chores t { t with pingIntervalMs := ms } := Chores.of_same id rfl rfl
        exact hset.trans (chores_sendPingOnce _ clk)
  | sendRelayBind token =>
      obtain ⟨rfl, -⟩ := Prod.mk.inj (Except.ok.inj h)
      exact hl.idle rfl (t.chores_sendRelayBind token)
  | sendPunch target =>
      obtain ⟨rfl, -⟩ := Prod.mk.inj (Except.ok.inj h)
      exact hl.idle rfl (t.chores_sendPunch target)
  | stop =>
      obtain ⟨rfl, -⟩ := Prod.mk.inj (Except.ok.inj h)
      refine hl.idle rfl ?_
      unfold stop
      split
      · have hstopped : Chores t { t with running := false } := Chores.of_same id rfl rfl
        exact hstopped.trans (Chores.post _ (fun _ hbytes => by cases hbytes))
      · exact Chores.refl t
  | setSessionId | setPeer | lockToRemote | setRelayFallback | pollVideo | pollAudio | stopPings
  | setVideoJitterTargetMs | setAudioJitterTargetMs | setAutoKeyframeRequest
  | setDropUnknownRemote | resetStats =>
      obtain ⟨rfl, -⟩ := Prod.mk.inj (Except.ok.inj h)
      exact hl.idle rfl (Chores.of_same id rfl rfl)

end Logged

/-! ## Whole runs -/

/-- A transport without a sink that has sent nothing yet. -/
structure Untouched (t : UdpTransport σ) : Prop where
  plain : t.secure = none
  counter : t.seqCounter = Vector.replicate 9 0
  posted : t.posted = []

section Runs

variable (sink : UdpCryptoSink σ) (t₀ : UdpTransport σ) (es : List UdpEvent)

/-- The frames that a run submits, in order. -/
def submitted : List Submission := (stepsOf (next sink) t₀ es).filterMap (fun p => p.1.submits p.2)

/-- The datagrams that a run puts on the wire. -/
def wire : List Bytes := (stepsOf (next sink) t₀ es).flatMap (fun p => sentBytes (p.1.outputs sink p.2))

variable {sink t₀ es}

theorem logged_untouched (h : Untouched t₀) : Logged [] t₀ where
  plain := h.plain
  number lane := by
    unfold nextNumber nextSeq
    rw [h.counter]
    cases lane <;> rfl
  numbered _ := rfl
  posted task htask := by
    rw [h.posted] at htask
    cases htask

/-- **What a run puts on the wire** is genuine. -/
theorem logged_run (h : Untouched t₀) (hinput : ∀ e ∈ es, e.framesInput = false) {t : UdpTransport σ}
    (hrun : runFrom (step sink) (.ok t₀) es = .ok t) :
    Logged (submitted sink t₀ es) t ∧ ∀ b ∈ wire sink t₀ es, Genuine (submitted sink t₀ es) b := by
  refine runFrom_faulting_induction (next sink)
    (fun es t => (∀ e ∈ es, e.framesInput = false) → Logged (submitted sink t₀ es) t ∧
      ∀ b ∈ wire sink t₀ es, Genuine (submitted sink t₀ es) b) ?_ ?_ es hrun hinput
  · exact fun _ => ⟨logged_untouched h, nofun⟩
  · intro es t e t' hreach ih hnext hall
    obtain ⟨hlogged, hwire⟩ := ih fun d hd => hall d (List.mem_append_left _ hd)
    have hsteps := stepsOf_concat (next sink) hreach e
    have hsubmitted : submitted sink t₀ (es ++ [e]) =
        submitted sink t₀ es ++ (t.submits e).toList := by
      unfold submitted
      rw [hsteps, List.filterMap_append]
      cases hsubmits : t.submits e <;> simp [hsubmits]
    have hlast : e.framesInput = false := hall e (List.mem_append_right _ (List.mem_singleton.2 rfl))
    rw [hsubmitted]
    refine ⟨hlogged.handle hlast (next_ok hnext), fun b hb => ?_⟩
    unfold wire at hb
    rw [hsteps, List.flatMap_append, List.flatMap_singleton] at hb
    rcases List.mem_append.1 hb with hold | hnew
    · exact (hwire b hold).append _
    · exact (hlogged.genuine e b hnew).append _

end Runs

end UdpTransport

end RemotePlay.Net
