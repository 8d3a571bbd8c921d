import RemotePlay.Networking.SealedTransport

set_option autoImplicit false

/-! # Input on the wire

`sendSmall` numbers the `Input` datagrams of a transport in the order of its calls, posts them, and
the lambdas run in the order in which they were posted. Whatever else the transport does in between,
the `Input` datagram that is the `k`-th to be taken from the queue is that of call `k`, and what goes
on the wire carries this number. -/

namespace RemotePlay.Net

/-- The task sends an `Input` datagram. -/
def UdpTask.isInput : UdpTask → Bool
  | .datagram dg => getU8 dg 3 == UdpType.Input.code
  | _ => false

/-- The call hands whole frames of input to the transport; nobody does that. -/
def UdpEvent.framesInput : UdpEvent → Bool
  | .sendFrame type _ _ _ => type == .Input
  | _ => false

/-- The call is one of `sendSmall` for input. -/
def UdpEvent.sendsInput : UdpEvent → Bool
  | .sendSmall type _ _ => type == .Input
  | _ => false

/-- The header of the datagram of an input call. -/
structure UdpHeader.InputOf (h : UdpHeader) (call : Nat) : Prop where
  framed : h.Framed
  type : h.type = UdpType.Input.code
  sequence : h.sequence = UInt64.ofNat call
  single : h.fragmentCount = 1

/-- The bytes are those of an input call, in the clear or sealed. -/
def IsInputOf (bytes : Bytes) (call : Nat) : Prop :=
  ∃ h rest, bytes = encodeUdpHeader h ++ rest ∧ h.InputOf call

namespace UdpTransport

section InputWire

variable {σ : Type}

/-- `seqCounter_` of `UdpType::Input`. -/
def inputCounter (t : UdpTransport σ) : UInt64 :=
  t.seqCounter.toArray.getD UdpType.Input.code.toNat 0

/-- The `Input` datagrams that are still posted. -/
def waiting (t : UdpTransport σ) : List UdpTask := t.posted.filter UdpTask.isInput

/-- The event runs the lambda of an `Input` datagram. -/
def runsInput (t : UdpTransport σ) : UdpEvent → Bool
  | .runPosted _ _ => t.posted.head?.any UdpTask.isInput
  | _ => false

/-- What the effects hand to the socket. -/
def sentBytes (out : List UdpEffect) : List Bytes :=
  out.filterMap (fun effect =>
    match effect with
    | .sent _ bytes => some bytes
    | _ => none)

/-- The `Input` datagrams that a run hands to the socket, each with the number of its call, when `n`
    have been taken from the queue before. -/
def inputWire (sink : UdpCryptoSink σ) : UdpTransport σ → List UdpEvent → Nat → List (Nat × Bytes)
  | _, [], _ => []
  | t, e :: es, n =>
      match t.handle sink e with
      | .error _ => []
      | .ok (t', out) =>
          if t.runsInput e then
            (sentBytes out).map (fun bytes => (n, bytes)) ++ inputWire sink t' es (n + 1)
          else inputWire sink t' es n

/-! ## What sends no input -/

/-- From one state to the other no input has been sent, and the queue has only grown. -/
structure Quiet (t t' : UdpTransport σ) : Prop where
  counter : t'.inputCounter = t.inputCounter
  posted : ∃ tasks, t'.posted = t.posted ++ tasks ∧ ∀ task ∈ tasks, task.isInput = false

namespace Quiet

theorem of_same {t t' : UdpTransport σ} (hseq : t'.seqCounter = t.seqCounter)
    (hposted : t'.posted = t.posted) : Quiet t t' := by
  refine ⟨?_, [], ?_, ?_⟩
  · unfold inputCounter
    rw [hseq]
  · rw [hposted, List.append_nil]
  · intro task htask
    exact absurd htask (by simp)

theorem refl (t : UdpTransport σ) : Quiet t t := of_same rfl rfl

theorem trans {t t' t'' : UdpTransport σ} (h : Quiet t t') (h' : Quiet t' t'') : Quiet t t'' := by
  obtain ⟨tasks, heq, hnone⟩ := h.posted
  obtain ⟨tasks', heq', hnone'⟩ := h'.posted
  refine ⟨h'.counter.trans h.counter, tasks ++ tasks', ?_, ?_⟩
  · rw [heq', heq, List.append_assoc]
  · intro task htask
    rcases List.mem_append.1 htask with hin | hin
    · exact hnone task hin
    · exact hnone' task hin

/-- What touches neither the counters nor the queue may come first. -/
theorem after {t u t' : UdpTransport σ} (h : Quiet u t') (hseq : u.seqCounter = t.seqCounter)
    (hposted : u.posted = t.posted) : Quiet t t' := (of_same hseq hposted).trans h

theorem waiting_eq {t t' : UdpTransport σ} (h : Quiet t t') : t'.waiting = t.waiting := by
  obtain ⟨tasks, heq, hnone⟩ := h.posted
  have hfilter : tasks.filter UdpTask.isInput = [] := by
    rw [List.filter_eq_nil_iff]
    intro task htask
    rw [hnone task htask]
    exact Bool.false_ne_true
  unfold waiting
  rw [heq, List.filter_append, hfilter, List.append_nil]

theorem post (t : UdpTransport σ) {task : UdpTask} (h : task.isInput = false) :
    Quiet t (t.post task) := by
  refine ⟨rfl, [task], rfl, ?_⟩
  intro other hother
  rw [List.mem_singleton.1 hother]
  exact h

end Quiet

/-- The counters of the other types are other counters. -/
theorem inputCounter_nextSeq (t : UdpTransport σ) {type : UdpType} (h : type ≠ .Input) :
    (t.nextSeq type).2.inputCounter = t.inputCounter := by
  have hcode : type.code.toNat ≠ UdpType.Input.code.toNat := by
    intro heq
    exact h (congrArg UdpType.mk (UInt8.toNat_inj.1 heq))
  unfold inputCounter nextSeq
  simp [hcode]

theorem inputCounter_nextSeq_input (t : UdpTransport σ) :
    (t.nextSeq .Input).2.inputCounter = t.inputCounter + 1 := by
  unfold inputCounter nextSeq
  simp [UdpType.Input]

theorem quiet_sendSmall (t : UdpTransport σ) {type : UdpType} (h : type ≠ .Input) (data : Bytes)
    (now : UInt64) : Quiet t (t.sendSmall type data now) := by
  unfold sendSmall
  split
  · exact Quiet.refl t
  · have hnext : Quiet t (t.nextSeq type).2 :=
      ⟨t.inputCounter_nextSeq h, [], (List.append_nil _).symm, by simp⟩
    refine hnext.trans (Quiet.post _ ?_)
    exact beq_eq_false_iff_ne.2 (fun heq => h (congrArg UdpType.mk heq))

theorem quiet_sendFrame (t : UdpTransport σ) {type : UdpType} (h : type ≠ .Input) (keyframe : Bool)
    (data : Bytes) (ts : UInt64) : Quiet t (t.sendFrame type keyframe data ts) := by
  unfold sendFrame
  split
  · exact Quiet.refl t
  dsimp only
  rw [foldl_post]
  have hnext : ∀ u : UdpTransport σ, (u.nextSeq type).2.inputCounter = u.inputCounter := fun u =>
    u.inputCounter_nextSeq h
  refine ⟨hnext _, _, rfl, ?_⟩
  intro task htask
  obtain ⟨fr, hfr, rfl⟩ := List.mem_map.1 htask
  obtain ⟨fi, -, rfl⟩ := List.mem_map.1 hfr
  exact beq_eq_false_iff_ne.2 fun heq => h (congrArg UdpType.mk heq)

theorem quiet_sendTo (t : UdpTransport σ) (target : Endpoint) (bytes : Bytes) (fails : Bool) :
    Quiet t (t.sendTo target bytes fails).1 := by
  unfold sendTo
  split
  · exact Quiet.of_same rfl rfl
  · exact Quiet.of_same rfl rfl

theorem quiet_wireBytes (sink : UdpCryptoSink σ) (t : UdpTransport σ) (dg : Bytes) :
    Quiet t (t.wireBytes sink dg).2 := by
  unfold wireBytes
  split
  · exact Quiet.refl t
  · split
    · exact Quiet.refl t
    · exact Quiet.of_same rfl rfl

theorem quiet_runTask (sink : UdpCryptoSink σ) (t : UdpTransport σ) (task : UdpTask) (fails : Bool)
    (now : UInt64) : Quiet t (t.runTask sink task fails now).1 := by
  cases task with
  | datagram dg =>
      have hwire := quiet_wireBytes sink t dg
      simp only [runTask]
      split
      · next t1 heq =>
          rw [heq] at hwire
          exact hwire
      · next bytes t1 heq =>
          rw [heq] at hwire
          exact hwire.trans (quiet_sendTo ..)
  | relayBind target pkt =>
      simp only [runTask]
      split
      · exact Quiet.refl t
      · split
        · exact Quiet.of_same rfl rfl
        · exact Quiet.refl t
  | punch target dg => exact quiet_sendTo ..
  | requestKeyframe => exact quiet_sendSmall t (by decide) _ now
  | close => exact Quiet.of_same rfl rfl

theorem quiet_sendPingOnce (t : UdpTransport σ) (clk : Nat → UInt64) :
    Quiet t (t.sendPingOnce clk) := by
  unfold sendPingOnce
  split
  · exact Quiet.refl t
  · have hrelay : Quiet t (t.returnToRelay (clk 0)) := by
      unfold returnToRelay
      split
      · exact Quiet.refl t
      · exact Quiet.of_same rfl rfl
    dsimp only
    have hping := quiet_sendSmall (t.returnToRelay (clk 0)).countPing (by decide : UdpType.Ping ≠ .Input)
      (leBytes 8 (clk 1).toNat ++ leBytes 4 (t.returnToRelay (clk 0)).pingSeq.toNat) (clk 2)
    exact (hrelay.trans (hping.after rfl rfl)).trans (Quiet.of_same rfl rfl)

theorem quiet_pingTimerFires (t : UdpTransport σ) (clk : Nat → UInt64) :
    Quiet t (t.pingTimerFires clk) := by
  unfold pingTimerFires
  split
  · exact Quiet.refl t
  · dsimp only
    split
    · exact Quiet.of_same rfl rfl
    · exact Quiet.after (quiet_sendPingOnce _ clk) rfl rfl

/-! ## Datagrams that arrive at the sender -/

theorem quiet_authenticate (sink : UdpCryptoSink σ) (t : UdpTransport σ) (buf : Bytes)
    (now : UInt64) : Quiet t (t.authenticate sink buf now).2 :=
  Quiet.of_same
    (authenticate_frame seqCounter sink t (fun _ _ => rfl) (fun _ _ => rfl) (fun _ _ => rfl) buf now)
    (authenticate_frame posted sink t (fun _ _ => rfl) (fun _ _ => rfl) (fun _ _ => rfl) buf now)

theorem quiet_learnPeer (sink : UdpCryptoSink σ) (t : UdpTransport σ) (h : UdpHeader)
    (source : Endpoint) : Quiet t (t.learnPeer sink h source) :=
  Quiet.of_same (learnPeer_frame seqCounter sink t (fun _ _ _ => rfl) h source)
    (learnPeer_frame posted sink t (fun _ _ _ => rfl) h source)

theorem quiet_noteVideoGap (t : UdpTransport σ) (gap : Int64) (now : UInt64) :
    Quiet t (t.noteVideoGap gap now) := by
  unfold noteVideoGap
  split
  · split
    · exact Quiet.after (Quiet.post { t with lastKeyframeReqNs := now } (by decide)) rfl rfl
    · exact Quiet.refl t
  · exact Quiet.refl t

theorem quiet_reassemble {t t' : UdpTransport σ} {h : UdpHeader} {payload : Bytes} {now : UInt64}
    {out : Option AssembledFrame} (hr : t.reassemble h payload now = .ok (out, t')) :
    Quiet t t' := by
  have hmap : ∀ {α β : Type} {x : Except FeedFault α} {f : α → β} {b : β},
      x.map f = .ok b → ∃ a, b = f a := by
    intro α β x f b hx
    cases x with
    | error fault => exact absurd hx (by simp [Except.map])
    | ok a => exact ⟨a, (Except.ok.inj hx).symm⟩
  unfold reassemble at hr
  dsimp only at hr
  split at hr
  · obtain ⟨fed, heq⟩ := hmap hr
    obtain ⟨-, rfl⟩ := Prod.mk.inj heq
    exact Quiet.after (quiet_noteVideoGap _ _ now) rfl rfl
  · split at hr
    · obtain ⟨fed, heq⟩ := hmap hr
      obtain ⟨-, rfl⟩ := Prod.mk.inj heq
      exact Quiet.of_same rfl rfl
    · split at hr
      · obtain ⟨fed, heq⟩ := hmap hr
        obtain ⟨-, rfl⟩ := Prod.mk.inj heq
        exact Quiet.of_same rfl rfl
      · obtain ⟨-, rfl⟩ := Prod.mk.inj (Except.ok.inj hr)
        exact Quiet.refl t

theorem quiet_dispatch {t : UdpTransport σ} {h : UdpHeader} {payload : Bytes} {clk : Nat → UInt64}
    {p : UdpTransport σ × List UdpEffect} (hd : t.dispatch h payload clk = .ok p) :
    Quiet t p.1 := by
  have hnote : Quiet t (t.noteArrival (clk 1)) := Quiet.of_same rfl rfl
  refine hnote.trans ?_
  unfold dispatch at hd
  dsimp only at hd
  generalize t.noteArrival (clk 1) = u at hd
  split at hd
  · obtain rfl := Except.ok.inj hd
    exact quiet_sendSmall u (by decide) _ (clk 2)
  · split at hd
    · obtain rfl := Except.ok.inj hd
      unfold handlePong
      split
      · dsimp only
        split
        · exact Quiet.of_same rfl rfl
        · exact Quiet.refl u
      · exact Quiet.refl u
    · split at hd
      · obtain rfl := Except.ok.inj hd
        exact Quiet.refl u
      · split at hd
        · exact absurd hd (by simp)
        · next t' heq =>
            obtain rfl := Except.ok.inj hd
            exact quiet_reassemble heq
        · next frame t' heq =>
            obtain rfl := Except.ok.inj hd
            refine (quiet_reassemble heq).trans ?_
            unfold handleMediaComplete
            split
            · exact Quiet.refl t'
            · split
              · exact Quiet.of_same rfl rfl
              · split
                · exact Quiet.of_same rfl rfl
                · exact Quiet.refl t'

theorem quiet_handleDatagram {sink : UdpCryptoSink σ} {t : UdpTransport σ} {buf : Bytes}
    {source : Endpoint} {clk : Nat → UInt64} {p : UdpTransport σ × List UdpEffect}
    (h : t.handleDatagram sink buf source clk = .ok p) : Quiet t p.1 := by
  have hauth := quiet_authenticate sink t buf (clk 0)
  unfold handleDatagram at h
  split at h
  · next t1 heq =>
      rw [heq] at hauth
      obtain rfl := Except.ok.inj h
      exact hauth
  · next hd payload t1 heq =>
      rw [heq] at hauth
      refine (hauth.trans (quiet_learnPeer sink t1 hd source)).trans ?_
      dsimp only at h
      split at h
      · obtain rfl := Except.ok.inj h
        exact Quiet.refl _
      · exact quiet_dispatch h

/-- Only input calls and the queue matter to the input. -/
theorem quiet_handle {sink : UdpCryptoSink σ} {t : UdpTransport σ} {e : UdpEvent}
    {p : UdpTransport σ × List UdpEffect} (hrun : ∀ fails now, e ≠ .runPosted fails now)
    (hsmall : e.sendsInput = false) (hframe : e.framesInput = false)
    (h : t.handle sink e = .ok p) : Quiet t p.1 := by
  cases e with
  | datagram buf source clk => exact quiet_handleDatagram h
  | runPosted fails now => exact absurd rfl (hrun fails now)
  | pingTimer clk =>
      obtain rfl := Except.ok.inj h
      exact quiet_pingTimerFires t clk
  | sendFrame type keyframe data ts =>
      obtain rfl := Except.ok.inj h
      exact quiet_sendFrame t (beq_eq_false_iff_ne.1 hframe) keyframe data ts
  | sendSmall type data now =>
      obtain rfl := Except.ok.inj h
      exact quiet_sendSmall t (beq_eq_false_iff_ne.1 hsmall) data now
  | sendRelayBind token =>
      obtain rfl := Except.ok.inj h
      unfold sendRelayBind
      split
      · exact Quiet.refl t
      · exact Quiet.post t rfl
  | sendPunch target =>
      obtain rfl := Except.ok.inj h
      unfold sendPunch
      split
      · exact Quiet.refl t
      · exact Quiet.post t rfl
  | startPings ms clk =>
      obtain rfl := Except.ok.inj h
      unfold startPings
      split
      · exact Quiet.refl t
      · exact Quiet.after (quiet_sendPingOnce _ clk) rfl rfl
  | stop =>
      obtain rfl := Except.ok.inj h
      unfold stop
      split
      · exact Quiet.after (Quiet.post { t with running := false } rfl) rfl rfl
      · exact Quiet.refl t
  | setSessionId id | setPeer ep | lockToRemote ep | setRelayFallback ep | stopPings
  | pollVideo now | pollAudio now | setVideoJitterTargetMs ms | setAudioJitterTargetMs ms
  | setAutoKeyframeRequest enabled | setDropUnknownRemote drop | resetStats =>
      obtain rfl := Except.ok.inj h
      exact Quiet.of_same rfl rfl

/-! ## The queue holds the calls in order -/

/-- `n` calls have been taken from the queue, and those that follow wait in it. -/
structure CallsWait (t : UdpTransport σ) (n : Nat) : Prop where
  counter : t.inputCounter = UInt64.ofNat (n + t.waiting.length)
  calls : ∀ i task, t.waiting[i]? = some task →
    ∃ dg, task = .datagram dg ∧ IsInputOf dg (n + i)

namespace CallsWait

theorem quiet {t t' : UdpTransport σ} {n : Nat} (h : CallsWait t n) (hquiet : Quiet t t') :
    CallsWait t' n := by
  constructor
  · rw [hquiet.waiting_eq, hquiet.counter]
    exact h.counter
  · rw [hquiet.waiting_eq]
    exact h.calls

/-- A call joins the end of the queue. -/
theorem sendInput {t : UdpTransport σ} {n : Nat} (h : CallsWait t n) (data : Bytes) (now : UInt64) :
    CallsWait (t.sendSmall .Input data now) n := by
  unfold sendSmall
  split
  · exact h
  · set dg := encodeUdpHeader (smallHeader .Input (t.nextSeq .Input).2.sessionId
      (t.nextSeq .Input).1 now (data.take kMaxUdpPayload).length) ++ data.take kMaxUdpPayload with hdg
    have hwaiting : ((t.nextSeq .Input).2.post (.datagram dg)).waiting
        = t.waiting ++ [.datagram dg] := List.filter_append ..
    have hcounter : ((t.nextSeq .Input).2.post (.datagram dg)).inputCounter = t.inputCounter + 1 :=
      t.inputCounter_nextSeq_input
    constructor
    · show ((t.nextSeq .Input).2.post (.datagram dg)).inputCounter = _
      rw [hcounter, h.counter]
      show _ = UInt64.ofNat (n + ((t.nextSeq .Input).2.post (.datagram dg)).waiting.length)
      rw [hwaiting, List.length_append, List.length_singleton, ← Nat.add_assoc,
        UInt64.ofNat_add (n + t.waiting.length) 1]
      rfl
    · intro i task hget
      have hget' : (t.waiting ++ [.datagram dg])[i]? = some task := hwaiting ▸ hget
      rcases Nat.lt_trichotomy i t.waiting.length with hlt | rfl | hgt
      · rw [List.getElem?_append_left hlt] at hget'
        exact h.calls i task hget'
      · rw [List.getElem?_concat_length] at hget'
        obtain rfl := Option.some.inj hget'
        refine ⟨dg, rfl, _, _, hdg,
          ⟨⟨rfl, rfl, (by decide : UdpType.Input.code ≤ 8)⟩, rfl, ?_, rfl⟩⟩
        exact h.counter
      · rw [List.getElem?_eq_none (by simp; omega)] at hget'
        exact absurd hget' (by simp)

/-- The lambda at the front is taken from the queue. -/
theorem tail {t : UdpTransport σ} {n : Nat} {task : UdpTask} {rest : List UdpTask}
    (h : CallsWait t n) (hposted : t.posted = task :: rest) :
    CallsWait { t with posted := rest } (if task.isInput then n + 1 else n) := by
  have hwaiting : t.waiting = if task.isInput then task :: rest.filter UdpTask.isInput
      else rest.filter UdpTask.isInput := by
    unfold waiting
    rw [hposted, List.filter_cons]
  have hcounter := h.counter
  have hcalls := h.calls
  rw [hwaiting] at hcounter hcalls
  cases htask : task.isInput with
  | false =>
      rw [htask] at hcounter hcalls
      exact ⟨hcounter, hcalls⟩
  | true =>
      rw [htask] at hcounter hcalls
      constructor
      · refine hcounter.trans ?_
        rw [if_pos rfl, if_pos rfl, List.length_cons, Nat.add_right_comm, Nat.add_assoc]
        rfl
      · intro i task' hget
        have hnext := hcalls (i + 1) task' hget
        rwa [if_pos rfl, Nat.add_right_comm, Nat.add_assoc]

end CallsWait

/-- What goes on the wire for a datagram keeps its call. -/
theorem isInputOf_wireBytes {sink : UdpCryptoSink σ} {t : UdpTransport σ} {dg bytes : Bytes}
    {call : Nat} (h : IsInputOf dg call) (hwire : (t.wireBytes sink dg).1 = some bytes) :
    IsInputOf bytes call := by
  obtain ⟨g, rest, rfl, hg⟩ := h
  unfold wireBytes at hwire
  split at hwire
  · exact absurd hwire (by simp)
  · split at hwire
    · obtain rfl := Option.some.inj hwire
      exact ⟨g, rest, rfl, hg⟩
    · obtain ⟨out, -, rfl⟩ := Option.map_eq_some_iff.1 hwire
      rw [sealedHeader_encode g rest out hg.framed]
      exact ⟨_, out, rfl, hg.framed, hg.type, hg.sequence, hg.single⟩

theorem sentBytes_runTask {sink : UdpCryptoSink σ} {t : UdpTransport σ} {dg bytes : Bytes}
    {fails : Bool} {now : UInt64} (h : bytes ∈ sentBytes (t.runTask sink (.datagram dg) fails now).2) :
    (t.wireBytes sink dg).1 = some bytes := by
  simp only [runTask] at h
  split at h
  · exact absurd h (by simp [sentBytes])
  · next wire t1 heq =>
      unfold sendTo at h
      split at h
      · exact absurd h (by simp [sentBytes])
      · have hbytes : bytes = wire := by simpa [sentBytes] using h
        rw [heq, hbytes]

namespace CallsWait

variable {sink : UdpCryptoSink σ} {t t' : UdpTransport σ} {out : List UdpEffect} {n : Nat}

/-- The lambda at the front sends the datagram of the call whose turn it is, or none. -/
theorem runPosted {fails : Bool} {now : UInt64} (h : CallsWait t n)
    (hstep : t.handle sink (.runPosted fails now) = .ok (t', out)) :
    CallsWait t' (if t.runsInput (.runPosted fails now) then n + 1 else n) ∧
      (t.runsInput (.runPosted fails now) = true → ∀ bytes ∈ sentBytes out, IsInputOf bytes n) := by
  simp only [handle] at hstep
  cases hposted : t.posted with
  | nil =>
      rw [hposted] at hstep
      obtain ⟨rfl, -⟩ := Prod.mk.inj (Except.ok.inj hstep)
      rw [runsInput, hposted]
      exact ⟨h, nofun⟩
  | cons task rest =>
      rw [hposted] at hstep
      have hstep' := Except.ok.inj hstep
      have hruns : t.runsInput (.runPosted fails now) = task.isInput := by
        rw [runsInput, hposted, List.head?_cons, Option.any_some]
      rw [hruns]
      constructor
      · have hquiet := quiet_runTask sink { t with posted := rest } task fails now
        rw [hstep'] at hquiet
        exact (h.tail hposted).quiet hquiet
      · intro htask bytes hsent
        have hfirst : t.waiting[0]? = some task := by
          unfold waiting
          rw [hposted, List.filter_cons, if_pos htask]
          rfl
        obtain ⟨dg, rfl, hdg⟩ := h.calls 0 task hfirst
        have hout : out = ({ t with posted := rest }.runTask sink (.datagram dg) fails now).2 := by
          rw [hstep']
        rw [hout] at hsent
        exact isInputOf_wireBytes hdg (sentBytes_runTask hsent)

/-- **One event.** A call that is taken from the queue sends its own datagram. -/
theorem step {e : UdpEvent} (h : CallsWait t n) (hframe : e.framesInput = false)
    (hstep : t.handle sink e = .ok (t', out)) :
    CallsWait t' (if t.runsInput e then n + 1 else n) ∧
      (t.runsInput e = true → ∀ bytes ∈ sentBytes out, IsInputOf bytes n) := by
  by_cases hrun : ∃ fails now, e = .runPosted fails now
  · obtain ⟨fails, now, rfl⟩ := hrun
    exact h.runPosted hstep
  · have hruns : t.runsInput e = false := by
      cases e with
      | runPosted fails now => exact absurd ⟨fails, now, rfl⟩ hrun
      | _ => rfl
    rw [hruns]
    refine ⟨?_, nofun⟩
    cases hsmall : e.sendsInput with
    | false =>
        exact h.quiet (quiet_handle (fun fails now heq => hrun ⟨fails, now, heq⟩) hsmall hframe hstep)
    | true =>
        cases e with
        | sendSmall type data now =>
            obtain rfl : type = .Input := eq_of_beq hsmall
            obtain ⟨rfl, -⟩ := Prod.mk.inj (Except.ok.inj hstep)
            exact h.sendInput data now
        | _ => exact absurd hsmall (by simp [UdpEvent.sendsInput])

end CallsWait

/-- **Every `Input` datagram on the wire** is that of the call whose number it goes under. -/
theorem isInputOf_inputWire (sink : UdpCryptoSink σ) (es : List UdpEvent) (t : UdpTransport σ)
    (n : Nat) (h : CallsWait t n) (hframe : ∀ e ∈ es, e.framesInput = false) (call : Nat)
    (bytes : Bytes) (hmem : (call, bytes) ∈ inputWire sink t es n) : IsInputOf bytes call := by
  induction es generalizing t n with
  | nil => exact absurd hmem (by simp [inputWire])
  | cons e es ih =>
      have hrest := fun d hd => hframe d (List.mem_cons_of_mem _ hd)
      rw [inputWire] at hmem
      split at hmem
      · exact absurd hmem (by simp)
      · next t' out hstep =>
          obtain ⟨hwait, hown⟩ := h.step (hframe e List.mem_cons_self) hstep
          split at hmem
          · next hruns =>
              rw [if_pos hruns] at hwait
              rcases List.mem_append.1 hmem with hnow | hlater
              · obtain ⟨sent, hsent, heq⟩ := List.mem_map.1 hnow
                obtain ⟨rfl, rfl⟩ := Prod.mk.inj heq
                exact hown hruns sent hsent
              · exact ih t' (n + 1) hwait hrest hlater
          · next hruns =>
              rw [if_neg hruns] at hwait
              exact ih t' n hwait hrest hmem

end InputWire

end UdpTransport

end RemotePlay.Net
