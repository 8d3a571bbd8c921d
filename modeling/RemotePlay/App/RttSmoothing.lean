import RemotePlay.Client.ClientSession
import RemotePlay.Host.Records
import RemotePlay.Lib.MovingAverage
import RemotePlay.Lib.Runs

set_option autoImplicit false

/-! # The smoothed round trip time (`handlePong`, both sides)

Host and client smooth their samples alike: the first one is taken as it is, later ones with
`(rtt * 7 + sample) / 8`, where product and sum are 32 bits wide. The value both should keep is the
`movingAverage` of the samples, and a `Smoother` is a machine that keeps it up to the overflow; a
run loses it at the first sample with which `7 * average + sample` reaches `2 ^ 32`. -/

namespace RemotePlay

open Proto (Envelope Body Reason decodeMessage knownId)

/-- What `handlePong` makes of the old value and a sample. -/
def smooth (rttMs sample : UInt32) : UInt32 :=
  if rttMs = 0 then sample else (rttMs * 7 + sample) / 8

/-- The average of the samples, without overflow. -/
def exactAverage (xs : List UInt32) : Nat := movingAverage 7 (xs.map UInt32.toNat)

/-- The value kept after the samples `xs` is their average, and lies between two of them. -/
structure Smoothed (xs : List UInt32) (rttMs : UInt32) : Prop where
  average : rttMs.toNat = exactAverage xs
  within : xs ≠ [] → (∃ x ∈ xs, x ≤ rttMs) ∧ ∃ x ∈ xs, rttMs ≤ x

section Smooth

variable {xs : List UInt32} {r x : UInt32}

theorem smoothed_of_average (h : r.toNat = exactAverage xs) : Smoothed xs r := by
  refine ⟨h, fun hxs => ?_⟩
  have hne : xs.map UInt32.toNat ≠ [] := by simpa using hxs
  obtain ⟨⟨lo, hlo, hle⟩, hi, hhi, hge⟩ := movingAverage_between 7 hne
  obtain ⟨a, ha, rfl⟩ := List.mem_map.1 hlo
  obtain ⟨b, hb, rfl⟩ := List.mem_map.1 hhi
  exact ⟨⟨a, ha, UInt32.le_iff_toNat_le.2 (hle.trans_eq h.symm)⟩,
    b, hb, UInt32.le_iff_toNat_le.2 (h.trans_le hge)⟩

theorem exactAverage_concat (xs : List UInt32) (x : UInt32) :
    exactAverage (xs ++ [x]) = averageStep 7 (exactAverage xs) x.toNat := by
  rw [exactAverage, List.map_append]
  exact movingAverage_concat 7 _ _

/-- The sum wraps around exactly if the result is wrong: what is left of it is below `2 ^ 29`. -/
theorem smooth_toNat_iff (r x : UInt32) :
    (smooth r x).toNat = averageStep 7 r.toNat x.toNat ↔ r.toNat * 7 + x.toNat < 2 ^ 32 := by
  have hx := x.toNat_lt
  by_cases hr : r = 0
  · simp [smooth, averageStep, hr, hx]
  · have hr' : r.toNat ≠ 0 := fun h => hr (UInt32.toNat_inj.1 h)
    rw [smooth, if_neg hr, averageStep, if_neg hr', UInt32.toNat_div, UInt32.toNat_add,
      UInt32.toNat_mul]
    have hseven : (7 : UInt32).toNat = 7 := rfl
    have height : (8 : UInt32).toNat = 8 := rfl
    rw [hseven, height]
    omega

/-- **One sample.** It keeps the average exactly if the sum of the smoothing fits in 32 bits. -/
theorem Smoothed.concat_iff (h : Smoothed xs r) (x : UInt32) :
    Smoothed (xs ++ [x]) (smooth r x) ↔ exactAverage xs * 7 + x.toNat < 2 ^ 32 := by
  rw [← h.average, ← smooth_toNat_iff, h.average, ← exactAverage_concat]
  exact ⟨Smoothed.average, smoothed_of_average⟩

end Smooth

/-! ## Machines that smooth samples -/

/-- A machine that keeps a smoothed value while it has one, starts it anew at zero, and changes it
    by a sample only. -/
structure Smoother (σ ε : Type) where
  step : σ → ε → σ
  rttMs : σ → Option UInt32
  /-- The step starts a new value. -/
  restarts : σ → ε → Bool
  /-- The sample the step takes. -/
  sample : σ → ε → Option UInt32
  rttMs_restart : ∀ s e r, restarts s e = true → rttMs (step s e) = some r → r = 0
  rttMs_keep : ∀ s e r, restarts s e = false → sample s e = none →
    rttMs (step s e) = some r → rttMs s = some r
  rttMs_sample : ∀ s e x, sample s e = some x → restarts s e = false ∧
    ∃ r, rttMs s = some r ∧ rttMs (step s e) = some (smooth r x)

namespace Smoother

variable {σ ε : Type} (m : Smoother σ ε)

/-- The machine beside the samples taken for its present value. -/
def observe (p : σ × List UInt32) (e : ε) : σ × List UInt32 :=
  (m.step p.1 e, if m.restarts p.1 e then [] else p.2 ++ (m.sample p.1 e).toList)

/-- The value is the average of its samples and lies within them. -/
def Keeps (p : σ × List UInt32) : Prop := ∀ r, m.rttMs p.1 = some r → Smoothed p.2 r

/-- The sample of the step, if it takes one, leaves the sum of the smoothing within 32 bits. -/
def Fits (p : σ × List UInt32) (e : ε) : Prop :=
  ∀ x, m.sample p.1 e = some x → exactAverage p.2 * 7 + x.toNat < 2 ^ 32

/-- **One step.** -/
theorem keeps_observe_iff {p : σ × List UInt32} (h : m.Keeps p) (e : ε) :
    m.Keeps (m.observe p e) ↔ m.Fits p e := by
  cases hsample : m.sample p.1 e with
  | none =>
      refine iff_of_true ?_ fun x hx => absurd (hsample.symm.trans hx) (by simp)
      intro r hr
      cases hrestarts : m.restarts p.1 e with
      | true =>
          have hzero : r = 0 := m.rttMs_restart p.1 e r hrestarts hr
          simp only [observe, hrestarts, if_true]
          exact smoothed_of_average (by rw [hzero]; rfl)
      | false =>
          have hkept := h r (m.rttMs_keep p.1 e r hrestarts hsample hr)
          simpa [observe, hrestarts, hsample] using hkept
  | some x =>
      obtain ⟨hrestarts, r, hr, hstep⟩ := m.rttMs_sample p.1 e x hsample
      have hseen : (m.observe p e).2 = p.2 ++ [x] := by simp [observe, hrestarts, hsample]
      have hkeeps : m.Keeps (m.observe p e) ↔ Smoothed (p.2 ++ [x]) (smooth r x) := by
        rw [Keeps, hseen]
        constructor
        · intro hall
          exact hall _ hstep
        · intro hone r' hr'
          rw [Option.some.inj (hr'.symm.trans hstep)]
          exact hone
      have hfits : m.Fits p e ↔ exactAverage p.2 * 7 + x.toNat < 2 ^ 32 := by
        constructor
        · intro hall
          exact hall x hsample
        · intro hone y hy
          rw [← Option.some.inj (hsample.symm.trans hy)]
          exact hone
      rw [hkeeps, hfits]
      exact (h r hr).concat_iff x

/-- **A run** keeps the average at every step exactly if every sample fits. -/
theorem keeps_run_iff (s : σ) (h0 : ∀ r, m.rttMs s = some r → r = 0) (es : List ε) :
    (∀ p ∈ history m.observe (s, []) es, m.Keeps (m.observe p.1 p.2)) ↔
      ∀ p ∈ history m.observe (s, []) es, m.Fits p.1 p.2 := by
  have hfresh : m.Keeps (s, []) := by
    intro r hr
    exact smoothed_of_average (by rw [h0 r hr]; rfl)
  exact invariant_history_iff m.observe m.Keeps m.Fits (fun _ e h => m.keeps_observe_iff h e) _ es
    hfresh

end Smoother

/-- The `PONG` that a frame carries. -/
def pongOf (type : UInt16) (payload : Bytes) : Option Proto.Msg.Pong :=
  (decodeMessage type payload).bind fun env =>
    match env.body with
    | .pong pong => some pong
    | _ => none

theorem pongOf_eq_some_iff (type : UInt16) (payload : Bytes) (pong : Proto.Msg.Pong) :
    pongOf type payload = some pong ↔
      ∃ env, decodeMessage type payload = some env ∧ env.body = .pong pong := by
  unfold pongOf
  rw [Option.bind_eq_some_iff]
  refine exists_congr fun env => and_congr_right fun _ => ?_
  split
  · next heq => rw [heq, Option.some.injEq, Body.pong.injEq]
  · next hne => exact iff_of_false (by simp) (hne pong)

/-! ## The host -/

namespace Host.HostSession

/-- The sample that an event makes the host take of a client. -/
def pongSample (s : HostSession) (id : UInt32) : HostEvent → Option UInt32
  | .frame clientId type payload _ later =>
      if clientId = id ∧ s.running = true ∧ s.stopping = false ∧ knownId type = true ∧
          id ∈ s.clients then
        (pongOf type payload).map (fun pong => sinceEpochMs later - pong.echoEpochMs.toUInt32)
      else none
  | _ => none

/-- A record of `t` has the value that the record of `s` under the same id has. -/
def RttFrom (id : UInt32) (s t : HostSession) : Prop :=
  ∀ rec', t.clients[id]? = some rec' → ∃ rec, s.clients[id]? = some rec ∧ rec.rttMs = rec'.rttMs

section RttFrom

variable {s t u : HostSession} {id : UInt32} {rec rec' : ClientRecord}

theorem RttFrom.refl (s : HostSession) : RttFrom id s s := fun rec' h => ⟨rec', h, rfl⟩

theorem RttFrom.trans (h : RttFrom id s t) (h' : RttFrom id t u) : RttFrom id s u := by
  intro rec'' hrec''
  obtain ⟨rec', hrec', heq'⟩ := h' rec'' hrec''
  obtain ⟨rec, hrec, heq⟩ := h rec' hrec'
  exact ⟨rec, hrec, heq.trans heq'⟩

theorem rttFrom_insert (hrec : s.clients[id]? = some rec) (stored : ClientRecord)
    (hsame : stored.rttMs = rec.rttMs) :
    RttFrom id s (s.withClients (s.clients.insert id stored)) := by
  intro rec'' hrec''
  rw [lookup_withClients_insert, if_pos rfl] at hrec''
  rw [← Option.some.inj hrec'']
  exact ⟨rec, hrec, hsame.symm⟩

theorem rttFrom_setState (st : ConnectionState) : RttFrom id s (s.setState id st).1 := by
  intro rec' hrec'
  rw [lookup_setState, if_pos rfl, Option.map_eq_some_iff] at hrec'
  obtain ⟨rec, hrec, rfl⟩ := hrec'
  exact ⟨rec, hrec, rfl⟩

theorem rttFrom_dropClient (sendReject : Bool) (reason : Reason) (text : Bytes) :
    RttFrom id s (s.dropClient id sendReject reason text).1 := by
  intro rec' hrec'
  rw [lookup_dropClient, if_pos rfl] at hrec'
  cases hrec'

theorem rttFrom_admitHello (hrec : s.clients[id]? = some rec) (hsame : rec'.rttMs = rec.rttMs)
    (hello : Proto.Msg.ClientHello) : RttFrom id s (s.admitHello id rec' hello).1 := by
  unfold admitHello
  split
  · exact rttFrom_dropClient _ _ _
  split
  · exact rttFrom_dropClient _ _ _
  dsimp only
  split
  · exact rttFrom_insert hrec _ hsame
  · exact rttFrom_insert hrec _ hsame

theorem rttFrom_handleClientHello (hello : Proto.Msg.ClientHello) :
    RttFrom id s (s.handleClientHello id hello).1 := by
  unfold handleClientHello
  split
  · exact .refl s
  · next rec hrec =>
      split
      · exact .refl s
      · have hnamed := rttFrom_insert hrec { rec with name := helloName hello } rfl
        exact hnamed.trans (rttFrom_admitHello (by rw [lookup_withClients_insert, if_pos rfl]) rfl
          hello)

theorem rttFrom_handleClientCapabilities (caps : Proto.Msg.ClientCapabilities) :
    RttFrom id s (s.handleClientCapabilities id caps).1 := by
  unfold handleClientCapabilities
  split
  · exact .refl s
  split
  · exact .refl s
  dsimp only
  split
  · exact rttFrom_dropClient _ _ _
  · exact rttFrom_setState _

theorem rttFrom_handleOther (type : UInt16) (payload : Bytes) :
    RttFrom id s (s.handleOther id type payload).1 := by
  unfold handleOther
  dsimp only
  split
  · exact .refl s
  · exact rttFrom_dropClient _ _ _

theorem rttFrom_dispatch (type : UInt16) (payload : Bytes) (now : Int) (body : Body)
    (hbody : ∀ pong, body ≠ .pong pong) : RttFrom id s (s.dispatch id type payload now body).1 := by
  unfold dispatch
  split
  · exact rttFrom_handleClientHello _
  · exact rttFrom_handleClientCapabilities _
  · exact .refl s
  · next pong => exact absurd rfl (hbody pong)
  · exact rttFrom_dropClient _ _ _
  · exact rttFrom_handleOther _ _

/-- A frame that is not a `PONG` leaves its sender's value alone. -/
theorem rttFrom_handleFrame (type : UInt16) (payload : Bytes) (now later : Int)
    (hpong : knownId type = true → s.stopping = false → pongOf type payload = none) :
    RttFrom id s (s.handleFrame id type payload now later).1 := by
  unfold handleFrame
  split
  · exact .refl s
  next hstop =>
  split
  · exact rttFrom_dropClient _ _ _
  next hknown =>
  split
  · exact .refl s
  · next rec hrec =>
      have hstored := rttFrom_insert hrec { rec with lastActivity := now } rfl
      dsimp only
      split
      · exact hstored.trans (rttFrom_dropClient _ _ _)
      · next env hdec =>
          refine hstored.trans (rttFrom_dispatch _ _ _ _ fun pong hbody => ?_)
          have hnone := hpong (by simpa using hknown) (by simpa using hstop)
          have hsome := (pongOf_eq_some_iff type payload pong).2 ⟨env, hdec, hbody⟩
          exact absurd (hnone.symm.trans hsome) (by simp)

end RttFrom

/-- What a `PONG` from a client does to its value. -/
theorem lookup_handleFrame_pong {s : HostSession} {id : UInt32} {rec : ClientRecord}
    {type : UInt16} {payload : Bytes} {pong : Proto.Msg.Pong} (now later : Int)
    (hstop : s.stopping = false) (hknown : knownId type = true)
    (hrec : s.clients[id]? = some rec) (hpong : pongOf type payload = some pong) :
    ((s.handleFrame id type payload now later).1.clients[id]?).map ClientRecord.rttMs
      = some (smooth rec.rttMs (sinceEpochMs later - pong.echoEpochMs.toUInt32)) := by
  obtain ⟨env, hdec, hbody⟩ := (pongOf_eq_some_iff type payload pong).1 hpong
  have hstored : (s.withClients (s.clients.insert id { rec with lastActivity := now })).clients[id]?
      = some { rec with lastActivity := now } := by rw [lookup_withClients_insert, if_pos rfl]
  unfold handleFrame
  rw [if_neg (by simp [hstop]), if_neg (by simp [hknown])]
  simp only [hrec, hdec, hbody, dispatch, handlePong, hstored]
  rw [clients_rebuildSnapshot, lookup_withClients_insert, if_pos rfl]
  rfl

/-- The event gives `id` to a new connection. -/
def startsRtt (s : HostSession) (id : UInt32) (e : HostEvent) : Bool :=
  s.assigns e && decide (id = s.nextClientId)

theorem assigns_frame (s : HostSession) (c : UInt32) (type : UInt16) (payload : Bytes)
    (now later : Int) : s.assigns (.frame c type payload now later) = false := by
  simp [assigns]

theorem pongSample_eq_none_of_assigns {s : HostSession} {e : HostEvent}
    (hassigns : s.assigns e = true) (id : UInt32) : s.pongSample id e = none := by
  cases e with
  | frame c type payload now later => exact absurd hassigns (by simp [assigns_frame])
  | _ => rfl

/-- **One step, no sample.** A record that comes out of it is new, or it has the value it had. -/
theorem step_rttMs {s : HostSession} {e : HostEvent} {id : UInt32} {rec' : ClientRecord}
    (hsample : s.pongSample id e = none) (hrec' : (s.step e).clients[id]? = some rec') :
    s.startsRtt id e = true ∧ rec'.rttMs = 0 ∨
      s.startsRtt id e = false ∧ ∃ rec, s.clients[id]? = some rec ∧ rec.rttMs = rec'.rttMs := by
  have hchange := s.step_record e id
  have hkept : ∀ rec, s.clients[id]? = some rec → rec.rttMs = rec'.rttMs → s.assigns e = false →
      s.startsRtt id e = true ∧ rec'.rttMs = 0 ∨
        s.startsRtt id e = false ∧ ∃ rec, s.clients[id]? = some rec ∧ rec.rttMs = rec'.rttMs :=
    fun rec hrec hsame hassigns => .inr ⟨by simp [startsRtt, hassigns], rec, hrec, hsame⟩
  generalize hv : (s.step e).clients[id]? = v at hchange hrec'
  generalize reports id (s.handle e).2 = rs at hchange
  cases hchange with
  | stay hnew hdecided =>
      refine .inr ⟨?_, rec', hrec', rfl⟩
      by_cases hassigns : s.assigns e = true
      · simp [startsRtt, hnew hassigns]
      · simp [startsRtt, hassigns]
  | connection address now he hassigns hid =>
      rw [← Option.some.inj hrec']
      exact .inl ⟨by simp [startsRtt, hassigns, hid], rfl⟩
  | approved rec now he hdeciding hrec hstate =>
      exact hkept rec hrec (by rw [← Option.some.inj hrec']) (by simp [assigns, he, hdeciding.2.2])
  | setInput rec now enableAll he htask hrec input hinput =>
      exact hkept rec hrec (by rw [← Option.some.inj hrec']) (by simp [assigns, he, htask])
  | kick rec now reason he htask hrec =>
      exact hkept rec hrec (by rw [← Option.some.inj hrec']) (by simp [assigns, he, htask])
  | hello rec hello type payload now later he hrec hstate hroom =>
      exact hkept rec hrec (by rw [← Option.some.inj hrec']) (by rw [he, assigns_frame])
  | capabilities rec type payload now later he hrec hstate hadmits =>
      exact hkept rec hrec (by rw [← Option.some.inj hrec']) (by rw [he, assigns_frame])
  | heard rec env type payload now later he hrun hstop hdec hrec hleaves rttMs =>
      -- the only change that may concern the value: look at the handler again
      subst he
      have hpong : knownId type = true → s.stopping = false → pongOf type payload = none := by
        intro hknown _
        have hmem : id ∈ s.clients := mem_of_lookup s.clients hrec
        simpa [pongSample, hrun, hstop, hknown, hmem] using hsample
      have hhandled : (s.handleFrame id type payload now later).1.clients[id]? = some rec' := by
        rw [← hrec', ← hv]
        simp [step, handle, hrun]
      obtain ⟨rec₀, hrec₀, hsame⟩ := rttFrom_handleFrame type payload now later hpong rec' hhandled
      exact hkept rec₀ hrec₀ hsame (s.assigns_frame id type payload now later)
  | forward rec type payload now later he hrec hstate =>
      exact hkept rec hrec (by rw [← Option.some.inj hrec']) (by rw [he, assigns_frame])
  | probed rec now he hrec =>
      exact hkept rec hrec (by rw [← Option.some.inj hrec']) (by simp [assigns, he])
  | dropped rec hrec => cases hrec'
  | stopped he => cases hrec'

/-- **One step with a sample.** -/
theorem step_rttMs_sample {s : HostSession} {e : HostEvent} {id x : UInt32}
    (hsample : s.pongSample id e = some x) : ∃ rec, s.clients[id]? = some rec ∧
      ((s.step e).clients[id]?).map ClientRecord.rttMs = some (smooth rec.rttMs x) := by
  unfold pongSample at hsample
  split at hsample
  · next c type payload now later =>
      split at hsample
      · next hguard =>
          obtain ⟨rfl, hrun, hstop, hknown, hmem⟩ := hguard
          obtain ⟨pong, hpong, rfl⟩ := Option.map_eq_some_iff.1 hsample
          obtain ⟨rec, hrec⟩ := Option.isSome_iff_exists.1
            (Std.TreeMap.mem_iff_isSome_getElem?.1 hmem)
          refine ⟨rec, hrec, ?_⟩
          have hstep : s.step (.frame c type payload now later)
              = (s.handleFrame c type payload now later).1 := by simp [step, handle, hrun]
          rw [hstep]
          exact lookup_handleFrame_pong now later hstop hknown hrec hpong
      · cases hsample
  · cases hsample

end Host.HostSession

/-- A `HostSession` keeps a smoothed value for each client. -/
def hostRtt (id : UInt32) : Smoother Host.HostSession Host.HostEvent where
  step := Host.HostSession.step
  rttMs := fun s => (s.clients[id]?).map Host.ClientRecord.rttMs
  restarts := fun s e => s.startsRtt id e
  sample := fun s e => s.pongSample id e
  rttMs_restart := by
    intro s e r hrestarts hr
    obtain ⟨rec', hrec', rfl⟩ := Option.map_eq_some_iff.1 hr
    have hassigns : s.assigns e = true := (Bool.and_eq_true_iff.1 hrestarts).1
    rcases Host.HostSession.step_rttMs
      (Host.HostSession.pongSample_eq_none_of_assigns hassigns id) hrec' with h | h
    · exact h.2
    · exact absurd (hrestarts.symm.trans h.1) (by simp)
  rttMs_keep := by
    intro s e r hrestarts hsample hr
    obtain ⟨rec', hrec', rfl⟩ := Option.map_eq_some_iff.1 hr
    rcases Host.HostSession.step_rttMs hsample hrec' with h | ⟨-, rec, hrec, hsame⟩
    · exact absurd (h.1.symm.trans hrestarts) (by simp)
    · exact Option.map_eq_some_iff.2 ⟨rec, hrec, hsame⟩
  rttMs_sample := by
    intro s e x hsample
    obtain ⟨rec, hrec, hstep⟩ := Host.HostSession.step_rttMs_sample hsample
    refine ⟨?_, rec.rttMs, Option.map_eq_some_iff.2 ⟨rec, hrec, rfl⟩, hstep⟩
    cases hrestarts : s.startsRtt id e with
    | false => rfl
    | true =>
        have hnone := Host.HostSession.pongSample_eq_none_of_assigns
          (Bool.and_eq_true_iff.1 hrestarts).1 id
        exact absurd (hnone.symm.trans hsample) (by simp)

/-! ## The client -/

namespace Client.ClientSession

/-- The sample that an event makes the client take. -/
def pongSample (s : ClientSession) : ClientEvent → Option UInt32
  | .frame type payload _ later =>
      if s.ioRunning = true ∧ s.stopping = false ∧ knownId type = true then
        (pongOf type payload).map (fun pong =>
          if pong.echoEpochMs < steadyNowMs later then
            (steadyNowMs later - pong.echoEpochMs).toUInt32
          else 0)
      else none
  | _ => none

section Rtt

variable (s : ClientSession)

theorem rttMs_send (msg : Envelope) : (s.send msg).1.status.rttMs = s.status.rttMs := by
  unfold send
  split
  · rfl
  · rfl

theorem rttMs_dispatch (type : UInt16) (payload : Bytes) (now : Int) (body : Body)
    (hbody : ∀ pong, body ≠ .pong pong) :
    (s.dispatch type payload now body).1.status.rttMs = s.status.rttMs := by
  cases body with
  | hostCapabilities m => exact rttMs_send _ _
  | ping m => exact rttMs_send _ _
  | negotiationResult m =>
      simp only [dispatch, handleNegotiation]
      split
      · rfl
      · rfl
  | pong m => exact absurd rfl (hbody m)
  | _ => rfl

theorem rttMs_handleFrame (type : UInt16) (payload : Bytes) (now later : Int)
    (hpong : knownId type = true → s.stopping = false → pongOf type payload = none) :
    (s.handleFrame type payload now later).1.status.rttMs = s.status.rttMs := by
  unfold handleFrame
  split
  · rfl
  next hstop =>
  dsimp only
  split
  · rfl
  next hknown =>
  split
  · rfl
  · next env hdec =>
      refine rttMs_dispatch _ _ _ _ _ fun pong hbody => ?_
      have hnone := hpong (by simpa using hknown) (by simpa using hstop)
      have hsome := (pongOf_eq_some_iff type payload pong).2 ⟨env, hdec, hbody⟩
      exact absurd (hnone.symm.trans hsome) (by simp)

theorem rttMs_startHeartbeat (now later : Int) :
    (s.startHeartbeat now later).1.status.rttMs = s.status.rttMs := by
  unfold startHeartbeat
  split
  · rfl
  split
  · rfl
  split
  · exact rttMs_send _ _
  · rfl

theorem rttMs_handleConnected (now : Int) :
    (s.handleConnected now).1.status.rttMs = s.status.rttMs := by
  unfold handleConnected sendHello
  dsimp only [setState, withStatus]
  exact rttMs_send _ _

theorem rttMs_handleClosed (lost : Option Bytes) :
    (s.handleClosed lost).1.status.rttMs = s.status.rttMs := by
  unfold handleClosed
  split
  · rfl
  split
  · rfl
  · rfl

/-- The network thread's handlers run only while its loop does. -/
theorem rttMs_whenRunning {r : ClientSession × List ClientEffect}
    (h : r.1.status.rttMs = s.status.rttMs) :
    (if !s.ioRunning then (s, []) else r).1.status.rttMs = s.status.rttMs := by
  split
  · rfl
  · exact h

end Rtt

/-- **One step, no sample.** -/
theorem step_rttMs {s : ClientSession} {e : ClientEvent} (hsample : s.pongSample e = none) :
    (s.step e).status.rttMs = s.status.rttMs := by
  cases e with
  | sendAppMessage type payload =>
      unfold step handle
      dsimp only
      split
      · rfl
      · rfl
  | runTask =>
      unfold step handle
      refine rttMs_whenRunning s ?_
      split
      · rfl
      · rfl
  | connected now => exact rttMs_whenRunning s (s.rttMs_handleConnected now)
  | connectFailed message => exact rttMs_whenRunning s rfl
  | frame type payload now later =>
      by_cases hrun : s.ioRunning = true
      · have hpong : knownId type = true → s.stopping = false → pongOf type payload = none := by
          intro hknown hstop
          simpa [pongSample, hrun, hknown, hstop] using hsample
        exact rttMs_whenRunning s (s.rttMs_handleFrame type payload now later hpong)
      · simp [step, handle, hrun]
  | closed lost => exact rttMs_whenRunning s (s.rttMs_handleClosed lost)
  | heartbeat now later => exact rttMs_whenRunning s (s.rttMs_startHeartbeat now later)
  | beginStop =>
      unfold step handle
      dsimp only
      split
      · rfl
      · rfl
  | endStop =>
      unfold step handle
      dsimp only
      split
      · rfl
      split
      · rfl
      · rfl

/-- **One step with a sample.** -/
theorem step_rttMs_sample {s : ClientSession} {e : ClientEvent} {x : UInt32}
    (hsample : s.pongSample e = some x) :
    (s.step e).status.rttMs = smooth s.status.rttMs x := by
  unfold pongSample at hsample
  split at hsample
  · next type payload now later =>
      split at hsample
      · next hguard =>
          obtain ⟨hrun, hstop, hknown⟩ := hguard
          obtain ⟨pong, hpong, rfl⟩ := Option.map_eq_some_iff.1 hsample
          obtain ⟨env, hdec, hbody⟩ := (pongOf_eq_some_iff type payload pong).1 hpong
          simp [step, handle, handleFrame, dispatch, handlePong, hrun, hstop, hknown, hdec, hbody,
            withStatus, smooth]
      · cases hsample
  · cases hsample

end Client.ClientSession

/-- A `ClientSession` keeps one smoothed value from its start on. -/
def clientRtt : Smoother Client.ClientSession Client.ClientEvent where
  step := Client.ClientSession.step
  rttMs := fun s => some s.status.rttMs
  restarts := fun _ _ => false
  sample := fun s e => s.pongSample e
  rttMs_restart := by
    intro s e r hrestarts
    cases hrestarts
  rttMs_keep := by
    intro s e r _ hsample hr
    rw [← hr, Client.ClientSession.step_rttMs hsample]
  rttMs_sample := by
    intro s e x hsample
    exact ⟨rfl, s.status.rttMs, rfl, by rw [Client.ClientSession.step_rttMs_sample hsample]⟩

/-! ## Both sessions -/

/-- **The smoothed round trip times of host and client are averages within their samples**, after
    every step of a run, exactly if no sample of the run makes the 32-bit sum overflow. -/
theorem rtt_within_samples_iff (hostParams : Host.HostSessionParams) (sessionCode : Bytes)
    (hostHandler : Bool) (id : UInt32) (hostEvents : List Host.HostEvent)
    (clientParams : Client.ClientSessionParams) (clientHandler : Bool)
    (clientEvents : List Client.ClientEvent) :
    ((∀ p ∈ history (hostRtt id).observe
          (Host.HostSession.started hostParams sessionCode hostHandler, []) hostEvents,
        (hostRtt id).Keeps ((hostRtt id).observe p.1 p.2)) ↔
      ∀ p ∈ history (hostRtt id).observe
          (Host.HostSession.started hostParams sessionCode hostHandler, []) hostEvents,
        (hostRtt id).Fits p.1 p.2) ∧
    ((∀ p ∈ history clientRtt.observe
          (Client.ClientSession.started clientParams clientHandler, []) clientEvents,
        clientRtt.Keeps (clientRtt.observe p.1 p.2)) ↔
      ∀ p ∈ history clientRtt.observe
          (Client.ClientSession.started clientParams clientHandler, []) clientEvents,
        clientRtt.Fits p.1 p.2) := by
  constructor
  · refine (hostRtt id).keeps_run_iff _ ?_ hostEvents
    intro r hr
    simp [hostRtt, Host.HostSession.started] at hr
  · refine clientRtt.keeps_run_iff _ ?_ clientEvents
    intro r hr
    exact (Option.some.inj hr).symm

/-- Two samples of 700000000 ms leave the host with 163129088 ms. -/
theorem rtt_below_samples :
    ¬ ((∀ (params : Host.HostSessionParams) (sessionCode : Bytes) (appHandler : Bool) (id : UInt32)
        (es : List Host.HostEvent),
        ∀ p ∈ history (hostRtt id).observe
            (Host.HostSession.started params sessionCode appHandler, []) es,
          (hostRtt id).Keeps ((hostRtt id).observe p.1 p.2)) ∧
      ∀ (params : Client.ClientSessionParams) (appHandler : Bool) (es : List Client.ClientEvent),
        ∀ p ∈ history clientRtt.observe (Client.ClientSession.started params appHandler, []) es,
          clientRtt.Keeps (clientRtt.observe p.1 p.2)) := by
  rintro ⟨hhost, -⟩
  let pong := Proto.encodeMessage { type := .Pong, body := .pong { echoEpochMs := 0 } }
  let later : Int := 700000000 * 1000000
  have hkeeps := hhost {} [] false 1
    [.newConnection [] 0, .frame 1 Proto.Id.Pong.code pong later later,
      .frame 1 Proto.Id.Pong.code pong later later] _ (List.mem_of_getLast? rfl)
  have hwithin := (hkeeps 163129088 (by decide +kernel)).within (by decide +kernel)
  exact absurd hwithin.1 (by decide +kernel)

end RemotePlay
