import RemotePlay.App.StreamCodec

set_option autoImplicit false

/-! # One live streamer per client

A `HostStreamer` is created on the Qt thread and started by a worker of its own. It is owned by the
client's stream, until that gets another one or is erased, and by the worker, until its `start` has
returned; the last owner to let go destroys the streamer and thereby stops it. `stop` has an effect
only once the worker has entered `start`.

`StreamChange` lists what an invocation can do to the streams and their streamers. A `StreamerPool`
follows the streamers themselves: a streamer that a worker may still start, or that is running, is
the current one of its client, as long as no invocation gives it up too early
(`one_live_streamer`). -/

namespace RemotePlay.App

open Proto (Body decodeMessage)
open Crypto (Cng EcdhKeyPair)

/-! ## The streams and their streamers -/

/-- What an invocation does to a streamer. -/
inductive StreamerCall where
  | start (index : Nat)
  | stop (index : Nat)
deriving DecidableEq, Repr

/-- The call on a streamer that an effect is. -/
def streamerCall : HostCoordinatorEffect → Option StreamerCall
  | .startStreamer index => some (.start index)
  | .stopStreamer index => some (.stop index)
  | _ => none

namespace HostCoordinator

/-- The streamer of each client that has a stream. -/
def entries (k : HostCoordinator) (id : UInt32) : Option (Option Nat) :=
  (k.streams[id]?).map ClientStream.streamer

/-- The streams after an invocation, the streamers it creates and its calls on streamers. -/
inductive StreamChange (k : HostCoordinator) (e : HostCoordinatorEvent) :
    (UInt32 → Option (Option Nat)) → List HostStreamer → List StreamerCall → Prop where
  | stay : StreamChange k e k.entries [] []
  | seat (id : UInt32) (hnew : k.entries id = none) :
      StreamChange k e (Function.update k.entries id (some none)) [] []
  | leave (id : UInt32) (current : Option Nat) (hentry : k.entries id = some current)
      (he : endsStream id e = true) :
      StreamChange k e (Function.update k.entries id none) [] (current.map .stop).toList
  | ready (id : UInt32) (current : Option Nat) (st : HostStreamer)
      (hentry : k.entries id = some current) (he : messageOf e = some (id, .sessionKeyReady))
      (hst : st.clientId = id) :
      StreamChange k e (Function.update k.entries id (some (some k.streamers.length))) [st]
        [.start k.streamers.length]
  | stopped (id : UInt32) (index : Nat) (hentry : k.entries id = some (some index)) :
      StreamChange k e k.entries [] [.stop index]

/-- What a handler yields is one of these. -/
def Streams (k : HostCoordinator) (e : HostCoordinatorEvent)
    (r : HostCoordinator × List HostCoordinatorEffect) : Prop :=
  ∃ new, r.1.streamers = k.streamers ++ new ∧
    StreamChange k e r.1.entries new (r.2.filterMap streamerCall)

section Handlers

variable {k t : HostCoordinator} {e : HostCoordinatorEvent} {out : List HostCoordinatorEffect}

theorem entries_of_stream {id : UInt32} {cs : ClientStream} (h : k.streams[id]? = some cs) :
    k.entries id = some cs.streamer := by
  rw [entries, h, Option.map_some]

theorem entries_of_no_stream {id : UInt32} (h : k.streams[id]? = none) : k.entries id = none := by
  rw [entries, h, Option.map_none]

theorem entries_putStream (k : HostCoordinator) (id : UInt32) (cs : ClientStream) :
    (k.putStream id cs).entries = Function.update k.entries id (some cs.streamer) := by
  funext a
  rw [entries, putStream, lookup_insert, Function.update_apply]
  by_cases h : id = a
  · rw [if_pos h, if_pos h.symm, Option.map_some]
  · rw [if_neg h, if_neg (Ne.symm h)]
    rfl

theorem Streams.stay (hentries : t.entries = k.entries) (hstreamers : t.streamers = k.streamers)
    (hout : out.filterMap streamerCall = []) : Streams k e (t, out) := by
  refine ⟨[], by rw [hstreamers, List.append_nil], ?_⟩
  rw [hentries, hout]
  exact .stay

/-- Storing a stream again under its own streamer. -/
theorem entries_putStream_same {id : UInt32} {cs : ClientStream} (h : k.streams[id]? = some cs)
    (cs' : ClientStream) (hstreamer : cs'.streamer = cs.streamer) :
    (k.putStream id cs').entries = k.entries := by
  rw [entries_putStream, hstreamer, ← entries_of_stream h, Function.update_eq_self]

theorem calls_of_outward (h : out.all outward = true) : out.filterMap streamerCall = [] := by
  rw [List.filterMap_eq_nil_iff]
  intro eff hmem
  have heff := List.all_eq_true.1 h eff hmem
  cases eff with
  | startStreamer index => cases heff
  | stopStreamer index => cases heff
  | _ => rfl

/-- The effects of a stream that is left, or whose player's entry is dropped. -/
theorem calls_stopStreamer (cs : ClientStream) (more : List HostCoordinatorEffect)
    (hmore : more.filterMap streamerCall = []) :
    ((cs.streamer.map HostCoordinatorEffect.stopStreamer).toList ++ more).filterMap streamerCall
      = (cs.streamer.map StreamerCall.stop).toList := by
  rw [List.filterMap_append, hmore]
  cases cs.streamer with
  | none => rfl
  | some index => rfl

theorem calls_handleInputPermissions (id : UInt32) (p : InputPermissions) :
    (k.handleInputPermissions id p).filterMap streamerCall = [] := by
  unfold handleInputPermissions
  split
  · rfl
  · rw [List.filterMap_cons]
    split
    · split
      · rfl
      · rfl
    · next h => cases h

end Handlers

/-- **What an invocation can do to the streams and their streamers.** -/
theorem step_streams (c : Cng) (k : HostCoordinator) (hfiled : k.Filed)
    (e : HostCoordinatorEvent) : Streams k e (k.handle c e) := by
  have h := handle_outcome c k e
  generalize k.handle c e = r at h
  cases h with
  | idle out hout hperms hends hexchange hstarted => exact .stay rfl rfl (calls_of_outward hout)
  | opened row keys salt kp out hout he hstate hnew =>
      refine ⟨[], (List.append_nil _).symm, ?_⟩
      rw [entries_putStream, calls_of_outward hout]
      exact .seat row.id (entries_of_no_stream hnew)
  | closed id cs more hmore hcs he =>
      refine ⟨[], (List.append_nil _).symm, ?_⟩
      have hentries : ({ k with streams := k.streams.erase id } : HostCoordinator).entries
          = Function.update k.entries id none := by
        funext a
        rw [entries, lookup_erase, Function.update_apply]
        by_cases h : id = a
        · rw [if_pos h, if_pos h.symm, Option.map_none]
        · rw [if_neg h, if_neg (Ne.symm h)]
          rfl
      have hcalls := calls_stopStreamer cs (.clientDisconnected cs.playerIndex :: more)
        (by rw [List.filterMap_cons, calls_of_outward hmore]; rfl)
      rw [hentries, List.append_assoc, List.singleton_append, hcalls]
      exact .leave id cs.streamer (entries_of_stream hcs) he
  | exchanged id cs ecdh m out hout hcs hecdh hready he =>
      exact .stay (entries_putStream_same hcs _ rfl) rfl (calls_of_outward hout)
  | ready id cs hcs hchannel he =>
      refine ⟨[_], rfl, ?_⟩
      have hentries := entries_putStream k id
        { cs with keysReady := true, streamer := some k.streamers.length }
      -- the list of streamers is no part of the entries
      show StreamChange k e (k.putStream id
        { cs with keysReady := true, streamer := some k.streamers.length }).entries _ _
      rw [hentries]
      exact .ready id cs.streamer _ (entries_of_stream hcs) he (hfiled id cs hcs)
  | permitted id p cs hcs he => exact .stay rfl rfl (calls_handleInputPermissions id p)
  | reset id cs hcs he =>
      have hcalls := calls_stopStreamer cs [.clientDisconnected cs.playerIndex] rfl
      cases hstreamer : cs.streamer with
      | none => exact .stay rfl rfl rfl
      | some index =>
          refine ⟨[], (List.append_nil _).symm, ?_⟩
          rw [hstreamer] at hcalls
          rw [hcalls]
          exact .stopped id index (by rw [entries_of_stream hcs, hstreamer])

/-- Every stream's streamer was created for its client. -/
def Owned (k : HostCoordinator) : Prop :=
  ∀ id index, k.entries id = some (some index) →
    ∃ st, k.streamers[index]? = some st ∧ st.clientId = id

theorem StreamChange.owned {k : HostCoordinator} {e : HostCoordinatorEvent}
    {entries : UInt32 → Option (Option Nat)} {new : List HostStreamer} {calls : List StreamerCall}
    (h : StreamChange k e entries new calls) (howned : k.Owned) {id : UInt32} {index : Nat}
    (hentry : entries id = some (some index)) :
    ∃ st, (k.streamers ++ new)[index]? = some st ∧ st.clientId = id := by
  have hold : ∀ a i, k.entries a = some (some i) →
      ∃ st, (k.streamers ++ new)[i]? = some st ∧ st.clientId = a := by
    intro a i ha
    obtain ⟨st, hst, hclient⟩ := howned a i ha
    have hlt := (List.getElem?_eq_some_iff.1 hst).1
    exact ⟨st, by rw [List.getElem?_append_left hlt, hst], hclient⟩
  cases h with
  | stay => exact hold id index hentry
  | stopped a i ha => exact hold id index hentry
  | seat a hnew =>
      rw [Function.update_apply] at hentry
      split at hentry
      · cases hentry
      · exact hold id index hentry
  | leave a current ha he =>
      rw [Function.update_apply] at hentry
      split at hentry
      · cases hentry
      · exact hold id index hentry
  | ready a current st ha he hst =>
      rw [Function.update_apply] at hentry
      split at hentry
      · next heq =>
          obtain rfl : k.streamers.length = index := by simpa using hentry
          exact ⟨st, by simp, hst.trans heq.symm⟩
      · exact hold id index hentry

theorem step_owned (c : Cng) {k : HostCoordinator} (hfiled : k.Filed) (howned : k.Owned)
    (e : HostCoordinatorEvent) : (k.step c e).Owned := by
  obtain ⟨new, hstreamers, hchange⟩ := step_streams c k hfiled e
  intro id index hentry
  rw [step, hstreamers]
  exact hchange.owned howned hentry

end HostCoordinator

/-! ## The streamers at work -/

/-- Where the worker that starts a streamer is. -/
inductive Worker where
  /-- It has not entered `start` yet. -/
  | waiting
  | starting
  /-- `start` has returned, and the worker has let go of the streamer. -/
  | finished
deriving DecidableEq, Repr

/-- A `HostStreamer` at work: its worker, and `running_`. -/
structure LiveStreamer where
  worker : Worker := .waiting
  running : Bool := false
deriving DecidableEq, Repr

/-- `HostStreamer::stop`, as far as `running_` goes; it waits for a `start` that is under way, which
    does not set the flag again. -/
def LiveStreamer.stop (l : LiveStreamer) : LiveStreamer := { l with running := false }

/-- The coordinator with its streamers; `live` is by place in `streamers`, and `stopping` says that
    the Qt thread is inside `HostCoordinator::stop`. -/
structure StreamerPool where
  app : HostCoordinator
  live : Nat → LiveStreamer := fun _ => {}
  stopping : Bool := false

inductive PoolEvent where
  | invoke (e : HostCoordinatorEvent)
  /-- A worker enters `HostStreamer::start`, which sets `running_` first of all. -/
  | workerStarts (index : Nat)
  /-- `start` returns, and the worker with it. -/
  | workerEnds (index : Nat) (ok : Bool)
  /-- The capture loop gives up, or a stop datagram of the client arrives. -/
  | stopsItself (index : Nat)
  /-- `HostCoordinator::stop` stops the streamers of all streams and waits for the workers. -/
  | beginStop
  /-- All workers have been joined, and the streams are cleared. -/
  | endStop
deriving DecidableEq, Repr

namespace StreamerPool

/-- A call of the coordinator on a streamer. -/
def onCall (live : Nat → LiveStreamer) : StreamerCall → Nat → LiveStreamer
  | .start index => Function.update live index {}
  | .stop index => Function.update live index (live index).stop

/-- Some stream holds the streamer. -/
def held (k : HostCoordinator) (index : Nat) : Bool :=
  k.streams.values.any (fun cs => cs.streamer == some index)

/-- A streamer that neither a stream nor its worker holds is destroyed, which stops it. -/
def reap (s : StreamerPool) : StreamerPool :=
  { s with
    live := fun i =>
      if (s.live i).worker = .finished ∧ held s.app i = false then (s.live i).stop else s.live i }

/-- One event; the Qt thread handles no invocation inside `stop`. -/
def step (c : Cng) (s : StreamerPool) (e : PoolEvent) : StreamerPool :=
  match e with
  | .invoke e =>
      if s.stopping then s
      else
        let (app, out) := s.app.handle c e
        reap { s with app := app, live := (out.filterMap streamerCall).foldl onCall s.live }
  | .workerStarts index =>
      if index < s.app.streamers.length ∧ (s.live index).worker = .waiting then
        { s with live := Function.update s.live index { worker := .starting, running := true } }
      else s
  | .workerEnds index ok =>
      if (s.live index).worker = .starting then
        reap { s with
          live := Function.update s.live index
            { worker := .finished, running := (s.live index).running && ok } }
      else s
  | .stopsItself index => { s with live := Function.update s.live index (s.live index).stop }
  | .beginStop =>
      { s with
        live := fun i => if held s.app i then (s.live i).stop else s.live i
        stopping := true }
  | .endStop =>
      if s.stopping ∧ ∀ i < s.app.streamers.length, (s.live i).worker = .finished then
        reap { s with app := { s.app with streams := {} }, stopping := false }
      else s

/-- The streamers of a client that are running. -/
def runningFor (s : StreamerPool) (id : UInt32) : List Nat :=
  (List.range s.app.streamers.length).filter (fun i =>
    (s.app.streamers[i]?).any (fun st => st.clientId == id) && (s.live i).running)

/-- Every client has at most one running streamer, and none without a stream. -/
def OneLive (s : StreamerPool) : Prop :=
  ∀ id, (s.runningFor id).length ≤ 1 ∧ (s.app.streams[id]? = none → s.runningFor id = [])

/-- The invocation does not give up the client's streamer too early: not to a `SESSION_KEY_READY`
    before the worker has finished, unless the streamer was stopped meanwhile, and not to the end of
    the stream before the worker has entered `start`. -/
def InTime (s : StreamerPool) (inv : HostCoordinatorEvent) (id : UInt32) (index : Nat) : Prop :=
  (HostCoordinator.messageOf inv = some (id, .sessionKeyReady) →
    (s.live index).worker = .finished ∨
      (s.live index).worker = .starting ∧ (s.live index).running = false) ∧
  (HostCoordinator.endsStream id inv = true → (s.live index).worker ≠ .waiting)

/-- An event that is an invocation gives up no streamer too early. -/
def Orderly (s : StreamerPool) (e : PoolEvent) : Prop :=
  ∀ inv id index, e = .invoke inv → s.app.entries id = some (some index) → s.InTime inv id index

/-! ## The invariant -/

/-- The streamer runs, or its worker may still make it run. -/
def Alive (l : LiveStreamer) : Prop := l.worker = .waiting ∨ l.running = true

/-- A streamer that is alive is the current one of its client. -/
structure Current (s : StreamerPool) : Prop where
  filed : s.app.Filed
  owned : s.app.Owned
  held : ∀ i < s.app.streamers.length, Alive (s.live i) →
    ∃ id, s.app.entries id = some (some i)

section Steps

variable {c : Cng} {s t : StreamerPool} {i : Nat} {id : UInt32}

theorem held_iff (k : HostCoordinator) (i : Nat) :
    StreamerPool.held k i = true ↔ ∃ id, k.entries id = some (some i) := by
  rw [StreamerPool.held, any_values_iff]
  simp only [beq_iff_eq, HostCoordinator.entries, Option.map_eq_some_iff]

theorem not_alive_stop {l : LiveStreamer} (hworker : l.worker ≠ .waiting) : ¬ Alive l.stop := by
  rintro (hwaiting | hrunning)
  · exact hworker hwaiting
  · cases hrunning

theorem Alive.of_stop {l : LiveStreamer} (h : Alive l.stop) : Alive l := by
  rcases h with hwaiting | hrunning
  · exact .inl hwaiting
  · cases hrunning

/-- What is alive after the reaping was before; a streamer whose worker is finished is held. -/
theorem alive_of_reap (h : Alive (s.reap.live i)) :
    Alive (s.live i) ∧
      ((s.live i).worker = .finished → ∃ id, s.app.entries id = some (some i)) := by
  simp only [reap] at h
  split at h
  · next hdead => exact absurd h (not_alive_stop (by simp [hdead.1]))
  · next hkept =>
      refine ⟨h, fun hfinished => (held_iff s.app i).1 ?_⟩
      by_contra hfree
      exact hkept ⟨hfinished, by simpa using hfree⟩

/-- A change of another client's entry. -/
theorem Current.held_beside (h : s.Current) (hlt : i < s.app.streamers.length)
    (halive : Alive (s.live i)) {a : UInt32} (ha : s.app.entries a ≠ some (some i))
    (entry : Option (Option Nat)) :
    ∃ id, Function.update s.app.entries a entry id = some (some i) := by
  obtain ⟨id, hid⟩ := h.held i hlt halive
  refine ⟨id, ?_⟩
  rw [Function.update_of_ne, hid]
  rintro rfl
  exact ha hid

/-- A streamer that is alive after the calls of an invocation is held by a stream, if the reaping
    spares it. -/
theorem held_after_change (h : s.Current) {inv : HostCoordinatorEvent}
    (horderly : s.Orderly (.invoke inv)) {entries : UInt32 → Option (Option Nat)}
    {new : List HostStreamer} {calls : List StreamerCall}
    (hchange : HostCoordinator.StreamChange s.app inv entries new calls)
    (hlt : i < (s.app.streamers ++ new).length) (halive : Alive (calls.foldl onCall s.live i))
    (hspared : (calls.foldl onCall s.live i).worker = .finished →
      ∃ id, entries id = some (some i)) :
    ∃ id, entries id = some (some i) := by
  cases hchange with
  | stay => exact h.held i (by simpa using hlt) halive
  | stopped a index hentry =>
      refine h.held i (by simpa using hlt) ?_
      simp only [List.foldl_cons, List.foldl_nil, onCall, Function.update_apply] at halive
      split at halive
      · next heq => exact heq ▸ halive.of_stop
      · exact halive
  | seat a hnew => exact h.held_beside (by simpa using hlt) halive (by simp [hnew]) _
  | leave a current hentry hends =>
      cases current with
      | none => exact h.held_beside (by simpa using hlt) halive (by simp [hentry]) _
      | some index =>
          simp only [Option.map_some, Option.toList_some, List.foldl_cons, List.foldl_nil, onCall,
            Function.update_apply] at halive
          split at halive
          · exact absurd halive (not_alive_stop ((horderly inv a index rfl hentry).2 hends))
          · next hne =>
              exact h.held_beside (by simpa using hlt) halive (by simp [hentry, Ne.symm hne]) _
  | ready a current st hentry hmsg hst =>
      by_cases hnew : i = s.app.streamers.length
      · exact ⟨a, by rw [hnew, Function.update_self]⟩
      have hlive : [StreamerCall.start s.app.streamers.length].foldl onCall s.live i = s.live i :=
        Function.update_of_ne hnew _ _
      rw [hlive] at halive hspared
      have hold : i < s.app.streamers.length := by
        simp only [List.length_append, List.length_singleton] at hlt
        omega
      by_cases hcurrent : s.app.entries a = some (some i)
      · -- the streamer that is replaced
        rcases (horderly inv a i rfl hcurrent).1 hmsg with hfinished | ⟨hstarting, hstopped⟩
        · exact hspared hfinished
        · simp [Alive, hstarting, hstopped] at halive
      · exact h.held_beside hold halive hcurrent _

theorem current_invoke (h : s.Current) {inv : HostCoordinatorEvent}
    (horderly : s.Orderly (.invoke inv)) : (s.step c (.invoke inv)).Current := by
  unfold step
  dsimp only
  split
  · exact h
  obtain ⟨new, hstreamers, hchange⟩ := HostCoordinator.step_streams c s.app h.filed inv
  refine ⟨(s.app.step_keeps c inv).filed h.filed,
    HostCoordinator.step_owned c h.filed h.owned inv, ?_⟩
  intro i hlt halive
  obtain ⟨halive, hreaped⟩ := alive_of_reap halive
  exact held_after_change h horderly hchange (hstreamers ▸ hlt) halive hreaped

/-- An event that leaves the coordinator alone and brings no streamer to life. -/
theorem Current.of_alive (h : s.Current) (happ : t.app = s.app)
    (halive : ∀ i, Alive (t.live i) → Alive (s.live i)) : t.Current := by
  refine ⟨happ ▸ h.filed, happ ▸ h.owned, ?_⟩
  intro i hlt hi
  rw [happ] at hlt ⊢
  exact h.held i hlt (halive i hi)

/-- One streamer changes, and not into a live one. -/
theorem Current.update (h : s.Current) (index : Nat) (l : LiveStreamer)
    (hl : Alive l → Alive (s.live index)) :
    ({ s with live := Function.update s.live index l } : StreamerPool).Current := by
  refine h.of_alive rfl ?_
  intro i hi
  dsimp only at hi
  rw [Function.update_apply] at hi
  split at hi
  · next heq => exact heq ▸ hl hi
  · exact hi

theorem Current.reap (h : s.Current) : s.reap.Current :=
  h.of_alive rfl (fun _ hi => (alive_of_reap hi).1)

/-- **One step.** -/
theorem Current.step (h : s.Current) (e : PoolEvent) (horderly : s.Orderly e) :
    (s.step c e).Current := by
  cases e with
  | invoke inv => exact current_invoke h horderly
  | workerStarts index =>
      simp only [StreamerPool.step]
      split
      · next hwaits => exact h.update index _ (fun _ => .inl hwaits.2)
      · exact h
  | workerEnds index ok =>
      simp only [StreamerPool.step]
      split
      · refine (h.update index _ ?_).reap
        rintro (hwaiting | hrunning)
        · cases hwaiting
        · exact .inr (Bool.and_eq_true_iff.1 hrunning).1
      · exact h
  | stopsItself index => exact h.update index _ Alive.of_stop
  | beginStop =>
      refine h.of_alive rfl ?_
      intro i hi
      simp only [StreamerPool.step] at hi
      split at hi
      · exact hi.of_stop
      · exact hi
  | endStop =>
      simp only [StreamerPool.step]
      split
      · next hjoined =>
          have hnone : ∀ id, ({ s.app with streams := {} } : HostCoordinator).entries id = none :=
            fun id => HostCoordinator.entries_of_no_stream (by simp)
          refine ⟨fun id cs hcs => ?_, fun id index hentry => ?_, fun i hlt hi => ?_⟩
          · simp [StreamerPool.reap] at hcs
          · exact absurd ((hnone id).symm.trans hentry) (by simp)
          · -- every worker is joined and every stream is gone
            exact (alive_of_reap hi).2 (hjoined.2 i hlt)
      · exact h

theorem mem_runningFor_iff (s : StreamerPool) (id : UInt32) (i : Nat) :
    i ∈ s.runningFor id ↔
      ∃ st, s.app.streamers[i]? = some st ∧ st.clientId = id ∧ (s.live i).running = true := by
  simp only [runningFor, List.mem_filter, List.mem_range, Bool.and_eq_true, Option.any_eq_true,
    beq_iff_eq]
  constructor
  · rintro ⟨-, ⟨st, hst, hclient⟩, hrunning⟩
    exact ⟨st, hst, hclient, hrunning⟩
  · rintro ⟨st, hst, hclient, hrunning⟩
    exact ⟨(List.getElem?_eq_some_iff.1 hst).1, ⟨st, hst, hclient⟩, hrunning⟩

theorem Current.entry_of_running (h : s.Current) (hi : i ∈ s.runningFor id) :
    s.app.entries id = some (some i) := by
  obtain ⟨st, hst, hclient, hrunning⟩ := (mem_runningFor_iff s id i).1 hi
  obtain ⟨a, ha⟩ := h.held i (List.getElem?_eq_some_iff.1 hst).1 (.inr hrunning)
  obtain ⟨st', hst', hclient'⟩ := h.owned a i ha
  obtain rfl := Option.some.inj (hst.symm.trans hst')
  rw [← hclient, hclient', ha]

theorem Current.oneLive (h : s.Current) : s.OneLive := by
  intro id
  have hnodup : (s.runningFor id).Nodup := List.nodup_range.filter _
  constructor
  · cases hrunning : s.runningFor id with
    | nil => simp
    | cons i rest =>
        have hsub : s.runningFor id ⊆ [i] := by
          intro j hj
          have hi : i ∈ s.runningFor id := by simp [hrunning]
          have heq := (h.entry_of_running hi).symm.trans (h.entry_of_running hj)
          simpa using heq.symm
        have hlength := hnodup.length_le_of_subset hsub
        rwa [hrunning] at hlength
  · intro hnone
    refine List.eq_nil_iff_forall_not_mem.2 (fun i hi => ?_)
    have hentry := h.entry_of_running hi
    rw [HostCoordinator.entries_of_no_stream hnone] at hentry
    cases hentry

end Steps

/-! ## Every run -/

/-- **One live streamer per client.** In every run whose steps are orderly, at every moment at most
    one streamer of each client is running, and none of a client without a stream: none after
    `teardownClient` and none after `stop`. -/
theorem one_live_streamer (c : Cng) (sessionCode : Bytes) (settings : StreamSettings)
    (es : List PoolEvent)
    (horderly : ∀ p ∈ history (step c) { app := { sessionCode, settings } } es, p.1.Orderly p.2) :
    (runFrom (step c) { app := { sessionCode, settings } } es).OneLive := by
  refine (runFrom_invariant (step c) Current Orderly (fun s e h => h.step e) _ es ?_
    horderly).oneLive
  refine ⟨fun id cs hcs => by simp at hcs, fun id index hentry => ?_, fun i hlt => by simp at hlt⟩
  simp [HostCoordinator.entries] at hentry

instance (s : StreamerPool) (inv : HostCoordinatorEvent) (id : UInt32) (index : Nat) :
    Decidable (s.InTime inv id index) := inferInstanceAs (Decidable (_ ∧ _))

theorem orderly_invoke_iff (s : StreamerPool) (inv : HostCoordinatorEvent) :
    s.Orderly (.invoke inv) ↔
      ∀ entry ∈ s.app.streams.toList, ∀ index ∈ entry.2.streamer, s.InTime inv entry.1 index := by
  constructor
  · rintro h ⟨id, cs⟩ hmem index hindex
    have hcs := Std.TreeMap.mem_toList_iff_getElem?_eq_some.1 hmem
    refine h inv id index rfl ?_
    rw [HostCoordinator.entries_of_stream hcs, Option.mem_def.1 hindex]
  · intro h inv' id index heq hentry
    obtain rfl := PoolEvent.invoke.inj heq
    obtain ⟨cs, hcs, hindex⟩ := Option.map_eq_some_iff.1 hentry
    exact h (id, cs) (Std.TreeMap.mem_toList_iff_getElem?_eq_some.2 hcs) index hindex

theorem orderly_of_not_invoke {s : StreamerPool} {e : PoolEvent} (h : ∀ inv, e ≠ .invoke inv) :
    s.Orderly e := by
  intro inv id index heq
  exact absurd heq (h inv)

/-- A client is connected and exchanges keys. -/
def exchanges : List PoolEvent :=
  [.invoke (.clientUpdated { id := 1, state := .Connected } (some Crypto.Session.hostKeys)
      Crypto.Session.hostSalt),
    .invoke (.appMessage 1 Proto.Id.KeyExchange.code
      (HostCoordinator.keyExchangePayload Crypto.Session.clientPublic Crypto.Session.clientSalt))]

/-- The client announces that its keys are ready. -/
def keyReady : PoolEvent := .invoke (.appMessage 1 Proto.Id.SessionKeyReady.code [])

/-- It does so again once its stream runs. -/
def restartRun : List PoolEvent :=
  exchanges ++ [keyReady, .workerStarts 0, .workerEnds 0 true, keyReady, .workerStarts 1]

theorem one_live_streamer_restarted :
    (runFrom (step Crypto.Session.record.replay) { app := { sessionCode := Crypto.Session.code } }
        restartRun).runningFor 1 = [1] ∧
      (runFrom (step Crypto.Session.record.replay) { app := { sessionCode := Crypto.Session.code } }
        restartRun).OneLive := by
  refine ⟨by decide +kernel, one_live_streamer Crypto.Session.record.replay Crypto.Session.code {}
    restartRun ?_⟩
  intro p hp
  simp only [restartRun, exchanges, keyReady, List.cons_append, List.nil_append, history_cons,
    history_nil, List.mem_cons, List.not_mem_nil, or_false] at hp
  rcases hp with rfl | rfl | rfl | rfl | rfl | rfl | rfl
  · exact (orderly_invoke_iff _ _).2 (by decide +kernel)
  · exact (orderly_invoke_iff _ _).2 (by decide +kernel)
  · exact (orderly_invoke_iff _ _).2 (by decide +kernel)
  · exact orderly_of_not_invoke (by simp)
  · exact orderly_of_not_invoke (by simp)
  · exact (orderly_invoke_iff _ _).2 (by decide +kernel)
  · exact orderly_of_not_invoke (by simp)

/-- The client repeats its message before the first worker is done. -/
def repeatedReady : List PoolEvent :=
  exchanges ++ [keyReady, keyReady, .workerStarts 0, .workerStarts 1]

/-- The client is kicked before the worker has entered `start`. -/
def kickedEarly : List PoolEvent :=
  exchanges ++ [keyReady, .invoke (.kick 1), .workerStarts 0]

/-- Two streamers of one client run at once, and one runs for a client that has been torn down. -/
theorem repeated_ready_runs_two :
    let c := Crypto.Session.record.replay
    let s₀ : StreamerPool := { app := { sessionCode := Crypto.Session.code } }
    (runFrom (step c) s₀ repeatedReady).runningFor 1 = [0, 1] ∧
      ¬ (runFrom (step c) s₀ repeatedReady).OneLive ∧
    (runFrom (step c) s₀ kickedEarly).app.streams[(1 : UInt32)]? = none ∧
      (runFrom (step c) s₀ kickedEarly).runningFor 1 = [0] ∧
      ¬ (runFrom (step c) s₀ kickedEarly).OneLive := by
  intro c s₀
  have htwo : (runFrom (step c) s₀ repeatedReady).runningFor 1 = [0, 1] := by decide +kernel
  have hgone : (runFrom (step c) s₀ kickedEarly).app.streams[(1 : UInt32)]? = none := by
    decide +kernel
  have hruns : (runFrom (step c) s₀ kickedEarly).runningFor 1 = [0] := by decide +kernel
  refine ⟨htwo, fun hone => ?_, hgone, hruns, fun hone => ?_⟩
  · have hle := (hone 1).1
    rw [htwo] at hle
    exact absurd hle (by decide)
  · have hnil := (hone 1).2 hgone
    rw [hruns] at hnil
    cases hnil

end StreamerPool

end RemotePlay.App
