import RemotePlay.Signaling.SignalingClient

set_option autoImplicit false

/-! # The worker threads of the client

`SignalingClient`, `ClientStreamer`, `InputSender` and `WasapiPlayer`, each as its `running_` and its
thread. The loops of the last three only end with the flag; the reader of a `SignalingClient` clears
the flag when it ends, and `disconnect` does nothing then. `start` of the last three refuses a second
start, but clears the flag on the way.

When every thread is reaped is `threads_reaped_iff`. -/

namespace RemotePlay.Threads

/-! ## Starts -/

/-- A start that initialises before there is a thread. A flag that was set is cleared. -/
def guardedStart (t : OwnedThread) (succeeds : Bool) : OwnedThread × CallEnd :=
  if t.running then (t.ended, .returned false)
  else if !succeeds then (t.ended, .returned false)
  else t.launch

/-- What `ClientStreamer::start` depends on. -/
structure StreamerInit where
  bind : Bool
  setPeer : Bool
  decoder : Bool
deriving DecidableEq, Repr

def StreamerInit.succeeds (i : StreamerInit) : Bool := i.bind && i.setPeer && i.decoder

/-- `ClientStreamer::start`. -/
def ClientStreamer.start (t : OwnedThread) (i : StreamerInit) : OwnedThread × CallEnd :=
  guardedStart t i.succeeds

/-- `InputSender::start`. -/
def InputSender.start (t : OwnedThread) (discover : Bool) : OwnedThread × CallEnd :=
  guardedStart t discover

/-- `WasapiPlayer::start`: the thread initialises. If that fails it renders all the same, on a client
    that is null or not initialised, and `start` joins it before it clears the flag. -/
def WasapiPlayer.start (t : OwnedThread) (initDevices : Bool) : OwnedThread × CallEnd :=
  if t.running then (t.ended, .returned false)
  else
    match t.launch with
    | (t', .lost) => (t', .lost)
    | (t', .returned _) => if initDevices then (t', .returned true) else (t', .lost)

def clientStreamer : ThreadOwner StreamerInit where
  start := ClientStreamer.start
  succeeds := StreamerInit.succeeds

def inputSender : ThreadOwner Bool where
  start := InputSender.start
  succeeds := id

def wasapiPlayer : ThreadOwner Bool where
  start := WasapiPlayer.start
  succeeds := id

/-- Its start is what `connect` does once it has called `disconnect`. -/
def signalingClient : ThreadOwner Bool where
  start := Signaling.SignalingClient.startReader
  succeeds := id

/-- How the reader of a `SignalingClient` ends by itself. -/
inductive ReaderEnd where
  /-- The server closes the connection, or reading fails. -/
  | connectionEnds
  | sessionClosed
deriving DecidableEq, Repr

inductive SignalingCall where
  | connect (connected : Bool)
  | disconnect
  | readerEnds (why : ReaderEnd)
deriving DecidableEq, Repr

def SignalingCall.events : SignalingCall → List (OwnerEvent Bool ReaderEnd)
  | .connect connected => [.stop, .start connected]
  | .disconnect => [.stop]
  | .readerEnds why => [.ended why]

/-! ## Guarded starts -/

section Guarded

variable {ι : Type*} (o : ThreadOwner ι)

/-- The start finds the component running. -/
def startsRunning : Option OwnedThread × OwnerEvent ι Empty → Bool
  | (some t, .start _) => t.running
  | _ => false

theorem guarded_reaps_iff (hstart : ∀ t i, o.start t i = guardedStart t (o.succeeds i))
    (es : List (OwnerEvent ι Empty)) :
    o.AlwaysReaps es ↔ ∀ p ∈ history o.step (some {}) es, startsRunning p = false := by
  rw [o.alwaysReaps_iff (fun t _ => t.running = false)]
  · constructor
    · rintro hall ⟨s, e⟩ hp
      cases s with
      | none => rfl
      | some t =>
          cases e with
          | start i => exact hall _ hp t i rfl rfl
          | stop => rfl
          | ended why => exact nomatch why
    · rintro hall ⟨s, e⟩ hp t i rfl rfl
      exact hall _ hp
  · intro t i h hstopped
    obtain rfl : t = {} := by
      rcases OwnedThread.settled_cases h with ht | rfl
      · exact ht
      · cases hstopped
    unfold ThreadOwner.Reaps ThreadOwner.step
    dsimp only
    rw [hstart]
    cases o.succeeds i with
    | true => exact ⟨⟨nofun, nofun⟩, _, rfl, rfl⟩
    | false => exact ⟨⟨nofun, fun _ _ => ⟨rfl, rfl⟩⟩, _, rfl, rfl⟩
  · intro t i h hreaps
    by_contra hrunning
    rw [Bool.not_eq_false] at hrunning
    have halone := hreaps.1 hrunning
    rw [hstart, guardedStart, if_pos hrunning] at halone
    rw [← congrArg OwnedThread.running halone] at hrunning
    cases hrunning

end Guarded

/-- The start finds the player running, or its device does not come up. -/
def startsBadly : Option OwnedThread × OwnerEvent Bool Empty → Bool
  | (some t, .start initDevices) => t.running || !initDevices
  | _ => false

theorem wasapiPlayer_reaps_iff (es : List (OwnerEvent Bool Empty)) :
    wasapiPlayer.AlwaysReaps es ↔
      ∀ p ∈ history wasapiPlayer.step (some {}) es, startsBadly p = false := by
  rw [wasapiPlayer.alwaysReaps_iff (fun t initDevices => t.running = false ∧ initDevices = true)]
  · constructor
    · rintro hall ⟨s, e⟩ hp
      cases s with
      | none => rfl
      | some t =>
          cases e with
          | start initDevices =>
              obtain ⟨hstopped, rfl⟩ := hall _ hp t initDevices rfl rfl
              show (t.running || false) = false
              rw [hstopped]
              rfl
          | stop => rfl
          | ended why => exact nomatch why
    · rintro hall ⟨s, e⟩ hp t initDevices rfl rfl
      have hgood : (t.running || !initDevices) = false := hall _ hp
      rw [Bool.or_eq_false_iff, Bool.not_eq_false'] at hgood
      exact hgood
  · rintro t initDevices h ⟨hstopped, rfl⟩
    obtain rfl : t = {} := by
      rcases OwnedThread.settled_cases h with ht | rfl
      · exact ht
      · cases hstopped
    exact ⟨⟨nofun, nofun⟩, _, rfl, rfl⟩
  · intro t initDevices h hreaps
    rcases OwnedThread.settled_cases h with rfl | rfl
    · cases initDevices with
      | true => exact ⟨rfl, rfl⟩
      | false =>
          have hreturned := (hreaps.2 rfl rfl).1
          cases hreturned
    · have halone := congrArg OwnedThread.running (hreaps.1 rfl)
      cases halone

/-! ## A reader that ends by itself -/

/-- The reader of a connected client ends by itself. -/
def readerEnds : Option OwnedThread × OwnerEvent Bool ReaderEnd → Bool
  | (some t, .ended _) => t.running
  | _ => false

/-- A thread that has ended by itself is never joined. -/
theorem not_reaped_after_end (cs : List SignalingCall) :
    ¬ ∀ p ∈ history signalingClient.step (some { running := false, joinable := true })
        (cs.flatMap SignalingCall.events ++ [.stop]), signalingClient.Reaps p.1 p.2 := by
  have hleft : ¬ signalingClient.Reaps (some { running := false, joinable := true })
      (.stop : OwnerEvent Bool ReaderEnd) := by
    intro hreaps
    cases hreaps
  induction cs with
  | nil =>
      intro hall
      exact hleft (hall _ (List.mem_singleton.2 rfl))
  | cons call cs ih =>
      intro hall
      cases call with
      | connect connected => exact hleft (hall _ (List.mem_cons_self ..))
      | disconnect => exact hleft (hall _ (List.mem_cons_self ..))
      | readerEnds why => exact ih (fun p hp => hall p (List.mem_cons_of_mem _ hp))

theorem signalingClient_reaps_from {t : OwnedThread} (h : t.Settled) (cs : List SignalingCall) :
    (∀ p ∈ history signalingClient.step (some t) (cs.flatMap SignalingCall.events ++ [.stop]),
        signalingClient.Reaps p.1 p.2) ↔
      ∀ p ∈ history signalingClient.step (some t) (cs.flatMap SignalingCall.events),
        readerEnds p = false := by
  induction cs generalizing t with
  | nil =>
      have hstop := signalingClient.reaps_stop (κ := ReaderEnd) h
      simp [hstop]
  | cons call cs ih =>
      have hstop := signalingClient.reaps_stop (κ := ReaderEnd) h
      have hstopped : signalingClient.step (some t) (.stop : OwnerEvent Bool ReaderEnd) = some {} :=
        congrArg some (OwnedThread.settled_stop h)
      rw [List.flatMap_cons]
      cases call with
      | connect connected =>
          have hstart : signalingClient.Reaps (some {}) (.start connected : OwnerEvent Bool ReaderEnd) := by
            cases connected with
            | true => exact ⟨nofun, nofun⟩
            | false => exact ⟨nofun, fun _ _ => ⟨rfl, rfl⟩⟩
          obtain ⟨t', hnext, h'⟩ : ∃ t', signalingClient.step (some {})
              (.start connected : OwnerEvent Bool ReaderEnd) = some t' ∧ t'.Settled := by
            cases connected with
            | true => exact ⟨_, rfl, rfl⟩
            | false => exact ⟨_, rfl, rfl⟩
          simp only [SignalingCall.events, List.cons_append, List.nil_append, history_cons, hstopped,
            hnext, List.forall_mem_cons, hstop, hstart, true_and, ih h', readerEnds]
      | disconnect =>
          have hnext : OwnedThread.Settled {} := rfl
          simp only [SignalingCall.events, List.cons_append, List.nil_append, history_cons, hstopped,
            List.forall_mem_cons, hstop, true_and, ih hnext, readerEnds]
      | readerEnds why =>
          have hended : signalingClient.Reaps (some t) (.ended why : OwnerEvent Bool ReaderEnd) := trivial
          simp only [SignalingCall.events, List.cons_append, List.nil_append, history_cons,
            List.forall_mem_cons, hended, true_and, readerEnds]
          rcases OwnedThread.settled_cases h with rfl | rfl
          · -- there is no reader
            exact (ih h).trans (iff_and_self.2 (fun _ => rfl))
          · exact iff_of_false (not_reaped_after_end cs) (fun hall => nomatch hall.1)

/-- **When threads are reaped.** Every call reaps, up to the destructor: in a `SignalingClient` exactly
    if its reader never ends by itself; in a `ClientStreamer` or an `InputSender` if no start finds it
    running; and in a `WasapiPlayer` if, besides, the device of every start comes up. -/
theorem threads_reaped_iff (signaling : List SignalingCall)
    (streamer : List (OwnerEvent StreamerInit Empty)) (sender player : List (OwnerEvent Bool Empty)) :
    (signalingClient.AlwaysReaps (signaling.flatMap SignalingCall.events) ↔
      ∀ p ∈ history signalingClient.step (some {}) (signaling.flatMap SignalingCall.events),
        readerEnds p = false) ∧
    (clientStreamer.AlwaysReaps streamer ↔
      ∀ p ∈ history clientStreamer.step (some {}) streamer, startsRunning p = false) ∧
    (inputSender.AlwaysReaps sender ↔
      ∀ p ∈ history inputSender.step (some {}) sender, startsRunning p = false) ∧
    (wasapiPlayer.AlwaysReaps player ↔
      ∀ p ∈ history wasapiPlayer.step (some {}) player, startsBadly p = false) := by
  refine ⟨?_, ?_, ?_, wasapiPlayer_reaps_iff player⟩
  · have hinit : OwnedThread.Settled {} := rfl
    exact signalingClient_reaps_from hinit signaling
  · exact guarded_reaps_iff clientStreamer (fun _ _ => rfl) streamer
  · exact guarded_reaps_iff inputSender (fun _ _ => rfl) sender

/-- One run for each component: the server closes the connection; a second start; a second start; and
    a device that does not come up. -/
theorem threads_left_behind :
    ¬ signalingClient.AlwaysReaps
        ([SignalingCall.connect true, .readerEnds .connectionEnds].flatMap SignalingCall.events) ∧
      ¬ clientStreamer.AlwaysReaps (κ := Empty)
        [.start { bind := true, setPeer := true, decoder := true },
          .start { bind := true, setPeer := true, decoder := true }] ∧
      ¬ inputSender.AlwaysReaps (κ := Empty) [.start true, .start true] ∧
      ¬ wasapiPlayer.AlwaysReaps (κ := Empty) [.start false] := by
  refine ⟨?_, ?_, ?_, ?_⟩
  · intro hall
    have hreaps := hall _ (List.mem_of_getLast? rfl)
    cases hreaps
  · intro hall
    have hreaps := hall _ (List.mem_of_getLast? rfl)
    cases hreaps
  · intro hall
    have hreaps := hall _ (List.mem_of_getLast? rfl)
    cases hreaps
  · intro hall
    have hreaps := hall _ (List.mem_cons_self ..)
    have hreturned := (hreaps.2 rfl rfl).1
    cases hreturned

end RemotePlay.Threads
