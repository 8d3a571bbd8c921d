import RemotePlay.Lib.Runs

set_option autoImplicit false

/-! # Tearing a stream down (`host/HostStreamer.cpp`, `networking/UdpTransport.cpp`)

`HostStreamer::stop` is called by the owner of the streamer and, for a STREAM_STOP of the client, by the
io thread of the transport that the streamer holds. Here it is followed step by step in both threads:
what one of them does between two waits is one step, and a step that has to wait changes nothing. Other
threads hold the transport for a while (`currentTransport`). A started streamer is what all of this
begins with; what is sent, encoded and played is left out. -/

namespace RemotePlay.Media

/-- The threads that call `stop`. -/
inductive StopCaller where
  | owner
  | io
deriving DecidableEq, Repr

/-- Where a thread is in `HostStreamer::stop`; `was` is what it has read as `running_`. -/
inductive StopPosition where
  | outside
  /-- Before the lock of `stopMutex_`. -/
  | lock (was : Bool)
  /-- Before the join of the capture thread. -/
  | join (was : Bool)
  /-- Before `tp->stop()`. -/
  | transport
  /-- In `UdpTransport::stop`, before the join of the io thread. -/
  | joinIo
  /-- Before `setTransport(nullptr)`. -/
  | reset
deriving DecidableEq, Repr

/-- A thread there has the lock. -/
def StopPosition.locked : StopPosition → Bool
  | .outside | .lock _ => false
  | .join _ | .transport | .joinIo | .reset => true

/-- How many steps a thread there has left in `stop`. -/
def StopPosition.left : StopPosition → Nat
  | .outside => 0
  | .reset => 1
  | .joinIo => 2
  | .transport => 3
  | .join _ => 4
  | .lock _ => 5

/-- A streamer, its transport and their threads. -/
@[ext] structure Teardown where
  running : Bool := true
  stopMutex : Option StopCaller := none
  /-- The capture thread has not ended. -/
  capturing : Bool := true
  /-- `transport_` is set, and the other members are. -/
  transport : Bool := true
  /-- How many other threads hold the transport. -/
  holders : Nat := 0
  /-- `UdpTransport::running_`. -/
  receiving : Bool := true
  /-- The io thread has ended. -/
  ioEnded : Bool := false
  owner : StopPosition := .outside
  io : StopPosition := .outside
  /-- `std::terminate` has been called. -/
  terminated : Bool := false
deriving DecidableEq, Repr

inductive TeardownEvent where
  /-- The io thread handles a STREAM_STOP. -/
  | streamStop
  /-- The owner calls `stop`. -/
  | stop
  /-- A thread takes its next step in `stop`. -/
  | advance (c : StopCaller)
  /-- The capture thread ends, by itself if it has to. -/
  | captureEnds
  | ioEnds
  /-- Another thread takes the transport, or lets go of it. -/
  | acquire
  | release
deriving DecidableEq, Repr

namespace Teardown

def position (s : Teardown) : StopCaller → StopPosition
  | .owner => s.owner
  | .io => s.io

def move (s : Teardown) (p : StopPosition) : StopCaller → Teardown
  | .owner => { s with owner := p }
  | .io => { s with io := p }

/-- The first line of `stop`. -/
def enter (s : Teardown) (c : StopCaller) : Teardown :=
  { s with running := false }.move (.lock s.running) c

/-- The end of `stop`, with the lock released. -/
def leave (s : Teardown) (c : StopCaller) : Teardown :=
  { s with stopMutex := none }.move .outside c

/-- `setTransport(nullptr)`: with the last reference the transport goes, and it takes an io thread that
    has not been joined with it, that is its own. -/
def resetTransport (s : Teardown) (c : StopCaller) : Teardown :=
  if s.transport = true ∧ s.holders = 0 ∧ c = .io then { s with terminated := true }
  else { s with transport := false }.leave c

/-- The next step of a thread that is in `stop`. -/
def advance (s : Teardown) (c : StopCaller) : Teardown :=
  match s.position c with
  | .outside => s
  | .lock was => if s.stopMutex.isSome then s else { s with stopMutex := some c }.move (.join was) c
  | .join was =>
      if s.capturing then s
      else if !was && !s.transport then s.leave c
      else s.move .transport c
  | .transport =>
      if !s.transport then s.move .reset c
      else { s with receiving := false }.move (if c = StopCaller.io then .reset else .joinIo) c
  | .joinIo => if s.ioEnded then s.move .reset c else s
  | .reset => s.resetTransport c

def step (s : Teardown) (e : TeardownEvent) : Teardown :=
  if s.terminated then s
  else
    match e with
    | .streamStop => if s.receiving && !s.ioEnded && s.io == .outside then s.enter .io else s
    | .stop => if s.owner == .outside then s.enter .owner else s
    | .advance c => s.advance c
    | .captureEnds => if s.capturing then { s with capturing := false, running := false } else s
    | .ioEnds =>
        if !s.receiving && !s.ioEnded && s.io == .outside then { s with ioEnded := true } else s
    | .acquire => if s.transport then { s with holders := s.holders + 1 } else s
    | .release =>
        { s with
          holders := s.holders - 1
          receiving := s.receiving && (s.transport || s.holders != 1) }

/-! ## Who waits for whom -/

/-- The owner waits for the io thread to end, which waits for the lock of the owner. -/
def Deadlocked (s : Teardown) : Prop :=
  s.owner = .joinIo ∧ (∃ was, s.io = .lock was) ∧ s.stopMutex = some .owner ∧ s.ioEnded = false

/-- What holds between the threads, the lock and the transport. -/
structure Consistent (s : Teardown) : Prop where
  ownerLock : s.owner.locked = true ↔ s.stopMutex = some .owner
  ioLock : s.io.locked = true ↔ s.stopMutex = some .io
  handling : s.io ≠ .outside → s.transport = true ∧ s.ioEnded = false ∧ s.io ≠ .joinIo
  ended : s.ioEnded = true → s.receiving = false
  gone : s.transport = false → s.receiving = false
  closed : s.io = .reset ∨ s.owner = .joinIo → s.receiving = false
  ownerReset : s.owner = .reset → s.ioEnded = true ∨ s.transport = false

/-- The owner moves on with the lock it has. -/
theorem consistent_move_owner {s : Teardown} (h : s.Consistent) {p : StopPosition}
    (hlock : p.locked = s.owner.locked) (hjoin : p = .joinIo → s.receiving = false)
    (hreset : p = .reset → s.ioEnded = true ∨ s.transport = false) :
    (s.move p .owner).Consistent where
  ownerLock := hlock ▸ h.ownerLock
  ioLock := h.ioLock
  handling := h.handling
  ended := h.ended
  gone := h.gone
  closed := by
    rintro (hio | howner)
    · exact h.closed (Or.inl hio)
    · exact hjoin howner
  ownerReset := hreset

/-- The io thread moves on in `stop` with the lock it has. -/
theorem consistent_move_io {s : Teardown} (h : s.Consistent) {p : StopPosition}
    (hlock : p.locked = s.io.locked) (hin : s.io ≠ .outside) (hjoin : p ≠ .joinIo)
    (hreset : p = .reset → s.receiving = false) : (s.move p .io).Consistent where
  ownerLock := h.ownerLock
  ioLock := hlock ▸ h.ioLock
  handling _ := ⟨(h.handling hin).1, (h.handling hin).2.1, hjoin⟩
  ended := h.ended
  gone := h.gone
  closed := by
    rintro (hio | howner)
    · exact hreset hio
    · exact h.closed (Or.inr howner)
  ownerReset := h.ownerReset

/-- A socket that is closed. -/
theorem consistent_close {s : Teardown} (h : s.Consistent) :
    { s with receiving := false }.Consistent :=
  ⟨h.ownerLock, h.ioLock, h.handling, fun _ => rfl, fun _ => rfl, fun _ => rfl, h.ownerReset⟩

theorem consistent_take_owner {s : Teardown} (h : s.Consistent) (hfree : s.stopMutex = none)
    (was : Bool) :
    ({ s with stopMutex := some .owner }.move (.join was) .owner).Consistent where
  ownerLock := ⟨fun _ => rfl, fun _ => rfl⟩
  ioLock := by simpa [move, hfree] using h.ioLock
  handling := h.handling
  ended := h.ended
  gone := h.gone
  closed := by
    rintro (hio | howner)
    · exact h.closed (Or.inl hio)
    · cases howner
  ownerReset := nofun

theorem consistent_take_io {s : Teardown} (h : s.Consistent) (hfree : s.stopMutex = none)
    (hin : s.io ≠ .outside) (was : Bool) :
    ({ s with stopMutex := some .io }.move (.join was) .io).Consistent where
  ownerLock := by simpa [move, hfree] using h.ownerLock
  ioLock := ⟨fun _ => rfl, fun _ => rfl⟩
  handling _ := ⟨(h.handling hin).1, (h.handling hin).2.1, nofun⟩
  ended := h.ended
  gone := h.gone
  closed := by
    rintro (hio | howner)
    · cases hio
    · exact h.closed (Or.inr howner)
  ownerReset := h.ownerReset

theorem consistent_leave_owner {s : Teardown} (h : s.Consistent)
    (hlock : s.stopMutex = some .owner) : (s.leave .owner).Consistent where
  ownerLock := by simp [leave, move, StopPosition.locked]
  ioLock := by simpa [leave, move, hlock] using h.ioLock
  handling := h.handling
  ended := h.ended
  gone := h.gone
  closed := by
    rintro (hio | howner)
    · exact h.closed (Or.inl hio)
    · cases howner
  ownerReset := nofun

theorem consistent_leave_io {s : Teardown} (h : s.Consistent) (hlock : s.stopMutex = some .io) :
    (s.leave .io).Consistent where
  ownerLock := by simpa [leave, move, hlock] using h.ownerLock
  ioLock := by simp [leave, move, StopPosition.locked]
  handling := fun hin => absurd rfl hin
  ended := h.ended
  gone := h.gone
  closed := by
    rintro (hio | howner)
    · cases hio
    · exact h.closed (Or.inr howner)
  ownerReset := h.ownerReset

/-- The owner changes the transport only when it has joined the io thread, or finds none. -/
theorem consistent_advance_owner {s : Teardown} (h : s.Consistent) :
    (s.advance .owner).Consistent := by
  unfold advance position
  have hlocked := h.ownerLock.1
  cases hpos : s.owner with
  | outside => exact h
  | lock was =>
      dsimp only
      split
      · exact h
      · next hfree => exact consistent_take_owner h (Option.not_isSome_iff_eq_none.1 hfree) was
  | join was =>
      have hlock := hlocked (by rw [hpos]; rfl)
      dsimp only
      split
      · exact h
      · split
        · exact consistent_leave_owner h hlock
        · exact consistent_move_owner h (by rw [hpos]; rfl) nofun nofun
  | transport =>
      dsimp only
      split
      · next hgone =>
          refine consistent_move_owner h (by rw [hpos]; rfl) nofun fun _ => Or.inr ?_
          simpa using hgone
      · rw [if_neg (by decide)]
        exact consistent_move_owner (consistent_close h) (by rw [hpos]; rfl) (fun _ => rfl) nofun
  | joinIo =>
      dsimp only
      split
      · next hended =>
          exact consistent_move_owner h (by rw [hpos]; rfl) nofun (fun _ => Or.inl hended)
      · exact h
  | reset =>
      have hlock := hlocked (by rw [hpos]; rfl)
      have hover := h.ownerReset hpos
      dsimp only
      unfold resetTransport
      rw [if_neg (by simp)]
      refine consistent_leave_owner ⟨h.ownerLock, h.ioLock, ?_, h.ended, ?_, h.closed, ?_⟩ hlock
      · -- the io thread has ended, or has found the transport gone
        intro hin
        obtain ⟨htransport, hrunning, -⟩ := h.handling hin
        rcases hover with hended | hgone
        · rw [hrunning] at hended
          cases hended
        · rw [htransport] at hgone
          cases hgone
      · exact fun _ => hover.elim h.ended h.gone
      · exact fun _ => Or.inr rfl

/-- The io thread closes the socket before it drops the transport, and never waits for itself. -/
theorem consistent_advance_io {s : Teardown} (h : s.Consistent) : (s.advance .io).Consistent := by
  unfold advance position
  have hlocked := h.ioLock.1
  cases hpos : s.io with
  | outside => exact h
  | lock was =>
      have hin : s.io ≠ .outside := by simp [hpos]
      dsimp only
      split
      · exact h
      · next hfree => exact consistent_take_io h (Option.not_isSome_iff_eq_none.1 hfree) hin was
  | join was =>
      have hin : s.io ≠ .outside := by simp [hpos]
      have hlock := hlocked (by rw [hpos]; rfl)
      dsimp only
      split
      · exact h
      · split
        · exact consistent_leave_io h hlock
        · exact consistent_move_io h (by rw [hpos]; rfl) hin nofun nofun
  | transport =>
      have hin : s.io ≠ .outside := by simp [hpos]
      dsimp only
      split
      · next hgone =>
          refine consistent_move_io h (by rw [hpos]; rfl) hin nofun fun _ => h.gone ?_
          simpa using hgone
      · rw [if_pos rfl]
        exact consistent_move_io (consistent_close h) (by rw [hpos]; rfl) hin nofun (fun _ => rfl)
  | joinIo => exact absurd hpos (h.handling (by simp [hpos])).2.2
  | reset =>
      have hlock := hlocked (by rw [hpos]; rfl)
      have howner := h.ownerLock
      have hclosed := h.closed (Or.inl hpos)
      dsimp only
      unfold resetTransport
      split
      · exact ⟨h.ownerLock, h.ioLock, h.handling, h.ended, h.gone, h.closed, h.ownerReset⟩
      · refine ⟨?_, ?_, fun hin => absurd rfl hin, h.ended, fun _ => hclosed, fun _ => hclosed,
          fun _ => Or.inr rfl⟩
        · simpa [leave, move, hlock] using howner
        · simp [leave, move, StopPosition.locked]

theorem consistent_step (s : Teardown) (e : TeardownEvent) (h : s.Consistent) :
    (s.step e).Consistent := by
  obtain ⟨howner, hio, hhandling, hended, hgone, hclosed, hreset⟩ := id h
  unfold step
  split
  · exact h
  · cases e with
    | advance c =>
        cases c with
        | owner => exact consistent_advance_owner h
        | io => exact consistent_advance_io h
    | streamStop =>
        dsimp only
        split
        · next hready =>
            -- the socket is open, so there is a transport
            simp only [Bool.and_eq_true, Bool.not_eq_true', beq_iff_eq] at hready
            obtain ⟨⟨hreceiving, hrunning⟩, hout⟩ := hready
            have htransport : s.transport = true := by
              by_contra hno
              rw [hgone (Bool.eq_false_iff.2 hno)] at hreceiving
              cases hreceiving
            rw [hout] at hio
            refine ⟨howner, hio, fun _ => ⟨htransport, hrunning, nofun⟩, hended, hgone, ?_, hreset⟩
            rintro (hnow | hjoin)
            · cases hnow
            · exact hclosed (Or.inr hjoin)
        · exact h
    | stop =>
        dsimp only
        split
        · next hout =>
            have hlock : (StopPosition.lock s.running).locked = s.owner.locked := by
              rw [beq_iff_eq.1 hout]
              rfl
            have hstill : { s with running := false }.Consistent :=
              ⟨howner, hio, hhandling, hended, hgone, hclosed, hreset⟩
            exact consistent_move_owner hstill hlock nofun nofun
        · exact h
    | captureEnds =>
        dsimp only
        split
        · exact ⟨howner, hio, hhandling, hended, hgone, hclosed, hreset⟩
        · exact h
    | ioEnds =>
        dsimp only
        split
        · next hready =>
            simp only [Bool.and_eq_true, Bool.not_eq_true', beq_iff_eq] at hready
            obtain ⟨⟨hreceiving, -⟩, hout⟩ := hready
            exact ⟨howner, hio, fun hin => absurd hout hin, fun _ => hreceiving, hgone, hclosed,
              fun _ => Or.inl rfl⟩
        · exact h
    | acquire =>
        dsimp only
        split
        · exact ⟨howner, hio, hhandling, hended, hgone, hclosed, hreset⟩
        · exact h
    | release =>
        -- letting go of the transport can only close the socket
        refine ⟨howner, hio, hhandling, fun hend => ?_, fun hno => ?_, fun hat => ?_, hreset⟩
        · exact Bool.and_eq_false_imp.2 fun hopen => absurd (hended hend) (by simp [hopen])
        · exact Bool.and_eq_false_imp.2 fun hopen => absurd (hgone hno) (by simp [hopen])
        · exact Bool.and_eq_false_imp.2 fun hopen => absurd (hclosed hat) (by simp [hopen])

theorem consistent_run (es : List TeardownEvent) : (runFrom step {} es).Consistent :=
  runFrom_preserved step Consistent consistent_step {} es
    ⟨by decide, by decide, by decide, by decide, by decide, by decide, by decide⟩

/-! ## The ways out -/

/-- The steps of the threads themselves. -/
def threadSteps : List TeardownEvent := [.advance .owner, .advance .io, .captureEnds, .ioEnds]

/-- None of the threads can take a step. -/
def Stuck (s : Teardown) : Prop := ∀ e ∈ threadSteps, s.step e = s

/-- How much the threads have left to do. -/
def left (s : Teardown) : Nat :=
  s.owner.left + s.io.left + s.capturing.toNat + (!s.ioEnded).toNat + (!s.terminated).toNat

theorem left_move (s : Teardown) (p : StopPosition) (c : StopCaller) :
    (s.move p c).left + (s.position c).left = s.left + p.left := by
  cases c with
  | owner =>
      simp only [move, position, left]
      omega
  | io =>
      simp only [move, position, left]
      omega

/-- A thread that moves on in `stop` has less to do, whatever else it does to the streamer. -/
theorem left_move_lt {s s' : Teardown} {c : StopCaller} {p : StopPosition} (hleft : s'.left = s.left)
    (hpos : s'.position c = s.position c) (hp : p.left < (s.position c).left) :
    (s'.move p c).left < s.left := by
  have hmove := left_move s' p c
  rw [hpos, hleft] at hmove
  omega

/-- What a thread waits for, if it is in `stop` at all: the lock, the capture thread or the io thread. -/
def Waits (s : Teardown) (c : StopCaller) : Prop :=
  s.position c = .outside ∨ (∃ was, s.position c = .lock was ∧ s.stopMutex.isSome = true) ∨
    (∃ was, s.position c = .join was ∧ s.capturing = true) ∨
    s.position c = .joinIo ∧ s.ioEnded = false

/-- A thread gets something done, or it has to wait. -/
theorem advance_cases {s : Teardown} (hrunning : s.terminated = false) (c : StopCaller) :
    (s.advance c).left < s.left ∨ s.advance c = s ∧ s.Waits c := by
  unfold advance
  cases hpos : s.position c with
  | outside => exact Or.inr ⟨rfl, Or.inl hpos⟩
  | lock was =>
      dsimp only
      split
      · next htaken => exact Or.inr ⟨rfl, Or.inr (Or.inl ⟨was, hpos, htaken⟩)⟩
      · exact Or.inl (left_move_lt rfl (by cases c <;> rfl) (by simp [hpos, StopPosition.left]))
  | join was =>
      dsimp only
      split
      · next hcapturing => exact Or.inr ⟨rfl, Or.inr (Or.inr (Or.inl ⟨was, hpos, hcapturing⟩))⟩
      · split
        · exact Or.inl (left_move_lt rfl (by cases c <;> rfl) (by simp [hpos, StopPosition.left]))
        · exact Or.inl (left_move_lt rfl rfl (by simp [hpos, StopPosition.left]))
  | transport =>
      dsimp only
      split
      · exact Or.inl (left_move_lt rfl rfl (by simp [hpos, StopPosition.left]))
      · refine Or.inl (left_move_lt rfl (by cases c <;> rfl) ?_)
        rw [hpos]
        cases c with
        | owner => decide
        | io => decide
  | joinIo =>
      dsimp only
      split
      · exact Or.inl (left_move_lt rfl rfl (by simp [hpos, StopPosition.left]))
      · next hwaits =>
          exact Or.inr ⟨rfl, Or.inr (Or.inr (Or.inr ⟨hpos, Bool.eq_false_iff.2 hwaits⟩))⟩
  | reset =>
      dsimp only
      unfold resetTransport
      split
      · exact Or.inl (by simp [left, hrunning])
      · exact Or.inl (left_move_lt rfl (by cases c <;> rfl) (by simp [hpos, StopPosition.left]))

/-- A step of the threads gets something done, or it has to wait. -/
theorem left_lt_of_step {s : Teardown} {e : TeardownEvent} (he : e ∈ threadSteps)
    (hmoves : s.step e ≠ s) : (s.step e).left < s.left := by
  unfold step at hmoves ⊢
  split
  · next hterminated => exact absurd (if_pos hterminated) hmoves
  · next hterminated =>
      rw [if_neg hterminated] at hmoves
      cases e with
      | streamStop | stop | acquire | release => simp [threadSteps] at he
      | captureEnds => grind [left]
      | ioEnds => grind [left]
      | advance c =>
          rcases advance_cases (Bool.eq_false_iff.2 hterminated) c with hless | ⟨hstays, -⟩
          · exact hless
          · exact absurd hstays hmoves

theorem deadlocked_step (s : Teardown) (e : TeardownEvent) (h : s.Deadlocked) :
    (s.step e).Deadlocked := by
  obtain ⟨howner, ⟨was, hio⟩, hlock, hended⟩ := h
  unfold step
  split
  · exact ⟨howner, ⟨was, hio⟩, hlock, hended⟩
  · cases e with
    | advance c =>
        cases c with
        | owner => simp [advance, position, howner, hended, hio, hlock, Deadlocked]
        | io => simp [advance, position, howner, hended, hio, hlock, Deadlocked]
    | streamStop | stop | captureEnds | ioEnds | acquire | release => grind [Deadlocked]

/-- The io thread gets out of `stop` only if somebody else holds the transport. -/
theorem held_of_return {s : Teardown} (h : s.Consistent) (e : TeardownEvent) (hin : s.io ≠ .outside)
    (hout : (s.step e).io = .outside) : s.holders ≠ 0 := by
  obtain ⟨htransport, -, hjoin⟩ := h.handling hin
  unfold step at hout
  split at hout
  · exact absurd hout hin
  · cases e with
    | advance c =>
        unfold advance resetTransport leave at hout
        cases c with
        | owner => cases hpos : s.owner <;> grind [position, move]
        | io => cases hpos : s.io <;> grind [position, move]
    | streamStop | stop | captureEnds | ioEnds | acquire | release => grind [enter, move]

/-- Threads that can take no step are outside, or the process is over, or they wait for each other. -/
theorem stuck_cases {s : Teardown} (h : s.Consistent) (hstuck : s.Stuck) :
    s.terminated = true ∨ s.Deadlocked ∨ s.owner = .outside ∧ s.io = .outside := by
  by_cases hterminated : s.terminated = true
  · exact Or.inl hterminated
  · have hrunning : s.terminated = false := Bool.eq_false_iff.2 hterminated
    have hwaits : ∀ c, s.Waits c := by
      intro c
      have hstays := hstuck (.advance c) (by cases c <;> simp [threadSteps])
      rw [step, if_neg hterminated] at hstays
      rcases advance_cases hrunning c with hless | ⟨-, hwait⟩
      · rw [hstays] at hless
        exact absurd hless (Nat.lt_irrefl _)
      · exact hwait
    have hcapture : s.capturing = false := by
      have hstays := hstuck .captureEnds (by simp [threadSteps])
      rw [step, if_neg hterminated] at hstays
      grind
    have hio : s.receiving = false → s.io = .outside → s.ioEnded = true := by
      have hstays := hstuck .ioEnds (by simp [threadSteps])
      rw [step, if_neg hterminated] at hstays
      grind
    have howner : s.Waits .owner := hwaits .owner
    have hhandler : s.Waits .io := hwaits .io
    unfold Waits position at howner hhandler
    have hownerLock := h.ownerLock
    have hioLock := h.ioLock
    refine Or.inr ?_
    cases hmutex : s.stopMutex with
    | none =>
        -- nobody has the lock, so nobody is behind it, and nobody waits for it
        exact Or.inr (by grind [StopPosition.locked])
    | some c =>
        cases c with
        | owner =>
            -- the owner can only wait for the io thread, and that for the lock
            have hjoin : s.owner = .joinIo ∧ s.ioEnded = false := by
              grind [StopPosition.locked]
            have hclosed := h.closed (Or.inr hjoin.1)
            have hbehind : ∃ was, s.io = .lock was := by
              grind [StopPosition.locked]
            exact Or.inl ⟨hjoin.1, hbehind, hmutex, hjoin.2⟩
        | io =>
            -- the io thread does not wait for itself
            have hhandling := h.handling
            grind [StopPosition.locked]

/-! ## Streams that end -/

/-- **The owner gets through.** As long as the client sends no STREAM_STOP, calls of `stop` neither end the
    process nor wait for ever: when nothing can go on, the owner is out of `stop`. -/
theorem owner_gets_through (es : List TeardownEvent) (hnone : .streamStop ∉ es) :
    (runFrom step {} es).terminated = false ∧ ¬ (runFrom step {} es).Deadlocked ∧
      ((runFrom step {} es).Stuck → (runFrom step {} es).owner = .outside) := by
  have hio : (runFrom step {} es).io = .outside ∧ (runFrom step {} es).terminated = false := by
    refine runFrom_invariant step (fun s => s.io = .outside ∧ s.terminated = false)
      (fun _ e => e ≠ .streamStop) ?_ {} es ⟨rfl, rfl⟩ ?_
    · rintro s e ⟨hout, hrunning⟩ hother
      unfold step
      rw [if_neg (Bool.eq_false_iff.1 hrunning)]
      cases e with
      | streamStop => exact absurd rfl hother
      | advance c =>
          unfold advance resetTransport leave
          cases c with
          | owner => cases hpos : s.owner <;> grind [position, move]
          | io => simp [position, hout, hrunning]
      | stop | captureEnds | ioEnds | acquire | release => grind [enter, move]
    · intro p hp heq
      obtain ⟨pre, post, rfl, -⟩ := (mem_history_iff ..).1 hp
      exact hnone (heq ▸ List.mem_append_right _ (List.mem_cons_self ..))
  have hlive : ¬ (runFrom step {} es).Deadlocked := by
    rintro ⟨-, ⟨was, hlock⟩, -⟩
    rw [hio.1] at hlock
    cases hlock
  refine ⟨hio.2, hlive, fun hstuck => ?_⟩
  rcases stuck_cases (consistent_run es) hstuck with hterminated | hdead | ⟨howner, -⟩
  · rw [hio.2] at hterminated
    cases hterminated
  · exact absurd hdead hlive
  · exact howner

theorem owner_gets_through_stop :
    (runFrom step {} [.stop, .advance .owner, .captureEnds]).terminated = false ∧
      ¬ (runFrom step {} [.stop, .advance .owner, .captureEnds]).Deadlocked ∧
      ((runFrom step {} [.stop, .advance .owner, .captureEnds]).Stuck →
        (runFrom step {} [.stop, .advance .owner, .captureEnds]).owner = .outside) :=
  owner_gets_through _ (by decide)

/-- **The io thread does not.** A STREAM_STOP that the io thread handles is over only if another thread
    holds the transport when it is dropped. Otherwise, whatever the order of the steps, the process ends or
    the two threads wait for each other, and they do so for ever. -/
theorem streamStop_outcome (es : List TeardownEvent) :
    (∀ p ∈ history step {} es, p.1.io ≠ .outside → (p.1.step p.2).io = .outside →
      p.1.holders ≠ 0) ∧
    (∀ e ∈ threadSteps, (runFrom step {} es).step e ≠ runFrom step {} es →
      ((runFrom step {} es).step e).left < (runFrom step {} es).left) ∧
    ((runFrom step {} es).Stuck → (runFrom step {} es).io ≠ .outside →
      (runFrom step {} es).terminated = true ∨ (runFrom step {} es).Deadlocked) ∧
    ((runFrom step {} es).Deadlocked → ∀ fs, (runFrom step (runFrom step {} es) fs).Deadlocked) := by
  refine ⟨fun p hp hin hout => ?_, fun e he hmoves => left_lt_of_step he hmoves, ?_, ?_⟩
  · obtain ⟨pre, post, -, hstate⟩ := (mem_history_iff step {} es p.1 p.2).1 hp
    have hconsistent : p.1.Consistent := hstate ▸ consistent_run pre
    exact held_of_return hconsistent p.2 hin hout
  · intro hstuck hin
    rcases stuck_cases (consistent_run es) hstuck with hterminated | hdead | ⟨-, hout⟩
    · exact Or.inl hterminated
    · exact Or.inr hdead
    · exact absurd hout hin
  · intro hdead fs
    exact runFrom_preserved step Deadlocked deadlocked_step _ fs hdead

/-- Both ways to fail: the client stops the stream, alone and while the owner does. -/
example :
    (runFrom step {} [.streamStop, .advance .io, .captureEnds, .advance .io, .advance .io,
      .advance .io]).terminated = true := by
  decide

example :
    (runFrom step {} [.streamStop, .stop, .advance .owner, .captureEnds, .advance .owner,
      .advance .owner, .advance .io]).Deadlocked :=
  ⟨rfl, ⟨true, rfl⟩, rfl, rfl⟩

end Teardown

end RemotePlay.Media
