import RemotePlay.Input.InputInjector

set_option autoImplicit false

/-! # The client's input sender (`input/InputSender.cpp`)

The UI thread queues keyboard and mouse events; a thread of the sender polls the controllers, takes
the queue as a whole and sends it. The queue is under a mutex, everything else that both threads
touch is atomic, so what happens is a sequence of calls and of steps of the thread. A step is one
part of the loop's body, or one event of the batch in hand: calls can come in between.

What a step hands to `sendSmall` (always with `UdpType::Input`) is its output. Clock readings and
what the controllers show are arguments. -/

namespace RemotePlay.Input

/-! ## Packing (`input/InputProtocol.h`) -/

/-- `packControllerState`. -/
def packControllerState (s : GameControllerState) : Bytes :=
  0 :: s.version :: s.connected :: (leBytes 2 s.buttons.toNat ++
    s.leftTrigger :: s.rightTrigger :: (leBytes 2 s.thumbLX.toNat ++ leBytes 2 s.thumbLY.toNat ++
      leBytes 2 s.thumbRX.toNat ++ leBytes 2 s.thumbRY.toNat ++ leBytes 8 s.timestampNs.toNat))

/-- `packInputEvent`. -/
def packInputEvent (e : InputEvent) : Bytes :=
  1 :: e.type :: e.code :: (leBytes 2 e.x.toNat ++ leBytes 2 e.y.toNat ++ leBytes 2 e.delta.toNat ++
    e.pad0 :: e.flags :: leBytes 8 e.timestampNs.toNat)

theorem leVal_byte (b : UInt8) : UInt8.ofNat (leVal [b]) = b := by simp [leVal]

/-- **Controller states survive the wire.** -/
theorem unpackInput_packControllerState (s : GameControllerState) :
    unpackInput (packControllerState s) = some (.controller s) := by
  have hparsed : unpackInput (packControllerState s) = some (.controller
      { version := UInt8.ofNat (leVal [s.version])
        connected := UInt8.ofNat (leVal [s.connected])
        buttons := UInt16.ofNat (leVal (leBytes 2 s.buttons.toNat))
        leftTrigger := UInt8.ofNat (leVal [s.leftTrigger])
        rightTrigger := UInt8.ofNat (leVal [s.rightTrigger])
        thumbLX := UInt16.ofNat (leVal (leBytes 2 s.thumbLX.toNat))
        thumbLY := UInt16.ofNat (leVal (leBytes 2 s.thumbLY.toNat))
        thumbRX := UInt16.ofNat (leVal (leBytes 2 s.thumbRX.toNat))
        thumbRY := UInt16.ofNat (leVal (leBytes 2 s.thumbRY.toNat))
        timestampNs := UInt64.ofNat (leVal (leBytes 8 s.timestampNs.toNat)) }) := rfl
  rw [hparsed]
  simp only [u16_leBytes, u64_leBytes, leVal_byte]

/-- **Events survive the wire.** -/
theorem unpackInput_packInputEvent (e : InputEvent) :
    unpackInput (packInputEvent e) = some (.event e) := by
  have hparsed : unpackInput (packInputEvent e) = some (.event
      { type := UInt8.ofNat (leVal [e.type])
        code := UInt8.ofNat (leVal [e.code])
        x := UInt16.ofNat (leVal (leBytes 2 e.x.toNat))
        y := UInt16.ofNat (leVal (leBytes 2 e.y.toNat))
        delta := UInt16.ofNat (leVal (leBytes 2 e.delta.toNat))
        pad0 := UInt8.ofNat (leVal [e.pad0])
        flags := UInt8.ofNat (leVal [e.flags])
        timestampNs := UInt64.ofNat (leVal (leBytes 8 e.timestampNs.toNat)) }) := rfl
  rw [hparsed]
  simp only [u16_leBytes, u64_leBytes, leVal_byte]

/-! ## The sender -/

/-- Where the thread is in the loop of `senderThread`. -/
inductive SenderPosition where
  /-- At the condition of the loop. -/
  | loop
  /-- Before it takes the queue. -/
  | queue
  /-- In the loop over `toSend`, with what is left of it. -/
  | sending (toSend : List InputEvent)
  | ended
deriving DecidableEq, Repr

/-- `InputSender`, with the values that it has after its first `start`. `transport` says that
    `transport_` is not null. -/
structure InputSender where
  transport : Bool := true
  slot : UInt8 := 0
  running : Bool := true
  eventQueue : List InputEvent := []
  controllerEnabled : Bool := true
  keyboardEnabled : Bool := false
  mouseEnabled : Bool := false
  packetsSent : UInt64 := 0
  eventsQueued : UInt64 := 0
  lastSent : Vector GameControllerState 4 := Vector.replicate 4 {}
  lastKeepaliveNs : UInt64 := 0
  position : SenderPosition := .loop
deriving DecidableEq, Repr

/-- `stateEqual`: the version and the time do not count. -/
def stateEqual (a b : GameControllerState) : Bool :=
  a.connected == b.connected && a.buttons == b.buttons && a.leftTrigger == b.leftTrigger &&
    a.rightTrigger == b.rightTrigger && a.thumbLX == b.thumbLX && a.thumbLY == b.thumbLY &&
    a.thumbRX == b.thumbRX && a.thumbRY == b.thumbRY

/-- What can happen to a sender. -/
inductive SenderEvent where
  | queueEvent (e : InputEvent)
  | setEnabled (controller keyboard mouse : Bool)
  /-- `stop` up to the join. -/
  | stop
  /-- The rest of `stop`, once the thread has ended. -/
  | joined
  /-- A step of the thread; `states` is what `poll` fills in. -/
  | thread (now : UInt64) (states : List GameControllerState)
deriving DecidableEq, Repr

namespace InputSender

/-- A sender that was never started. -/
def created : InputSender :=
  { transport := false
    running := false
    position := .ended }

/-- `start`, with what the reader's `discover` says. A second start clears the flag. -/
def start (s : InputSender) (controllerSlot : UInt8) (discover : Bool) (now : UInt64) :
    InputSender × Bool :=
  if s.running then ({ s with running := false }, false)
  else if !discover then ({ s with transport := true, slot := controllerSlot }, false)
  else
    ({ s with
        transport := true
        slot := controllerSlot
        running := true
        lastKeepaliveNs := now
        position := .loop }, true)

/-- A sender right after its first `start`. One that is started again keeps its queue and what it has
    sent last. -/
def started (controllerSlot : UInt8) (now : UInt64) : InputSender :=
  { slot := controllerSlot, lastKeepaliveNs := now }

theorem start_created (controllerSlot : UInt8) (now : UInt64) :
    created.start controllerSlot true now = (started controllerSlot now, true) := rfl

/-- `setEnabled`. -/
def setEnabled (s : InputSender) (controller keyboard mouse : Bool) : InputSender :=
  { s with controllerEnabled := controller, keyboardEnabled := keyboard, mouseEnabled := mouse }

/-- The checks of `queueEvent`; every event that is not of the keyboard counts as the mouse's. -/
def accepts (s : InputSender) (e : InputEvent) : Bool :=
  if !s.running then false
  else if InputInjector.keyboardEvent e && !s.keyboardEnabled then false
  else if !InputInjector.keyboardEvent e && !s.mouseEnabled then false
  else true

/-- `queueEvent`; the `clear` is "backpressure: drop stale events". -/
def queueEvent (s : InputSender) (e : InputEvent) : InputSender :=
  if !s.accepts e then s
  else
    let eventQueue := if 256 < s.eventQueue.length then [] else s.eventQueue
    { s with eventQueue := eventQueue ++ [e], eventsQueued := s.eventsQueued + 1 }

/-- The loop over the controllers, from the `i`-th on: a state is sent when it has changed, or to
    keep the pad alive. -/
def sendStates (keepalive : Bool) : InputSender → Nat → List GameControllerState →
    InputSender × List Bytes
  | s, _, [] => (s, [])
  | s, i, state :: states =>
      if h : i < 4 then
        if !stateEqual s.lastSent[i] state || keepalive then
          let s :=
            { s with packetsSent := s.packetsSent + 1, lastSent := s.lastSent.set i state }
          let (s, out) := sendStates keepalive s (i + 1) states
          (s, packControllerState state :: out)
        else sendStates keepalive s (i + 1) states
      else (s, [])

/-- The part of the loop that is about the controllers. -/
def sendControllers (s : InputSender) (now : UInt64) (states : List GameControllerState) :
    InputSender × List Bytes :=
  if s.controllerEnabled && s.transport then
    let keepalive := decide (500000000 < now - s.lastKeepaliveNs)
    let (s, out) := sendStates keepalive s 0 states
    if !states.isEmpty && keepalive then ({ s with lastKeepaliveNs := now }, out) else (s, out)
  else (s, [])

/-- A step of `senderThread`. -/
def senderThread (s : InputSender) (now : UInt64) (states : List GameControllerState) :
    InputSender × List Bytes :=
  match s.position with
  | .loop =>
      if !s.running then ({ s with position := .ended }, [])
      else
        let (s, out) := s.sendControllers now states
        ({ s with position := .queue }, out)
  | .queue =>
      -- an empty queue is waited for, and the loop starts again
      if s.eventQueue.isEmpty then ({ s with position := .loop }, [])
      else ({ s with eventQueue := [], position := .sending s.eventQueue }, [])
  | .sending [] => ({ s with position := .loop }, [])
  | .sending (e :: toSend) =>
      if s.transport then
        ({ s with packetsSent := s.packetsSent + 1, position := .sending toSend },
          [packInputEvent e])
      else ({ s with position := .sending toSend }, [])
  | .ended => (s, [])

/-- One event. -/
def handle (s : InputSender) (e : SenderEvent) : InputSender × List Bytes :=
  match e with
  | .queueEvent e => (s.queueEvent e, [])
  | .setEnabled controller keyboard mouse => (s.setEnabled controller keyboard mouse, [])
  | .stop => ({ s with running := false }, [])
  | .joined => if s.position = .ended then ({ s with transport := false }, []) else (s, [])
  | .thread now states => s.senderThread now states

/-- The state after an event. -/
def step (s : InputSender) (e : SenderEvent) : InputSender := (s.handle e).1

end InputSender

end RemotePlay.Input
