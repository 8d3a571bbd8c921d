import RemotePlay.Lib.KeyedList
import RemotePlay.Common.Types

set_option autoImplicit false

/-! # Input injection (`input/InputInjector.cpp`)

The host applies the input datagrams of each player, by virtual gamepads and by `SendInput`, after
checking the permissions it keeps for that player. Calls hold the injector's mutex, so they are
atomic. What the platform returns is an argument; what is asked of it is an effect. -/

namespace RemotePlay.Input

/-! ## The wire format (`input/InputProtocol.h`) -/

/-- `GameControllerState`, 22 packed bytes. -/
structure GameControllerState where
  version : UInt8 := 1
  connected : UInt8 := 0
  buttons : UInt16 := 0
  leftTrigger : UInt8 := 0
  rightTrigger : UInt8 := 0
  thumbLX : UInt16 := 0
  thumbLY : UInt16 := 0
  thumbRX : UInt16 := 0
  thumbRY : UInt16 := 0
  timestampNs : UInt64 := 0
deriving DecidableEq, Repr

/-- `InputEventType`. -/
inductive InputEventType where
  | KeyDown
  | KeyUp
  | MouseMove
  | MouseButtonDown
  | MouseButtonUp
  | MouseWheel
deriving DecidableEq, Repr

def InputEventType.ofCode (code : UInt8) : Option InputEventType :=
  match code with
  | 1 => some .KeyDown
  | 2 => some .KeyUp
  | 3 => some .MouseMove
  | 4 => some .MouseButtonDown
  | 5 => some .MouseButtonUp
  | 6 => some .MouseWheel
  | _ => none

/-- `InputEvent`, 18 packed bytes; the wheel steps are kept as the 16 bits they are. -/
structure InputEvent where
  type : UInt8 := 0
  code : UInt8 := 0
  x : UInt16 := 0
  y : UInt16 := 0
  delta : UInt16 := 0
  pad0 : UInt8 := 0
  flags : UInt8 := 0
  timestampNs : UInt64 := 0
deriving DecidableEq, Repr

/-- The little-endian field of `n` bytes at an offset. -/
def field (data : Bytes) (off n : Nat) : Nat := leVal ((data.drop off).take n)

def controllerStateAt (b : Bytes) : GameControllerState :=
  { version := UInt8.ofNat (field b 0 1)
    connected := UInt8.ofNat (field b 1 1)
    buttons := UInt16.ofNat (field b 2 2)
    leftTrigger := UInt8.ofNat (field b 4 1)
    rightTrigger := UInt8.ofNat (field b 5 1)
    thumbLX := UInt16.ofNat (field b 6 2)
    thumbLY := UInt16.ofNat (field b 8 2)
    thumbRX := UInt16.ofNat (field b 10 2)
    thumbRY := UInt16.ofNat (field b 12 2)
    timestampNs := UInt64.ofNat (field b 14 8) }

def inputEventAt (b : Bytes) : InputEvent :=
  { type := UInt8.ofNat (field b 0 1)
    code := UInt8.ofNat (field b 1 1)
    x := UInt16.ofNat (field b 2 2)
    y := UInt16.ofNat (field b 4 2)
    delta := UInt16.ofNat (field b 6 2)
    pad0 := UInt8.ofNat (field b 8 1)
    flags := UInt8.ofNat (field b 9 1)
    timestampNs := UInt64.ofNat (field b 10 8) }

/-- What an input datagram carries. -/
inductive InputPayload where
  | controller (state : GameControllerState)
  | event (event : InputEvent)
deriving DecidableEq, Repr

/-- `unpackInput`. -/
def unpackInput (data : Bytes) : Option InputPayload :=
  match data with
  | [] => none
  | kind :: body =>
      if kind = 0 ∧ body.length = 22 then some (.controller (controllerStateAt body))
      else if kind = 1 ∧ body.length = 18 then some (.event (inputEventAt body))
      else none

/-! ## Virtual gamepads (`input/VirtualGamepad.cpp`) -/

/-- `VirtualGamepad`: whether the bus client is connected, and the players that have a pad. -/
structure VirtualGamepad where
  client : Bool := true
  pads : List UInt8 := []
deriving DecidableEq, Repr

namespace VirtualGamepad

def hasPlayer (g : VirtualGamepad) (playerIndex : UInt8) : Bool := g.pads.contains playerIndex

/-- `addPlayer`; `added` is whether ViGEm adds the target. -/
def addPlayer (g : VirtualGamepad) (playerIndex : UInt8) (added : Bool) : VirtualGamepad × Bool :=
  if !g.client then (g, false)
  else if g.hasPlayer playerIndex then (g, true)
  else if 4 ≤ g.pads.length then (g, false)
  else if !added then (g, false)
  else ({ g with pads := g.pads ++ [playerIndex] }, true)

def removePlayer (g : VirtualGamepad) (playerIndex : UInt8) : VirtualGamepad :=
  { g with pads := g.pads.erase playerIndex }

/-- `handleVibration`: the player that the vibration callback is called with. A pad that was removed
    reports nothing any more. -/
def handleVibration (g : VirtualGamepad) (playerIndex : UInt8) : Option UInt8 :=
  if g.hasPlayer playerIndex then some playerIndex else none

/-- `shutdown`: the pads and the bus client are gone. -/
def shutdown (g : VirtualGamepad) : VirtualGamepad := { g with client := false, pads := [] }

/-- `update`; `updated` is whether ViGEm takes the report. -/
def update (g : VirtualGamepad) (playerIndex : UInt8) (updated : Bool) : Bool :=
  g.hasPlayer playerIndex && g.client && updated

end VirtualGamepad

/-! ## The injector -/

/-- An `INPUT` record for `SendInput`. -/
inductive SentInput where
  | key (vk : UInt8) (down extended : Bool)
  | mouseMove (x y : UInt16)
  | mouseButton (button : Fin 5) (down : Bool)
  | mouseWheel (delta : UInt16)
deriving DecidableEq, Repr

/-- `InputInjector::PerClient`. -/
structure PerClient where
  playerIndex : UInt8 := 0
  controller : Bool := true
  keyboard : Bool := false
  mouse : Bool := false
  vibration : Bool := true
  keysDown : UInt8 → Bool := fun _ => false
  mouseButtons : Fin 5 → Bool := fun _ => false

def PerClient.permissions (c : PerClient) : InputPermissions :=
  { controller := c.controller
    keyboard := c.keyboard
    mouse := c.mouse
    vibration := c.vibration }

/-- What the platform returns to the one call that looks at it. -/
structure PlatformResults where
  sendInput : Bool := true
  padAdded : Bool := true
  padUpdated : Bool := true
deriving DecidableEq, Repr

/-- `InputInjector`; the rumble sender is named by the client it was made for. -/
structure InputInjector where
  clients : KeyedList PerClient PerClient.playerIndex := {}
  pads : VirtualGamepad := {}
  rumbleSender : Option UInt32 := none
  injectedEvents : UInt64 := 0
  rejectedEvents : UInt64 := 0

namespace InputInjector

/-- The entry that `ensureClient` returns: a new one mirrors the handshake. -/
def client (j : InputInjector) (playerIndex : UInt8) : PerClient :=
  (j.clients.find? playerIndex).getD { playerIndex := playerIndex, controller := true }

/-- Store an entry under its player. -/
def setClient (j : InputInjector) (c : PerClient) : InputInjector :=
  { j with clients := j.clients.put c }

/-- `ensureClient`. -/
def ensureClient (j : InputInjector) (playerIndex : UInt8) : InputInjector :=
  j.setClient (j.client playerIndex)

/-- `releaseAllKeys`: what is held is released, whatever `SendInput` returns. -/
def releaseAllKeys (j : InputInjector) (playerIndex : UInt8) : InputInjector × List SentInput :=
  let c := j.client playerIndex
  let keys := ((List.range' 1 255).map UInt8.ofNat).filter c.keysDown
  let buttons := (List.finRange 5).filter c.mouseButtons
  (j.setClient
      { c with keysDown := fun vk => c.keysDown vk && vk == 0, mouseButtons := fun _ => false },
    keys.map (fun vk => .key vk false false) ++ buttons.map (fun b => .mouseButton b false))

/-- `setPermissions`: the pad follows the controller permission; without the keyboard nothing stays
    held. -/
def setPermissions (j : InputInjector) (playerIndex : UInt8) (perms : InputPermissions)
    (io : PlatformResults) : InputInjector × List SentInput :=
  let c := j.client playerIndex
  let j := j.setClient
    { c with
      controller := perms.controller
      keyboard := perms.keyboard
      mouse := perms.mouse
      vibration := perms.vibration }
  let j :=
    if perms.controller && !c.controller then
      { j with pads := (j.pads.addPlayer playerIndex io.padAdded).1 }
    else if !perms.controller && c.controller then
      { j with pads := j.pads.removePlayer playerIndex }
    else j
  if !perms.keyboard then j.releaseAllKeys playerIndex else (j, [])

def reject (j : InputInjector) : InputInjector × Bool × List SentInput :=
  ({ j with rejectedEvents := j.rejectedEvents + 1 }, false, [])

/-- `applyController`. -/
def applyController (j : InputInjector) (playerIndex : UInt8) (s : GameControllerState)
    (io : PlatformResults) : InputInjector × Bool × List SentInput :=
  if s.version ≠ 1 then j.reject
  -- a disconnected pad is a valid state to mirror
  else if s.connected = 0 then (j, true, [])
  else if j.pads.update playerIndex io.padUpdated then
    ({ j with injectedEvents := j.injectedEvents + 1 }, true, [])
  else j.reject

/-- The end of `applyEvent`. -/
def sendInput (j : InputInjector) (input : SentInput) (io : PlatformResults) :
    InputInjector × Bool × List SentInput :=
  if !io.sendInput then
    ({ j with rejectedEvents := j.rejectedEvents + 1 }, false, [input])
  else ({ j with injectedEvents := j.injectedEvents + 1 }, true, [input])

/-- The key case of `applyEvent`: a key is recorded as held before `SendInput` is asked. -/
def applyKey (j : InputInjector) (playerIndex : UInt8) (e : InputEvent) (down : Bool)
    (io : PlatformResults) : InputInjector × Bool × List SentInput :=
  let c := j.client playerIndex
  if e.code = 0 then j.reject
  else
    (j.setClient { c with keysDown := fun vk => if vk = e.code then down else c.keysDown vk }
      ).sendInput (.key e.code down (e.flags &&& 1 != 0)) io

/-- The mouse button case of `applyEvent`. -/
def applyMouseButton (j : InputInjector) (playerIndex : UInt8) (e : InputEvent) (down : Bool)
    (io : PlatformResults) : InputInjector × Bool × List SentInput :=
  let c := j.client playerIndex
  if h : e.code.toNat < 5 then
    let button : Fin 5 := ⟨e.code.toNat, h⟩
    (j.setClient
        { c with mouseButtons := fun b => if b = button then down else c.mouseButtons b }
      ).sendInput (.mouseButton button down) io
  else j.reject

/-- `applyEvent`. -/
def applyEvent (j : InputInjector) (playerIndex : UInt8) (e : InputEvent) (io : PlatformResults) :
    InputInjector × Bool × List SentInput :=
  match InputEventType.ofCode e.type with
  | some .KeyDown => j.applyKey playerIndex e true io
  | some .KeyUp => j.applyKey playerIndex e false io
  | some .MouseMove => j.sendInput (.mouseMove e.x e.y) io
  | some .MouseButtonDown => j.applyMouseButton playerIndex e true io
  | some .MouseButtonUp => j.applyMouseButton playerIndex e false io
  | some .MouseWheel => j.sendInput (.mouseWheel e.delta) io
  | none => j.reject

/-- A keyboard event; every other one counts as a mouse event. -/
def keyboardEvent (e : InputEvent) : Bool :=
  InputEventType.ofCode e.type == some .KeyDown || InputEventType.ofCode e.type == some .KeyUp

/-- `applyInput`: the entry of the player decides, made with defaults if there is none. -/
def applyInput (j : InputInjector) (playerIndex : UInt8) (data : Bytes) (io : PlatformResults) :
    InputInjector × Bool × List SentInput :=
  match unpackInput data with
  | none => j.reject
  | some payload =>
      let j := j.ensureClient playerIndex
      let c := j.client playerIndex
      match payload with
      | .controller state =>
          if !c.controller then j.reject else j.applyController playerIndex state io
      | .event e =>
          if keyboardEvent e && !c.keyboard then j.reject
          else if !keyboardEvent e && !c.mouse then j.reject
          else j.applyEvent playerIndex e io

/-- `clientDisconnected`. -/
def clientDisconnected (j : InputInjector) (playerIndex : UInt8) :
    InputInjector × List SentInput :=
  let (j, released) := j.releaseAllKeys playerIndex
  ({ j with
      pads := j.pads.removePlayer playerIndex
      clients := j.clients.erase playerIndex },
    released)

/-- One turn of the loop in `shutdown`. -/
def releaseClient (s : InputInjector × List SentInput) (c : PerClient) :
    InputInjector × List SentInput :=
  let (j, released) := s.1.releaseAllKeys c.playerIndex
  ({ j with pads := j.pads.removePlayer c.playerIndex }, s.2 ++ released)

/-- `shutdown`. -/
def shutdown (j : InputInjector) : InputInjector × List SentInput :=
  let (j, released) := j.clients.toList.foldl releaseClient (j, [])
  ({ j with
      clients := {}
      pads := j.pads.shutdown },
    released)

/-- The vibration callback that `init` installs: the rumble sender it invokes. -/
def onVibration (j : InputInjector) (player : UInt8) : Option UInt32 :=
  if (j.clients.find? player).any PerClient.vibration then j.rumbleSender else none

/-! ## The permissions that count -/

/-- The permissions `applyInput` goes by. -/
def enforced (j : InputInjector) (playerIndex : UInt8) : InputPermissions :=
  (j.client playerIndex).permissions

/-- Whether permissions cover the class of input a datagram is. -/
def allows (perms : InputPermissions) : InputPayload → Bool
  | .controller _ => perms.controller
  | .event e => if keyboardEvent e then perms.keyboard else perms.mouse

/-- A datagram that is let through. -/
def applyPayload (j : InputInjector) (playerIndex : UInt8) (payload : InputPayload)
    (io : PlatformResults) : InputInjector × Bool × List SentInput :=
  match payload with
  | .controller state => j.applyController playerIndex state io
  | .event e => j.applyEvent playerIndex e io

/-! ## What input leaves alone -/

section Frame

variable {α : Type} (f : InputInjector → α) (p : UInt8)
  (hcount : ∀ (j : InputInjector) injected rejected,
    f { j with injectedEvents := injected, rejectedEvents := rejected } = f j)
  (hensure : ∀ j, f (ensureClient j p) = f j)
  (hkeys : ∀ j keysDown, f (setClient j { client j p with keysDown := keysDown }) = f j)
  (hbuttons : ∀ j mouseButtons,
    f (setClient j { client j p with mouseButtons := mouseButtons }) = f j)
  (j : InputInjector)

include hcount

theorem applyController_frame (s : GameControllerState) (io : PlatformResults) :
    f (j.applyController p s io).1 = f j := by
  unfold applyController
  split
  · exact hcount j j.injectedEvents _
  split
  · rfl
  split
  · exact hcount j _ j.rejectedEvents
  · exact hcount j j.injectedEvents _

theorem sendInput_frame (input : SentInput) (io : PlatformResults) :
    f (j.sendInput input io).1 = f j := by
  unfold sendInput
  split
  · exact hcount j j.injectedEvents _
  · exact hcount j _ j.rejectedEvents

include hkeys hbuttons

theorem applyEvent_frame (e : InputEvent) (io : PlatformResults) :
    f (j.applyEvent p e io).1 = f j := by
  have hreject : f j.reject.1 = f j := hcount j j.injectedEvents _
  have hkey : ∀ down, f (j.applyKey p e down io).1 = f j := by
    intro down
    unfold applyKey
    dsimp only
    split
    · exact hreject
    · exact (sendInput_frame f hcount _ _ io).trans (hkeys j _)
  have hbutton : ∀ down, f (j.applyMouseButton p e down io).1 = f j := by
    intro down
    unfold applyMouseButton
    dsimp only
    split
    · exact (sendInput_frame f hcount _ _ io).trans (hbuttons j _)
    · exact hreject
  unfold applyEvent
  split
  · exact hkey true
  · exact hkey false
  · exact sendInput_frame f hcount j _ io
  · exact hbutton true
  · exact hbutton false
  · exact sendInput_frame f hcount j _ io
  · exact hreject

include hensure

/-- Input changes the counters, and the keys and buttons of the player's entry. -/
theorem applyInput_frame (data : Bytes) (io : PlatformResults) :
    f (j.applyInput p data io).1 = f j := by
  have hreject : ∀ j : InputInjector, f j.reject.1 = f j := fun j => hcount j j.injectedEvents _
  unfold applyInput
  split
  · exact hreject j
  rw [← hensure j]
  dsimp only
  split
  · split
    · exact hreject _
    · exact applyController_frame f p hcount _ _ io
  · split
    · exact hreject _
    split
    · exact hreject _
    · exact applyEvent_frame f p hcount hkeys hbuttons _ _ io

end Frame

section Enforced

variable (j : InputInjector) (p q : UInt8)

@[simp] theorem client_playerIndex : (j.client p).playerIndex = p := by
  unfold client
  cases h : j.clients.find? p with
  | none => rfl
  | some c => exact KeyedList.key_of_find? h

theorem client_setClient (c : PerClient) :
    (j.setClient c).client q = if c.playerIndex = q then c else j.client q := by
  unfold client setClient
  rw [KeyedList.find?_put]
  split
  · rfl
  · rfl

theorem enforced_setClient (c : PerClient) :
    (j.setClient c).enforced q = if c.playerIndex = q then c.permissions else j.enforced q := by
  unfold enforced
  rw [client_setClient]
  split
  · rfl
  · rfl

/-- Rewriting an entry without touching its permissions. -/
theorem enforced_setClient_same {c : PerClient} (hindex : c.playerIndex = p)
    (hperms : c.permissions = j.enforced p) : (j.setClient c).enforced q = j.enforced q := by
  rw [enforced_setClient, hindex]
  split
  · next h => rw [hperms, h]
  · rfl

@[simp] theorem enforced_ensureClient : (j.ensureClient p).enforced q = j.enforced q :=
  j.enforced_setClient_same p q (j.client_playerIndex p) rfl

@[simp] theorem enforced_releaseAllKeys :
    (j.releaseAllKeys p).1.enforced q = j.enforced q :=
  j.enforced_setClient_same p q (j.client_playerIndex p) rfl

theorem enforced_setPermissions (perms : InputPermissions) (io : PlatformResults) :
    (j.setPermissions p perms io).1.enforced q = if p = q then perms else j.enforced q := by
  -- what happens to the pads and the held keys is no permission
  have hset : (j.setClient
      { j.client p with
        controller := perms.controller
        keyboard := perms.keyboard
        mouse := perms.mouse
        vibration := perms.vibration }).enforced q = if p = q then perms else j.enforced q := by
    rw [enforced_setClient, client_playerIndex]
    rfl
  unfold setPermissions
  dsimp only
  split
  · rw [enforced_releaseAllKeys, ← hset]
    split
    · rfl
    split
    · rfl
    · rfl
  · rw [← hset]
    split
    · rfl
    split
    · rfl
    · rfl

/-- After a disconnect the defaults of a new entry count. -/
theorem enforced_clientDisconnected :
    (j.clientDisconnected p).1.enforced q = if p = q then {} else j.enforced q := by
  unfold clientDisconnected
  simp only [enforced, client, KeyedList.find?_erase]
  split
  · rfl
  · exact j.enforced_releaseAllKeys p q

/-- **The permission check.** A well-formed datagram is applied if its class is among the enforced
    permissions, and turned away with nothing done otherwise. -/
theorem applyInput_eq {data : Bytes} {payload : InputPayload}
    (h : unpackInput data = some payload) (io : PlatformResults) :
    j.applyInput p data io
      = if allows (j.enforced p) payload then (j.ensureClient p).applyPayload p payload io
        else (j.ensureClient p).reject := by
  have hclient : (j.ensureClient p).client p = j.client p := by
    rw [ensureClient, client_setClient, client_playerIndex, if_pos rfl]
  unfold applyInput
  rw [h]
  dsimp only
  rw [hclient]
  cases payload with
  | controller state =>
      cases hc : (j.client p).controller with
      | false => simp [allows, enforced, PerClient.permissions, hc]
      | true => simp [allows, enforced, PerClient.permissions, hc, applyPayload]
  | event e =>
      cases hk : keyboardEvent e with
      | false =>
          cases hm : (j.client p).mouse with
          | false => simp [allows, enforced, PerClient.permissions, hk, hm]
          | true => simp [allows, enforced, PerClient.permissions, hk, hm, applyPayload]
      | true =>
          cases hm : (j.client p).keyboard with
          | false => simp [allows, enforced, PerClient.permissions, hk, hm]
          | true => simp [allows, enforced, PerClient.permissions, hk, hm, applyPayload]

/-- Input changes no permission, though it may make an entry. -/
theorem enforced_applyInput (data : Bytes) (io : PlatformResults) :
    (j.applyInput p data io).1.enforced q = j.enforced q :=
  applyInput_frame (fun j => j.enforced q) p (fun _ _ _ => rfl) (fun j => j.enforced_ensureClient p q)
    (fun j _ => j.enforced_setClient_same p q (j.client_playerIndex p) rfl)
    (fun j _ => j.enforced_setClient_same p q (j.client_playerIndex p) rfl) j data io

end Enforced

section RumbleSender

variable (j : InputInjector) (p : UInt8)

/-- Only `setRumbleSender` replaces the rumble sender. -/
theorem rumbleSender_setPermissions (perms : InputPermissions) (io : PlatformResults) :
    (j.setPermissions p perms io).1.rumbleSender = j.rumbleSender := by
  unfold setPermissions
  dsimp only
  split
  · split
    · rfl
    split
    · rfl
    · rfl
  · split
    · rfl
    split
    · rfl
    · rfl

theorem rumbleSender_applyInput (data : Bytes) (io : PlatformResults) :
    (j.applyInput p data io).1.rumbleSender = j.rumbleSender :=
  applyInput_frame rumbleSender p (fun _ _ _ => rfl) (fun _ => rfl) (fun _ _ => rfl)
    (fun _ _ => rfl) j data io

/-- Input never adds or removes a pad. -/
theorem pads_applyInput (data : Bytes) (io : PlatformResults) :
    (j.applyInput p data io).1.pads = j.pads :=
  applyInput_frame pads p (fun _ _ _ => rfl) (fun _ => rfl) (fun _ _ => rfl)
    (fun _ _ => rfl) j data io

end RumbleSender

end InputInjector

end RemotePlay.Input
