import RemotePlay.Adapt.AdaptiveBitrate
import RemotePlay.Input.SenderRuns

set_option autoImplicit false

/-! # From the window to the input sender (`ui/VideoWidget.cpp`, `ClientCoordinator::wireInputForwarding`)

The video widget turns what Qt reports into signals, and the coordinator turns each signal into an
event for its input sender, behind the guards that it has a sender and is wired. It never has one:
nothing creates it, and nothing that happens at the window is ever queued (`nothing_is_forwarded`).

Qt's and Windows' key codes are the numbers of their headers; positions are in pixels of the widget, and
the rectangle of the video is an argument. It is taken not to be empty: `std::clamp` is not defined
for one that is. -/

namespace RemotePlay.App

open Input (InputEvent InputEventType GameControllerState InputSender SenderEvent SenderTrace)
open Media.AdaptiveBitrate (clamp)

/-! ## Keys -/

def Key_Escape : Int := 0x01000000
def Key_Return : Int := 0x01000004
def Key_Enter : Int := 0x01000005
def Key_F1 : Int := 0x01000030
def Key_F10 : Int := 0x01000039
def Key_F11 : Int := 0x0100003A
def Key_F24 : Int := 0x01000047

/-- The `switch` of `qtKeyToVk`. -/
def vkCases : List (Int × UInt32) :=
  [(0x20, 0x20),           -- Key_Space, VK_SPACE
    (Key_Return, 0x0D), (Key_Enter, 0x0D),
    (Key_Escape, 0x1B),
    (0x01000003, 0x08),    -- Key_Backspace, VK_BACK
    (0x01000001, 0x09),    -- Key_Tab, VK_TAB
    (0x01000020, 0x10),    -- Key_Shift, VK_SHIFT
    (0x01000021, 0x11),    -- Key_Control, VK_CONTROL
    (0x01000023, 0x12),    -- Key_Alt, VK_MENU
    (0x01000008, 0x13),    -- Key_Pause, VK_PAUSE
    (0x01000024, 0x14),    -- Key_CapsLock, VK_CAPITAL
    (0x01000016, 0x21),    -- Key_PageUp, VK_PRIOR
    (0x01000017, 0x22),    -- Key_PageDown, VK_NEXT
    (0x01000011, 0x23),    -- Key_End, VK_END
    (0x01000010, 0x24),    -- Key_Home, VK_HOME
    (0x01000012, 0x25), (0x01000013, 0x26), (0x01000014, 0x27), (0x01000015, 0x28),  -- arrows
    (0x01000006, 0x2D),    -- Key_Insert, VK_INSERT
    (0x01000007, 0x2E),    -- Key_Delete, VK_DELETE
    (0x2D, 0xBD),          -- Key_Minus, VK_OEM_MINUS
    (0x3D, 0xBB),          -- Key_Equal, VK_OEM_PLUS
    (0x5B, 0xDB),          -- Key_BracketLeft, VK_OEM_4
    (0x5D, 0xDD),          -- Key_BracketRight, VK_OEM_6
    (0x5C, 0xDC),          -- Key_Backslash, VK_OEM_5
    (0x3B, 0xBA),          -- Key_Semicolon, VK_OEM_1
    (0x27, 0xDE),          -- Key_Apostrophe, VK_OEM_7
    (0x2C, 0xBC),          -- Key_Comma, VK_OEM_COMMA
    (0x2E, 0xBE),          -- Key_Period, VK_OEM_PERIOD
    (0x2F, 0xBF),          -- Key_Slash, VK_OEM_2
    (0x60, 0xC0)]          -- Key_QuoteLeft, VK_OEM_3

/-- `qtKeyToVk`: 0 is "unmapped: dropped". -/
def qtKeyToVk (key : Int) : UInt32 :=
  if 0x41 ≤ key ∧ key ≤ 0x5A then UInt32.ofInt (0x41 + (key - 0x41))
  else if 0x30 ≤ key ∧ key ≤ 0x39 then UInt32.ofInt (0x30 + (key - 0x30))
  else if Key_F1 ≤ key ∧ key ≤ Key_F24 then UInt32.ofInt (0x70 + (key - Key_F1))
  else (vkCases.lookup key).getD 0

/-- `isExtendedKey`. -/
def isExtendedKey (key : Int) : Bool :=
  [0x01000016, 0x01000017,                            -- Key_PageUp, Key_PageDown
    0x01000011, 0x01000010,                           -- Key_End, Key_Home
    0x01000012, 0x01000013, 0x01000014, 0x01000015,   -- arrows
    0x01000006, 0x01000007, 0x01000023].contains key  -- Key_Insert, Key_Delete, Key_Alt

/-! ## The widget -/

/-- What Qt reports to the widget. -/
inductive WidgetEvent where
  | keyPress (key : Int) (isAutoRepeat : Bool)
  /-- Qt's autorepeat releases are not told apart. -/
  | keyRelease (key : Int)
  | mouseMove (x y : Int)
  | mousePress (button : Int)
  | mouseRelease (button : Int)
  | mouseDoubleClick (button : Int)
  | wheel (angleDelta : Int)
  /-- `setFullscreenActive`, called by the window. -/
  | setFullscreenActive (on : Bool)
deriving DecidableEq, Repr

/-- The signals of the widget; the position of a click is not used by anybody. -/
inductive WidgetSignal where
  | keyPressed (key : Int) (autorepeat : Bool)
  | keyReleased (key : Int)
  | mouseMoved (x y : Int)
  | mouseButtonPressed (button : Int)
  | mouseButtonReleased (button : Int)
  | mouseWheel (delta : Int)
  | toggleFullscreenRequested
  | escapePressed
deriving DecidableEq, Repr

/-- `VideoWidget`, as far as its event handlers look at it. -/
structure VideoWidget where
  overlayVisible : Bool := true
  fullscreenActive : Bool := false
deriving DecidableEq, Repr

namespace VideoWidget

/-- `keyPressEvent`. -/
def keyPressEvent (w : VideoWidget) (key : Int) (isAutoRepeat : Bool) :
    VideoWidget × List WidgetSignal :=
  if key = Key_F10 then ({ w with overlayVisible := !w.overlayVisible }, [])
  else if key = Key_F11 then (w, [.toggleFullscreenRequested])
  else if key = Key_Escape ∧ w.fullscreenActive then (w, [.escapePressed])
  else (w, [.keyPressed key isAutoRepeat])

/-- `keyReleaseEvent`: Escape is released even where its press was consumed. -/
def keyReleaseEvent (key : Int) : List WidgetSignal :=
  if key = Key_F10 ∨ key = Key_F11 then [] else [.keyReleased key]

/-- The event handlers. Qt's own handler of a double click is `mousePressEvent`. -/
def handle (w : VideoWidget) : WidgetEvent → VideoWidget × List WidgetSignal
  | .keyPress key isAutoRepeat => w.keyPressEvent key isAutoRepeat
  | .keyRelease key => (w, keyReleaseEvent key)
  | .mouseMove x y => (w, [.mouseMoved x y])
  | .mousePress button => (w, [.mouseButtonPressed button])
  | .mouseRelease button => (w, [.mouseButtonReleased button])
  | .mouseDoubleClick button => (w, [.toggleFullscreenRequested, .mouseButtonPressed button])
  | .wheel angleDelta => (w, [.mouseWheel angleDelta])
  | .setFullscreenActive on => ({ w with fullscreenActive := on }, [])

end VideoWidget

/-! ## The wiring -/

/-- `QRect`, with its corner and its size. -/
structure QRect where
  x : Int
  y : Int
  width : Int
  height : Int
deriving DecidableEq, Repr

/-- `QRect::contains`. -/
def QRect.contains (r : QRect) (x y : Int) : Bool :=
  r.x ≤ x && x < r.x + r.width && r.y ≤ y && y < r.y + r.height

/-- The position in the video, cut to it: `vx` and `vy`. -/
def inVideo (inside : Bool) (v origin extent : Int) : Int :=
  if inside then v - origin else clamp (v - origin) 0 (extent - 1)

/-- The normalized coordinate of a position: `e.x` and `e.y` before the cast. The product is an `int`,
    which holds it up to an extent of 32769. -/
def normalized (v extent : Int) : Int := (clamp v 0 (extent - 1) * 65535).tdiv (max 1 (extent - 1))

/-- The codes of the mouse buttons; every button that Qt does not know by the first four names is the
    last one. -/
def buttonCode (button : Int) : UInt8 :=
  if button = 1 then 0 else if button = 2 then 1 else if button = 4 then 2
  else if button = 8 then 3 else 4

/-- The handlers of `wireInputForwarding` behind their guards: the event that goes to `queueEvent`. -/
def inputEvent (video : QRect) (now : UInt64) : WidgetSignal → Option InputEvent
  | .keyPressed key autorepeat =>
      if autorepeat then none
      else some
        { type := 1
          code := (qtKeyToVk key).toUInt8
          flags := if isExtendedKey key then 1 else 0
          timestampNs := now }
  | .keyReleased key =>
      some
        { type := 2
          code := (qtKeyToVk key).toUInt8
          flags := if isExtendedKey key then 1 else 0
          timestampNs := now }
  | .mouseMoved x y =>
      let inside := video.contains x y
      some
        { type := 3
          x := UInt16.ofInt (normalized (inVideo inside x video.x video.width) video.width)
          y := UInt16.ofInt (normalized (inVideo inside y video.y video.height) video.height)
          timestampNs := now }
  | .mouseButtonPressed button => some { type := 4, code := buttonCode button, timestampNs := now }
  | .mouseButtonReleased button => some { type := 5, code := buttonCode button, timestampNs := now }
  | .mouseWheel delta =>
      some { type := 6, delta := UInt16.ofInt (clamp (delta.tdiv 120) (-100) 100), timestampNs := now }
  | .toggleFullscreenRequested => none
  | .escapePressed => none

/-- The calls of `queueEvent` for a report of Qt. -/
def forwards (w : VideoWidget) (e : WidgetEvent) (video : QRect) (now : UInt64) : List InputEvent :=
  (w.handle e).2.filterMap (inputEvent video now)

/-! ## The coordinator -/

/-- The members of `ClientCoordinator` that its input forwarding looks at. A sender stands beside what
    it has queued and sent. -/
structure InputForwarding where
  videoWidget : Option VideoWidget := none
  inputSender : Option SenderTrace := none
  inputWired : Bool := false

/-- What happens at the client's window, to its coordinator and to the sender. -/
inductive ForwardEvent where
  | widget (e : WidgetEvent) (video : QRect) (now : UInt64)
  | setKeyboardMouseEnabled (kb mouse : Bool)
  /-- The invocation of `onInputPermissions`. -/
  | inputPermissions (controller keyboard mouse : Bool)
  /-- The invocation at the end of a stream's start, while its streamer is `alive`; `discover` is what
      the reader of the sender says. -/
  | streaming (alive : Bool) (slot : UInt8) (kb mouse discover : Bool) (now : UInt64)
  /-- The host has stopped the stream: the stop of the sender up to the join. -/
  | streamStop
  /-- `stop` of the coordinator, up to the join of the sender. -/
  | stop
  /-- The rest of a stop, once the thread has ended; `reset` if the sender is deleted then. -/
  | joined (reset : Bool)
  /-- A step of the sender's thread. -/
  | thread (now : UInt64) (states : List GameControllerState)
deriving DecidableEq, Repr

namespace InputForwarding

/-- `wireInputForwarding`. -/
def wireInputForwarding (c : InputForwarding) : InputForwarding :=
  if c.videoWidget.isNone ∨ c.inputSender.isNone ∨ c.inputWired then c
  else { c with inputWired := true }

/-- Calls of the sender, if there is one. -/
def send (c : InputForwarding) (es : List SenderEvent) : InputForwarding :=
  { c with inputSender := c.inputSender.map (fun t => runFrom SenderTrace.step t es) }

/-- The end of a stream's start; the wiring does not look at whether the sender has started. -/
def streaming (c : InputForwarding) (alive : Bool) (slot : UInt8) (kb mouse discover : Bool)
    (now : UInt64) : InputForwarding :=
  match c.inputSender with
  | none => c
  | some t =>
      if !alive || t.sender.running then c
      else
        let sender :=
          match t.sender.start slot discover now with
          | (sender, false) => sender
          | (sender, true) => sender.setEnabled true kb mouse
        { c with inputSender := some { t with sender } }.wireInputForwarding

/-- The state after an event. -/
def step (c : InputForwarding) (e : ForwardEvent) : InputForwarding :=
  match e with
  | .widget e video now =>
      match c.videoWidget with
      | none => c
      | some w =>
          { c with videoWidget := some (w.handle e).1 }.send
            (if c.inputWired then (forwards w e video now).map .queueEvent else [])
  | .setKeyboardMouseEnabled kb mouse => c.send [.setEnabled true kb mouse]
  | .inputPermissions controller keyboard mouse => c.send [.setEnabled controller keyboard mouse]
  | .streaming alive slot kb mouse discover now => c.streaming alive slot kb mouse discover now
  | .streamStop => c.send [.stop]
  | .stop => { c with inputWired := false }.send [.stop]
  | .joined reset =>
      if reset then
        { c with inputSender := c.inputSender.filter (fun t => t.sender.position ≠ .ended) }
      else c.send [.joined]
  | .thread now states => c.send [.thread now states]

/-- Without a sender there is none after an event, and no signal is wired that was not. -/
theorem step_of_none {c : InputForwarding} (h : c.inputSender = none) (e : ForwardEvent) :
    (c.step e).inputSender = none ∧ (c.inputWired = false → (c.step e).inputWired = false) := by
  have hsend : ∀ es, (c.send es).inputSender = none := fun es => congrArg (Option.map _) h
  cases e with
  | widget e video now =>
      unfold step
      cases c.videoWidget with
      | none => exact ⟨h, id⟩
      | some w => exact ⟨congrArg (Option.map _) h, id⟩
  | setKeyboardMouseEnabled | inputPermissions | streamStop | thread => exact ⟨hsend _, id⟩
  | streaming alive slot kb mouse discover now =>
      have hsame : c.step (.streaming alive slot kb mouse discover now) = c := by
        rw [step, streaming, h]
      rw [hsame]
      exact ⟨h, id⟩
  | stop => exact ⟨congrArg (Option.map _) h, fun _ => rfl⟩
  | joined reset =>
      cases reset with
      | true => exact ⟨congrArg (Option.filter _) h, id⟩
      | false => exact ⟨hsend _, id⟩

/-- **Nothing is forwarded.** In every run of the coordinator, whatever is reported to its window and
    whatever is permitted, it has no input sender and its window is not wired: nothing is queued, and
    nothing is sent. -/
theorem nothing_is_forwarded (videoWidget : Option VideoWidget) (es : List ForwardEvent) :
    (runFrom step { videoWidget } es).inputSender = none ∧
      (runFrom step { videoWidget } es).inputWired = false := by
  refine runFrom_invariant step (fun c => c.inputSender = none ∧ c.inputWired = false)
    (fun _ _ => True) ?_ _ es ⟨rfl, rfl⟩ fun _ _ => trivial
  rintro c e ⟨hnone, hunwired⟩ -
  obtain ⟨hstill, hwired⟩ := step_of_none hnone e
  exact ⟨hstill, hwired hunwired⟩

end InputForwarding

end RemotePlay.App
