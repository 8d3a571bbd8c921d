import RemotePlay.Input.InjectorRuns
import RemotePlay.Input.InputSender

set_option autoImplicit false

/-! # Reading controllers (`input/ControllerReader.cpp`)

`poll` asks XInput for each of its four slots and then the DirectInput devices, and makes one state of
each answer. What the platform answers is an argument: the sixteen bytes of an `XINPUT_STATE`, or what
`Poll` and `GetDeviceState` return. The host's end is `VirtualGamepad::update`, which makes the report
that ViGEm gets. -/

namespace RemotePlay.Input

/-! ## Buttons (`input/InputProtocol.h`) -/

def DUp : UInt16 := (1 : UInt16) <<< 11
def DDown : UInt16 := (1 : UInt16) <<< 12
def DLeft : UInt16 := (1 : UInt16) <<< 13
def DRight : UInt16 := (1 : UInt16) <<< 14

/-- `XINPUT_STATE`, with its padding. -/
abbrev XInputState := Vector UInt8 16

/-- `DIJOYSTATE2`, the members that `poll` reads. -/
structure DIJoyState2 where
  lX : Int := 0
  lY : Int := 0
  lZ : Int := 0
  lRx : Int := 0
  lRz : Int := 0
  slider : Int := 0
  pov : UInt32 := 0
  buttons : Vector UInt8 128 := Vector.replicate 128 0
deriving DecidableEq, Repr

/-- What a DirectInput device answers: whether `Poll` succeeds, and the state if `GetDeviceState`
    does. -/
structure DeviceAnswer where
  poll : Bool
  state : Option DIJoyState2
deriving DecidableEq, Repr

/-- What the platform answers to one `poll`, and the clock readings for its states. -/
structure PollAnswers where
  xinput : Vector (Option XInputState) 4 := Vector.replicate 4 none
  dinput : List DeviceAnswer := []
  clk : Nat → UInt64 := fun _ => 0

namespace ControllerReader

/-- The state of an XInput slot: "XInput bits match our enum exactly". -/
def xinputState (raw : XInputState) : GameControllerState :=
  { version := 1
    connected := 1
    buttons := UInt16.ofNat (field raw.toList 4 2)
    leftTrigger := raw[6]
    rightTrigger := raw[7]
    thumbLX := UInt16.ofNat (field raw.toList 8 2)
    thumbLY := UInt16.ofNat (field raw.toList 10 2)
    thumbRX := UInt16.ofNat (field raw.toList 12 2)
    thumbRY := UInt16.ofNat (field raw.toList 14 2) }

/-- `clampI16`, as the 16 bits it is. -/
def clampI16 (v : Int) : UInt16 :=
  UInt16.ofInt (if v < -32768 then -32768 else if 32767 < v then 32767 else v)

/-- A trigger from an axis. -/
def trigger (v : Int) : UInt8 := UInt8.ofInt ((v + 32768) >>> (8 : Nat))

/-- The D-pad of a POV hat, in degrees. -/
def hatButtons (deg : Int) : UInt16 :=
  (if 315 ≤ deg ∨ deg ≤ 45 then DUp else 0) ||| (if 45 ≤ deg ∧ deg ≤ 135 then DRight else 0) |||
    (if 135 ≤ deg ∧ deg ≤ 225 then DDown else 0) ||| (if 225 ≤ deg ∧ deg ≤ 315 then DLeft else 0)

/-- The buttons of the hat; it is -1 while it is centred. -/
def povButtons (pov : UInt32) : UInt16 :=
  if pov ≠ 0xFFFFFFFF then hatButtons ((pov.toInt32.toInt).tdiv 100) else 0

/-- The loop over the first sixteen buttons, which share bits 11 to 14 with the hat. -/
def joyButtons (js : DIJoyState2) : UInt16 :=
  (List.range 16).foldl (fun acc b =>
    if js.buttons.toArray.getD b 0 &&& 0x80 != 0 then acc ||| ((1 : UInt16) <<< UInt16.ofNat b)
    else acc) (povButtons js.pov)

/-- The state of a DirectInput device. -/
def dinputState (js : DIJoyState2) : GameControllerState :=
  { version := 1
    connected := 1
    buttons := joyButtons js
    leftTrigger := trigger js.lRx
    rightTrigger := trigger js.slider
    thumbLX := clampI16 js.lX
    thumbLY := clampI16 js.lY
    thumbRX := clampI16 js.lZ
    thumbRY := clampI16 js.lRz }

/-- The state is only fetched if `Poll` fails; `js` is all zeros before. -/
def deviceState (a : DeviceAnswer) : Option GameControllerState :=
  if a.poll then some (dinputState {}) else a.state.map dinputState

/-- `poll`. -/
def poll (a : PollAnswers) : List GameControllerState :=
  (a.xinput.toList.filterMap (fun raw => raw.map xinputState) ++ a.dinput.filterMap deviceState).mapIdx
    (fun i s => { s with timestampNs := a.clk i })

end ControllerReader

/-! ## The report for ViGEm (`input/VirtualGamepad.cpp`) -/

/-- `XUsbReport`, laid out as `XINPUT_GAMEPAD`. -/
structure XUsbReport where
  wButtons : UInt16
  bLeftTrigger : UInt8
  bRightTrigger : UInt8
  sThumbLX : UInt16
  sThumbLY : UInt16
  sThumbRX : UInt16
  sThumbRY : UInt16
deriving DecidableEq, Repr

/-- The report that `update` makes of a state. -/
def xusbReport (s : GameControllerState) : XUsbReport :=
  { wButtons := s.buttons
    bLeftTrigger := s.leftTrigger
    bRightTrigger := s.rightTrigger
    sThumbLX := s.thumbLX
    sThumbLY := s.thumbLY
    sThumbRX := s.thumbRX
    sThumbRY := s.thumbRY }

/-- The twelve bytes of a report. -/
def XUsbReport.bytes (r : XUsbReport) : Bytes :=
  leBytes 2 r.wButtons.toNat ++ r.bLeftTrigger :: r.bRightTrigger :: (leBytes 2 r.sThumbLX.toNat ++
    leBytes 2 r.sThumbLY.toNat ++ leBytes 2 r.sThumbRX.toNat ++ leBytes 2 r.sThumbRY.toNat)

namespace InputInjector

/-- The report that a call hands to ViGEm for the pad of the player. -/
def reports (playerIndex : UInt8) (j : InputInjector) : InjectorOp → Option XUsbReport
  | .applyInput p data _ =>
      if p = playerIndex ∧ j.pads.hasPlayer p && j.pads.client then
        (j.reportsPad p data).map xusbReport
      else none
  | _ => none

end InputInjector

namespace ControllerReader

/-! ## What a poll reports -/

/-- A DirectInput device whose `Poll` succeeds shows the same whatever it does: its state is not
    fetched. -/
example (js js' : Option DIJoyState2) : deviceState ⟨true, js⟩ = deviceState ⟨true, js'⟩ := rfl

theorem deviceState_connected {a : DeviceAnswer} {s : GameControllerState}
    (h : deviceState a = some s) : s.version = 1 ∧ s.connected = 1 := by
  unfold deviceState at h
  split at h
  · rw [← Option.some.inj h]
    exact ⟨rfl, rfl⟩
  · obtain ⟨js, -, rfl⟩ := Option.map_eq_some_iff.1 h
    exact ⟨rfl, rfl⟩

/-- Every state of a poll is of a connected controller. -/
theorem mem_poll {a : PollAnswers} {s : GameControllerState} (h : s ∈ poll a) :
    s.version = 1 ∧ s.connected = 1 := by
  have hstates : ∀ state ∈ a.xinput.toList.filterMap (fun raw => raw.map xinputState) ++
      a.dinput.filterMap deviceState, state.version = 1 ∧ state.connected = 1 := by
    intro state hmem
    rcases List.mem_append.1 hmem with hxinput | hdinput
    · obtain ⟨raw, -, hraw⟩ := List.mem_filterMap.1 hxinput
      obtain ⟨bytes, -, rfl⟩ := Option.map_eq_some_iff.1 hraw
      exact ⟨rfl, rfl⟩
    · obtain ⟨answer, -, hanswer⟩ := List.mem_filterMap.1 hdinput
      exact deviceState_connected hanswer
  obtain ⟨i, hi, rfl⟩ := List.mem_mapIdx.1 h
  have hstate := hstates _ (List.getElem_mem hi)
  exact ⟨hstate.1, hstate.2⟩

/-- The hat never presses two opposite directions. -/
theorem hatButtons_opposite (deg : Int) :
    ¬ (hatButtons deg &&& DUp ≠ 0 ∧ hatButtons deg &&& DDown ≠ 0) ∧
      ¬ (hatButtons deg &&& DLeft ≠ 0 ∧ hatButtons deg &&& DRight ≠ 0) := by
  unfold hatButtons
  by_cases hup : 315 ≤ deg ∨ deg ≤ 45 <;> by_cases hright : 45 ≤ deg ∧ deg ≤ 135 <;>
    by_cases hdown : 135 ≤ deg ∧ deg ≤ 225 <;> by_cases hleft : 225 ≤ deg ∧ deg ≤ 315
  all_goals first
    | (exfalso; omega)
    | (simp only [hup, hright, hdown, hleft, if_true, if_false]; decide)

theorem leBytes_field (l : Bytes) (off : Nat) (h : off + 2 ≤ l.length) :
    leBytes 2 (UInt16.ofNat (field l off 2)).toNat = (l.drop off).take 2 := by
  have hlength : ((l.drop off).take 2).length = 2 := by
    rw [List.length_take, List.length_drop]
    omega
  have hlt := leVal_lt ((l.drop off).take 2)
  rw [hlength] at hlt
  have hvalue : (UInt16.ofNat (field l off 2)).toNat = leVal ((l.drop off).take 2) :=
    UInt16.toNat_ofNat_of_lt hlt
  have hbytes := leBytes_leVal ((l.drop off).take 2)
  rw [hlength] at hbytes
  rw [hvalue, hbytes]

/-- **What a slot of XInput shows is what the virtual pad is given**, byte for byte. -/
theorem bytes_xusbReport_xinputState (raw : XInputState) :
    (xusbReport (xinputState raw)).bytes = raw.toList.drop 4 := by
  have hlength : raw.toList.length = 16 := raw.length_toList
  have hbyte : ∀ i, (h : i < 16) → raw.toList.drop i = raw[i] :: raw.toList.drop (i + 1) := by
    intro i h
    rw [List.drop_eq_getElem_cons (by omega), Vector.getElem_toList]
  have htwo : ∀ i, raw.toList.drop i = (raw.toList.drop i).take 2 ++ raw.toList.drop (i + 2) := by
    intro i
    rw [← List.drop_drop, List.take_append_drop]
  have hend : raw.toList.drop 16 = [] := List.drop_eq_nil_of_le (by omega)
  have hdrop : raw.toList.drop 4 = (raw.toList.drop 4).take 2 ++ raw[6] :: raw[7] ::
      ((raw.toList.drop 8).take 2 ++ ((raw.toList.drop 10).take 2 ++
        ((raw.toList.drop 12).take 2 ++ (raw.toList.drop 14).take 2))) := by
    conv => lhs; rw [htwo 4, hbyte 6 (by omega), hbyte 7 (by omega), htwo 8, htwo 10, htwo 12, htwo 14,
      hend, List.append_nil]
  unfold XUsbReport.bytes xusbReport xinputState
  dsimp only
  rw [leBytes_field _ 4 (by omega), leBytes_field _ 8 (by omega), leBytes_field _ 10 (by omega),
    leBytes_field _ 12 (by omega), leBytes_field _ 14 (by omega), List.append_assoc,
    List.append_assoc, ← hdrop]

end ControllerReader

end RemotePlay.Input
