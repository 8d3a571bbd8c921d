import RemotePlay.Host.HostSession

set_option autoImplicit false

/-! # The host facade (`host/HostApp.cpp`)

`HostApp` turns the user's settings into the parameters of a `HostSession` and owns that session:
until `start` has succeeded there is none, and every call that forwards to it does nothing. -/

namespace RemotePlay.Host

def kDefaultListenPort : UInt16 := 41717

/-- `HostLaunchSettings`, without what only the capture and the audio pipeline read. -/
structure HostLaunchSettings where
  hostName : Bytes := ascii "Host"
  gameName : Bytes := []
  captureMode : CaptureMode := .Window
  resolution : Resolution := {}
  fps : UInt32 := 60
  bitrateKbps : UInt32 := 8000
  codec : VideoCodec := .H264
  listenPort : UInt16 := kDefaultListenPort
  requireApproval : Bool := true
  inputDefaults : InputPermissions := {}
  maxClients : Nat := kMaxClients
deriving DecidableEq, Repr

/-! ## Settings from the configuration -/

/-- `config::Config`, the fields `settingsFromConfig` reads. The integers are C++ `int`s:
    `Config::sanitize` brings them into range, but the type does not. -/
structure Config where
  codec : VideoCodec := .H264
  resolution : Resolution := {}
  fps : Int32 := 60
  bitrateMbps : Int32 := 8
  controller : Bool := true
  keyboard : Bool := false
  mouse : Bool := false
  vibration : Bool := true
  requireHostApproval : Bool := true
  maxBitrateMbps : Int32 := 15
  listenPort : Int32 := 41717
deriving DecidableEq, Repr

/-- `HostApp::settingsFromConfig`; the products are 32-bit unsigned. -/
def settingsFromConfig (cfg : Config) : HostLaunchSettings :=
  let bitrate := cfg.bitrateMbps.toUInt32 * 1000
  let cap := cfg.maxBitrateMbps.toUInt32 * 1000
  { captureMode := .Window
    resolution := cfg.resolution
    fps := cfg.fps.toUInt32
    bitrateKbps := if cap < bitrate then cap else bitrate
    codec := cfg.codec
    listenPort := cfg.listenPort.toUInt32.toUInt16
    requireApproval := cfg.requireHostApproval
    inputDefaults :=
      { controller := cfg.controller
        keyboard := cfg.keyboard
        mouse := cfg.mouse
        vibration := cfg.vibration }
    maxClients := kMaxClients }

/-- `hostDisplayName`, for the name of the logged-in user. -/
def hostDisplayName (userName : Bytes) : Bytes :=
  if userName.isEmpty then ascii "Host PC" else userName ++ ascii "'s PC"

/-- The parameters `HostApp::start` makes of the settings. -/
def sessionParams (userName : Bytes) (settings : HostLaunchSettings) : HostSessionParams :=
  { hostName := hostDisplayName userName
    gameName := settings.gameName
    captureMode := settings.captureMode
    resolution := settings.resolution
    fps := settings.fps
    bitrateKbps := settings.bitrateKbps
    preferredCodec := settings.codec
    autoApprove := !settings.requireApproval
    inputDefaults := settings.inputDefaults
    maxClients := settings.maxClients }

/-- What the machine gives a start: the user's name, random readings, and the ports that can be
    bound, `bind port` being the port a listener on `port` gets. -/
structure LaunchMachine where
  userName : Bytes := []
  random : Nat → UInt32 := fun _ => 0
  bind : UInt16 → Option UInt16 := some

/-- `HostSession::start`: the configured port, or any other one. -/
def HostSession.start (m : LaunchMachine) (params : HostSessionParams) (listenPort : UInt16)
    (appHandler : Bool) : Option (HostSession × UInt16) :=
  let session := HostSession.started params (Security.generateSessionCode m.random) appHandler
  match (m.bind listenPort).or (m.bind 0) with
  | none => none
  | some port => some (session, port)

theorem HostSession.start_eq_some {m : LaunchMachine} {params : HostSessionParams}
    {listenPort port : UInt16} {appHandler : Bool} {session : HostSession}
    (h : HostSession.start m params listenPort appHandler = some (session, port)) :
    session = HostSession.started params (Security.generateSessionCode m.random) appHandler := by
  unfold HostSession.start at h
  dsimp only at h
  split at h
  · cases h
  · exact (Prod.mk.inj (Option.some.inj h)).1.symm

/-- `HostApp`; `appHandler` says whether `setEvents` was given an `onAppMessage`. -/
structure HostApp where
  appHandler : Bool := false
  session : Option HostSession := none
  boundPort : UInt16 := 0

namespace HostApp

def setEvents (a : HostApp) : HostApp := { a with appHandler := true }

/-- `HostApp::stop`. -/
def stop (a : HostApp) : HostApp := { a with session := none }

/-- `HostApp::start`. -/
def start (a : HostApp) (m : LaunchMachine) (settings : HostLaunchSettings) : HostApp × Bool :=
  let a := a.stop
  match HostSession.start m (sessionParams m.userName settings) settings.listenPort
      a.appHandler with
  | none => (a, false)
  | some (session, port) => ({ a with session := some session, boundPort := port }, true)

/-- `HostApp::hosting`. -/
def hosting (a : HostApp) : Bool := a.session.any HostSession.running

/-- `HostApp::sessionCode`. -/
def sessionCode (a : HostApp) : Bytes := (a.session.map HostSession.sessionCode).getD []

/-- `HostApp::port`. -/
def port (a : HostApp) : UInt16 := if a.session.isSome then a.boundPort else 0

/-- A start that succeeds leaves a session running under a generated code. -/
theorem start_session (a : HostApp) (m : LaunchMachine) (settings : HostLaunchSettings)
    (h : (a.start m settings).2 = true) :
    ∃ session, (a.start m settings).1.session = some session ∧ session.running = true ∧
      session.sessionCode = Security.generateSessionCode m.random := by
  unfold start at h ⊢
  dsimp only at h ⊢
  split at h
  · cases h
  · next session port hstart =>
      exact ⟨session, rfl, by rw [HostSession.start_eq_some hstart]; rfl,
        by rw [HostSession.start_eq_some hstart]; rfl⟩

end HostApp

end RemotePlay.Host
