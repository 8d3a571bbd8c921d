import RemotePlay.Common.Json

set_option autoImplicit false

/-! # The configuration file (`common/Config.cpp`)

`load` reads a JSON document field by field, each with a default and a range of its own, and
sanitizes the result; `save` prints a document to a file that it has opened with truncation. An `int`
is an `Int` here: what is stored in one has been clamped before. Log lines are left out. -/

namespace RemotePlay

/-! ## Reading fields -/

namespace Json

/-- `std::clamp`, and the comparisons of `clampInt`. -/
def clamp (n lo hi : Int) : Int := if n < lo then lo else if hi < n then hi else n

/-- `clampInt`. -/
def clampInt (j : Json) (key : String) (dflt lo hi : Int) : Int :=
  match j.find? key with
  | some (.integer n) => clamp (toLongLong n) lo hi
  | _ => dflt

/-- `boolOr`. -/
def boolOr (j : Json) (key : String) (dflt : Bool) : Bool :=
  match j.find? key with
  | some (.boolean b) => b
  | _ => dflt

/-- `stringOr`. -/
def stringOr (j : Json) (key : String) (dflt : Bytes) : Bytes :=
  match j.find? key with
  | some (.string s) => s
  | _ => dflt

/-- A section of the document, or an empty object if it is missing. -/
def section? (root : Json) (key : String) : Json := (root.find? key).getD (.object [])

end Json

namespace Configuration

/-! ## The settings -/

structure VideoSettings where
  codec : VideoCodec := .H264
  resolution : Resolution := {}
  fps : Int := 60
  bitrateMbps : Int := 8
deriving DecidableEq, Repr

structure AudioSettings where
  codec : AudioCodec := .Opus
  bitrateKbps : Int := 128
deriving DecidableEq, Repr

structure InputSettings where
  controller : Bool := true
  keyboard : Bool := false
  mouse : Bool := false
  vibration : Bool := true
  requireHostApproval : Bool := true
deriving DecidableEq, Repr

structure NetworkSettings where
  maxBitrateMbps : Int := 15
  jitterBufferMs : Int := 30
  listenPort : Int := 41717
  relayEnabled : Bool := false
deriving DecidableEq, Repr

structure ProfileSettings where
  name : Bytes := []
deriving DecidableEq, Repr

/-- `config::Config`. -/
structure Config where
  video : VideoSettings := {}
  audio : AudioSettings := {}
  input : InputSettings := {}
  network : NetworkSettings := {}
  profile : ProfileSettings := {}
deriving DecidableEq, Repr

/-! ## Reading and printing -/

namespace Config

/-- `Config::sanitize`. -/
def sanitize (c : Config) : Config :=
  { c with
    video := { c.video with
      fps := if c.video.fps ∈ fpsPresets then c.video.fps else 60
      bitrateMbps := Json.clamp c.video.bitrateMbps 2 50
      resolution :=
        if c.video.resolution.width < 320 ∨ 8192 < c.video.resolution.width ∨
            c.video.resolution.height < 240 ∨ 8192 < c.video.resolution.height then
          { width := 1920, height := 1080 }
        else c.video.resolution }
    audio := { c.audio with
      bitrateKbps := if c.audio.bitrateKbps ∈ [64, 96, 128, 192] then c.audio.bitrateKbps else 128 }
    network := { c.network with
      maxBitrateMbps := Json.clamp c.network.maxBitrateMbps 2 50
      jitterBufferMs := Json.clamp c.network.jitterBufferMs 10 200
      listenPort := Json.clamp c.network.listenPort 1 65535 } }

/-- The longest profile name, in bytes. -/
def nameLimit : Nat := 32

/-- What `load` keeps of a profile name. -/
def cutName (name : Bytes) : Bytes := if nameLimit < name.length then name.take nameLimit else name

/-- The profile name of a document. -/
def nameIn (root : Json) : Bytes := (root.section? "profile").stringOr "name" []

/-- The fields of a document, before they are sanitized. -/
def read (root : Json) : Config :=
  let video := root.section? "video"
  let audio := root.section? "audio"
  let input := root.section? "input"
  let network := root.section? "network"
  { video :=
      { codec := (videoCodecFromString (video.stringOr "codec" (ascii "h264"))).getD .H264
        resolution :=
          (Resolution.parse (video.stringOr "resolution" (ascii "1920x1080"))).getD
            { width := 1920, height := 1080 }
        fps := video.clampInt "fps" 60 1 1000
        bitrateMbps := video.clampInt "bitrateMbps" 8 2 50 }
    audio :=
      -- any other audio codec than "opus" only gives a warning
      { codec := .Opus
        bitrateKbps := audio.clampInt "bitrateKbps" 128 32 512 }
    input :=
      { controller := input.boolOr "controller" true
        keyboard := input.boolOr "keyboard" false
        mouse := input.boolOr "mouse" false
        vibration := input.boolOr "vibration" true
        requireHostApproval := input.boolOr "requireHostApproval" true }
    network :=
      { maxBitrateMbps := network.clampInt "maxBitrateMbps" 15 2 50
        jitterBufferMs := network.clampInt "jitterBufferMs" 30 10 200
        listenPort := network.clampInt "listenPort" kDefaultListenPort 1 65535
        relayEnabled := network.boolOr "relayEnabled" false }
    profile := { name := cutName (nameIn root) } }

/-- The document that `save` prints; an object is a map, in the order of its keys. -/
def toJson (c : Config) : Json :=
  .object
    [("audio", .object
        [("bitrateKbps", .integer c.audio.bitrateKbps), ("codec", .string (ascii "opus"))]),
      ("input", .object
        [("controller", .boolean c.input.controller), ("keyboard", .boolean c.input.keyboard),
          ("mouse", .boolean c.input.mouse),
          ("requireHostApproval", .boolean c.input.requireHostApproval),
          ("vibration", .boolean c.input.vibration)]),
      ("network", .object
        [("jitterBufferMs", .integer c.network.jitterBufferMs),
          ("listenPort", .integer c.network.listenPort),
          ("maxBitrateMbps", .integer c.network.maxBitrateMbps),
          ("relayEnabled", .boolean c.network.relayEnabled)]),
      ("profile", .object [("name", .string c.profile.name)]),
      ("video", .object
        [("bitrateMbps", .integer c.video.bitrateMbps),
          ("codec", .string (videoCodecString c.video.codec)), ("fps", .integer c.video.fps),
          ("resolution", .string c.video.resolution.toText)])]

end Config

/-! ## The file -/

/-- What there is at the path. -/
inductive ConfigFile where
  | missing
  | unreadable
  | text (content : Bytes)
deriving DecidableEq, Repr

/-- How far `save` gets on the disk. -/
inductive SaveDisk where
  /-- `create_directories` fails. -/
  | noDirectory
  | cannotOpen
  /-- The stream fails, with `stored` in the file. -/
  | fails (stored : Bytes)
  /-- The stream takes the document into its buffer and fails when it is closed, which nobody sees. -/
  | failsAtClose (stored : Bytes)
  | writes
deriving DecidableEq, Repr

inductive SaveResult where
  | returned (ok : Bool)
  /-- The exception of `dump`. -/
  | threw
deriving DecidableEq, Repr

namespace Config

/-- `Config::load`; only a `parse_error` is caught. -/
def load (n : Nlohmann) : ConfigFile → Option Config
  | .missing => some {}
  | .unreadable => some {}
  | .text content =>
      match n.parse content with
      | .parseError => some {}
      | .outOfRange => none
      | .value root => if !root.isObject then some {} else some (read root).sanitize

/-- `Config::save`, and what there is at the path afterwards. The stream is opened with `trunc` before
    the document is printed, and it is closed after `good` was asked. -/
def save (n : Nlohmann) (c : Config) (disk : SaveDisk) (file : ConfigFile) :
    SaveResult × ConfigFile :=
  match disk with
  | .noDirectory => (.returned false, file)
  | .cannotOpen => (.returned false, file)
  | .fails stored =>
      match n.dump c.toJson with
      | none => (.threw, .text [])
      | some _ => (.returned false, .text stored)
  | .failsAtClose stored =>
      match n.dump c.toJson with
      | none => (.threw, .text [])
      | some _ => (.returned true, .text stored)
  | .writes =>
      match n.dump c.toJson with
      | none => (.threw, .text [])
      | some text => (.returned true, .text (text ++ ascii "\n"))

end Config

end Configuration

end RemotePlay
