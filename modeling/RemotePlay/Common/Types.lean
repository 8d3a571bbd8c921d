import RemotePlay.Lib.Decimal

set_option autoImplicit false

/-! # Shared value types (`common/Types.h`, `common/Types.cpp`)

`std::string` is a byte string here, so that a wire round trip and a code comparison are about the
same bytes. An `enum class` with a fixed underlying type is the wrapped integer: `static_cast` from
a wire byte produces values outside the named ones, and the code never filters them. -/

namespace RemotePlay

/-- The bytes of an ASCII literal of the source. -/
def ascii (s : String) : Bytes := s.toList.map Char.toUInt8

/-- `common::ConnectionState`. -/
inductive ConnectionState where
  | Connecting
  | Authenticating
  | Connected
  | Streaming
  | Disconnected
deriving DecidableEq, Repr

/-- `common::VideoCodec`, an `enum class : uint8_t`. -/
structure VideoCodec where
  code : UInt8
deriving DecidableEq, Repr

namespace VideoCodec

def H264 : VideoCodec := ⟨0⟩

def Hevc : VideoCodec := ⟨1⟩

def Av1 : VideoCodec := ⟨2⟩

end VideoCodec

/-- `common::videoCodecString`. -/
def videoCodecString (c : VideoCodec) : Bytes :=
  if c = .H264 then ascii "H.264"
  else if c = .Hevc then ascii "HEVC"
  else if c = .Av1 then ascii "AV1"
  else ascii "UNKNOWN"

/-- `std::tolower` in the C locale. -/
def toLower (ch : UInt8) : UInt8 := if 0x41 ≤ ch ∧ ch ≤ 0x5A then ch + 0x20 else ch

/-- `common::videoCodecFromString`. -/
def videoCodecFromString (name : Bytes) : Option VideoCodec :=
  let n := name.map toLower
  if n = ascii "h264" ∨ n = ascii "h.264" ∨ n = ascii "avc" then some .H264
  else if n = ascii "hevc" ∨ n = ascii "h265" ∨ n = ascii "h.265" then some .Hevc
  else if n = ascii "av1" then some .Av1
  else none

/-- `common::CaptureMode`, an `enum class : uint8_t`. -/
structure CaptureMode where
  code : UInt8
deriving DecidableEq, Repr

namespace CaptureMode

def Window : CaptureMode := ⟨0⟩

def Monitor : CaptureMode := ⟨1⟩

end CaptureMode

/-- `common::Resolution`. -/
structure Resolution where
  width : UInt32 := 1920
  height : UInt32 := 1080
deriving DecidableEq, Repr

namespace Resolution

/-- `Resolution::toString`. -/
def toText (r : Resolution) : Bytes := decimal r.width.toNat ++ ascii "x" ++ decimal r.height.toNat

/-- `std::isspace` in the C locale. -/
def isSpace (ch : UInt8) : Bool := decide (ch = 0x20) || decide (0x09 ≤ ch) && decide (ch ≤ 0x0D)

/-- `std::strtoul` on a string of digits; too large a value gives `ULONG_MAX`. -/
def strtoul (digits : Bytes) : Nat := min (decimalValue digits) (2 ^ 32 - 1)

/-- The loops of `parse` up to the search for the `x`. -/
def cleaned (text : Bytes) : Bytes :=
  (text.filter (fun ch => !isSpace ch)).map
    (fun ch => if ch = 0x58 ∨ ch = 0x2A ∨ ch = 0x78 then 0x78 else ch)

/-- `Resolution::parse`. -/
def parse (text : Bytes) : Option Resolution :=
  let cleaned := cleaned text
  if 0x78 ∉ cleaned then none
  else
    let w := cleaned.takeWhile (· != 0x78)
    let h := (cleaned.dropWhile (· != 0x78)).drop 1
    if w.isEmpty || h.isEmpty then none
    else if !w.all isDigit then none
    else if !h.all isDigit then none
    else
      let ww := strtoul w
      let hh := strtoul h
      if ww < 320 ∨ 8192 < ww ∨ hh < 240 ∨ 8192 < hh then none
      else some { width := UInt32.ofNat ww, height := UInt32.ofNat hh }

end Resolution

/-- `common::fpsPresets`. -/
def fpsPresets : List Int := [30, 60, 120]

/-- `common::AudioCodec`: the enum has one value. -/
inductive AudioCodec where
  | Opus
deriving DecidableEq, Repr

/-- `common::InputPermissions`; keyboard and mouse default to off. -/
structure InputPermissions where
  controller : Bool := true
  keyboard : Bool := false
  mouse : Bool := false
  vibration : Bool := true
deriving DecidableEq, Repr

/-- `InputPermissions::allDisabled`. -/
def InputPermissions.allDisabled (p : InputPermissions) : Bool :=
  !p.controller && !p.keyboard && !p.mouse

/-- `kDefaultListenPort` of `common/Version.h`. -/
def kDefaultListenPort : Int := 41717

/-- `kMaxClients` of `common/Version.h`. -/
def kMaxClients : Nat := 4

/-- `kAppVersion` of `common/Version.h`. -/
def kAppVersion : Bytes := ascii "0.1.1"

end RemotePlay
