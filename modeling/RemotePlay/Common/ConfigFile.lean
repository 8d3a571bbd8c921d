import RemotePlay.Common.Config

set_option autoImplicit false

/-! # Loading what was saved

What `load` returns is in the ranges of `sanitize`, whatever the document, but `load` returns nothing
for a number that no double holds: the library throws `out_of_range` then, and only a `parse_error` is
caught. A configuration in these ranges comes back from the document that `save` prints, if its name
is short enough for `load` (`config_round_trip`).

`load` cuts a long name after 32 bytes, and `save` prints after it has emptied the file: a name that
is cut inside a character cannot be printed, and the settings are lost (`save_keeps_settings_iff`). -/

namespace RemotePlay

/-! ## Clamping -/

namespace Json

theorem clamp_eq_self {n lo hi : Int} (hlo : lo ≤ n) (hhi : n ≤ hi) : clamp n lo hi = n := by
  rw [clamp, if_neg (Int.not_lt.2 hlo), if_neg (Int.not_lt.2 hhi)]

theorem clamp_mem {lo hi : Int} (h : lo ≤ hi) (n : Int) : lo ≤ clamp n lo hi ∧ clamp n lo hi ≤ hi := by
  unfold clamp
  split
  · exact ⟨Int.le_refl lo, h⟩
  split
  · exact ⟨h, Int.le_refl hi⟩
  · next hlo hhi => exact ⟨Int.not_lt.1 hlo, Int.not_lt.1 hhi⟩

theorem toLongLong_eq_self {n : Int} (hlo : 0 ≤ n) (hhi : n ≤ 65535) : toLongLong n = n := by
  rw [toLongLong, Int.bmod_def, Int.emod_eq_of_lt hlo (by omega), if_pos (by omega)]

end Json

/-! ## Codecs and resolutions -/

theorem videoCodecFromString_videoCodecString {c : VideoCodec}
    (h : c ∈ [VideoCodec.H264, .Hevc, .Av1]) :
    videoCodecFromString (videoCodecString c) = some c := by
  have hall : ∀ c ∈ [VideoCodec.H264, .Hevc, .Av1],
      videoCodecFromString (videoCodecString c) = some c := by decide +kernel
  exact hall c h

namespace Resolution

/-- What `parse` looks for in a byte leaves digits alone. -/
theorem digit_clean {b : UInt8} (h : isDigit b = true) :
    isSpace b = false ∧ (if b = 0x58 ∨ b = 0x2A ∨ b = 0x78 then 0x78 else b) = b ∧ b ≠ 0x78 := by
  have hall : ∀ n < 256, isDigit (UInt8.ofNat n) = true →
      isSpace (UInt8.ofNat n) = false ∧
        (if UInt8.ofNat n = 0x58 ∨ UInt8.ofNat n = 0x2A ∨ UInt8.ofNat n = 0x78 then 0x78
          else UInt8.ofNat n) = UInt8.ofNat n ∧ UInt8.ofNat n ≠ 0x78 := by
    decide +kernel
  have hb := hall b.toNat b.toNat_lt
  rw [UInt8.ofNat_toNat] at hb
  exact hb h

theorem cleaned_toText (r : Resolution) : cleaned r.toText = r.toText := by
  have hbytes : ∀ b ∈ r.toText, isDigit b = true ∨ b = 0x78 := by
    intro b hb
    rcases List.mem_append.1 hb with hb | hb
    · rcases List.mem_append.1 hb with hb | hb
      · exact .inl (isDigit_decimal _ b hb)
      · exact .inr (List.mem_singleton.1 hb)
    · exact .inl (isDigit_decimal _ b hb)
  have hkept : r.toText.filter (fun ch => !isSpace ch) = r.toText := by
    rw [List.filter_eq_self]
    intro b hb
    rcases hbytes b hb with hdigit | rfl
    · rw [(digit_clean hdigit).1]
      rfl
    · rfl
  have hsame : ∀ b ∈ r.toText, (if b = 0x58 ∨ b = 0x2A ∨ b = 0x78 then 0x78 else b) = id b := by
    intro b hb
    rcases hbytes b hb with hdigit | rfl
    · exact (digit_clean hdigit).2.1
    · rfl
  rw [cleaned, hkept, List.map_congr_left hsame, List.map_id]

theorem strtoul_decimal {n : Nat} (h : n ≤ 8192) : strtoul (decimal n) = n := by
  rw [strtoul, decimalValue_decimal]
  exact Nat.min_eq_left (Nat.le_trans h (by decide))

/-- **A resolution in the range survives printing.** -/
theorem parse_toText {r : Resolution} (hwidth : 320 ≤ r.width ∧ r.width ≤ 8192)
    (hheight : 240 ≤ r.height ∧ r.height ≤ 8192) : parse r.toText = some r := by
  have hsplit : r.toText = decimal r.width.toNat ++ 0x78 :: decimal r.height.toNat := by
    rw [toText, List.append_assoc]
    rfl
  have hdigits : ∀ n, ∀ b ∈ decimal n, (b != 0x78) = true := by
    intro n b hb
    have hne := (digit_clean (isDigit_decimal n b hb)).2.2
    simp [hne]
  have hall : ∀ n, (decimal n).all isDigit = true := fun n => List.all_eq_true.2 (isDigit_decimal n)
  have hw : r.width.toNat ≤ 8192 := UInt32.le_iff_toNat_le.1 hwidth.2
  have hh : r.height.toNat ≤ 8192 := UInt32.le_iff_toNat_le.1 hheight.2
  have hw' : 320 ≤ r.width.toNat := UInt32.le_iff_toNat_le.1 hwidth.1
  have hh' : 240 ≤ r.height.toNat := UInt32.le_iff_toNat_le.1 hheight.1
  have hnonempty : ∀ n, (decimal n).isEmpty = false := by
    intro n
    rw [List.isEmpty_eq_false_iff]
    exact decimal_ne_nil n
  unfold parse
  dsimp only
  rw [cleaned_toText, hsplit, if_neg (by simp),
    List.takeWhile_append_of_pos (hdigits _), List.dropWhile_append_of_pos (hdigits _)]
  simp only [List.takeWhile_cons, List.dropWhile_cons, bne_self_eq_false, Bool.false_eq_true, if_false,
    List.append_nil, List.drop_succ_cons, List.drop_zero, hnonempty, hall, Bool.not_true, Bool.or_self,
    strtoul_decimal hw, strtoul_decimal hh]
  rw [if_neg (by omega), UInt32.ofNat_toNat, UInt32.ofNat_toNat]

end Resolution

namespace Configuration

/-! ## Ranges -/

namespace Config

/-- The documented ranges. -/
structure InRange (c : Config) : Prop where
  fps : c.video.fps ∈ fpsPresets
  bitrate : 2 ≤ c.video.bitrateMbps ∧ c.video.bitrateMbps ≤ 50
  width : 320 ≤ c.video.resolution.width ∧ c.video.resolution.width ≤ 8192
  height : 240 ≤ c.video.resolution.height ∧ c.video.resolution.height ≤ 8192
  audio : c.audio.bitrateKbps ∈ [64, 96, 128, 192]
  maxBitrate : 2 ≤ c.network.maxBitrateMbps ∧ c.network.maxBitrateMbps ≤ 50
  jitter : 10 ≤ c.network.jitterBufferMs ∧ c.network.jitterBufferMs ≤ 200
  port : 1 ≤ c.network.listenPort ∧ c.network.listenPort ≤ 65535

theorem inRange_sanitize (c : Config) : c.sanitize.InRange where
  fps := by
    show (if c.video.fps ∈ fpsPresets then c.video.fps else 60) ∈ fpsPresets
    split
    · next h => exact h
    · decide
  bitrate := Json.clamp_mem (by decide) _
  width := by
    unfold sanitize
    dsimp only
    split
    · decide
    · next h =>
        simp only [not_or, UInt32.not_lt] at h
        exact ⟨h.1, h.2.1⟩
  height := by
    unfold sanitize
    dsimp only
    split
    · decide
    · next h =>
        simp only [not_or, UInt32.not_lt] at h
        exact ⟨h.2.2.1, h.2.2.2⟩
  audio := by
    show (if c.audio.bitrateKbps ∈ [64, 96, 128, 192] then c.audio.bitrateKbps else 128)
      ∈ [64, 96, 128, 192]
    split
    · next h => exact h
    · decide
  maxBitrate := Json.clamp_mem (by decide) _
  jitter := Json.clamp_mem (by decide) _
  port := Json.clamp_mem (by decide) _

theorem InRange.sanitize {c : Config} (h : c.InRange) : c.sanitize = c := by
  have hresolution : ¬ (c.video.resolution.width < 320 ∨ 8192 < c.video.resolution.width ∨
      c.video.resolution.height < 240 ∨ 8192 < c.video.resolution.height) := by
    rw [not_or, not_or, not_or, UInt32.not_lt, UInt32.not_lt, UInt32.not_lt, UInt32.not_lt]
    exact ⟨h.width.1, h.width.2, h.height.1, h.height.2⟩
  unfold Config.sanitize
  rw [if_pos h.fps, if_pos h.audio, if_neg hresolution,
    Json.clamp_eq_self h.bitrate.1 h.bitrate.2, Json.clamp_eq_self h.maxBitrate.1 h.maxBitrate.2,
    Json.clamp_eq_self h.jitter.1 h.jitter.2, Json.clamp_eq_self h.port.1 h.port.2]

theorem inRange_iff (c : Config) : c.InRange ↔ c.sanitize = c :=
  ⟨InRange.sanitize, fun h => h ▸ c.inRange_sanitize⟩

theorem sanitize_sanitize (c : Config) : c.sanitize.sanitize = c.sanitize :=
  c.inRange_sanitize.sanitize

/-! ## Printing and reading back -/

theorem clamp_saved {n lo hi : Int} (h : lo ≤ n ∧ n ≤ hi) (hlo : 0 ≤ n) (hhi : n ≤ 65535) :
    Json.clamp (Json.toLongLong n) lo hi = n := by
  rw [Json.toLongLong_eq_self hlo hhi, Json.clamp_eq_self h.1 h.2]

/-- **What `save` prints is read back**, with the name cut. -/
theorem read_toJson {c : Config} (h : c.InRange)
    (hcodec : c.video.codec ∈ [VideoCodec.H264, .Hevc, .Av1]) :
    read c.toJson = { c with profile := { name := cutName c.profile.name } } := by
  have hfields : read c.toJson =
      { video :=
          { codec := (videoCodecFromString (videoCodecString c.video.codec)).getD .H264
            resolution :=
              (Resolution.parse c.video.resolution.toText).getD { width := 1920, height := 1080 }
            fps := Json.clamp (Json.toLongLong c.video.fps) 1 1000
            bitrateMbps := Json.clamp (Json.toLongLong c.video.bitrateMbps) 2 50 }
        audio :=
          { codec := .Opus
            bitrateKbps := Json.clamp (Json.toLongLong c.audio.bitrateKbps) 32 512 }
        input := c.input
        network :=
          { maxBitrateMbps := Json.clamp (Json.toLongLong c.network.maxBitrateMbps) 2 50
            jitterBufferMs := Json.clamp (Json.toLongLong c.network.jitterBufferMs) 10 200
            listenPort := Json.clamp (Json.toLongLong c.network.listenPort) 1 65535
            relayEnabled := c.network.relayEnabled }
        profile := { name := cutName c.profile.name } } := rfl
  have hfps : c.video.fps = 30 ∨ c.video.fps = 60 ∨ c.video.fps = 120 := by
    simpa [fpsPresets] using h.fps
  have haudio : c.audio.bitrateKbps = 64 ∨ c.audio.bitrateKbps = 96 ∨
      c.audio.bitrateKbps = 128 ∨ c.audio.bitrateKbps = 192 := by
    simpa using h.audio
  have hbitrate := h.bitrate
  have hmaxBitrate := h.maxBitrate
  have hjitter := h.jitter
  have hport := h.port
  rw [hfields, videoCodecFromString_videoCodecString hcodec,
    Resolution.parse_toText h.width h.height, clamp_saved (n := c.video.fps) (by omega) (by omega)
      (by omega), clamp_saved hbitrate (by omega) (by omega),
    clamp_saved (n := c.audio.bitrateKbps) (by omega) (by omega) (by omega),
    clamp_saved hmaxBitrate (by omega) (by omega), clamp_saved hjitter (by omega) (by omega),
    clamp_saved hport (by omega) (by omega)]
  rfl

theorem cutName_of_le {name : Bytes} (h : name.length ≤ nameLimit) : cutName name = name :=
  if_neg (Nat.not_lt.2 h)

theorem length_cutName (name : Bytes) : (cutName name).length ≤ nameLimit := by
  unfold cutName
  split
  · rw [List.length_take]
    exact Nat.min_le_left _ _
  · next h => exact Nat.not_lt.1 h

/-! ## The document can be printed -/

theorem digit_lt {b : UInt8} (h : isDigit b = true) : b < 0x80 := by
  rw [isDigit, Bool.and_eq_true, decide_eq_true_eq, decide_eq_true_eq] at h
  exact UInt8.lt_of_le_of_lt h.2 (by decide)

theorem validUtf8_toText (r : Resolution) : validUtf8 r.toText = true := by
  refine validUtf8_of_ascii (fun b hb => ?_)
  rcases List.mem_append.1 hb with hb | hb
  · rcases List.mem_append.1 hb with hb | hb
    · exact digit_lt (isDigit_decimal _ b hb)
    · rw [List.mem_singleton.1 hb]
      decide
  · exact digit_lt (isDigit_decimal _ b hb)

theorem validUtf8_videoCodecString (c : VideoCodec) : validUtf8 (videoCodecString c) = true := by
  unfold videoCodecString
  split
  · decide +kernel
  split
  · decide +kernel
  split
  · decide +kernel
  · decide +kernel

/-- Whether it can be printed is up to the name. -/
theorem strings_toJson (c : Config) :
    (∀ s ∈ c.toJson.strings, validUtf8 s = true) ↔ validUtf8 c.profile.name = true := by
  have hstrings : c.toJson.strings = [ascii "opus", c.profile.name, videoCodecString c.video.codec,
      c.video.resolution.toText] := rfl
  rw [hstrings]
  constructor
  · intro hall
    exact hall _ (by simp)
  · intro hname s hs
    simp only [List.mem_cons, List.not_mem_nil, or_false] at hs
    rcases hs with rfl | rfl | rfl | rfl
    · decide +kernel
    · exact hname
    · exact validUtf8_videoCodecString _
    · exact validUtf8_toText _

/-! ## Loading -/

theorem load_value {n : Nlohmann} {content : Bytes} {root : Json} (hparse : n.parse content = .value root) :
    load n (.text content) = some (if root.isObject then (read root).sanitize else {}) := by
  unfold load
  dsimp only
  rw [hparse]
  dsimp only
  cases hobject : root.isObject with
  | true => rfl
  | false => rfl

theorem load_parseError {n : Nlohmann} {content : Bytes} (hparse : n.parse content = .parseError) :
    load n (.text content) = some {} := by
  unfold load
  dsimp only
  rw [hparse]

/-- Only a `parse_error` is caught. -/
theorem load_outOfRange {n : Nlohmann} {content : Bytes} (hparse : n.parse content = .outOfRange) :
    load n (.text content) = none := by
  unfold load
  dsimp only
  rw [hparse]

/-- Saving to a disk that takes the file, and loading it. -/
theorem load_save {n : Nlohmann} {c : Config} (h : c.InRange)
    (hcodec : c.video.codec ∈ [VideoCodec.H264, .Hevc, .Av1]) (hname : c.profile.name.length ≤ nameLimit)
    (hvalid : validUtf8 c.profile.name = true) (hfaithful : n.Faithful c.toJson) (file : ConfigFile) :
    ∃ text, save n c .writes file = (.returned true, .text text) ∧ load n (.text text) = some c := by
  have hdump := hfaithful.dump.2 (c.strings_toJson.2 hvalid)
  obtain ⟨text, htext⟩ := Option.isSome_iff_exists.1 hdump
  refine ⟨text ++ ascii "\n", ?_, ?_⟩
  · unfold save
    dsimp only
    rw [htext]
  · rw [load_value (hfaithful.parse text htext), read_toJson h hcodec, cutName_of_le hname]
    exact congrArg some h.sanitize

/-- **Configurations survive their file.** A document loads to a fixed point of `sanitize` exactly if
    the library throws nothing but a `parse_error` at it, a number that no double holds for one; and a
    fixed point of `sanitize` with one of the three codecs and a valid name of at most 32 bytes is what
    its saved file loads to. -/
theorem config_round_trip (n : Nlohmann) :
    (∀ content, (∃ c, load n (.text content) = some c ∧ c.sanitize = c) ↔
      n.parse content ≠ .outOfRange) ∧
    ∀ (c : Config) (file : ConfigFile), c.sanitize = c →
      c.video.codec ∈ [VideoCodec.H264, .Hevc, .Av1] → c.profile.name.length ≤ 32 →
      validUtf8 c.profile.name = true → n.Faithful c.toJson →
        ∃ text, save n c .writes file = (.returned true, .text text) ∧
          load n (.text text) = some c := by
  constructor
  · intro content
    cases hparse : n.parse content with
    | value root =>
        refine iff_of_true ⟨_, load_value hparse, ?_⟩ nofun
        split
        · exact sanitize_sanitize _
        · decide +kernel
    | parseError =>
        refine iff_of_true ⟨_, load_parseError hparse, ?_⟩ nofun
        decide +kernel
    | outOfRange =>
        refine iff_of_false ?_ (not_not.2 rfl)
        rintro ⟨c, hload, -⟩
        rw [load_outOfRange hparse] at hload
        cases hload
  · intro c file hfixed hcodec hname hvalid hfaithful
    exact load_save (c.inRange_iff.2 hfixed) hcodec hname hvalid hfaithful file

/-- The library on one document: `content` is its text in a file, and `text` is what is printed. -/
def oneDocument (text content : Bytes) (j : Json) : Nlohmann where
  parse bs := if bs = content then .value j else .parseError
  dump j := if j.strings.all validUtf8 then some text else none

/-- What is printed for the default settings. -/
def defaultText : Bytes := ascii
  "\x7b
  \"audio\": \x7b
    \"bitrateKbps\": 128,
    \"codec\": \"opus\"
  \x7d,
  \"input\": \x7b
    \"controller\": true,
    \"keyboard\": false,
    \"mouse\": false,
    \"requireHostApproval\": true,
    \"vibration\": true
  \x7d,
  \"network\": \x7b
    \"jitterBufferMs\": 30,
    \"listenPort\": 41717,
    \"maxBitrateMbps\": 15,
    \"relayEnabled\": false
  \x7d,
  \"profile\": \x7b
    \"name\": \"\"
  \x7d,
  \"video\": \x7b
    \"bitrateMbps\": 8,
    \"codec\": \"H.264\",
    \"fps\": 60,
    \"resolution\": \"1920x1080\"
  \x7d
\x7d"

theorem parse_oneDocument {text content : Bytes} {j : Json} :
    (oneDocument text content j).parse content = .value j := if_pos rfl

theorem faithful_oneDocument (text : Bytes) (j : Json) :
    (oneDocument text (text ++ ascii "\n") j).Faithful j where
  dump := by
    rw [← List.all_eq_true]
    unfold oneDocument
    dsimp only
    split
    · next h => exact iff_of_true rfl h
    · next h => exact iff_of_false nofun h
  parse := by
    intro printed hprinted
    unfold oneDocument at hprinted
    dsimp only at hprinted
    split at hprinted
    · rw [← Option.some.inj hprinted]
      exact parse_oneDocument
    · cases hprinted

theorem config_round_trip_default :
    (∃ c, load (oneDocument defaultText (defaultText ++ ascii "\n") (toJson {}))
        (.text (defaultText ++ ascii "\n")) = some c ∧ c.sanitize = c) ∧
    ∃ text, save (oneDocument defaultText (defaultText ++ ascii "\n") (toJson {})) {} .writes .missing
        = (.returned true, .text text) ∧
      load (oneDocument defaultText (defaultText ++ ascii "\n") (toJson {})) (.text text) = some {} :=
  ⟨((config_round_trip (oneDocument defaultText (defaultText ++ ascii "\n") (toJson {}))).1 _).2
      (by rw [parse_oneDocument]; nofun),
    (config_round_trip (oneDocument defaultText (defaultText ++ ascii "\n") (toJson {}))).2 {} .missing
      (by decide +kernel) (by decide +kernel) (by decide +kernel) (by decide +kernel)
      (faithful_oneDocument defaultText (toJson {}))⟩

/-! A port that no double holds. -/

def hugePortText : Bytes := ascii "\x7b\"network\":\x7b\"listenPort\":1e400\x7d\x7d"

/-- The library on a document with such a number. -/
def oneHugeNumber (content : Bytes) : Nlohmann where
  parse bs := if bs = content then .outOfRange else .parseError
  dump j := if j.strings.all validUtf8 then some [] else none

theorem parse_oneHugeNumber {content : Bytes} :
    (oneHugeNumber content).parse content = .outOfRange := if_pos rfl

/-- The document loads to nothing, not even to the defaults of a corrupt one. -/
theorem huge_port_loads_nothing :
    (oneHugeNumber hugePortText).parse hugePortText = .outOfRange ∧
      ¬ ∃ c, load (oneHugeNumber hugePortText) (.text hugePortText) = some c ∧ c.sanitize = c := by
  refine ⟨parse_oneHugeNumber, ?_⟩
  rintro ⟨c, hload, -⟩
  rw [load_outOfRange parse_oneHugeNumber] at hload
  cases hload

/-! ## Saving what was loaded -/

/-- The cut after 32 bytes is inside a character. -/
def cutInside (name : Bytes) : Bool := (name[nameLimit]?).any continuationByte

theorem validUtf8_cutName {name : Bytes} (h : validUtf8 name = true) :
    validUtf8 (cutName name) = true ↔ cutInside name = false := by
  have htake := validUtf8_take_iff h nameLimit
  have hinside : cutInside name = false ↔
      ∀ b, name[nameLimit]? = some b → continuationByte b = false := by
    unfold cutInside
    cases name[nameLimit]? with
    | none => simp
    | some b => simp
  rw [hinside, ← htake]
  unfold cutName
  split
  · exact Iff.rfl
  · next hshort => rw [List.take_of_length_le (Nat.not_lt.1 hshort)]

/-- A document that is no object has no profile. -/
theorem nameIn_of_not_object {root : Json} (h : root.isObject = false) : nameIn root = [] := by
  cases root with
  | object fields => cases h
  | null | boolean _ | integer _ | float _ _ | string _ | array _ => rfl

theorem profile_load {n : Nlohmann} {content : Bytes} {root : Json} {loaded : Config}
    (hparse : n.parse content = .value root) (hloaded : load n (.text content) = some loaded) :
    loaded.profile.name = cutName (nameIn root) := by
  rw [load_value hparse] at hloaded
  rw [← Option.some.inj hloaded]
  cases hobject : root.isObject with
  | true => rfl
  | false =>
      rw [nameIn_of_not_object hobject]
      rfl

/-- Saving does not throw, a saved file loads to what was saved, and a file that was not saved is still
    there. -/
def SavesSafely (n : Nlohmann) (c : Config) (disk : SaveDisk) (file : ConfigFile) : Prop :=
  (save n c disk file).1 ≠ .threw ∧
    ((save n c disk file).1 = .returned true → load n (save n c disk file).2 = some c) ∧
    ((save n c disk file).1 ≠ .returned true → (save n c disk file).2 = file)

theorem save_fails {n : Nlohmann} {c : Config} {text : Bytes} (h : n.dump c.toJson = some text)
    (stored : Bytes) (file : ConfigFile) :
    save n c (.fails stored) file = (.returned false, .text stored) := by
  unfold save
  dsimp only
  rw [h]

/-- On a disk that opens the file, a document that cannot be printed throws. -/
theorem save_throws {n : Nlohmann} {c : Config} (h : n.dump c.toJson = none) (disk : SaveDisk)
    (hopens : disk ≠ .noDirectory ∧ disk ≠ .cannotOpen) (file : ConfigFile) :
    save n c disk file = (.threw, .text []) := by
  unfold save
  cases disk with
  | noDirectory => exact absurd rfl hopens.1
  | cannotOpen => exact absurd rfl hopens.2
  | fails stored =>
      dsimp only
      rw [h]
  | failsAtClose stored =>
      dsimp only
      rw [h]
  | writes =>
      dsimp only
      rw [h]

theorem not_savesSafely_of_threw {n : Nlohmann} {c : Config} (h : n.dump c.toJson = none)
    {disk : SaveDisk} (hopens : disk ≠ .noDirectory ∧ disk ≠ .cannotOpen) (file : ConfigFile) :
    ¬ SavesSafely n c disk file :=
  fun hsafe => hsafe.1 (congrArg Prod.fst (save_throws h disk hopens file))

/-- A stream that fails must have stored what was there. -/
theorem savesSafely_fails_iff {n : Nlohmann} {c : Config} {text : Bytes}
    (h : n.dump c.toJson = some text) (stored : Bytes) (file : ConfigFile) :
    SavesSafely n c (.fails stored) file ↔ .text stored = file := by
  rw [SavesSafely, save_fails h]
  constructor
  · intro hsafe
    exact hsafe.2.2 nofun
  · intro hsame
    exact ⟨nofun, nofun, fun _ => hsame⟩

/-- A stream that fails when it is closed must have stored the settings by then: `save` reports no
    failure. -/
theorem savesSafely_failsAtClose_iff {n : Nlohmann} {c : Config} {text : Bytes}
    (h : n.dump c.toJson = some text) (stored : Bytes) (file : ConfigFile) :
    SavesSafely n c (.failsAtClose stored) file ↔ load n (.text stored) = some c := by
  have hsave : save n c (.failsAtClose stored) file = (.returned true, .text stored) := by
    unfold save
    dsimp only
    rw [h]
  rw [SavesSafely, hsave]
  constructor
  · intro hsafe
    exact hsafe.2.1 rfl
  · intro hload
    exact ⟨nofun, fun _ => hload, fun hne => absurd rfl hne⟩

/-- **Saving what was loaded.** For a file with a valid profile name, what `load` returns, with other
    fields changed within their ranges, is saved safely exactly if the file is not opened, or the cut
    is not inside a character and the stream takes the document (or fails when the file holds what
    it held before, or fails unseen with a document of the same settings in the file). -/
theorem save_keeps_settings_iff (n : Nlohmann) (content : Bytes) (root : Json) (loaded c : Config)
    (disk : SaveDisk) (hparse : n.parse content = .value root) (hname : validUtf8 (nameIn root) = true)
    (hloaded : load n (.text content) = some loaded) (hprofile : c.profile = loaded.profile)
    (hfixed : c.sanitize = c) (hcodec : c.video.codec ∈ [VideoCodec.H264, .Hevc, .Av1])
    (hfaithful : n.Faithful c.toJson) :
    SavesSafely n c disk (.text content) ↔
      disk = .noDirectory ∨ disk = .cannotOpen ∨
        cutInside (nameIn root) = false ∧ (disk = .writes ∨ disk = .fails content ∨
          ∃ stored, disk = .failsAtClose stored ∧ load n (.text stored) = some c) := by
  have hcut : c.profile.name = cutName (nameIn root) := by
    rw [hprofile, profile_load hparse hloaded]
  have hvalid : validUtf8 c.profile.name = true ↔ cutInside (nameIn root) = false := by
    rw [hcut]
    exact validUtf8_cutName hname
  have hprints : (n.dump c.toJson).isSome = true ↔ cutInside (nameIn root) = false := by
    rw [hfaithful.dump, strings_toJson, hvalid]
  have hlost : disk ≠ .noDirectory ∧ disk ≠ .cannotOpen → n.dump c.toJson = none →
      (SavesSafely n c disk (.text content) ↔ disk = .noDirectory ∨ disk = .cannotOpen ∨
        cutInside (nameIn root) = false ∧ (disk = .writes ∨ disk = .fails content ∨
          ∃ stored, disk = .failsAtClose stored ∧ load n (.text stored) = some c)) := by
    intro hopens hdump
    rw [hdump] at hprints
    refine iff_of_false (not_savesSafely_of_threw hdump hopens _) ?_
    rintro (h | h | ⟨hinside, -⟩)
    · exact absurd h hopens.1
    · exact absurd h hopens.2
    · exact absurd (hprints.2 hinside) Bool.false_ne_true
  cases disk with
  | noDirectory => exact iff_of_true ⟨nofun, nofun, fun _ => rfl⟩ (.inl rfl)
  | cannotOpen => exact iff_of_true ⟨nofun, nofun, fun _ => rfl⟩ (.inr (.inl rfl))
  | fails stored =>
      cases hdump : n.dump c.toJson with
      | none => exact hlost ⟨nofun, nofun⟩ hdump
      | some text =>
          rw [hdump] at hprints
          rw [savesSafely_fails_iff hdump]
          constructor
          · intro hsame
            exact .inr (.inr ⟨hprints.1 rfl, .inr (.inl (congrArg _ (ConfigFile.text.inj hsame)))⟩)
          · rintro (h | h | ⟨-, h | h | ⟨_, h, -⟩⟩)
            · cases h
            · cases h
            · cases h
            · exact congrArg _ (SaveDisk.fails.inj h)
            · cases h
  | failsAtClose stored =>
      cases hdump : n.dump c.toJson with
      | none => exact hlost ⟨nofun, nofun⟩ hdump
      | some text =>
          rw [hdump] at hprints
          rw [savesSafely_failsAtClose_iff hdump]
          constructor
          · intro hload
            exact .inr (.inr ⟨hprints.1 rfl, .inr (.inr ⟨stored, rfl, hload⟩)⟩)
          · rintro (h | h | ⟨-, h | h | ⟨_, h, hload⟩⟩)
            · cases h
            · cases h
            · cases h
            · cases h
            · exact SaveDisk.failsAtClose.inj h ▸ hload
  | writes =>
      cases hdump : n.dump c.toJson with
      | none => exact hlost ⟨nofun, nofun⟩ hdump
      | some text =>
          rw [hdump] at hprints
          have hinside := hprints.1 rfl
          have hshort : c.profile.name.length ≤ nameLimit := by
            rw [hcut]
            exact length_cutName _
          obtain ⟨saved, hsave, hload⟩ := load_save (c.inRange_iff.2 hfixed) hcodec hshort
            (hvalid.2 hinside) hfaithful (.text content)
          refine iff_of_true ?_ (.inr (.inr ⟨hinside, .inl rfl⟩))
          rw [SavesSafely, hsave]
          exact ⟨nofun, fun _ => hload, fun h => absurd rfl h⟩

theorem save_keeps_settings_iff_default :
    SavesSafely (oneDocument defaultText (defaultText ++ ascii "\n") (toJson {})) {} .writes
      (.text (defaultText ++ ascii "\n")) :=
  (save_keeps_settings_iff (oneDocument defaultText (defaultText ++ ascii "\n") (toJson {}))
    (defaultText ++ ascii "\n") (toJson {}) {} {} .writes parse_oneDocument (by decide +kernel)
    (by rw [load_value parse_oneDocument]; decide +kernel) rfl (by decide +kernel) (by decide +kernel)
    (faithful_oneDocument defaultText (toJson {}))).2
    (.inr (.inr ⟨by decide +kernel, .inl rfl⟩))

/-! A name of 33 bytes, whose last character is `é`. -/

def accentName : Bytes := List.replicate 31 0x61 ++ [0xC3, 0xA9]

def accentDocument : Json := .object [("profile", .object [("name", .string accentName)])]

def accentText : Bytes := ascii "\x7b\"profile\":\x7b\"name\":\"" ++ accentName ++ ascii "\"\x7d\x7d"

def accentLoaded : Config := { profile := { name := List.replicate 31 0x61 ++ [0xC3] } }

/-- Saving the loaded settings empties the file, and the name and whatever else it held is gone. -/
theorem save_loses_settings :
    validUtf8 (nameIn accentDocument) = true ∧
      (oneDocument [] accentText accentDocument).parse accentText = .value accentDocument ∧
      load (oneDocument [] accentText accentDocument) (.text accentText) = some accentLoaded ∧
      accentLoaded.sanitize = accentLoaded ∧
      (oneDocument [] accentText accentDocument).Faithful accentLoaded.toJson ∧
      save (oneDocument [] accentText accentDocument) accentLoaded .writes (.text accentText)
        = (.threw, .text []) := by
  have hbroken : (oneDocument [] accentText accentDocument).dump accentLoaded.toJson = none := by
    decide +kernel
  have hvalid : ¬ ∀ s ∈ accentLoaded.toJson.strings, validUtf8 s = true := by
    rw [strings_toJson]
    decide +kernel
  refine ⟨by decide +kernel, parse_oneDocument, ?_, by decide +kernel, ?_, ?_⟩
  · rw [load_value parse_oneDocument]
    decide +kernel
  · exact ⟨by rw [hbroken]; exact iff_of_false nofun hvalid, by rw [hbroken]; exact nofun⟩
  · exact save_throws hbroken .writes ⟨nofun, nofun⟩ _

end Config

end Configuration

end RemotePlay
