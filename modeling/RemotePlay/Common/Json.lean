import RemotePlay.Common.Types
import RemotePlay.Lib.Utf8

set_option autoImplicit false

/-! # JSON documents (`nlohmann::json`)

The values of `nlohmann::json` and what the repository calls on them. The library's integers are
signed or unsigned, which nothing here tells apart, so they are one constructor; a key is valid
UTF-8 in every document that was parsed, while the bytes of a string value can be anything. A
conversion that throws is `none`.

Parsing and printing are a parameter (`Nlohmann`), with what is relied on of them as `Faithful`. -/

namespace RemotePlay

/-- A `nlohmann::json`. -/
inductive Json where
  | null
  | boolean (b : Bool)
  | integer (n : Int)
  /-- `mantissa * 2 ^ exponent`, which every finite double is. -/
  | float (mantissa exponent : Int)
  | string (s : Bytes)
  | array (elements : List Json)
  | object (fields : List (String × Json))

namespace Json

/-- `is_object`. -/
def isObject : Json → Bool
  | .object _ => true
  | _ => false

/-- `at(key)`, if `contains(key)`. -/
def find? : Json → String → Option Json
  | .object fields, key => fields.lookup key
  | _, _ => none

mutual

/-- The string values of a document. -/
def strings : Json → List Bytes
  | .string s => [s]
  | .array elements => elementStrings elements
  | .object fields => fieldStrings fields
  | _ => []

def elementStrings : List Json → List Bytes
  | [] => []
  | j :: elements => j.strings ++ elementStrings elements

def fieldStrings : List (String × Json) → List Bytes
  | [] => []
  | (_, j) :: fields => j.strings ++ fieldStrings fields

end

/-- `get<long long>` of an integer. -/
def toLongLong (n : Int) : Int := Int.bmod n (2 ^ 64)

/-- `mantissa * 2 ^ exponent` towards zero. -/
def truncated (mantissa exponent : Int) : Int :=
  if 0 ≤ exponent then mantissa * 2 ^ exponent.toNat else Int.tdiv mantissa (2 ^ (-exponent).toNat)

/-- `get<int>`. What a `double` outside the range of `int` becomes is up to the machine: `INT_MIN`. -/
def getInt? : Json → Option Int
  | .integer n => some (Int.bmod n (2 ^ 32))
  | .float mantissa exponent =>
      let n := truncated mantissa exponent
      some (if -2 ^ 31 ≤ n ∧ n < 2 ^ 31 then n else -2 ^ 31)
  | .boolean b => some (if b then 1 else 0)
  | _ => none

/-- `get<std::string>`. -/
def getString? : Json → Option Bytes
  | .string s => some s
  | _ => none

/-- `value(key, dflt)`, for an object only. -/
def valueOf {α : Type} (get? : Json → Option α) (j : Json) (key : String) (dflt : α) : Option α :=
  match j with
  | .object fields =>
      match fields.lookup key with
      | some v => get? v
      | none => some dflt
  | _ => none

def valueInt : Json → String → Int → Option Int := valueOf getInt?

def valueString : Json → String → Bytes → Option Bytes := valueOf getString?

end Json

/-- What `in >> root` comes to. -/
inductive JsonRead where
  | value (root : Json)
  /-- `json::parse_error`. -/
  | parseError
  /-- Another exception: a number that no double holds. -/
  | outOfRange

/-- The parser and the printer. -/
structure Nlohmann where
  parse : Bytes → JsonRead
  /-- `dump(2)`, or `none` if it throws. -/
  dump : Json → Option Bytes

/-- What is relied on for the document `j`: `dump` throws on a string that is not valid UTF-8 and
    otherwise prints what is read back as `j`, with a newline behind it. -/
structure Nlohmann.Faithful (n : Nlohmann) (j : Json) : Prop where
  dump : (n.dump j).isSome = true ↔ ∀ s ∈ j.strings, validUtf8 s = true
  parse : ∀ text, n.dump j = some text → n.parse (text ++ ascii "\n") = .value j

end RemotePlay
