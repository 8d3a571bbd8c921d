import RemotePlay.Common.Types

set_option autoImplicit false

/-! # Session codes (`security/SessionCodes.cpp`)

A session code is eight symbols of a 32-symbol alphabet, shown as `XXXX-XXXX`. `secureRandom32` is
the operating system's generator: `rnd i` is its `i`-th reading, and the generating functions return
how many readings they consumed. -/

namespace RemotePlay.Security

/-- `kCodeAlphabet`: 24 letters and 8 digits, without `I`, `O`, `0` and `1`. -/
def kCodeAlphabet : Bytes := ascii "ABCDEFGHJKLMNPQRSTUVWXYZ23456789"

def kCodeAlphabetSize : Nat := 32

/-- The loop of `randomCodeChars`: `buf` holds `bits` unused random bits, refilled from reading
    `next` when fewer than eight are left. -/
def randomCodeCharsLoop (rnd : Nat → UInt32) : Nat → Nat → UInt32 → Nat → Bytes × Nat
  | 0, next, _, _ => ([], next)
  | count + 1, next, buf, bits =>
      let refill := decide (bits < 8)
      let buf' := if refill then rnd next else buf
      let bits' := if refill then 32 else bits
      let next' := if refill then next + 1 else next
      let byte := (buf' &&& 0xFF).toUInt8
      let rest := randomCodeCharsLoop rnd count next' (buf' >>> 8) (bits' - 8)
      (kCodeAlphabet.getD (byte &&& UInt8.ofNat (kCodeAlphabetSize - 1)).toNat 0 :: rest.1, rest.2)

/-- `randomCodeChars(count)`, starting at reading `next`. -/
def randomCodeChars (rnd : Nat → UInt32) (count next : Nat) : Bytes × Nat :=
  randomCodeCharsLoop rnd count next 0 0

/-- `generateSessionCode`. -/
def generateSessionCode (rnd : Nat → UInt32) : Bytes :=
  let left := randomCodeChars rnd 4 0
  let right := randomCodeChars rnd 4 left.2
  left.1 ++ ascii "-" ++ right.1

/-- One character of user input: separators vanish, lower-case letters are upper-cased. -/
def normalizeChar (ch : UInt8) : Option UInt8 :=
  if ch = 0x2D ∨ ch = 0x20 then none
  else if 0x61 ≤ ch ∧ ch ≤ 0x7A then some (ch - 0x61 + 0x41)
  else some ch

/-- `normalizeSessionCode`. -/
def normalizeSessionCode (input : Bytes) : Option Bytes :=
  let compact := input.filterMap normalizeChar
  if compact.length ≠ 8 then none
  else if compact.all (fun ch => kCodeAlphabet.contains ch) then
    some (compact.take 4 ++ ascii "-" ++ (compact.drop 4).take 4)
  else none

/-- `constantTimeEqual`: the accumulated difference of two equally long strings. -/
def constantTimeEqual (a b : Bytes) : Bool :=
  if a.length ≠ b.length then false
  else (List.zip a b).foldl (fun diff ab => diff ||| (ab.1 ^^^ ab.2)) 0 == 0

/-- `verifySessionCode`. -/
def verifySessionCode (presented actual : Bytes) : Bool :=
  match normalizeSessionCode presented, normalizeSessionCode actual with
  | some p, some a => constantTimeEqual p a
  | _, _ => false

/-! ## A generated code is accepted -/

theorem length_kCodeAlphabet : kCodeAlphabet.length = kCodeAlphabetSize := by
  decide +kernel

theorem normalizeChar_of_mem : ∀ ch ∈ kCodeAlphabet, normalizeChar ch = some ch := by
  decide +kernel

theorem length_randomCodeCharsLoop (rnd : Nat → UInt32) (count next : Nat) (buf : UInt32)
    (bits : Nat) : (randomCodeCharsLoop rnd count next buf bits).1.length = count := by
  induction count generalizing next buf bits with
  | zero => rfl
  | succ count ih =>
      rw [randomCodeCharsLoop, List.length_cons, ih]

/-- The index is kept to five bits, so it names a symbol. -/
theorem getD_kCodeAlphabet_mem (byte : UInt8) :
    kCodeAlphabet.getD (byte &&& UInt8.ofNat (kCodeAlphabetSize - 1)).toNat 0 ∈ kCodeAlphabet := by
  have hle : (byte &&& UInt8.ofNat (kCodeAlphabetSize - 1)).toNat ≤ 31 := by
    rw [UInt8.toNat_and]
    exact Nat.and_le_right
  have hlt : (byte &&& UInt8.ofNat (kCodeAlphabetSize - 1)).toNat < kCodeAlphabet.length := by
    rw [length_kCodeAlphabet]
    exact Nat.lt_succ_of_le hle
  rw [List.getD_eq_getElem?_getD, List.getElem?_eq_getElem hlt, Option.getD_some]
  exact List.getElem_mem hlt

theorem randomCodeCharsLoop_mem (rnd : Nat → UInt32) (count next : Nat) (buf : UInt32)
    (bits : Nat) : ∀ ch ∈ (randomCodeCharsLoop rnd count next buf bits).1, ch ∈ kCodeAlphabet := by
  induction count generalizing next buf bits with
  | zero =>
      intro ch hch
      cases hch
  | succ count ih =>
      intro ch hch
      rw [randomCodeCharsLoop] at hch
      rcases List.mem_cons.1 hch with rfl | hrest
      · exact getD_kCodeAlphabet_mem _
      · exact ih _ _ _ ch hrest

/-- Symbols of the alphabet are left alone by the normalization. -/
theorem filterMap_normalizeChar {cs : Bytes} (h : ∀ ch ∈ cs, ch ∈ kCodeAlphabet) :
    cs.filterMap normalizeChar = cs := by
  induction cs with
  | nil => rfl
  | cons ch cs ih =>
      rw [List.filterMap_cons_some (normalizeChar_of_mem ch (h ch (List.mem_cons_self ..)))]
      rw [ih (fun c hc => h c (List.mem_cons_of_mem ch hc))]

/-- A generated code is in its normal form. -/
theorem normalizeSessionCode_generateSessionCode (rnd : Nat → UInt32) :
    normalizeSessionCode (generateSessionCode rnd) = some (generateSessionCode rnd) := by
  set left := randomCodeChars rnd 4 0
  set right := randomCodeChars rnd 4 left.2
  have hcode : generateSessionCode rnd = left.1 ++ ascii "-" ++ right.1 := rfl
  have hl : left.1.length = 4 := length_randomCodeCharsLoop rnd 4 0 0 0
  have hr : right.1.length = 4 := length_randomCodeCharsLoop rnd 4 left.2 0 0
  have hlmem : ∀ ch ∈ left.1, ch ∈ kCodeAlphabet := randomCodeCharsLoop_mem rnd 4 0 0 0
  have hrmem : ∀ ch ∈ right.1, ch ∈ kCodeAlphabet := randomCodeCharsLoop_mem rnd 4 left.2 0 0
  have hdash : (ascii "-").filterMap normalizeChar = [] := by decide +kernel
  have hcompact : (generateSessionCode rnd).filterMap normalizeChar = left.1 ++ right.1 := by
    rw [hcode, List.filterMap_append, List.filterMap_append, hdash, List.append_nil,
      filterMap_normalizeChar hlmem, filterMap_normalizeChar hrmem]
  have hall : (left.1 ++ right.1).all (fun ch => kCodeAlphabet.contains ch) = true := by
    rw [List.all_eq_true]
    intro ch hch
    rw [List.contains_iff_mem]
    exact (List.mem_append.1 hch).elim (hlmem ch) (hrmem ch)
  have htake : (left.1 ++ right.1).take 4 = left.1 := by rw [← hl, List.take_left]
  have hdrop : (left.1 ++ right.1).drop 4 = right.1 := by rw [← hl, List.drop_left]
  unfold normalizeSessionCode
  dsimp only
  rw [hcompact, if_neg (by rw [List.length_append, hl, hr]; decide), if_pos hall, htake, hdrop,
    List.take_of_length_le (Nat.le_of_eq hr), hcode]

theorem constantTimeEqual_self (a : Bytes) : constantTimeEqual a a = true := by
  have hzip : ∀ (cs : Bytes) (diff : UInt8),
      (List.zip cs cs).foldl (fun diff ab => diff ||| (ab.1 ^^^ ab.2)) diff = diff := by
    intro cs
    induction cs with
    | nil => exact fun _ => rfl
    | cons ch cs ih =>
        intro diff
        rw [List.zip_cons_cons, List.foldl_cons, ih]
        simp
  rw [constantTimeEqual, if_neg (fun h => h rfl), hzip]
  rfl

/-- Whoever types the code as it was shown is let in. -/
theorem verifySessionCode_generateSessionCode (rnd : Nat → UInt32) :
    verifySessionCode (generateSessionCode rnd) (generateSessionCode rnd) = true := by
  unfold verifySessionCode
  rw [normalizeSessionCode_generateSessionCode]
  exact constantTimeEqual_self _

end RemotePlay.Security
