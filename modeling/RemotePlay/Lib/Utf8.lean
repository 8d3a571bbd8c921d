import RemotePlay.Lib.Bytes

set_option autoImplicit false

/-! # UTF-8 as an automaton

A decoder reads a byte string with nine states: between characters, after a byte that no character
allows, and one state for each set of bytes that may follow inside a character. A string is valid if
the decoder ends between characters. Where a valid string may be cut is then a matter of the byte
behind the cut (`validUtf8_take_iff`). -/

namespace RemotePlay

inductive Utf8State where
  /-- Between characters. -/
  | accept
  | reject
  /-- One continuation byte is owed. -/
  | tail1
  | tail2
  | tail3
  /-- After `E0`: no overlong form may follow. -/
  | afterE0
  /-- After `ED`: no surrogate may follow. -/
  | afterED
  /-- After `F0`: no overlong form may follow. -/
  | afterF0
  /-- After `F4`: nothing above `U+10FFFF` may follow. -/
  | afterF4
deriving DecidableEq, Repr

/-- `10xxxxxx`. -/
def continuationByte (b : UInt8) : Bool := decide (0x80 ≤ b) && decide (b ≤ 0xBF)

/-- A byte of a character, which has to be between `low` and `high`. -/
def utf8Within (low high b : UInt8) (next : Utf8State) : Utf8State :=
  if low ≤ b ∧ b ≤ high then next else .reject

/-- The first byte of a character. -/
def utf8First (b : UInt8) : Utf8State :=
  if b < 0x80 then .accept
  else if b < 0xC2 then .reject
  else if b < 0xE0 then .tail1
  else if b = 0xE0 then .afterE0
  else if b = 0xED then .afterED
  else if b < 0xF0 then .tail2
  else if b = 0xF0 then .afterF0
  else if b < 0xF4 then .tail3
  else if b = 0xF4 then .afterF4
  else .reject

def utf8Step : Utf8State → UInt8 → Utf8State
  | .accept, b => utf8First b
  | .reject, _ => .reject
  | .tail1, b => utf8Within 0x80 0xBF b .accept
  | .tail2, b => utf8Within 0x80 0xBF b .tail1
  | .tail3, b => utf8Within 0x80 0xBF b .tail2
  | .afterE0, b => utf8Within 0xA0 0xBF b .tail1
  | .afterED, b => utf8Within 0x80 0x9F b .tail1
  | .afterF0, b => utf8Within 0x90 0xBF b .tail2
  | .afterF4, b => utf8Within 0x80 0x8F b .tail2

def validUtf8 (bs : Bytes) : Bool := decide (bs.foldl utf8Step .accept = .accept)

theorem foldl_utf8Step_reject (bs : Bytes) : bs.foldl utf8Step .reject = .reject := by
  induction bs with
  | nil => rfl
  | cons b bs ih => exact ih

theorem validUtf8_of_ascii {bs : Bytes} (h : ∀ b ∈ bs, b < 0x80) : validUtf8 bs = true := by
  refine decide_eq_true ?_
  induction bs with
  | nil => rfl
  | cons b bs ih =>
      have hfirst : utf8Step .accept b = .accept := if_pos (h b List.mem_cons_self)
      rw [List.foldl_cons, hfirst]
      exact ih (fun b' hb' => h b' (List.mem_cons_of_mem b hb'))

/-- No character starts with a continuation byte. -/
theorem utf8First_continuation {b : UInt8} (h : continuationByte b = true) :
    utf8First b = .reject := by
  rw [continuationByte, Bool.and_eq_true, decide_eq_true_eq, decide_eq_true_eq] at h
  have hlow : ¬ b < 0x80 := UInt8.not_lt.2 h.1
  have hhigh : b < 0xC2 := UInt8.lt_of_le_of_lt h.2 (by decide)
  rw [utf8First, if_neg hlow, if_pos hhigh]

/-- Inside a character there are only continuation bytes. -/
theorem utf8Within_of_not_continuation {low high b : UInt8} (hlow : 0x80 ≤ low)
    (hhigh : high ≤ 0xBF) (h : continuationByte b = false) (next : Utf8State) :
    utf8Within low high b next = .reject := by
  refine if_neg ?_
  rintro ⟨hl, hh⟩
  have hin : continuationByte b = true := by
    rw [continuationByte, decide_eq_true (UInt8.le_trans hlow hl),
      decide_eq_true (UInt8.le_trans hh hhigh)]
    rfl
  rw [h] at hin
  cases hin

theorem utf8Step_of_not_continuation {q : Utf8State} (hq : q ≠ .accept) {b : UInt8}
    (h : continuationByte b = false) : utf8Step q b = .reject := by
  cases q with
  | accept => exact absurd rfl hq
  | reject => rfl
  | afterE0 => exact utf8Within_of_not_continuation (by decide) (by decide) h _
  | afterED => exact utf8Within_of_not_continuation (by decide) (by decide) h _
  | afterF0 => exact utf8Within_of_not_continuation (by decide) (by decide) h _
  | afterF4 => exact utf8Within_of_not_continuation (by decide) (by decide) h _
  | tail1 => exact utf8Within_of_not_continuation (by decide) (by decide) h _
  | tail2 => exact utf8Within_of_not_continuation (by decide) (by decide) h _
  | tail3 => exact utf8Within_of_not_continuation (by decide) (by decide) h _

/-- **Where a valid string may be cut**: at its end, or in front of a byte that starts a character. -/
theorem validUtf8_take_iff {bs : Bytes} (h : validUtf8 bs = true) (n : Nat) :
    validUtf8 (bs.take n) = true ↔ ∀ b, bs[n]? = some b → continuationByte b = false := by
  have hrun : (bs.drop n).foldl utf8Step ((bs.take n).foldl utf8Step .accept) = .accept := by
    rw [← List.foldl_append, List.take_append_drop]
    exact of_decide_eq_true h
  have hnext : ∀ b, bs[n]? = some b → ∃ rest, bs.drop n = b :: rest := by
    intro b hb
    obtain ⟨hlt, hget⟩ := List.getElem?_eq_some_iff.1 hb
    exact ⟨bs.drop (n + 1), by rw [← hget, List.drop_eq_getElem_cons hlt]⟩
  rw [validUtf8, decide_eq_true_eq]
  constructor
  · intro hcut b hb
    obtain ⟨rest, hrest⟩ := hnext b hb
    rw [hcut, hrest, List.foldl_cons] at hrun
    by_contra hcontinues
    have hreject : utf8Step .accept b = .reject :=
      utf8First_continuation (by simpa using hcontinues)
    rw [hreject, foldl_utf8Step_reject] at hrun
    cases hrun
  · intro hstarts
    cases hb : bs[n]? with
    | none =>
        rw [List.drop_eq_nil_of_le (List.getElem?_eq_none_iff.1 hb)] at hrun
        exact hrun
    | some b =>
        obtain ⟨rest, hrest⟩ := hnext b hb
        rw [hrest, List.foldl_cons] at hrun
        by_contra hinside
        rw [utf8Step_of_not_continuation hinside (hstarts b hb), foldl_utf8Step_reject] at hrun
        cases hrun

end RemotePlay
