import RemotePlay.Lib.Bytes

set_option autoImplicit false

/-! # Decimal numerals

`decimal n` is the numeral of `n` without leading zeros, `decimalValue` what a string of digits
denotes; the second undoes the first. -/

namespace RemotePlay

/-- `0` to `9`. -/
def isDigit (b : UInt8) : Bool := decide (0x30 ≤ b) && decide (b ≤ 0x39)

/-- The digits of `n`, most significant first. A digit takes a factor of ten, so `n + 1` is enough
    fuel. -/
def decimalDigits : (fuel : Nat) → Nat → Bytes
  | 0, _ => []
  | fuel + 1, n =>
      if n < 10 then [UInt8.ofNat (0x30 + n)]
      else decimalDigits fuel (n / 10) ++ [UInt8.ofNat (0x30 + n % 10)]

def decimal (n : Nat) : Bytes := decimalDigits (n + 1) n

def decimalValue (bs : Bytes) : Nat := bs.foldl (fun v b => 10 * v + (b.toNat - 0x30)) 0

theorem toNat_digit {d : Nat} (h : d < 10) : (UInt8.ofNat (0x30 + d)).toNat = 0x30 + d := by
  rw [UInt8.toNat_ofNat']
  omega

theorem isDigit_digit {d : Nat} (h : d < 10) : isDigit (UInt8.ofNat (0x30 + d)) = true := by
  have htoNat := toNat_digit h
  rw [isDigit, Bool.and_eq_true, decide_eq_true_eq, decide_eq_true_eq, UInt8.le_iff_toNat_le,
    UInt8.le_iff_toNat_le, htoNat]
  exact ⟨Nat.le_add_right _ _, by show 0x30 + d ≤ 0x39; omega⟩

theorem decimalValue_concat (bs : Bytes) {d : Nat} (h : d < 10) :
    decimalValue (bs ++ [UInt8.ofNat (0x30 + d)]) = 10 * decimalValue bs + d := by
  rw [decimalValue, List.foldl_append, List.foldl_cons, List.foldl_nil, toNat_digit h,
    Nat.add_sub_cancel_left]
  rfl

theorem decimalValue_decimalDigits (fuel n : Nat) (h : n < fuel) :
    decimalValue (decimalDigits fuel n) = n := by
  induction fuel generalizing n with
  | zero => exact absurd h (Nat.not_lt_zero n)
  | succ fuel ih =>
      rw [decimalDigits]
      split
      · next hlt =>
          have hone := decimalValue_concat [] hlt
          rwa [List.nil_append, show decimalValue [] = 0 from rfl, Nat.mul_zero, Nat.zero_add]
            at hone
      · next hge =>
          have hfuel : n / 10 < fuel := by omega
          rw [decimalValue_concat _ (Nat.mod_lt n (by decide)), ih _ hfuel]
          exact Nat.div_add_mod n 10

/-- **A numeral denotes its number.** -/
theorem decimalValue_decimal (n : Nat) : decimalValue (decimal n) = n :=
  decimalValue_decimalDigits (n + 1) n (Nat.lt_succ_self n)

theorem isDigit_decimalDigits (fuel n : Nat) : ∀ b ∈ decimalDigits fuel n, isDigit b = true := by
  induction fuel generalizing n with
  | zero => nofun
  | succ fuel ih =>
      intro b hb
      rw [decimalDigits] at hb
      split at hb
      · next hlt =>
          rw [List.mem_singleton.1 hb]
          exact isDigit_digit hlt
      · rcases List.mem_append.1 hb with hb | hb
        · exact ih _ b hb
        · rw [List.mem_singleton.1 hb]
          exact isDigit_digit (Nat.mod_lt n (by decide))

theorem isDigit_decimal (n : Nat) : ∀ b ∈ decimal n, isDigit b = true :=
  isDigit_decimalDigits (n + 1) n

theorem decimal_ne_nil (n : Nat) : decimal n ≠ [] := by
  rw [decimal, decimalDigits]
  split
  · exact List.cons_ne_nil _ _
  · exact List.append_ne_nil_of_right_ne_nil _ (List.cons_ne_nil _ _)

end RemotePlay
