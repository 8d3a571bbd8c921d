import Mathlib.Data.List.Basic
import Mathlib.Tactic.Common
import Mathlib.Tactic.Ring

set_option autoImplicit false

/-! # Byte strings and little-endian words

`leBytes n v` is the `n`-byte little-endian image of `v` (what `memcpy` from an integer leaves on a
little-endian machine) and `leVal` reads such an image back. The two are inverse on `n`-byte strings
and on values below `256 ^ n`, which is all a codec over fixed-width fields needs.

`overwrite dst off src` is `memcpy(dst + off, src, src.length)`, described position by position. -/

namespace RemotePlay

abbrev Bytes := List UInt8

/-! ## Little-endian words -/

/-- The `n` low-order bytes of `v`, least significant first. -/
def leBytes : Nat → Nat → Bytes
  | 0, _ => []
  | n + 1, v => UInt8.ofNat v :: leBytes n (v / 256)

/-- The value a little-endian byte string denotes. -/
def leVal : Bytes → Nat
  | [] => 0
  | b :: bs => b.toNat + 256 * leVal bs

@[simp] theorem length_leBytes (n v : Nat) : (leBytes n v).length = n := by
  induction n generalizing v with
  | zero => rfl
  | succ n ih => simp [leBytes, ih]

theorem leVal_leBytes (n v : Nat) : leVal (leBytes n v) = v % 256 ^ n := by
  induction n generalizing v with
  | zero => simp [leBytes, leVal, Nat.mod_one]
  | succ n ih =>
      have hsplit : v % 256 ^ (n + 1) = v % 256 + 256 * (v / 256 % 256 ^ n) := by
        rw [pow_succ', Nat.mod_mul]
      rw [leBytes, leVal, ih, hsplit, UInt8.toNat_ofNat']

theorem leVal_leBytes_of_lt (n v : Nat) (h : v < 256 ^ n) : leVal (leBytes n v) = v := by
  rw [leVal_leBytes, Nat.mod_eq_of_lt h]

theorem u16_leBytes (v : UInt16) : UInt16.ofNat (leVal (leBytes 2 v.toNat)) = v := by
  rw [leVal_leBytes_of_lt 2 _ v.toNat_lt, UInt16.ofNat_toNat]

theorem u32_leBytes (v : UInt32) : UInt32.ofNat (leVal (leBytes 4 v.toNat)) = v := by
  rw [leVal_leBytes_of_lt 4 _ v.toNat_lt, UInt32.ofNat_toNat]

theorem u64_leBytes (v : UInt64) : UInt64.ofNat (leVal (leBytes 8 v.toNat)) = v := by
  rw [leVal_leBytes_of_lt 8 _ v.toNat_lt, UInt64.ofNat_toNat]

theorem leVal_lt (bs : Bytes) : leVal bs < 256 ^ bs.length := by
  induction bs with
  | nil => simp [leVal]
  | cons b bs ih =>
      have hb := b.toNat_lt
      simp only [leVal, List.length_cons, pow_succ']
      omega

theorem leBytes_leVal (bs : Bytes) : leBytes bs.length (leVal bs) = bs := by
  induction bs with
  | nil => rfl
  | cons b bs ih =>
      have hb := b.toNat_lt
      have hdiv : (b.toNat + 256 * leVal bs) / 256 = leVal bs := by omega
      have hhead : UInt8.ofNat (b.toNat + 256 * leVal bs) = b := by
        apply UInt8.toNat_inj.mp
        rw [UInt8.toNat_ofNat']
        omega
      simp only [List.length_cons, leBytes, leVal, hdiv, hhead, ih]

/-! ## Overwriting part of a buffer -/

section Overwrite

variable {α : Type}

/-- `memcpy(dst + off, src, src.length)` inside the buffer `dst`. -/
def overwrite (dst : List α) (off : Nat) (src : List α) : List α :=
  dst.take off ++ src ++ dst.drop (off + src.length)

theorem length_overwrite (dst : List α) (off : Nat) (src : List α)
    (h : off + src.length ≤ dst.length) : (overwrite dst off src).length = dst.length := by
  simp only [overwrite, List.length_append, List.length_take, List.length_drop]
  omega

/-- What each position of the buffer holds afterwards. -/
theorem getElem?_overwrite (dst : List α) (off : Nat) (src : List α)
    (h : off + src.length ≤ dst.length) (i : Nat) :
    (overwrite dst off src)[i]?
      = if off ≤ i ∧ i < off + src.length then src[i - off]? else dst[i]? := by
  have htake : (dst.take off).length = off := by
    rw [List.length_take]
    omega
  unfold overwrite
  by_cases hlo : i < off
  · rw [List.append_assoc, List.getElem?_append_left (by omega), List.getElem?_take_of_lt hlo,
      if_neg (by omega)]
  · by_cases hhi : i < off + src.length
    · rw [List.append_assoc, List.getElem?_append_right (by omega), htake,
        List.getElem?_append_left (by omega), if_pos (by omega)]
    · rw [List.getElem?_append_right (by rw [List.length_append]; omega), List.getElem?_drop,
        List.length_append, htake, if_neg (by omega)]
      congr 1
      omega

end Overwrite

end RemotePlay
