import RemotePlay.Security.Crypto

set_option autoImplicit false

/-! # HKDF as RFC 5869 has it

The RFC defines a sequence of blocks, `T(0)` empty and `T(i) = HMAC(PRK, T(i-1) || info || i)`, and
takes the output off the front of their concatenation. `hkdfSha256` builds the same bytes in a loop
that carries the last block and an 8-bit counter. At most 255 blocks are used, so the counter is the
number of the block throughout; when it wraps, after the 255th, the loop is over. -/

namespace RemotePlay.Crypto

section Hkdf

variable (c : Cng) (prk info : Bytes)

/-- `T(i)`. -/
def hkdfBlock : Nat → Bytes
  | 0 => []
  | i + 1 => c.hmacSha256 prk (hkdfBlock i ++ info ++ [UInt8.ofNat (i + 1)])

/-- `T(1) || ... || T(n)`. -/
def hkdfBlocks : Nat → Bytes
  | 0 => []
  | n + 1 => hkdfBlocks n ++ hkdfBlock c prk info (n + 1)

/-- The blocks that `outLen` bytes need. -/
def blocksFor (outLen : Nat) : Nat := (outLen + 31) / 32

theorem length_hkdfBlock_succ (i : Nat) : (hkdfBlock c prk info (i + 1)).length = 32 :=
  c.hmac_length _ _

theorem length_hkdfBlocks (n : Nat) : (hkdfBlocks c prk info n).length = 32 * n := by
  induction n with
  | zero => rfl
  | succ n ih =>
      rw [hkdfBlocks, List.length_append, ih, length_hkdfBlock_succ]
      omega

theorem hkdfBlocks_prefix {i n : Nat} (h : i ≤ n) :
    hkdfBlocks c prk info i <+: hkdfBlocks c prk info n := by
  induction n, h using Nat.le_induction with
  | base => exact List.prefix_refl _
  | succ n _ ih => exact ih.trans (List.prefix_append _ _)

/-- Enough blocks all start the same way. -/
theorem take_hkdfBlocks {i n k : Nat} (h : i ≤ n) (hk : k ≤ 32 * i) :
    (hkdfBlocks c prk info n).take k = (hkdfBlocks c prk info i).take k := by
  obtain ⟨rest, hrest⟩ := hkdfBlocks_prefix c prk info h
  rw [← hrest, List.take_append_of_le_length]
  rw [length_hkdfBlocks]
  exact hk

/-- The loop is left as soon as there is enough. -/
theorem hkdfExpand_done {outLen : Nat} (fuel : Nat) (counter : UInt8) (t : Bytes) {out : Bytes}
    (h : outLen ≤ out.length) :
    hkdfExpand c.hmacSha256 prk info outLen fuel counter t out = out := by
  cases fuel with
  | zero => rfl
  | succ fuel => rw [hkdfExpand, if_neg (Nat.not_lt.2 h)]

/-- **The loop.** After `i` whole blocks it holds `T(i)` and their concatenation, and goes on to the
    bytes asked for. -/
theorem hkdfExpand_eq (outLen fuel i : Nat) (hi : 32 * i ≤ outLen)
    (hfuel : blocksFor outLen ≤ i + fuel) :
    hkdfExpand c.hmacSha256 prk info outLen fuel (UInt8.ofNat (i + 1)) (hkdfBlock c prk info i)
      (hkdfBlocks c prk info i) = (hkdfBlocks c prk info (blocksFor outLen)).take outLen := by
  have hlen := length_hkdfBlocks c prk info
  have hblocks : outLen ≤ 32 * blocksFor outLen ∧ 32 * blocksFor outLen < outLen + 32 := by
    unfold blocksFor
    omega
  induction fuel generalizing i with
  | zero =>
      have heq : i = blocksFor outLen := by omega
      rw [hkdfExpand, ← heq, List.take_of_length_le]
      rw [hlen]
      omega
  | succ fuel ih =>
      rw [hkdfExpand, hlen]
      split
      · next hlt =>
          have hblock : c.hmacSha256 prk
              (hkdfBlock c prk info i ++ info ++ [UInt8.ofNat (i + 1)])
                = hkdfBlock c prk info (i + 1) := rfl
          rw [hblock]
          dsimp only
          by_cases hwhole : 32 * (i + 1) ≤ outLen
          · -- a whole block is appended
            rw [List.take_of_length_le (by rw [length_hkdfBlock_succ]; omega)]
            have hcounter : UInt8.ofNat (i + 1) + 1 = UInt8.ofNat (i + 1 + 1) :=
              (UInt8.ofNat_add (i + 1) 1).symm
            rw [hcounter]
            exact ih (i + 1) hwhole (by omega)
          · -- the last block is cut
            have hlast : blocksFor outLen = i + 1 := by omega
            have hout : (hkdfBlocks c prk info (i + 1)).take outLen = hkdfBlocks c prk info i ++
                (hkdfBlock c prk info (i + 1)).take (outLen - 32 * i) := by
              rw [hkdfBlocks, List.take_append, hlen, List.take_of_length_le]
              rw [hlen]
              exact hi
            have htake : min 32 (outLen - 32 * i) = outLen - 32 * i := by omega
            rw [htake, ← hout, hlast]
            apply hkdfExpand_done
            rw [List.length_take, hlen]
            omega
      · next hge =>
          have heq : outLen = 32 * i := by omega
          rw [take_hkdfBlocks c prk info (i := i) (by omega) (by omega), List.take_of_length_le]
          rw [hlen]
          omega

end Hkdf

/-- **HKDF.** Of every length up to 255 blocks the loop, given at least as many passes as blocks,
    leaves with exactly that many bytes off the front of `T(1) || T(2) || ...` under the extracted
    key, with block numbers that fit a byte; shorter outputs are prefixes of longer ones, and any
    other length gives nothing. -/
theorem hkdfSha256_rfc5869 (c : Cng) (ikm salt info : Bytes) :
    (∀ outLen, 1 ≤ outLen → outLen ≤ 8160 →
      hkdfSha256 c ikm salt info outLen
          = (hkdfBlocks c (c.hmacSha256 salt ikm) info 255).take outLen ∧
        (hkdfSha256 c ikm salt info outLen).length = outLen ∧
        (∀ fuel, blocksFor outLen ≤ fuel →
          hkdfExpand c.hmacSha256 (c.hmacSha256 salt ikm) info outLen fuel 1 [] []
            = hkdfSha256 c ikm salt info outLen) ∧
        ∀ i ≤ blocksFor outLen, (UInt8.ofNat i).toNat = i) ∧
    (∀ short long, 1 ≤ short → short ≤ long → long ≤ 8160 →
      hkdfSha256 c ikm salt info short <+: hkdfSha256 c ikm salt info long) ∧
    ∀ outLen, outLen = 0 ∨ 8160 < outLen → hkdfSha256 c ikm salt info outLen = [] := by
  have hexpand : ∀ outLen fuel, outLen ≤ 8160 → blocksFor outLen ≤ fuel →
      hkdfExpand c.hmacSha256 (c.hmacSha256 salt ikm) info outLen fuel 1 [] []
        = (hkdfBlocks c (c.hmacSha256 salt ikm) info 255).take outLen := by
    intro outLen fuel hmax hfuel
    have hloop := hkdfExpand_eq c (c.hmacSha256 salt ikm) info outLen fuel 0 (Nat.zero_le _)
      (by omega)
    refine hloop.trans (take_hkdfBlocks c _ info ?_ ?_).symm
    · unfold blocksFor
      omega
    · unfold blocksFor
      omega
  have hvalue : ∀ outLen, 1 ≤ outLen → outLen ≤ 8160 → hkdfSha256 c ikm salt info outLen
      = (hkdfBlocks c (c.hmacSha256 salt ikm) info 255).take outLen := by
    intro outLen hpos hmax
    rw [hkdfSha256, if_neg (by omega)]
    exact hexpand outLen outLen hmax (by unfold blocksFor; omega)
  refine ⟨?_, ?_, ?_⟩
  · intro outLen hpos hmax
    have hlen := length_hkdfSha256 c ikm salt info outLen (by omega) hmax
    refine ⟨hvalue outLen hpos hmax, hlen, ?_, ?_⟩
    · intro fuel hfuel
      rw [hvalue outLen hpos hmax, hexpand outLen fuel hmax hfuel]
    · intro i hi
      unfold blocksFor at hi
      exact UInt8.toNat_ofNat_of_lt (show i < 256 by omega)
  · intro short long hpos hle hmax
    rw [hvalue short hpos (hle.trans hmax), hvalue long (hpos.trans hle) hmax]
    exact List.take_prefix_take_left hle
  · intro outLen hout
    rw [hkdfSha256, if_pos (by omega)]

end RemotePlay.Crypto
