import Mathlib.Logic.Relation
import RemotePlay.Security.SessionCodes

set_option autoImplicit false

/-! # What counts as the same session code

`normalizeSessionCode` drops the separators, upper-cases the letters and then asks for eight symbols
of the alphabet. Said without the loop: `compact` of the input is a `CodeWord`, and the result shows
it in two groups of four. Spellings that differ in separators and letter case have the same
`compact`, so the result does not tell them apart. -/

namespace RemotePlay.Security

/-- `'-'` or `' '`. -/
def isSeparator (ch : UInt8) : Bool := ch == 0x2D || ch == 0x20

/-- `'a'` to `'z'` become `'A'` to `'Z'`. -/
def upperCase (ch : UInt8) : UInt8 := if 0x61 ≤ ch ∧ ch ≤ 0x7A then ch - 0x20 else ch

/-- The input without separators, in upper case. -/
def compact (s : Bytes) : Bytes := (s.filter (fun ch => !isSeparator ch)).map upperCase

/-- Eight symbols of the alphabet. -/
def CodeWord (cs : Bytes) : Prop := cs.length = 8 ∧ ∀ ch ∈ cs, ch ∈ kCodeAlphabet

/-- `XXXX-XXXX`. -/
def grouped (cs : Bytes) : Bytes := cs.take 4 ++ ascii "-" ++ cs.drop 4

/-- One edit that keeps the code: a separator more, or a letter in the other case. -/
inductive Respelled : Bytes → Bytes → Prop where
  | separator (before after : Bytes) (ch : UInt8) (h : isSeparator ch = true) :
      Respelled (before ++ after) (before ++ ch :: after)
  | letterCase (before after : Bytes) (ch ch' : UInt8) (h : upperCase ch = upperCase ch') :
      Respelled (before ++ ch :: after) (before ++ ch' :: after)

/-! ## One character -/

theorem normalizeChar_eq (ch : UInt8) :
    normalizeChar ch = if isSeparator ch then none else some (upperCase ch) := by
  have hshift : ch - 0x61 + 0x41 = ch - 0x20 := by
    rw [UInt8.sub_eq_add_neg, UInt8.sub_eq_add_neg, UInt8.add_assoc]
    rfl
  unfold normalizeChar isSeparator upperCase
  simp only [Bool.or_eq_true, beq_iff_eq, hshift]
  split
  · rfl
  split
  · rfl
  · rfl

theorem filterMap_normalizeChar_eq (s : Bytes) : s.filterMap normalizeChar = compact s := by
  induction s with
  | nil => rfl
  | cons ch s ih =>
      rw [List.filterMap_cons, normalizeChar_eq, ih, compact, compact, List.filter_cons]
      cases h : isSeparator ch with
      | true => rfl
      | false => rfl

/-- A separator stays what it is in the other case, and so does everything else. -/
theorem isSeparator_upperCase (ch : UInt8) : isSeparator (upperCase ch) = isSeparator ch := by
  have hall : ∀ n : Fin 256,
      isSeparator (upperCase (UInt8.ofNat n)) = isSeparator (UInt8.ofNat n) := by decide +kernel
  have hch := hall ⟨ch.toNat, ch.toNat_lt⟩
  rwa [UInt8.ofNat_toNat] at hch

/-! ## Compact forms -/

theorem compact_append (s s' : Bytes) : compact (s ++ s') = compact s ++ compact s' := by
  simp [compact]

theorem compact_cons (ch : UInt8) (s : Bytes) :
    compact (ch :: s) = if isSeparator ch then compact s else upperCase ch :: compact s := by
  unfold compact
  rw [List.filter_cons]
  cases h : isSeparator ch with
  | true => rfl
  | false => rfl

/-- Symbols of the alphabet are compact. -/
theorem compact_of_mem {cs : Bytes} (h : ∀ ch ∈ cs, ch ∈ kCodeAlphabet) : compact cs = cs := by
  rw [← filterMap_normalizeChar_eq, filterMap_normalizeChar h]

theorem compact_grouped {cs : Bytes} (h : ∀ ch ∈ cs, ch ∈ kCodeAlphabet) :
    compact (grouped cs) = cs := by
  have hdash : compact (ascii "-") = [] := by decide +kernel
  have htake : compact (cs.take 4) = cs.take 4 :=
    compact_of_mem (fun ch hch => h ch (List.mem_of_mem_take hch))
  have hdrop : compact (cs.drop 4) = cs.drop 4 :=
    compact_of_mem (fun ch hch => h ch (List.mem_of_mem_drop hch))
  rw [grouped, compact_append, compact_append, hdash, htake, hdrop, List.append_nil,
    List.take_append_drop]

theorem compact_respelled {s s' : Bytes} (h : Respelled s s') : compact s = compact s' := by
  cases h with
  | separator before after ch h => rw [compact_append, compact_append, compact_cons, if_pos h]
  | letterCase before after ch ch' h =>
      have hsep : isSeparator ch = isSeparator ch' := by
        rw [← isSeparator_upperCase ch, h, isSeparator_upperCase]
      rw [compact_append, compact_append, compact_cons, compact_cons, hsep, h]

theorem compact_spellings {s s' : Bytes} (h : Relation.EqvGen Respelled s s') :
    compact s = compact s' := by
  induction h with
  | rel s s' h => exact compact_respelled h
  | refl s => rfl
  | symm s s' _ ih => exact ih.symm
  | trans s s' s'' _ _ ih ih' => exact ih.trans ih'

/-! ## The normal form -/

theorem normalizeSessionCode_eq_some_iff (s code : Bytes) :
    normalizeSessionCode s = some code ↔ CodeWord (compact s) ∧ code = grouped (compact s) := by
  unfold normalizeSessionCode
  rw [filterMap_normalizeChar_eq]
  dsimp only
  split
  · next hlen =>
      constructor
      · intro h
        cases h
      · rintro ⟨⟨hlen', -⟩, -⟩
        exact absurd hlen' hlen
  next hlen =>
  have hlen := not_not.1 hlen
  have htake : ((compact s).drop 4).take 4 = (compact s).drop 4 :=
    List.take_of_length_le (by rw [List.length_drop, hlen])
  rw [htake]
  split
  · next hall =>
      simp only [List.all_eq_true, List.contains_iff_mem] at hall
      rw [Option.some.injEq]
      constructor
      · intro h
        exact ⟨⟨hlen, hall⟩, h.symm⟩
      · rintro ⟨-, rfl⟩
        rfl
  · next hall =>
      constructor
      · intro h
        cases h
      · rintro ⟨⟨-, hall'⟩, -⟩
        simp only [List.all_eq_true, List.contains_iff_mem] at hall
        exact absurd hall' hall

/-- Only the compact form decides. -/
theorem normalizeSessionCode_congr {s s' : Bytes} (h : compact s = compact s') :
    normalizeSessionCode s = normalizeSessionCode s' := by
  refine Option.ext fun code => ?_
  rw [normalizeSessionCode_eq_some_iff, normalizeSessionCode_eq_some_iff, h]

/-! ## Comparing two codes -/

/-- The loop never forgets a difference. -/
theorem foldl_diff_eq_zero_iff (l : List (UInt8 × UInt8)) (diff : UInt8) :
    l.foldl (fun diff ab => diff ||| (ab.1 ^^^ ab.2)) diff = 0 ↔
      diff = 0 ∧ ∀ ab ∈ l, ab.1 = ab.2 := by
  induction l generalizing diff with
  | nil => simp
  | cons ab l ih =>
      rw [List.foldl_cons, ih, List.forall_mem_cons, UInt8.or_eq_zero_iff, UInt8.xor_eq_zero_iff,
        and_assoc]

theorem constantTimeEqual_iff (a b : Bytes) : constantTimeEqual a b = true ↔ a = b := by
  constructor
  · intro h
    unfold constantTimeEqual at h
    split at h
    · cases h
    next hlen =>
    rw [beq_iff_eq, foldl_diff_eq_zero_iff] at h
    refine List.ext_getElem (not_not.1 hlen) fun i ha hb => ?_
    have hmem : (a[i], b[i]) ∈ List.zip a b := by
      rw [← List.getElem_zip]
      · exact List.getElem_mem (by rw [List.length_zip]; omega)
    exact h.2 _ hmem
  · rintro rfl
    exact constantTimeEqual_self a

theorem verifySessionCode_iff (presented actual : Bytes) :
    verifySessionCode presented actual = true ↔
      ∃ code, normalizeSessionCode presented = some code ∧
        normalizeSessionCode actual = some code := by
  unfold verifySessionCode
  split
  · next p a hp ha =>
      rw [hp, ha, constantTimeEqual_iff]
      constructor
      · rintro rfl
        exact ⟨p, rfl, rfl⟩
      · rintro ⟨code, hp', ha'⟩
        rw [Option.some.inj hp', Option.some.inj ha']
  · next hnone =>
      constructor
      · intro h
        cases h
      · rintro ⟨code, hp, ha⟩
        exact absurd ha (hnone code code hp)

/-- **Session code normalization.** The normal form exists exactly for eight symbols of the alphabet
    in whatever spelling and shows them in two groups; it is its own normal form, as is every
    generated code; spellings share it; and a presented code is accepted exactly if it has the
    normal form of the actual one. -/
theorem session_code_normalization :
    (∀ s code, normalizeSessionCode s = some code ↔
      CodeWord (compact s) ∧ code = grouped (compact s)) ∧
    (∀ s code, normalizeSessionCode s = some code → normalizeSessionCode code = some code) ∧
    (∀ s s', Relation.EqvGen Respelled s s' → normalizeSessionCode s = normalizeSessionCode s') ∧
    (∀ rnd, normalizeSessionCode (generateSessionCode rnd) = some (generateSessionCode rnd)) ∧
    (∀ presented actual, verifySessionCode presented actual = true ↔
      ∃ code, normalizeSessionCode presented = some code ∧
        normalizeSessionCode actual = some code) := by
  refine ⟨normalizeSessionCode_eq_some_iff, ?_, ?_, normalizeSessionCode_generateSessionCode,
    verifySessionCode_iff⟩
  · intro s code h
    obtain ⟨hword, rfl⟩ := (normalizeSessionCode_eq_some_iff s code).1 h
    rw [normalizeSessionCode_eq_some_iff, compact_grouped hword.2]
    exact ⟨hword, rfl⟩
  · intro s s' h
    exact normalizeSessionCode_congr (compact_spellings h)

end RemotePlay.Security
