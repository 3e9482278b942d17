import Mathlib.Algebra.Field.Rat
import Mathlib.Tactic.FieldSimp
import Mathlib.Tactic.Ring
import SqlTemplate.Proofs.Number.Token

/-!
# Positional notation

`readPositional?` gives the rational number that a text of digits denotes, perhaps with a point
among them and a minus sign before them; it knows of no exponents. `IsNumeral` describes such texts
by the digits in front of the point and behind it. A finite decimal without exponent is one
(`isNumeral_plainText`): as many digits as a negative exponent says stand behind the point, and it
denotes the coefficient times the power of ten.
-/

namespace SqlTemplate.Decimal

/-! ## Reading -/

/-- The number that digits in front of a point and digits behind it denote. -/
def positionalValue (whole fraction : Text) : ℚ :=
  Nat.ofDigitChars 10 whole 0 + Nat.ofDigitChars 10 fraction 0 / 10 ^ fraction.length

/-- Reads digits, at least one, and where a point follows them at least one digit behind it. -/
def readUnsigned? (s : Text) : Option ℚ :=
  let whole := s.takeWhile Char.isDigit
  if whole.isEmpty then none
  else match s.dropWhile Char.isDigit with
    | [] => some (positionalValue whole [])
    | '.' :: fraction =>
      if !fraction.isEmpty && fraction.all Char.isDigit then some (positionalValue whole fraction)
      else none
    | _ => none

/-- The number that a text in positional notation denotes. -/
def readPositional? : Text → Option ℚ
  | '-' :: s => (readUnsigned? s).map (-·)
  | s => readUnsigned? s

/-- The digits behind the point, with the point where there are any. -/
def pointed (fraction : Text) : Text := if fraction.isEmpty then [] else '.' :: fraction

section

variable {whole fraction : Text} (hn : whole ≠ []) (hw : ∀ c ∈ whole, c.isDigit = true)

include hw in
/-- The digits of a number end at its point. -/
theorem span_pointed (fraction : Text) :
    (whole ++ pointed fraction).takeWhile Char.isDigit = whole ∧
      (whole ++ pointed fraction).dropWhile Char.isDigit = pointed fraction := by
  rw [List.takeWhile_append_of_pos hw, List.dropWhile_append_of_pos hw]
  cases fraction with
  | nil => exact ⟨List.append_nil whole, rfl⟩
  | cons d rest => exact ⟨List.append_nil whole, rfl⟩

variable (hf : ∀ c ∈ fraction, c.isDigit = true)

include hw hf in
theorem numeric_pointed : Literal.Numeric (whole ++ pointed fraction) := by
  have hdigits : ∀ {s : Text}, (∀ c ∈ s, c.isDigit = true) → Literal.Numeric s :=
    fun hs c hc => .inl (hs c hc)
  refine (hdigits hw).append ?_
  rw [pointed]
  split
  · exact .nil
  · exact (hdigits hf).point

include hn hw hf

theorem readUnsigned?_pointed :
    readUnsigned? (whole ++ pointed fraction) = some (positionalValue whole fraction) := by
  obtain ⟨htake, hdrop⟩ := span_pointed hw fraction
  rw [readUnsigned?, htake, hdrop]
  cases fraction with
  | nil => simp [hn, pointed]
  | cons d rest =>
    have hall : (d :: rest).all Char.isDigit = true := List.all_eq_true.2 hf
    simp [hn, pointed, hall]

theorem readPositional?_pointed (negative : Bool) :
    readPositional? (Text.sign negative ++ (whole ++ pointed fraction)) =
      some ((-1) ^ negative.toNat * positionalValue whole fraction) := by
  have hr := readUnsigned?_pointed hn hw hf
  cases negative with
  | true =>
    have hs : readPositional? (Text.sign true ++ (whole ++ pointed fraction)) =
        (readUnsigned? (whole ++ pointed fraction)).map (-·) := rfl
    rw [hs, hr]
    simp
  | false =>
    obtain ⟨c, rest, rfl⟩ := List.exists_cons_of_ne_nil hn
    have hc : c ≠ '-' := by
      rintro rfl
      exact absurd (hw '-' List.mem_cons_self) (by decide)
    have hs : readPositional? (Text.sign false ++ (c :: rest ++ pointed fraction)) =
        readUnsigned? (c :: rest ++ pointed fraction) := by
      rw [Text.sign, if_neg Bool.false_ne_true, List.nil_append, List.cons_append, readPositional?]
      simp [hc]
    rw [hs, hr]
    simp

end

/-! ## Numerals -/

/-- The text consists of digits, at least one, and where `places` is not zero of a point and that
many digits behind it; it denotes the given number. -/
def IsNumeral (places : Nat) (value : ℚ) (t : Text) : Prop :=
  ∃ whole fraction : Text, t = whole ++ pointed fraction ∧ whole ≠ [] ∧
    (∀ c ∈ whole, c.isDigit = true) ∧ (∀ c ∈ fraction, c.isDigit = true) ∧
    fraction.length = places ∧ positionalValue whole fraction = value

/-- Digits behind the point are worth a power of ten less. -/
theorem positionalValue_append (whole fraction : Text) :
    positionalValue whole fraction =
      Nat.ofDigitChars 10 (whole ++ fraction) 0 / 10 ^ fraction.length := by
  have h : Nat.ofDigitChars 10 (whole ++ fraction) 0 =
      10 ^ fraction.length * Nat.ofDigitChars 10 whole 0 + Nat.ofDigitChars 10 fraction 0 := by
    rw [Nat.ofDigitChars_append, Nat.ofDigitChars_eq_ofDigitChars_zero (l := fraction)]
  rw [positionalValue, h]
  push_cast
  field_simp

section

variable {digits : Text} (hd : ∀ c ∈ digits, c.isDigit = true)

include hd

/-- Digits denote the number that they stand for. -/
theorem isNumeral_digits (hn : digits ≠ []) :
    IsNumeral 0 (Nat.ofDigitChars 10 digits 0) digits := by
  refine ⟨digits, [], (List.append_nil digits).symm, hn, hd, by simp, rfl, ?_⟩
  rw [positionalValue_append, List.append_nil, List.length_nil, pow_zero, div_one]

/-- A point among the digits, with at least one of them in front of it. -/
theorem isNumeral_point {places : Nat} (hp : 0 < places) (hl : places < digits.length) :
    IsNumeral places (Nat.ofDigitChars 10 digits 0 / 10 ^ places)
      (digits.take (digits.length - places) ++ '.' :: digits.drop (digits.length - places)) := by
  have hback : (digits.drop (digits.length - places)).length = places := by
    rw [List.length_drop]
    omega
  have hpoint : (digits.drop (digits.length - places)).isEmpty = false := by
    rw [List.isEmpty_eq_false_iff, ← List.length_pos_iff, hback]
    exact hp
  refine ⟨digits.take (digits.length - places), digits.drop (digits.length - places), ?_, ?_,
    fun c hm => hd c (List.mem_of_mem_take hm), fun c hm => hd c (List.mem_of_mem_drop hm),
      hback, ?_⟩
  · rw [pointed, hpoint, if_neg Bool.false_ne_true]
  · rw [← List.length_pos_iff, List.length_take]
    omega
  · rw [positionalValue_append, List.take_append_drop, hback]

end

/-! ## Writing -/

theorem isDigit_toDigits (n : Nat) : ∀ c ∈ Nat.toDigits 10 n, c.isDigit = true := fun _ =>
  Nat.isDigit_of_mem_toDigits (by decide) (by decide)

theorem isDigit_zeros (n : Nat) : ∀ c ∈ List.replicate n '0', c.isDigit = true := by
  intro c hc
  rw [(List.mem_replicate.1 hc).2]
  decide

/-- **A decimal without exponent** has as many digits behind its point as a negative exponent says,
and denotes the coefficient times the power of ten. -/
theorem isNumeral_plainText (negative : Bool) (coefficient : Nat) (exponent : Int) :
    ∃ t, plainText negative coefficient exponent = Text.sign negative ++ t ∧
      IsNumeral (-exponent).toNat (coefficient * 10 ^ exponent) t := by
  refine ⟨_, rfl, ?_⟩
  split
  · rename_i he
    obtain ⟨n, rfl⟩ := Int.eq_ofNat_of_zero_le he
    have hn : (-(n : Int)).toNat = 0 := by omega
    rw [hn, zpow_natCast, Int.toNat_natCast]
    split
    · -- a nought has no zeros behind it
      rename_i hc
      subst hc
      have h := isNumeral_digits (isDigit_zeros 1) (by simp)
      rwa [Nat.ofDigitChars_replicate_zero, Nat.mul_zero, Nat.cast_zero,
        ← zero_mul ((10 : ℚ) ^ n)] at h
    · have hd : ∀ c ∈ Nat.toDigits 10 coefficient ++ List.replicate n '0', c.isDigit = true :=
        fun c hc => (List.mem_append.1 hc).elim (isDigit_toDigits _ c) (isDigit_zeros n c)
      have h := isNumeral_digits hd (by simp)
      rwa [Nat.ofDigitChars_append, Nat.ofDigitChars_ten_toDigits, Nat.ofDigitChars_replicate_zero,
        Nat.mul_comm, Nat.cast_mul, Nat.cast_pow, Nat.cast_ofNat] at h
  · rename_i he
    obtain ⟨places, rfl⟩ : ∃ places : Nat, exponent = -places := ⟨(-exponent).toNat, by omega⟩
    have hn : (-(-(places : Int))).toNat = places := by omega
    dsimp only
    rw [hn, zpow_neg, zpow_natCast, ← div_eq_mul_inv]
    -- zeros are filled in so that a digit stands in front of the point
    generalize hz : places + 1 - (Nat.toDigits 10 coefficient).length = zeros
    have hd : ∀ c ∈ List.replicate zeros '0' ++ Nat.toDigits 10 coefficient, c.isDigit = true :=
      fun c hc => (List.mem_append.1 hc).elim (isDigit_zeros zeros c) (isDigit_toDigits _ c)
    have hlength : places < (List.replicate zeros '0' ++ Nat.toDigits 10 coefficient).length := by
      rw [List.length_append, List.length_replicate]
      omega
    have h := isNumeral_point hd (by omega : 0 < places) hlength
    rwa [Nat.ofDigitChars_append, Nat.ofDigitChars_replicate_zero, Nat.mul_zero,
      Nat.ofDigitChars_ten_toDigits] at h

end SqlTemplate.Decimal
