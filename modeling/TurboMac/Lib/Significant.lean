import Mathlib.Data.Int.Log
import Mathlib.Data.List.DropRight
import TurboMac.Lib.Decimal

/-! # Numbers in so many significant digits

`general digits q` is the text that `printf` and Python write for the format `g`
with a precision of `digits`. It is read back as the number rounded to so many
digits, which is the number if and only if it has no more.
-/

namespace Decimal

/-! ## Rounding to digits -/

/-- `q` is an integer of so many digits at most, scaled. -/
def HasDigits (digits : ℕ) (q : ℚ) : Prop := ∃ m e : ℤ, |m| < 10 ^ digits ∧ q = m * 10 ^ e

/-- A positive number in units of the last of its digits. -/
def scaled (digits : ℕ) (q : ℚ) : ℚ := q * 10 ^ (digits - 1 - Int.log 10 q : ℤ)

/-- The digits of a positive number, and the exponent of the first of them. -/
def significant (digits : ℕ) (q : ℚ) : ℕ × ℤ :=
  let exponent := Int.log 10 q
  let rounded := (roundHalfEven (scaled digits q)).toNat
  if rounded = 10 ^ digits then (10 ^ (digits - 1), exponent + 1) else (rounded, exponent)

/-- The number of these digits. -/
def significantValue (digits : ℕ) (q : ℚ) : ℚ :=
  (significant digits q).1 * 10 ^ ((significant digits q).2 - (digits - 1) : ℤ)

section

variable {digits : ℕ} {q : ℚ}

theorem scaled_mul (digits : ℕ) (q : ℚ) :
    scaled digits q * 10 ^ (Int.log 10 q - (digits - 1) : ℤ) = q := by
  have hcancel : (10 : ℚ) ^ (digits - 1 - Int.log 10 q : ℤ) * 10 ^ (Int.log 10 q - (digits - 1) : ℤ) = 1 := by
    rw [← zpow_add₀ (by norm_num)]
    have hzero : (digits - 1 - Int.log 10 q : ℤ) + (Int.log 10 q - (digits - 1)) = 0 := by omega
    rw [hzero, zpow_zero]
  rw [scaled, mul_assoc, hcancel, mul_one]

theorem roundHalfEven_scaled (digits : ℕ) (hq : 0 < q) :
    0 ≤ roundHalfEven (scaled digits q) ∧ roundHalfEven (scaled digits q) ≤ 10 ^ digits := by
  have hpos : (0 : ℚ) < 10 ^ (digits - 1 - Int.log 10 q : ℤ) := zpow_pos (by norm_num) _
  constructor
  · exact roundHalfEven_nonneg (mul_nonneg hq.le hpos.le)
  · have hlt := Int.lt_zpow_succ_log_self (b := 10) (by norm_num) q
    have hle : scaled digits q ≤ ((10 ^ digits : ℤ) : ℚ) := by
      have hmul := mul_le_mul_of_nonneg_right hlt.le hpos.le
      rw [Nat.cast_ofNat, ← zpow_add₀ (by norm_num)] at hmul
      have hexponent : Int.log 10 q + 1 + (digits - 1 - Int.log 10 q : ℤ) = digits := by omega
      rw [hexponent, zpow_natCast] at hmul
      push_cast
      exact hmul
    have hmono := roundHalfEven_mono hle
    rwa [roundHalfEven_intCast] at hmono

theorem significantValue_eq (hdigits : 0 < digits) (hq : 0 < q) :
    significantValue digits q =
      roundHalfEven (scaled digits q) * 10 ^ (Int.log 10 q - (digits - 1) : ℤ) := by
  obtain ⟨hnonneg, -⟩ := roundHalfEven_scaled digits hq
  have hcast : ((roundHalfEven (scaled digits q)).toNat : ℚ) = roundHalfEven (scaled digits q) := by
    exact_mod_cast Int.toNat_of_nonneg hnonneg
  unfold significantValue significant
  dsimp only
  split
  · rename_i htop
    -- one more digit before the point
    rw [← hcast, htop]
    push_cast
    rw [← zpow_natCast, ← zpow_natCast, ← zpow_add₀ (by norm_num), ← zpow_add₀ (by norm_num)]
    congr 1
    omega
  · rw [hcast]

/-- The digits are at most so many. -/
theorem significant_lt (hdigits : 0 < digits) (hq : 0 < q) :
    (significant digits q).1 < 10 ^ digits := by
  obtain ⟨hnonneg, hle⟩ := roundHalfEven_scaled digits hq
  have hnat : (roundHalfEven (scaled digits q)).toNat ≤ 10 ^ digits := by
    zify
    rw [Int.toNat_of_nonneg hnonneg]
    exact_mod_cast hle
  unfold significant
  dsimp only
  split
  · exact Nat.pow_lt_pow_right (by omega) (by omega)
  · omega

/-- Rounding does not reach the next power but one. -/
theorem significantValue_le (hdigits : 0 < digits) (hq : 0 < q) : significantValue digits q ≤ 10 * q := by
  have hround : (roundHalfEven (scaled digits q) : ℚ) ≤ 10 ^ digits := by
    exact_mod_cast (roundHalfEven_scaled digits hq).2
  have hpos : (0 : ℚ) ≤ 10 ^ (Int.log 10 q - (digits - 1) : ℤ) := zpow_nonneg (by norm_num) _
  have hlog := Int.zpow_log_le_self (b := 10) (by norm_num) hq
  have hexponent : (digits : ℤ) + (Int.log 10 q - (digits - 1)) = 1 + Int.log 10 q := by omega
  rw [significantValue_eq hdigits hq]
  calc _ ≤ (10 : ℚ) ^ digits * 10 ^ (Int.log 10 q - (digits - 1) : ℤ) :=
        mul_le_mul_of_nonneg_right hround hpos
    _ = 10 * 10 ^ Int.log 10 q := by
        rw [← zpow_natCast, ← zpow_add₀ (by norm_num), hexponent, zpow_add₀ (by norm_num), zpow_one]
    _ ≤ 10 * q := by
        rw [Nat.cast_ofNat] at hlog
        linarith

theorem significantValue_nonneg (digits : ℕ) (q : ℚ) : 0 ≤ significantValue digits q :=
  mul_nonneg (Nat.cast_nonneg _) (zpow_nonneg (by norm_num) _)

/-- A number is its own value if and only if it has no more digits. -/
theorem significantValue_eq_iff (hdigits : 0 < digits) (hq : 0 < q) :
    significantValue digits q = q ↔ HasDigits digits q := by
  constructor
  · intro heq
    refine ⟨(significant digits q).1, (significant digits q).2 - (digits - 1), ?_, ?_⟩
    · rw [abs_of_nonneg (Int.natCast_nonneg _)]
      exact_mod_cast significant_lt hdigits hq
    · rw [← heq]
      simp only [heq]
      exact heq.symm
  · rintro ⟨m, e, hm, heq⟩
    have hbound : q < ((10 : ℕ) : ℚ) ^ (e + digits : ℤ) := by
      have hmq : (m : ℚ) < 10 ^ digits := by
        exact_mod_cast (le_abs_self m).trans_lt hm
      have hmul := mul_lt_mul_of_pos_right hmq (zpow_pos (show (0 : ℚ) < 10 by norm_num) e)
      rw [← heq, ← zpow_natCast, ← zpow_add₀ (by norm_num), add_comm] at hmul
      exact_mod_cast hmul
    have hlog := (Int.lt_zpow_iff_log_lt (by norm_num) hq).mp hbound
    -- its digits and zeros behind them
    obtain ⟨k, hk⟩ := Int.eq_ofNat_of_zero_le
      (show 0 ≤ e + (digits - 1 - Int.log 10 q) by omega)
    have hinteger : scaled digits q = ((m * 10 ^ k : ℤ) : ℚ) := by
      have hexp : scaled digits q = m * 10 ^ (e + (digits - 1 - Int.log 10 q)) := by
        rw [zpow_add₀ (by norm_num), ← mul_assoc, ← heq]
        rfl
      rw [hexp, hk, zpow_natCast]
      push_cast
      rfl
    rw [significantValue_eq hdigits hq, hinteger, roundHalfEven_intCast, ← hinteger, scaled_mul]

end

/-! ## Text -/

/-- The digits after the point of `n / 10 ^ places`. -/
def fractionDigits (places n : ℕ) : List Char :=
  let digits := Nat.toDigits 10 (n % 10 ^ places)
  List.replicate (places - digits.length) '0' ++ digits

/-- A fraction with its point, nothing if it is empty. -/
def pointed (fraction : List Char) : List Char := if fraction = [] then [] else '.' :: fraction

/-- `n / 10 ^ places` without zeros at its end. -/
def trimmed (places n : ℕ) : List Char :=
  Nat.toDigits 10 (n / 10 ^ places) ++ pointed ((fractionDigits places n).rdropWhile (· = '0'))

/-- The exponent, with a sign and two digits at least. -/
def exponentText (exponent : ℤ) : List Char :=
  let digits := Nat.toDigits 10 exponent.natAbs
  (if exponent < 0 then '-' else '+') :: (List.replicate (2 - digits.length) '0' ++ digits)

/-- The format `g`. -/
def general (digits : ℕ) (q : ℚ) : List Char :=
  if q = 0 then ['0']
  else
    let (n, exponent) := significant digits |q|
    minus (decide (q < 0)) ++
      if -4 ≤ exponent ∧ exponent < digits then trimmed (digits - 1 - exponent : ℤ).toNat n
      else trimmed (digits - 1) n ++ 'e' :: exponentText exponent

section

variable {places n : ℕ} {whole fraction rest : List Char}

/-- Digits, a fraction with its point, and an exponent. -/
theorem toRat_pointed (negative : Bool) (hne : whole ≠ []) (hwhole : whole.all Char.isDigit = true)
    (hfraction : fraction.all Char.isDigit = true)
    (hrest : ∀ c tail, rest = c :: tail → c.isDigit = false ∧ c ≠ '.') :
    toRat (minus negative ++ (whole ++ (pointed fraction ++ rest))) =
      (toExponent rest).map fun exponent =>
        let value : ℚ :=
          Nat.ofDigitChars 10 (whole ++ fraction) 0 * 10 ^ (exponent - (fraction.length : ℤ))
        if negative then -value else value := by
  have hwholeSpan : (whole ++ (pointed fraction ++ rest)).span Char.isDigit =
      (whole, pointed fraction ++ rest) := by
    apply span_digits hwhole
    intro c tail heq
    unfold pointed at heq
    split at heq
    · exact (hrest c tail heq).1
    · cases heq
      decide
  have hfractionSpan : toFraction (pointed fraction ++ rest) = (fraction, rest) := by
    unfold pointed
    split
    · rename_i hnil
      subst hnil
      unfold toFraction
      split
      · rename_i heq
        exact absurd rfl (hrest _ _ heq).2
      · rfl
    · exact span_digits hfraction fun c tail heq => (hrest c tail heq).1
  unfold toRat
  rw [sign_minus negative hne hwhole]
  dsimp only
  rw [hwholeSpan]
  dsimp only
  rw [hfractionSpan]
  dsimp only
  rw [if_neg (by simp [hne])]

/-- An integer with its sign written out. -/
theorem toInt_signed {digits : List Char} (negative : Bool) (hne : digits ≠ [])
    (hall : digits.all Char.isDigit = true) :
    toInt ((if negative then '-' else '+') :: digits) =
      some (if negative then -(Nat.ofDigitChars 10 digits 0 : ℤ) else Nat.ofDigitChars 10 digits 0) := by
  have hsign : sign ((if negative then '-' else '+') :: digits) = (negative, digits) := by
    cases negative
    · rfl
    · rfl
  unfold toInt
  rw [hsign]
  dsimp only
  rw [if_pos ⟨hne, hall⟩]

theorem toExponent_exponentText (exponent : ℤ) :
    toExponent ('e' :: exponentText exponent) = some exponent := by
  have hall : (List.replicate (2 - (Nat.toDigits 10 exponent.natAbs).length) '0' ++
      Nat.toDigits 10 exponent.natAbs).all Char.isDigit = true := by
    rw [List.all_append, all_toDigits, Bool.and_true, List.all_eq_true]
    intro c hc
    rw [List.eq_of_mem_replicate hc]
    decide
  have hvalue : Nat.ofDigitChars 10 (List.replicate (2 - (Nat.toDigits 10 exponent.natAbs).length) '0' ++
      Nat.toDigits 10 exponent.natAbs) 0 = exponent.natAbs := by
    rw [Nat.ofDigitChars_append, Nat.ofDigitChars_replicate_zero, Nat.mul_zero]
    exact Nat.ofDigitChars_ten_toDigits
  have hne : List.replicate (2 - (Nat.toDigits 10 exponent.natAbs).length) '0' ++
      Nat.toDigits 10 exponent.natAbs ≠ [] := by
    simp [Nat.toDigits_ne_nil]
  have hread := toInt_signed (decide (exponent < 0)) hne hall
  rw [hvalue] at hread
  simp only [decide_eq_true_eq] at hread
  refine hread.trans (congrArg some ?_)
  split
  · omega
  · omega

/-- A fraction is what is kept of it, and zeros. -/
theorem exists_zeros (fraction : List Char) :
    ∃ zeros, fraction = fraction.rdropWhile (· = '0') ++ List.replicate zeros '0' := by
  induction fraction using List.reverseRecOn with
  | nil => exact ⟨0, rfl⟩
  | append_singleton fraction c ih =>
      by_cases hc : c = '0'
      · obtain ⟨zeros, hzeros⟩ := ih
        refine ⟨zeros + 1, ?_⟩
        rw [List.rdropWhile_concat_pos _ _ _ (by simpa using hc), List.replicate_succ', ← List.append_assoc,
          ← hzeros, hc]
      · refine ⟨0, ?_⟩
        rw [List.rdropWhile_concat_neg _ _ _ (by simpa using hc), List.replicate_zero, List.append_nil]

/-- The digits of a number with its fraction, whether the fraction has any places or not. -/
theorem ofDigitChars_fraction (places n : ℕ) :
    Nat.ofDigitChars 10 (Nat.toDigits 10 (n / 10 ^ places) ++ fractionDigits places n) 0 * 10 ^ places =
      n * 10 ^ (fractionDigits places n).length := by
  obtain ⟨-, hlength, hvalue⟩ := fraction_spec places n
  rw [Nat.ofDigitChars_append, Nat.ofDigitChars_ten_toDigits, Nat.ofDigitChars_eq_ofDigitChars_zero]
  unfold fractionDigits
  rw [hvalue]
  rcases Nat.eq_zero_or_pos places with rfl | hplaces
  · rw [pow_zero, Nat.mod_one, Nat.div_one]
    ring
  · rw [hlength hplaces, Nat.div_add_mod]

/-- The value of a number does not change with the zeros at its end. -/
theorem ofDigitChars_trimmed (places n : ℕ) :
    let kept := (fractionDigits places n).rdropWhile (· = '0')
    Nat.ofDigitChars 10 (Nat.toDigits 10 (n / 10 ^ places) ++ kept) 0 * 10 ^ places =
      n * 10 ^ kept.length := by
  intro kept
  obtain ⟨zeros, hzeros⟩ := exists_zeros (fractionDigits places n)
  have hall := ofDigitChars_fraction places n
  rw [hzeros, ← List.append_assoc, Nat.ofDigitChars_append, Nat.ofDigitChars_replicate_zero,
    List.length_append, List.length_replicate, pow_add] at hall
  have hpow : 0 < 10 ^ zeros := by positivity
  apply Nat.eq_of_mul_eq_mul_right hpow
  calc _ = 10 ^ zeros * Nat.ofDigitChars 10 (Nat.toDigits 10 (n / 10 ^ places) ++ kept) 0 * 10 ^ places := by ring
    _ = n * (10 ^ kept.length * 10 ^ zeros) := hall
    _ = n * 10 ^ kept.length * 10 ^ zeros := by ring

theorem toRat_trimmed (negative : Bool)
    (hrest : ∀ c tail, rest = c :: tail → c.isDigit = false ∧ c ≠ '.') :
    toRat (minus negative ++ (trimmed places n ++ rest)) =
      (toExponent rest).map fun exponent =>
        let value : ℚ := n * 10 ^ (exponent - (places : ℤ))
        if negative then -value else value := by
  set kept := (fractionDigits places n).rdropWhile (· = '0') with hkept
  have hall : kept.all Char.isDigit = true := by
    obtain ⟨hfraction, -⟩ := fraction_spec places n
    rw [List.all_eq_true] at hfraction ⊢
    exact fun c hc => hfraction c ((List.rdropWhile_prefix _ _).subset hc)
  have hdigits := ofDigitChars_trimmed places n
  have hvalue : ∀ exponent : ℤ,
      (Nat.ofDigitChars 10 (Nat.toDigits 10 (n / 10 ^ places) ++ kept) 0 : ℚ) *
        10 ^ (exponent - (kept.length : ℤ)) = n * 10 ^ (exponent - (places : ℤ)) := by
    intro exponent
    rw [zpow_sub₀ (by norm_num), zpow_sub₀ (by norm_num), zpow_natCast, zpow_natCast]
    field_simp
    rw [mul_comm ((10 : ℚ) ^ kept.length)]
    exact_mod_cast hdigits
  unfold trimmed
  rw [List.append_assoc, toRat_pointed negative Nat.toDigits_ne_nil (all_toDigits _) hall hrest]
  simp only [hvalue]

end

/-- `general` is read back as the number rounded to its digits. -/
theorem toRat_general {digits : ℕ} {q : ℚ} (hdigits : 0 < digits) :
    toRat (general digits q) =
      some (if q = 0 then 0 else if q < 0 then -significantValue digits |q|
        else significantValue digits |q|) := by
  unfold general
  split
  · decide +kernel
  generalize hsignificant : significant digits |q| = s
  obtain ⟨n, exponent⟩ := s
  have hvalue : significantValue digits |q| = n * 10 ^ (exponent - (digits - 1) : ℤ) := by
    rw [significantValue, hsignificant]
  have hsign : (if decide (q < 0) = true then -significantValue digits |q| else significantValue digits |q|) =
      if q < 0 then -significantValue digits |q| else significantValue digits |q| := by
    simp only [decide_eq_true_eq]
  rw [← hsign, hvalue]
  dsimp only
  split
  · -- without an exponent
    rename_i hfixed
    have hplaces : (0 : ℤ) - ((digits - 1 - exponent : ℤ).toNat : ℤ) = exponent - (digits - 1) := by omega
    have hread := @toRat_trimmed (digits - 1 - exponent : ℤ).toNat n [] (decide (q < 0)) (by simp)
    rw [List.append_nil] at hread
    rw [hread, toExponent, Option.map_some, hplaces]
  · have hplaces : exponent - ((digits - 1 : ℕ) : ℤ) = exponent - (digits - 1) := by omega
    rw [toRat_trimmed (decide (q < 0)), toExponent_exponentText, Option.map_some, hplaces]
    intro c tail heq
    cases heq
    decide

/-- What is read of a number's text is not far from it. -/
theorem abs_toRat_general_le {digits : ℕ} {q r : ℚ} (hdigits : 0 < digits)
    (h : toRat (general digits q) = some r) : |r| ≤ 10 * |q| := by
  rw [toRat_general hdigits, Option.some.injEq] at h
  subst h
  have hnonneg := significantValue_nonneg digits |q|
  split
  · rename_i hzero
    rw [hzero, abs_zero, mul_zero]
  rename_i hne
  have hle := significantValue_le hdigits (abs_pos.mpr hne)
  split
  · rwa [abs_neg, abs_of_nonneg hnonneg]
  · rwa [abs_of_nonneg hnonneg]

theorem hasDigits_neg {digits : ℕ} {q : ℚ} : HasDigits digits (-q) ↔ HasDigits digits q := by
  have himp : ∀ r : ℚ, HasDigits digits r → HasDigits digits (-r) := by
    rintro r ⟨m, e, hm, rfl⟩
    refine ⟨-m, e, by rwa [abs_neg], ?_⟩
    push_cast
    ring
  refine ⟨fun h => ?_, himp q⟩
  have hback := himp (-q) h
  rwa [neg_neg] at hback

/-- A number survives its text if and only if it has no more digits. -/
theorem toRat_general_iff {digits : ℕ} {q : ℚ} (hdigits : 0 < digits) :
    toRat (general digits q) = some q ↔ HasDigits digits q := by
  rw [toRat_general hdigits, Option.some.injEq]
  rcases lt_trichotomy q 0 with hlt | rfl | hgt
  · rw [if_neg hlt.ne, if_pos hlt, abs_of_neg hlt, ← hasDigits_neg, ← significantValue_eq_iff hdigits (neg_pos.mpr hlt)]
    exact neg_eq_iff_eq_neg
  · rw [if_pos rfl]
    simp only [true_iff]
    exact ⟨0, 0, by positivity, by norm_num⟩
  · rw [if_neg hgt.ne', if_neg hgt.not_gt, abs_of_pos hgt]
    exact significantValue_eq_iff hdigits hgt

/-! ### Its characters -/

/-- A digit, a sign, the point or the exponent's letter. -/
def IsNumeral (c : Char) : Prop := c.isDigit = true ∨ c ∈ ['-', '+', '.', 'e']

instance (c : Char) : Decidable (IsNumeral c) := inferInstanceAs (Decidable (_ ∨ _))

theorem isNumeral_of_all {text : List Char} (h : text.all Char.isDigit = true) :
    ∀ c ∈ text, IsNumeral c := by
  rw [List.all_eq_true] at h
  exact fun c hc => .inl (h c hc)

theorem isNumeral_trimmed (places n : ℕ) : ∀ c ∈ trimmed places n, IsNumeral c := by
  obtain ⟨hfraction, -⟩ := fraction_spec places n
  have hkept : ((fractionDigits places n).rdropWhile (· = '0')).all Char.isDigit = true := by
    rw [List.all_eq_true] at hfraction ⊢
    exact fun c hc => hfraction c ((List.rdropWhile_prefix _ _).subset hc)
  intro c hc
  unfold trimmed pointed at hc
  rw [List.mem_append] at hc
  rcases hc with hc | hc
  · exact isNumeral_of_all (all_toDigits _) c hc
  · split at hc
    · exact absurd hc List.not_mem_nil
    · rcases List.mem_cons.mp hc with rfl | hc
      · exact .inr (by decide)
      · exact isNumeral_of_all hkept c hc

theorem isNumeral_exponentText (exponent : ℤ) : ∀ c ∈ exponentText exponent, IsNumeral c := by
  intro c hc
  unfold exponentText at hc
  rcases List.mem_cons.mp hc with rfl | hc
  · split
    · exact .inr (by decide)
    · exact .inr (by decide)
  · rcases List.mem_append.mp hc with hc | hc
    · rw [List.eq_of_mem_replicate hc]
      exact .inl (by decide)
    · exact isNumeral_of_all (all_toDigits _) c hc

theorem isNumeral_general (digits : ℕ) (q : ℚ) : ∀ c ∈ general digits q, IsNumeral c := by
  intro c hc
  unfold general at hc
  split at hc
  · rw [List.mem_singleton.mp hc]
    exact .inl (by decide)
  · rcases List.mem_append.mp hc with hc | hc
    · unfold minus at hc
      split at hc
      · rw [List.mem_singleton.mp hc]
        exact .inr (by decide)
      · exact absurd hc List.not_mem_nil
    · split at hc
      · exact isNumeral_trimmed _ _ c hc
      · rcases List.mem_append.mp hc with hc | hc
        · exact isNumeral_trimmed _ _ c hc
        · rcases List.mem_cons.mp hc with rfl | hc
          · exact .inr (by decide)
          · exact isNumeral_exponentText _ c hc

theorem general_ne_nil (digits : ℕ) (q : ℚ) : general digits q ≠ [] := by
  unfold general
  split
  · simp
  · dsimp only
    split
    · simp [trimmed, Nat.toDigits_ne_nil]
    · simp

end Decimal
