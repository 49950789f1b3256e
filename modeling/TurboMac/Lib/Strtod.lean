import TurboMac.Lib.Decimal

/-! # `strtod`

The longest start of a text that is a number, decimal or hexadecimal. A text written
for a number is read back, whatever stands behind it, if it does not go on with it.
-/

namespace Strtod

open Decimal

def isSpace (character : Char) : Bool :=
  decide (character = ' ' ∨ 9 ≤ character.toNat ∧ character.toNat ≤ 13)

/-- A point and digits, and the rest. -/
def fraction (digit : Char → Bool) : List Char → List Char × List Char
  | '.' :: text => text.span digit
  | text => ([], text)

/-- An exponent; one without digits is not part of the number. -/
def exponent (letters : List Char) : List Char → ℤ
  | [] => 0
  | c :: text =>
    if c ∈ letters then
      let (negative, digits) := sign text
      let value : ℤ := Nat.ofDigitChars 10 (digits.takeWhile Char.isDigit) 0
      if negative then -value else value
    else 0

def decimal (text : List Char) : Option ℚ :=
  let (whole, text) := text.span Char.isDigit
  let (part, text) := fraction Char.isDigit text
  if whole ++ part = [] then none
  else
    some (Nat.ofDigitChars 10 (whole ++ part) 0 * 10 ^ (exponent ['e', 'E'] text - (part.length : ℤ)))

def hexDigit (character : Char) : ℕ :=
  if character.isDigit then character.toNat - '0'.toNat
  else if 'a' ≤ character then character.toNat - 'a'.toNat + 10
  else character.toNat - 'A'.toNat + 10

def isHexDigit (character : Char) : Bool :=
  character.isDigit || decide ('a' ≤ character ∧ character ≤ 'f' ∨ 'A' ≤ character ∧ character ≤ 'F')

/-- What follows `0x`. -/
def hexadecimal : List Char → Option ℚ
  | '0' :: c :: text =>
    if c = 'x' ∨ c = 'X' then
      let (whole, text) := text.span isHexDigit
      let (part, text) := fraction isHexDigit text
      if whole ++ part = [] then none
      else
        let value : ℕ := (whole ++ part).foldl (fun value digit => 16 * value + hexDigit digit) 0
        some (value * 2 ^ (exponent ['p', 'P'] text - 4 * (part.length : ℤ)))
    else none
  | _ => none

/-- `strtod`; none where there is no number, none that is finite, or where `errno` is set. -/
def strtod (text : List Char) : Option ℚ :=
  let (negative, text) := sign (text.dropWhile isSpace)
  (((hexadecimal text).or (decimal text)).map fun value => if negative then -value else value).filter
    fun parsed => decide (parsed = 0 ∨ 2 ^ (-1022 : ℤ) ≤ |parsed| ∧ |parsed| < 2 ^ 1024 - 2 ^ 970)

/-! ## Text behind a number -/

/-- What stands behind a number and does not go on with it. -/
def Ends (text : List Char) : Prop :=
  ∀ c rest, text = c :: rest → c.isDigit = false ∧ c ∉ ['.', 'e', 'E', 'x', 'X']

section

variable {whole part text : List Char}

theorem ends_comma (text : List Char) : Ends (',' :: text) := by
  intro c rest heq
  cases heq
  decide

theorem Ends.exponent (h : Ends text) : exponent ['e', 'E'] text = 0 := by
  cases text with
  | nil => rfl
  | cons c rest =>
      have hnot := (h c rest rfl).2
      rw [Strtod.exponent, if_neg]
      intro hmem
      apply hnot
      simp only [List.mem_cons, List.not_mem_nil, or_false] at hmem ⊢
      tauto

theorem Ends.fraction (h : Ends text) : fraction Char.isDigit text = ([], text) := by
  unfold Strtod.fraction
  split
  · rename_i rest
    exact absurd (by simp) (h '.' rest rfl).2
  · rfl

/-- Digits are not the start of a hexadecimal number. -/
theorem hexadecimal_digits (hne : whole ≠ []) (hwhole : whole.all Char.isDigit = true)
    (hrest : ∀ c rest, text = c :: rest → c ≠ 'x' ∧ c ≠ 'X') : hexadecimal (whole ++ text) = none := by
  have hletter : ∀ c : Char, c.isDigit = true → c ≠ 'x' ∧ c ≠ 'X' := by
    intro c hc
    constructor
    · rintro rfl
      exact absurd hc (by decide)
    · rintro rfl
      exact absurd hc (by decide)
  rw [List.all_eq_true] at hwhole
  have hsecond : ∀ c rest, whole ++ text = '0' :: c :: rest → c ≠ 'x' ∧ c ≠ 'X' := by
    intro c rest heq
    cases whole with
    | nil => exact absurd rfl hne
    | cons d whole =>
        have htail := (List.cons.inj heq).2
        cases whole with
        | nil => exact hrest c rest htail
        | cons d' whole =>
            have hc : d' = c := (List.cons.inj htail).1
            rw [← hc]
            exact hletter d' (hwhole d' (List.mem_cons_of_mem _ List.mem_cons_self))
  generalize whole ++ text = input at hsecond
  unfold hexadecimal
  split
  · rename_i c rest
    have hc := hsecond c rest rfl
    rw [← not_or] at hc
    rw [if_neg hc]
  · rfl

theorem dropWhile_isSpace_digits (negative : Bool) (hne : whole ≠ []) (hwhole : whole.all Char.isDigit = true) :
    (minus negative ++ (whole ++ text)).dropWhile isSpace = minus negative ++ (whole ++ text) := by
  cases negative with
  | true => rfl
  | false =>
      cases whole with
      | nil => exact absurd rfl hne
      | cons c whole =>
          rw [List.all_cons, Bool.and_eq_true] at hwhole
          have hrange : 48 ≤ c.toNat ∧ c.toNat ≤ 57 := Char.isDigit_iff_toNat.mp hwhole.1
          have hspace : isSpace c = false := by
            unfold isSpace
            rw [decide_eq_false_iff_not]
            rintro (rfl | hblank)
            · exact absurd hwhole.1 (by decide)
            · omega
          show (c :: (whole ++ text)).dropWhile isSpace = _
          rw [List.dropWhile_cons, hspace]
          rfl

/-- Digits with a point among them. -/
theorem decimal_point (hne : whole ≠ []) (hwhole : whole.all Char.isDigit = true)
    (hpart : part.all Char.isDigit = true) (hends : Ends text) :
    decimal (whole ++ '.' :: (part ++ text)) =
      some ((Nat.ofDigitChars 10 (whole ++ part) 0 : ℚ) / 10 ^ part.length) := by
  have hwholeSpan : (whole ++ '.' :: (part ++ text)).span Char.isDigit = (whole, '.' :: (part ++ text)) := by
    apply span_digits hwhole
    intro c rest heq
    cases heq
    decide
  have hpartSpan : fraction Char.isDigit ('.' :: (part ++ text)) = (part, text) := by
    apply span_digits hpart
    intro c rest heq
    exact (hends c rest heq).1
  unfold decimal
  rw [hwholeSpan]
  dsimp only
  rw [hpartSpan]
  dsimp only
  rw [if_neg (by simp [hne]), hends.exponent, zero_sub, zpow_neg, zpow_natCast, ← div_eq_mul_inv]

/-- Digits alone. -/
theorem decimal_whole (hne : whole ≠ []) (hwhole : whole.all Char.isDigit = true) (hends : Ends text) :
    decimal (whole ++ text) = some (Nat.ofDigitChars 10 whole 0 : ℚ) := by
  have hspan : (whole ++ text).span Char.isDigit = (whole, text) := by
    apply span_digits hwhole
    intro c rest heq
    exact (hends c rest heq).1
  unfold decimal
  rw [hspan]
  dsimp only
  rw [hends.fraction]
  dsimp only
  rw [if_neg (by simp [hne]), hends.exponent]
  simp

end

/-! ## Numbers that are written -/

/-- A number of the range of a double: the largest one is `2 ^ 1024 - 2 ^ 971`. -/
def InRange (v : ℚ) : Prop := |v| ≤ 2 ^ 1024 - 2 ^ 971

instance (v : ℚ) : Decidable (InRange v) := inferInstanceAs (Decidable (_ ≤ _))

/-- Rounded to some places, a number of the range has no range error. -/
theorem rounded_range {places : ℕ} {v : ℚ} (hplaces : places ≤ 300) (hv : InRange v) :
    rounded places v = 0 ∨ 2 ^ (-1022 : ℤ) ≤ |rounded places v| ∧ |rounded places v| < 2 ^ 1024 - 2 ^ 970 := by
  by_cases hzero : rounded places v = 0
  · exact .inl hzero
  have hpos := pow_pos_rat places
  refine .inr ⟨?_, ?_⟩
  · -- at least one unit of the last place
    obtain ⟨z, hz⟩ : ∃ z : ℤ, rounded places v = z / 10 ^ places := ⟨_, rfl⟩
    have hne : z ≠ 0 := by
      rintro rfl
      apply hzero
      rw [hz]
      simp
    have hone : (1 : ℚ) ≤ |(z : ℚ)| := by
      exact_mod_cast Int.one_le_abs hne
    have hpow : (10 : ℚ) ^ places * 2 ^ (-1022 : ℤ) ≤ 1 := by
      have hten : (10 : ℚ) ^ places ≤ 2 ^ (10 * 100) := by
        calc (10 : ℚ) ^ places ≤ 10 ^ (3 * 100) := pow_le_pow_right₀ (by norm_num) hplaces
          _ = (10 ^ 3) ^ 100 := pow_mul _ _ _
          _ ≤ (2 ^ 10) ^ 100 := pow_le_pow_left₀ (by norm_num) (by norm_num) _
          _ = 2 ^ (10 * 100) := (pow_mul _ _ _).symm
      have hsmall : (2 : ℚ) ^ (-1022 : ℤ) ≤ 2 ^ (-((10 * 100 : ℕ) : ℤ)) :=
        zpow_le_zpow_right₀ (by norm_num) (by norm_num)
      have hinv : (2 : ℚ) ^ (-((10 * 100 : ℕ) : ℤ)) = (2 ^ (10 * 100))⁻¹ := by
        rw [zpow_neg, zpow_natCast]
      rw [hinv] at hsmall
      have hnonneg : (0 : ℚ) ≤ 2 ^ (-1022 : ℤ) := zpow_nonneg (by norm_num) _
      calc (10 : ℚ) ^ places * 2 ^ (-1022 : ℤ) ≤ 2 ^ (10 * 100) * (2 ^ (10 * 100))⁻¹ :=
            mul_le_mul hten hsmall hnonneg (pow_nonneg (by norm_num) _)
        _ = 1 := mul_inv_cancel₀ (pow_ne_zero _ (by norm_num))
    rw [hz, abs_div, abs_of_pos hpos, le_div_iff₀ hpos, mul_comm]
    exact hpow.trans hone
  · have herror := @abs_rounded_sub_le places v
    have htriangle := abs_add_le (rounded places v - v) v
    rw [sub_add_cancel] at htriangle
    have hhalf : (1 : ℚ) / 2 / 10 ^ places ≤ 1 / 2 := by
      apply div_le_self (by norm_num)
      exact one_le_pow₀ (by norm_num)
    have hdouble : (2 : ℚ) ^ 971 = 2 ^ 970 * 2 := pow_succ 2 970
    have hlarge : (1 : ℚ) ≤ 2 ^ 970 := one_le_pow₀ (by norm_num)
    unfold InRange at hv
    generalize (2 : ℚ) ^ 1024 = top at hv ⊢
    generalize (2 : ℚ) ^ 971 = gap at hv hdouble
    generalize (2 : ℚ) ^ 970 = unit at hdouble hlarge ⊢
    linarith

/-- A sign and a number, if it is in range. -/
theorem strtod_digits (negative : Bool) {whole text : List Char} {value : ℚ} (hne : whole ≠ [])
    (hwhole : whole.all Char.isDigit = true) (hrest : ∀ c rest, text = c :: rest → c ≠ 'x' ∧ c ≠ 'X')
    (hdecimal : decimal (whole ++ text) = some value)
    (hrange : value = 0 ∨ 2 ^ (-1022 : ℤ) ≤ |value| ∧ |value| < 2 ^ 1024 - 2 ^ 970) :
    strtod (minus negative ++ (whole ++ text)) = some (if negative then -value else value) := by
  have hsigned : (if negative then -value else value) = 0 ∨
      2 ^ (-1022 : ℤ) ≤ |if negative then -value else value| ∧
        |if negative then -value else value| < 2 ^ 1024 - 2 ^ 970 := by
    cases negative with
    | false => exact hrange
    | true =>
        rw [if_pos rfl, neg_eq_zero, abs_neg]
        exact hrange
  unfold strtod
  rw [dropWhile_isSpace_digits negative hne hwhole, sign_minus negative hne hwhole]
  dsimp only
  rw [hexadecimal_digits hne hwhole hrest, hdecimal, Option.none_or, Option.map_some, Option.filter_some,
    if_pos (decide_eq_true hsigned)]

theorem strtod_ofRat {places : ℕ} {v : ℚ} {text : List Char} (hplaces : 0 < places) (hle : places ≤ 300)
    (hv : InRange v) (hends : Ends text) : strtod (ofRat places v ++ text) = some (rounded places v) := by
  have hread := @toRat_ofRat places v hplaces
  have hrange := rounded_range hle hv
  obtain ⟨hall, -, -⟩ := fraction_spec places (roundHalfEven (|v| * 10 ^ places)).toNat
  unfold ofRat fixed at hread ⊢
  generalize (roundHalfEven (|v| * 10 ^ places)).toNat = n at hread hall ⊢
  generalize decide (v < 0) = negative at hread ⊢
  dsimp only at hread hall ⊢
  generalize List.replicate (places - (Nat.toDigits 10 (n % 10 ^ places)).length) '0' ++
    Nat.toDigits 10 (n % 10 ^ places) = part at hread hall ⊢
  have hwhole := all_toDigits (n / 10 ^ places)
  rw [toRat_digits negative Nat.toDigits_ne_nil hwhole hall] at hread
  have hvalue := Option.some.inj hread
  dsimp only at hvalue
  have hdecimal := decimal_point Nat.toDigits_ne_nil hwhole hall hends
  -- the value has the range of the number, whatever its sign
  have habs : ∀ value : ℚ, (if negative = true then -value else value) = rounded places v →
      value = 0 ∨ 2 ^ (-1022 : ℤ) ≤ |value| ∧ |value| < 2 ^ 1024 - 2 ^ 970 := by
    intro value heq
    rw [← heq] at hrange
    cases negative with
    | false => exact hrange
    | true => rwa [if_pos rfl, neg_eq_zero, abs_neg] at hrange
  have hpoint : ∀ c rest, '.' :: (part ++ text) = c :: rest → c ≠ 'x' ∧ c ≠ 'X' := by
    intro c rest heq
    cases heq
    decide
  have hstrtod := strtod_digits negative Nat.toDigits_ne_nil hwhole hpoint hdecimal (habs _ hvalue)
  rw [List.append_assoc, List.append_assoc, List.cons_append, hstrtod, hvalue]

theorem strtod_natural {n : ℕ} {text : List Char} (hn : n < 2 ^ 64) (hends : Ends text) :
    strtod (Nat.toDigits 10 n ++ text) = some (n : ℚ) := by
  have hrange : (n : ℚ) = 0 ∨ 2 ^ (-1022 : ℤ) ≤ |(n : ℚ)| ∧ |(n : ℚ)| < 2 ^ 1024 - 2 ^ 970 := by
    by_cases hzero : n = 0
    · rw [hzero]
      exact .inl Nat.cast_zero
    · have hone : (1 : ℚ) ≤ n := by exact_mod_cast Nat.one_le_iff_ne_zero.mpr hzero
      have hsmall : (2 : ℚ) ^ (-1022 : ℤ) ≤ 1 := zpow_le_one_of_nonpos₀ (by norm_num) (by norm_num)
      have hcast : (n : ℚ) < ((2 ^ 64 : ℕ) : ℚ) := by exact_mod_cast hn
      have hlarge : ((2 ^ 64 : ℕ) : ℚ) < 2 ^ 1024 - 2 ^ 970 := by
        have hdouble : (2 : ℚ) ^ 971 = 2 ^ 970 * 2 := pow_succ 2 970
        have htop : (2 : ℚ) ^ 971 ≤ 2 ^ 1024 := pow_le_pow_right₀ (by norm_num) (by norm_num)
        have hgap : (2 : ℚ) ^ 64 < 2 ^ 970 := pow_lt_pow_right₀ (by norm_num) (by norm_num)
        rw [Nat.cast_pow, Nat.cast_ofNat]
        generalize (2 : ℚ) ^ 1024 = top at htop ⊢
        generalize (2 : ℚ) ^ 971 = gap at htop hdouble
        generalize (2 : ℚ) ^ 970 = unit at hdouble hgap ⊢
        linarith
      rw [abs_of_nonneg (by positivity)]
      exact .inr ⟨hsmall.trans hone, hcast.trans hlarge⟩
  have hall := all_toDigits n
  have hdecimal := decimal_whole Nat.toDigits_ne_nil hall hends
  rw [Nat.ofDigitChars_ten_toDigits] at hdecimal
  refine strtod_digits false Nat.toDigits_ne_nil hall ?_ hdecimal hrange
  intro c rest heq
  have hnot := (hends c rest heq).2
  simp only [List.mem_cons, List.not_mem_nil, or_false] at hnot
  tauto

end Strtod
