import Mathlib.Algebra.Order.Floor.Ring
import Mathlib.Data.Rat.Floor
import Mathlib.Tactic.FieldSimp
import Mathlib.Tactic.Linarith
import Mathlib.Tactic.Positivity

/-! # Decimal text

Numbers as decimal text: integers, and rational numbers rounded to some places,
halves to even. What is written is read back as the rounded number.
-/

namespace Decimal

/-! ## Rounding -/

/-- The nearest integer, the even one of two. -/
def roundHalfEven (q : ℚ) : ℤ :=
  if q - ⌊q⌋ < 1 / 2 ∨ (q - ⌊q⌋ = 1 / 2 ∧ ⌊q⌋ % 2 = 0) then ⌊q⌋ else ⌊q⌋ + 1

theorem roundHalfEven_mem (q : ℚ) : ⌊q⌋ ≤ roundHalfEven q ∧ roundHalfEven q ≤ ⌊q⌋ + 1 := by
  unfold roundHalfEven
  split
  · omega
  · omega

theorem roundHalfEven_intCast (n : ℤ) : roundHalfEven n = n := by
  unfold roundHalfEven
  rw [Int.floor_intCast, sub_self, if_pos]
  left
  norm_num

theorem roundHalfEven_mono {q r : ℚ} (h : q ≤ r) : roundHalfEven q ≤ roundHalfEven r := by
  have hfloor : ⌊q⌋ ≤ ⌊r⌋ := Int.floor_mono h
  rcases lt_or_eq_of_le hfloor with hlt | heq
  · have hq := (roundHalfEven_mem q).2
    have hr := (roundHalfEven_mem r).1
    omega
  · unfold roundHalfEven
    rw [← heq]
    split
    · split
      · omega
      · omega
    · rename_i hup
      rw [if_neg]
      rintro (hr | ⟨hr, heven⟩)
      · apply hup
        left
        linarith
      · rw [not_or, not_lt] at hup
        have hhalf : q - ⌊q⌋ = 1 / 2 := le_antisymm (by linarith) hup.1
        exact hup.2 ⟨hhalf, heven⟩

theorem abs_roundHalfEven_sub_le (q : ℚ) : |roundHalfEven q - q| ≤ 1 / 2 := by
  have hle := Int.floor_le q
  have hlt := Int.lt_floor_add_one q
  rw [abs_le]
  unfold roundHalfEven
  split
  · rename_i hdown
    have hhalf : q - ⌊q⌋ ≤ 1 / 2 := by
      rcases hdown with hdown | hdown
      · exact hdown.le
      · exact hdown.1.le
    constructor
    · linarith
    · linarith
  · rename_i hup
    rw [not_or, not_lt] at hup
    push_cast
    constructor
    · linarith
    · linarith

theorem roundHalfEven_nonneg {q : ℚ} (h : 0 ≤ q) : 0 ≤ roundHalfEven q := by
  have hmono := roundHalfEven_mono h
  have hzero := roundHalfEven_intCast 0
  rw [Int.cast_zero] at hzero
  rwa [hzero] at hmono

/-- A number rounded to some places. -/
def rounded (places : ℕ) (q : ℚ) : ℚ :=
  (if q < 0 then -roundHalfEven (-q * 10 ^ places) else roundHalfEven (q * 10 ^ places)) / 10 ^ places

section

variable {places : ℕ} {q r : ℚ}

theorem pow_pos_rat (places : ℕ) : (0 : ℚ) < 10 ^ places := by
  positivity

theorem rounded_of_nonneg (h : 0 ≤ q) :
    rounded places q = roundHalfEven (q * 10 ^ places) / 10 ^ places := by
  rw [rounded, if_neg (not_lt.2 h)]

theorem rounded_of_neg (h : q < 0) : rounded places q = -rounded places (-q) := by
  have hneg : ¬ -q < 0 := by linarith
  rw [rounded, rounded, if_pos h, if_neg hneg, Int.cast_neg, neg_div]

theorem rounded_nonneg (h : 0 ≤ q) : 0 ≤ rounded places q := by
  rw [rounded_of_nonneg h]
  apply div_nonneg
  · have hround := roundHalfEven_nonneg (mul_nonneg h (pow_pos_rat places).le)
    exact_mod_cast hround
  · exact (pow_pos_rat places).le

/-- A number of so many places is kept. -/
theorem rounded_eq {n : ℤ} (h : q * 10 ^ places = n) : rounded places q = q := by
  have hpos := pow_pos_rat places
  have hq : q = n / 10 ^ places := by
    rw [← h]
    field_simp
  unfold rounded
  split
  · have hneg : -q * 10 ^ places = ((-n : ℤ) : ℚ) := by
      push_cast
      linarith
    rw [hneg, roundHalfEven_intCast, hq]
    push_cast
    ring
  · rw [h, roundHalfEven_intCast, hq]

theorem rounded_mono_of_nonneg (hq : 0 ≤ q) (h : q ≤ r) : rounded places q ≤ rounded places r := by
  rw [rounded_of_nonneg hq, rounded_of_nonneg (hq.trans h)]
  have hmono := roundHalfEven_mono (mul_le_mul_of_nonneg_right h (pow_pos_rat places).le)
  apply div_le_div_of_nonneg_right _ (pow_pos_rat places).le
  exact_mod_cast hmono

theorem rounded_mono (h : q ≤ r) : rounded places q ≤ rounded places r := by
  rcases lt_or_ge q 0 with hq | hq
  · rcases lt_or_ge r 0 with hr | hr
    · rw [rounded_of_neg hq, rounded_of_neg hr]
      apply neg_le_neg
      exact rounded_mono_of_nonneg (by linarith) (neg_le_neg h)
    · rw [rounded_of_neg hq]
      have hleft : 0 ≤ rounded places (-q) := rounded_nonneg (by linarith)
      have hright : 0 ≤ rounded places r := rounded_nonneg hr
      linarith
  · exact rounded_mono_of_nonneg hq h

theorem abs_rounded_sub_le_of_nonneg (h : 0 ≤ q) : |rounded places q - q| ≤ 1 / 2 / 10 ^ places := by
  have hpos := pow_pos_rat places
  have hround := abs_roundHalfEven_sub_le (q * 10 ^ places)
  have heq : rounded places q - q = (roundHalfEven (q * 10 ^ places) - q * 10 ^ places) / 10 ^ places := by
    rw [rounded_of_nonneg h]
    field_simp
  rw [heq, abs_div, abs_of_pos hpos]
  exact div_le_div_of_nonneg_right hround hpos.le

theorem abs_rounded_sub_le : |rounded places q - q| ≤ 1 / 2 / 10 ^ places := by
  rcases lt_or_ge q 0 with hq | hq
  · have hneg := @abs_rounded_sub_le_of_nonneg places (-q) (by linarith)
    rw [rounded_of_neg hq]
    rw [← abs_neg]
    have heq : -(-rounded places (-q) - q) = rounded places (-q) - -q := by ring
    rw [heq]
    exact hneg
  · exact abs_rounded_sub_le_of_nonneg hq

end

/-! ## Text -/

/-- The digits of `n / 10 ^ places`, with all its places. -/
def fixed (places n : ℕ) : List Char :=
  let fraction := Nat.toDigits 10 (n % 10 ^ places)
  Nat.toDigits 10 (n / 10 ^ places) ++
    '.' :: (List.replicate (places - fraction.length) '0' ++ fraction)

def minus (negative : Bool) : List Char := if negative then ['-'] else []

/-- The text of an integer. -/
def ofInt (n : ℤ) : List Char := minus (decide (n < 0)) ++ Nat.toDigits 10 n.natAbs

/-- The text of a number, rounded to some places. -/
def ofRat (places : ℕ) (q : ℚ) : List Char :=
  minus (decide (q < 0)) ++ fixed places (roundHalfEven (|q| * 10 ^ places)).toNat

/-- A sign, and the rest. -/
def sign : List Char → Bool × List Char
  | '-' :: text => (true, text)
  | '+' :: text => (false, text)
  | text => (false, text)

/-- An integer: a sign and digits. -/
def toInt (text : List Char) : Option ℤ :=
  let (negative, digits) := sign text
  let value : ℤ := Nat.ofDigitChars 10 digits 0
  if digits ≠ [] ∧ digits.all Char.isDigit then some (if negative then -value else value) else none

/-- An exponent, which may be missing. -/
def toExponent : List Char → Option ℤ
  | [] => some 0
  | c :: text => if c = 'e' ∨ c = 'E' then toInt text else none

/-- A point and digits, and the rest. -/
def toFraction : List Char → List Char × List Char
  | '.' :: text => text.span Char.isDigit
  | text => ([], text)

/-- A number: a sign, digits with a point at most once, and an exponent. -/
def toRat (text : List Char) : Option ℚ :=
  let (negative, text) := sign text
  let (whole, text) := text.span Char.isDigit
  let (fraction, text) := toFraction text
  if whole ++ fraction = [] then none
  else
    (toExponent text).map fun exponent =>
      let value : ℚ := Nat.ofDigitChars 10 (whole ++ fraction) 0 * 10 ^ (exponent - (fraction.length : ℤ))
      if negative then -value else value

/-! ### Digits -/

section

variable {places n : ℕ} {digits whole fraction text : List Char}

theorem span_digits (h : digits.all Char.isDigit = true)
    (hrest : ∀ c rest, text = c :: rest → c.isDigit = false) :
    (digits ++ text).span Char.isDigit = (digits, text) := by
  rw [List.span_eq_takeWhile_dropWhile]
  rw [List.all_eq_true] at h
  rw [List.takeWhile_append_of_pos h, List.dropWhile_append_of_pos h]
  cases text with
  | nil => simp
  | cons c rest =>
      have hc := hrest c rest rfl
      simp [hc]

theorem all_toDigits (n : ℕ) : (Nat.toDigits 10 n).all Char.isDigit = true := by
  rw [List.all_eq_true]
  intro c hc
  exact Nat.isDigit_of_mem_toDigits (by decide) (by decide) hc

/-- What starts with a digit has no sign. -/
theorem sign_digits (hne : digits ≠ []) (h : digits.all Char.isDigit = true) :
    sign (digits ++ text) = (false, digits ++ text) := by
  cases digits with
  | nil => exact absurd rfl hne
  | cons c rest =>
      rw [List.all_cons, Bool.and_eq_true] at h
      have hminus : c ≠ '-' := by
        rintro rfl
        exact absurd h.1 (by decide)
      have hplus : c ≠ '+' := by
        rintro rfl
        exact absurd h.1 (by decide)
      rw [List.cons_append]
      unfold sign
      split
      · rename_i heq
        exact absurd (List.cons.inj heq).1 hminus
      · rename_i heq
        exact absurd (List.cons.inj heq).1 hplus
      · rfl

theorem sign_minus (negative : Bool) (hne : digits ≠ []) (h : digits.all Char.isDigit = true) :
    sign (minus negative ++ (digits ++ text)) = (negative, digits ++ text) := by
  cases negative with
  | true => rfl
  | false => exact @sign_digits digits text hne h

theorem toInt_ofInt (n : ℤ) : toInt (ofInt n) = some n := by
  have hsign := @sign_minus (Nat.toDigits 10 n.natAbs) [] (decide (n < 0)) Nat.toDigits_ne_nil
    (all_toDigits _)
  rw [List.append_nil] at hsign
  unfold toInt ofInt
  rw [hsign]
  dsimp only
  rw [if_pos ⟨Nat.toDigits_ne_nil, all_toDigits _⟩, Nat.ofDigitChars_ten_toDigits]
  congr 1
  by_cases hn : n < 0
  · rw [if_pos (by simpa using hn)]
    omega
  · rw [if_neg (by simpa using hn)]
    omega

/-- Digits with a point among them. -/
theorem toRat_digits (negative : Bool) (hne : whole ≠ []) (hwhole : whole.all Char.isDigit = true)
    (hfraction : fraction.all Char.isDigit = true) :
    toRat (minus negative ++ (whole ++ '.' :: fraction)) =
      some (let value : ℚ := Nat.ofDigitChars 10 (whole ++ fraction) 0 / 10 ^ fraction.length
        if negative then -value else value) := by
  have hwholeSpan : (whole ++ '.' :: fraction).span Char.isDigit = (whole, '.' :: fraction) := by
    apply span_digits hwhole
    intro c rest heq
    cases heq
    decide
  have hfractionSpan : toFraction ('.' :: fraction) = (fraction, []) := by
    have hspan := @span_digits fraction [] hfraction (by simp)
    rwa [List.append_nil] at hspan
  unfold toRat
  rw [sign_minus negative hne hwhole]
  dsimp only
  rw [hwholeSpan]
  dsimp only
  rw [hfractionSpan]
  dsimp only [toExponent]
  rw [if_neg (by simp [hne]), Option.map_some, zero_sub, zpow_neg, zpow_natCast, ← div_eq_mul_inv]

/-- Digits alone. -/
theorem toRat_whole (negative : Bool) (hne : whole ≠ []) (hwhole : whole.all Char.isDigit = true) :
    toRat (minus negative ++ whole) =
      some (let value : ℚ := Nat.ofDigitChars 10 whole 0
        if negative then -value else value) := by
  have hspan := @span_digits whole [] hwhole (by simp)
  have hsign := @sign_minus whole [] negative hne hwhole
  rw [List.append_nil] at hspan hsign
  unfold toRat
  rw [hsign]
  dsimp only
  rw [hspan]
  simp [toFraction, toExponent, hne]

/-- The fraction of `fixed`. -/
theorem fraction_spec (places n : ℕ) :
    let digits := Nat.toDigits 10 (n % 10 ^ places)
    let fraction := List.replicate (places - digits.length) '0' ++ digits
    fraction.all Char.isDigit = true ∧ (0 < places → fraction.length = places) ∧
      Nat.ofDigitChars 10 fraction 0 = n % 10 ^ places := by
  intro digits fraction
  have hdigits : digits.all Char.isDigit = true := all_toDigits _
  refine ⟨?_, ?_, ?_⟩
  · rw [List.all_append, hdigits, Bool.and_true, List.all_eq_true]
    intro c hc
    rw [List.eq_of_mem_replicate hc]
    decide
  · intro hplaces
    have hlength : digits.length ≤ places := by
      rw [Nat.length_toDigits_le_iff (by decide) hplaces]
      exact Nat.mod_lt _ (by positivity)
    rw [List.length_append, List.length_replicate]
    omega
  · rw [Nat.ofDigitChars_append, Nat.ofDigitChars_replicate_zero, Nat.mul_zero]
    exact Nat.ofDigitChars_ten_toDigits

/-- What is written is read back as the rounded number. -/
theorem toRat_ofRat {q : ℚ} (hplaces : 0 < places) : toRat (ofRat places q) = some (rounded places q) := by
  have habs : 0 ≤ |q| * 10 ^ places := mul_nonneg (abs_nonneg q) (pow_pos_rat places).le
  generalize hn : (roundHalfEven (|q| * 10 ^ places)).toNat = n
  have hround : ((n : ℤ) : ℚ) = roundHalfEven (|q| * 10 ^ places) := by
    have hnonneg := roundHalfEven_nonneg habs
    rw [← hn, Int.toNat_of_nonneg hnonneg]
  rcases fraction_spec places n with ⟨hall, hlength, hvalue⟩
  unfold ofRat fixed
  rw [hn, toRat_digits _ Nat.toDigits_ne_nil (all_toDigits _) hall]
  dsimp only
  rw [Nat.ofDigitChars_append, Nat.ofDigitChars_ten_toDigits, Nat.ofDigitChars_eq_ofDigitChars_zero,
    hvalue, hlength hplaces, Nat.div_add_mod]
  congr 1
  rw [Int.cast_natCast] at hround
  unfold rounded
  rw [hround]
  by_cases hq : q < 0
  · rw [if_pos (by simpa using hq), if_pos hq, abs_of_neg hq, Int.cast_neg, neg_div]
  · rw [if_neg (by simpa using hq), if_neg hq, abs_of_nonneg (not_lt.1 hq)]

/-! ### Text that is cut off -/

theorem ofDigitChars_lt (h : digits.all Char.isDigit = true) :
    Nat.ofDigitChars 10 digits 0 < 10 ^ digits.length := by
  induction digits with
  | nil => simp
  | cons c digits ih =>
      rw [List.all_cons, Bool.and_eq_true] at h
      have hrest := ih h.2
      have hdigit : c.toNat - '0'.toNat ≤ 9 := by
        have hc : c.toNat ≤ 57 := (Char.isDigit_iff_toNat.1 h.1).2
        have hzero : '0'.toNat = 48 := rfl
        omega
      rw [Nat.ofDigitChars_cons, Nat.ofDigitChars_eq_ofDigitChars_zero, List.length_cons, Nat.pow_succ,
        Nat.mul_zero, Nat.zero_add]
      have hmul := Nat.mul_le_mul_left (10 ^ digits.length) hdigit
      omega

/-- A whole number has no fraction to speak of. -/
theorem ofRat_natCast (hplaces : 0 < places) (n : ℕ) :
    ofRat places n = Nat.toDigits 10 n ++ '.' :: List.replicate places '0' := by
  have hneg : ¬ (n : ℚ) < 0 := not_lt.2 (Nat.cast_nonneg n)
  have hround : roundHalfEven (|(n : ℚ)| * 10 ^ places) = ((n * 10 ^ places : ℕ) : ℤ) := by
    rw [abs_of_nonneg (Nat.cast_nonneg n)]
    have hcast : (n : ℚ) * 10 ^ places = ((n * 10 ^ places : ℕ) : ℤ) := by
      push_cast
      rfl
    rw [hcast, roundHalfEven_intCast]
  have hpow : 0 < 10 ^ places := by positivity
  have hzeros : List.replicate (places - 1) '0' ++ ['0'] = List.replicate places '0' := by
    rw [← List.replicate_succ', Nat.sub_add_cancel hplaces]
  unfold ofRat fixed
  rw [hround, Int.toNat_natCast, Nat.mul_mod_left, Nat.mul_div_cancel n hpow, Nat.toDigits_zero]
  rw [decide_eq_false hneg]
  exact congrArg (fun zeros => Nat.toDigits 10 n ++ '.' :: zeros) hzeros

/-- A whole number that has room for its digits keeps its value. -/
theorem toRat_take_natCast {limit : ℕ} (hplaces : 0 < places) (hlimit : 0 < limit)
    (h : n < 10 ^ limit) : toRat ((ofRat places n).take limit) = some (n : ℚ) := by
  have hlength := (Nat.length_toDigits_le_iff (by decide) hlimit).2 h
  rw [ofRat_natCast hplaces]
  rcases Nat.lt_or_eq_of_le hlength with hlt | heq
  · have hroom : limit - (Nat.toDigits 10 n).length =
        limit - (Nat.toDigits 10 n).length - 1 + 1 := by omega
    have hzeros : (List.replicate (min (limit - (Nat.toDigits 10 n).length - 1) places) '0').all
        Char.isDigit = true := by
      rw [List.all_eq_true]
      intro c hc
      rw [List.eq_of_mem_replicate hc]
      decide
    rw [List.take_append, List.take_of_length_le hlength, hroom, List.take_succ_cons,
      List.take_replicate]
    have hread := toRat_digits false Nat.toDigits_ne_nil (all_toDigits n) hzeros
    rw [Nat.ofDigitChars_append, Nat.ofDigitChars_replicate_zero, Nat.ofDigitChars_ten_toDigits,
      List.length_replicate] at hread
    refine hread.trans ?_
    congr 1
    have hpow := pow_pos_rat (min (limit - (Nat.toDigits 10 n).length - 1) places)
    rw [if_neg Bool.false_ne_true]
    push_cast
    field_simp
  · rw [List.take_append, List.take_of_length_le hlength, heq, Nat.sub_self, List.take_zero,
      List.append_nil]
    have hread := toRat_whole false (@Nat.toDigits_ne_nil n 10) (all_toDigits n)
    rw [Nat.ofDigitChars_ten_toDigits] at hread
    exact hread

/-- One that has not is cut down to its first digits. -/
theorem toRat_take_of_le {limit : ℕ} (hplaces : 0 < places) (hlimit : 0 < limit)
    (h : 10 ^ limit ≤ n) :
    ∃ m : ℕ, toRat ((ofRat places n).take limit) = some (m : ℚ) ∧ m < 10 ^ limit := by
  have hlength : limit < (Nat.toDigits 10 n).length := by
    rw [← not_le, Nat.length_toDigits_le_iff (by decide) hlimit]
    exact not_lt.2 h
  have htake : ((Nat.toDigits 10 n).take limit).length = limit := by
    rw [List.length_take]
    omega
  have hne : (Nat.toDigits 10 n).take limit ≠ [] := by
    intro hnil
    rw [hnil, List.length_nil] at htake
    omega
  have hall : ((Nat.toDigits 10 n).take limit).all Char.isDigit = true := by
    have hdigits := all_toDigits n
    rw [List.all_eq_true] at hdigits ⊢
    intro c hc
    exact hdigits c (List.mem_of_mem_take hc)
  refine ⟨Nat.ofDigitChars 10 ((Nat.toDigits 10 n).take limit) 0, ?_, ?_⟩
  · rw [ofRat_natCast hplaces, List.take_append_of_le_length hlength.le]
    exact toRat_whole false hne hall
  · have hlt := ofDigitChars_lt hall
    rwa [htake] at hlt

/-- A bound on a number bounds its text. -/
theorem length_ofRat_le {q : ℚ} {bound k : ℕ} (hplaces : 0 < places) (hk : 0 < k) (hq : |q| ≤ bound)
    (hbound : bound < 10 ^ k) : (ofRat places q).length ≤ k + places + 2 := by
  have hround : roundHalfEven (|q| * 10 ^ places) ≤ ((bound * 10 ^ places : ℕ) : ℤ) := by
    have hmono := roundHalfEven_mono (mul_le_mul_of_nonneg_right hq (pow_pos_rat places).le)
    have hcast : (bound : ℚ) * 10 ^ places = ((bound * 10 ^ places : ℕ) : ℤ) := by
      push_cast
      rfl
    rwa [hcast, roundHalfEven_intCast] at hmono
  have hwhole : (roundHalfEven (|q| * 10 ^ places)).toNat / 10 ^ places < 10 ^ k := by
    apply lt_of_le_of_lt _ hbound
    apply Nat.div_le_of_le_mul
    rw [Nat.mul_comm]
    omega
  have hlength := (Nat.length_toDigits_le_iff (by decide) hk).2 hwhole
  have hfraction := (fraction_spec places (roundHalfEven (|q| * 10 ^ places)).toNat).2.1 hplaces
  have hminus : (minus (decide (q < 0))).length ≤ 1 := by
    cases decide (q < 0) <;> decide
  unfold ofRat fixed
  rw [List.length_append, List.length_append, List.length_cons, hfraction]
  omega

end

end Decimal
