import TurboMac.Lib.Python
import TurboMac.Lib.Strtod

/-! # The text of JSON's strings and numbers

Strings and numbers as Python's `json` writes them in ASCII, and as it reads them: a string
ends at its quote, a number where it does not go on. A surrogate without the other one is no
character here and is not read.
-/

namespace JsonText

/-! ## Strings -/

/-- `'{0:04x}'.format(unit)`. -/
def hex (unit : ℕ) : List Char :=
  [unit / 4096 % 16, unit / 256 % 16, unit / 16 % 16, unit % 16].map Nat.digitChar

def shortEscapes : List (Char × Char) :=
  [('"', '"'), ('\\', '\\'), ('n', '\n'), ('r', '\r'), ('t', '\t'), ('f', '\x0c'), ('b', '\x08')]

def isPlain (c : Char) : Bool := decide (32 ≤ c.toNat ∧ c.toNat ≤ 126 ∧ c ≠ '"' ∧ c ≠ '\\')

/-- A character of a string. -/
def escape (c : Char) : List Char :=
  if isPlain c then [c]
  else
    match shortEscapes.find? fun item => item.2 = c with
    | some item => ['\\', item.1]
    | none =>
      if c.toNat < 0x10000 then '\\' :: 'u' :: hex c.toNat
      else
        let v := c.toNat - 0x10000
        '\\' :: 'u' :: hex (0xd800 + v / 1024) ++ '\\' :: 'u' :: hex (0xdc00 + v % 1024)

def quote (text : List Char) : List Char := '"' :: (text.flatMap escape ++ ['"'])

def hexValue (c : Char) : Option ℕ := if Strtod.isHexDigit c then some (Strtod.hexDigit c) else none

/-- Four digits. -/
def scanHex : List Char → Option (ℕ × List Char)
  | a :: b :: c :: d :: text => do
    let a ← hexValue a
    let b ← hexValue b
    let c ← hexValue c
    let d ← hexValue d
    return (4096 * a + 256 * b + 16 * c + d, text)
  | _ => none

/-- What follows `\u`. -/
def scanUnicode (text : List Char) : Option (Char × List Char) := do
  let (unit, text) ← scanHex text
  if 0xd800 ≤ unit ∧ unit ≤ 0xdbff then
    match text with
    | '\\' :: 'u' :: text =>
      let (low, text) ← scanHex text
      if 0xdc00 ≤ low ∧ low ≤ 0xdfff then
        return (Char.ofNat (0x10000 + 1024 * (unit - 0xd800) + (low - 0xdc00)), text)
      else none
    | _ => none
  else if 0xdc00 ≤ unit ∧ unit ≤ 0xdfff then none
  else return (Char.ofNat unit, text)

/-- What follows a backslash. -/
def scanEscape : List Char → Option (Char × List Char)
  | [] => none
  | e :: text =>
    if e = 'u' then scanUnicode text
    else (('/', '/') :: shortEscapes).find? (fun item => item.1 = e) |>.map fun item => (item.2, text)

/-- One character of a string. -/
def scanChar : List Char → Option (Char × List Char)
  | [] => none
  | c :: text =>
    if c = '\\' then scanEscape text else if c.toNat < 32 then none else some (c, text)

/-- A string after its first quote, of at most as many characters. -/
def scanString : ℕ → List Char → Option (List Char × List Char)
  | 0, _ => none
  | _ + 1, [] => none
  | n + 1, c :: text =>
    if c = '"' then some ([], text)
    else do
      let (a, text) ← scanChar (c :: text)
      let (rest, text) ← scanString n text
      return (a :: rest, text)

section

variable {text rest : List Char} {c : Char}

theorem hexValue_digitChar : ∀ n < 16, hexValue (Nat.digitChar n) = some n := by
  decide

theorem scanHex_hex {unit : ℕ} (h : unit < 0x10000) (text : List Char) :
    scanHex (hex unit ++ text) = some (unit, text) := by
  have hdigit : ∀ n : ℕ, hexValue (Nat.digitChar (n % 16)) = some (n % 16) := fun n =>
    hexValue_digitChar _ (Nat.mod_lt _ (by norm_num))
  show (do
    let a ← hexValue (Nat.digitChar (unit / 4096 % 16))
    let b ← hexValue (Nat.digitChar (unit / 256 % 16))
    let c ← hexValue (Nat.digitChar (unit / 16 % 16))
    let d ← hexValue (Nat.digitChar (unit % 16))
    return (4096 * a + 256 * b + 16 * c + d, text)) = _
  rw [hdigit, hdigit, hdigit, hdigit]
  show some (4096 * (unit / 4096 % 16) + 256 * (unit / 256 % 16) + 16 * (unit / 16 % 16) + unit % 16, text)
    = some (unit, text)
  congr 2
  omega

theorem toNat_not_surrogate (c : Char) : c.toNat < 0xd800 ∨ 0xdfff < c.toNat ∧ c.toNat < 0x110000 :=
  c.valid

theorem scanUnicode_unit (h : c.toNat < 0x10000) (text : List Char) :
    scanUnicode (hex c.toNat ++ text) = some (c, text) := by
  have hvalid := toNat_not_surrogate c
  simp only [scanUnicode, scanHex_hex h, Option.bind_eq_bind, Option.bind_some]
  rw [if_neg (by omega), if_neg (by omega), Char.ofNat_toNat]
  rfl

/-- Two surrogates. -/
theorem scanUnicode_pair {high low : ℕ} (hhigh : 0xd800 ≤ high ∧ high ≤ 0xdbff)
    (hlow : 0xdc00 ≤ low ∧ low ≤ 0xdfff) (text : List Char) :
    scanUnicode (hex high ++ '\\' :: 'u' :: (hex low ++ text)) =
      some (Char.ofNat (0x10000 + 1024 * (high - 0xd800) + (low - 0xdc00)), text) := by
  have hfirst : scanHex (hex high ++ '\\' :: 'u' :: (hex low ++ text)) =
      some (high, '\\' :: 'u' :: (hex low ++ text)) := scanHex_hex (by omega) _
  have hsecond : scanHex (hex low ++ text) = some (low, text) := scanHex_hex (by omega) _
  simp only [scanUnicode, hfirst, hsecond, Option.bind_eq_bind, Option.bind_some, if_pos hhigh,
    if_pos hlow]
  rfl

theorem scanChar_backslash_u (text : List Char) : scanChar ('\\' :: 'u' :: text) = scanUnicode text := rfl

/-- Each character is read as it was written. -/
theorem scanChar_escape (c : Char) (text : List Char) : scanChar (escape c ++ text) = some (c, text) := by
  unfold escape
  split
  · rename_i hplain
    have h : 32 ≤ c.toNat ∧ c.toNat ≤ 126 ∧ c ≠ '"' ∧ c ≠ '\\' := of_decide_eq_true hplain
    show scanChar (c :: text) = _
    rw [scanChar, if_neg h.2.2.2, if_neg (by omega)]
  · split
    · rename_i item hfind
      have hmem := List.mem_of_find?_eq_some hfind
      have hc : item.2 = c := by simpa using List.find?_some hfind
      rw [← hc]
      simp only [shortEscapes, List.mem_cons, List.not_mem_nil, or_false] at hmem
      rcases hmem with rfl | rfl | rfl | rfl | rfl | rfl | rfl <;> rfl
    · split
      · rename_i hsmall
        rw [List.cons_append, List.cons_append, scanChar_backslash_u]
        exact scanUnicode_unit hsmall text
      · rename_i hlarge
        have hvalid := toNat_not_surrogate c
        have hpair := @scanUnicode_pair (0xd800 + (c.toNat - 0x10000) / 1024)
          (0xdc00 + (c.toNat - 0x10000) % 1024) (by omega) (by omega) text
        have hcode : 0x10000 + 1024 * (0xd800 + (c.toNat - 0x10000) / 1024 - 0xd800) +
            (0xdc00 + (c.toNat - 0x10000) % 1024 - 0xdc00) = c.toNat := by omega
        rw [hcode, Char.ofNat_toNat] at hpair
        simp only [List.cons_append, List.append_assoc, scanChar_backslash_u]
        exact hpair

/-- No escape starts with a quote. -/
theorem escape_ne_quote (c : Char) : ∃ a rest, escape c = a :: rest ∧ a ≠ '"' := by
  unfold escape
  split
  · rename_i hplain
    exact ⟨c, [], rfl, (of_decide_eq_true hplain).2.2.1⟩
  · split
    · exact ⟨'\\', _, rfl, by decide⟩
    · split
      · exact ⟨'\\', _, rfl, by decide⟩
      · exact ⟨'\\', _, rfl, by decide⟩

/-- A string is read as it was written. -/
theorem scanString_quote (text rest : List Char) {n : ℕ} (hn : text.length < n) :
    scanString n (text.flatMap escape ++ '"' :: rest) = some (text, rest) := by
  induction text generalizing n with
  | nil =>
      cases n with
      | zero => omega
      | succ n => simp [scanString]
  | cons c text ih =>
      cases n with
      | zero => omega
      | succ n =>
          rw [List.length_cons] at hn
          have hchar := scanChar_escape c (text.flatMap escape ++ '"' :: rest)
          have hrest := @ih n (by omega)
          obtain ⟨a, more, heq, ha⟩ := escape_ne_quote c
          rw [List.flatMap_cons, List.append_assoc]
          rw [heq, List.cons_append] at hchar ⊢
          rw [scanString, if_neg ha]
          simp only [hchar, hrest, Option.bind_eq_bind, Option.bind_some]
          rfl

end

/-! ## Numbers -/

/-- What a number's text is read as. -/
inductive Number where
  | int (n : ℤ)
  | float (value : Python.Float)
deriving DecidableEq, Repr

/-- The digits before the point: one 0, or what starts with another digit. -/
def wholePart : List Char → Option (List Char × List Char)
  | [] => none
  | c :: text =>
    if c = '0' then some (['0'], text)
    else if c.isDigit then some ((c :: text).span Char.isDigit)
    else none

/-- A point with digits, if there are any. -/
def fractionPart (text : List Char) : List Char × List Char :=
  match text with
  | '.' :: digits =>
    let (digits, rest) := digits.span Char.isDigit
    if digits = [] then ([], text) else ('.' :: digits, rest)
  | _ => ([], text)

/-- An exponent, if it has digits. -/
def exponentPart (text : List Char) : List Char × List Char :=
  match text with
  | [] => ([], text)
  | e :: more =>
    if e = 'e' ∨ e = 'E' then
      let (signed, digits) : List Char × List Char :=
        match more with
        | [] => ([], [])
        | c :: digits => if c = '-' ∨ c = '+' then ([c], digits) else ([], more)
      let (digits, rest) := digits.span Char.isDigit
      if digits = [] then ([], text) else (e :: signed ++ digits, rest)
    else ([], text)

/-- A minus, and the rest. -/
def minusPart : List Char → Bool × List Char
  | '-' :: text => (true, text)
  | text => (false, text)

/-- `sys.get_int_max_str_digits()`, the digits between an `int` and its text. -/
def maxStrDigits : ℕ := 4300

/-- `int(text)` of a sign and its digits. -/
def readInt (negative : Bool) (digits : List Char) : Option ℤ :=
  if maxStrDigits < digits.length then none else Decimal.toInt (Decimal.minus negative ++ digits)

/-- `_match_number`: an integer where there is neither a fraction nor an exponent. -/
def scanNumber (text : List Char) : Option (Number × List Char) := do
  let (negative, text) := minusPart text
  let (whole, text) ← wholePart text
  let (fraction, text) := fractionPart text
  let (exponent, text) := exponentPart text
  let value ←
    if fraction = [] ∧ exponent = [] then (readInt negative whole).map Number.int
    else (Python.float (Decimal.minus negative ++ whole ++ fraction ++ exponent)).map Number.float
  return (value, text)

/-- A text that is read as this number, whatever ends it, and is of a number's characters. -/
structure Writes (text : List Char) (value : Number) : Prop where
  read : ∀ rest, Strtod.Ends rest → scanNumber (text ++ rest) = some (value, rest)
  numeral : ∀ c ∈ text, Decimal.IsNumeral c

section

variable {text rest digits : List Char}

theorem fractionPart_ends (h : Strtod.Ends rest) : fractionPart rest = ([], rest) := by
  unfold fractionPart
  split
  · rename_i digits
    exact absurd (h '.' digits rfl).2 (by decide)
  · rfl

theorem exponentPart_ends (h : Strtod.Ends rest) : exponentPart rest = ([], rest) := by
  unfold exponentPart
  split
  · rfl
  · rename_i e more
    rw [if_neg]
    rintro (rfl | rfl)
    · exact absurd (h 'e' more rfl).2 (by decide)
    · exact absurd (h 'E' more rfl).2 (by decide)

theorem toDigits_head {n : ℕ} (hpos : 0 < n) {c : Char} {more : List Char}
    (h : Nat.toDigits 10 n = c :: more) : c ≠ '0' := by
  induction n using Nat.strong_induction_on generalizing c more with
  | _ n ih =>
      by_cases hn : n < 10
      · rw [Nat.toDigits_of_lt_base hn] at h
        obtain ⟨rfl, -⟩ := List.cons.inj h
        have hall : ∀ k < 10, 0 < k → Nat.digitChar k ≠ '0' := by decide
        exact hall n hn hpos
      · rw [Nat.toDigits_of_base_le (by decide) (by omega)] at h
        obtain ⟨c', more', hcons⟩ := List.exists_cons_of_ne_nil
          (Nat.toDigits_ne_nil : Nat.toDigits 10 (n / 10) ≠ [])
        rw [hcons] at h
        obtain ⟨rfl, -⟩ := List.cons.inj h
        exact ih (n / 10) (by omega) (by omega) hcons

/-- The digits of a number start with no 0 but its own. -/
theorem wholePart_toDigits (n : ℕ) (hrest : ∀ c more, rest = c :: more → c.isDigit = false) :
    wholePart (Nat.toDigits 10 n ++ rest) = some (Nat.toDigits 10 n, rest) := by
  have hspan := Decimal.span_digits (Decimal.all_toDigits n) hrest
  have hall := Decimal.all_toDigits n
  by_cases hpos : 0 < n
  · obtain ⟨c, more, hcons⟩ := List.exists_cons_of_ne_nil
      (Nat.toDigits_ne_nil : Nat.toDigits 10 n ≠ [])
    have hc := toDigits_head hpos hcons
    rw [hcons, List.cons_append] at hspan ⊢
    rw [hcons, List.all_cons, Bool.and_eq_true] at hall
    rw [wholePart, if_neg hc, if_pos hall.1, hspan]
  · have hzero : n = 0 := by omega
    subst hzero
    rfl

theorem minusPart_digits (negative : Bool) (n : ℕ) (rest : List Char) :
    minusPart (Decimal.minus negative ++ (Nat.toDigits 10 n ++ rest)) =
      (negative, Nat.toDigits 10 n ++ rest) := by
  cases negative with
  | true => rfl
  | false =>
      obtain ⟨c, more, hcons⟩ := List.exists_cons_of_ne_nil
        (Nat.toDigits_ne_nil : Nat.toDigits 10 n ≠ [])
      have hall := Decimal.all_toDigits n
      rw [hcons, List.all_cons, Bool.and_eq_true] at hall
      show minusPart (Nat.toDigits 10 n ++ rest) = _
      rw [hcons, List.cons_append]
      unfold minusPart
      split
      · rename_i heq
        rw [(List.cons.inj heq).1] at hall
        exact absurd hall.1 (by decide)
      · rfl

theorem isNumeral_minus (negative : Bool) : ∀ c ∈ Decimal.minus negative, Decimal.IsNumeral c := by
  intro c hc
  cases negative with
  | true =>
      rw [List.mem_singleton.1 hc]
      exact .inr (by decide)
  | false => exact absurd hc List.not_mem_nil

/-- `str(n)` raises no `ValueError`. -/
def Short (n : ℤ) : Prop := (Nat.toDigits 10 n.natAbs).length ≤ maxStrDigits

instance (n : ℤ) : Decidable (Short n) := inferInstanceAs (Decidable (_ ≤ _))

/-- An integer is read as it was written. -/
theorem writes_ofInt {n : ℤ} (hshort : Short n) : Writes (Decimal.ofInt n) (.int n) := by
  constructor
  · intro rest hrest
    have hwhole := wholePart_toDigits n.natAbs fun c more heq => (hrest c more heq).1
    unfold scanNumber Decimal.ofInt
    rw [List.append_assoc, minusPart_digits]
    simp only [hwhole, fractionPart_ends hrest, exponentPart_ends hrest, Option.bind_eq_bind,
      Option.bind_some]
    have hread : readInt (decide (n < 0)) (Nat.toDigits 10 n.natAbs) = some n := by
      rw [readInt, if_neg (Nat.not_lt.2 hshort)]
      exact Decimal.toInt_ofInt n
    rw [if_pos (by simp), hread]
    rfl
  · intro c hc
    rcases List.mem_append.1 hc with hc | hc
    · exact isNumeral_minus _ c hc
    · exact Decimal.isNumeral_of_all (Decimal.all_toDigits _) c hc

/-- Digits with a point are read as the number they are. -/
theorem writes_pointed (negative : Bool) (n : ℕ) {fraction : List Char} (hne : fraction ≠ [])
    (hfraction : fraction.all Char.isDigit = true) {q : ℚ}
    (hread : Decimal.toRat (Decimal.minus negative ++ (Nat.toDigits 10 n ++ '.' :: fraction)) = some q)
    (hbound : |q| < Python.floatBound) :
    Writes (Decimal.minus negative ++ (Nat.toDigits 10 n ++ '.' :: fraction)) (.float (.finite q)) := by
  have hnumeral : ∀ c ∈ Decimal.minus negative ++ (Nat.toDigits 10 n ++ '.' :: fraction),
      Decimal.IsNumeral c := by
    intro c hc
    rcases List.mem_append.1 hc with hc | hc
    · exact isNumeral_minus _ c hc
    · rcases List.mem_append.1 hc with hc | hc
      · exact Decimal.isNumeral_of_all (Decimal.all_toDigits _) c hc
      · rcases List.mem_cons.1 hc with rfl | hc
        · exact .inr (by decide)
        · exact Decimal.isNumeral_of_all hfraction c hc
  refine ⟨?_, hnumeral⟩
  intro rest hrest
  have hspan := Decimal.span_digits hfraction fun c more heq => (hrest c more heq).1
  have hwhole := @wholePart_toDigits ('.' :: (fraction ++ rest)) n (by
    intro c more heq
    cases heq
    decide)
  have hpart : fractionPart ('.' :: (fraction ++ rest)) = ('.' :: fraction, rest) := by
    rw [fractionPart]
    dsimp only
    rw [hspan]
    exact if_neg hne
  unfold scanNumber
  rw [List.append_assoc, List.append_assoc, List.cons_append, minusPart_digits]
  simp only [hwhole, hpart, exponentPart_ends hrest, Option.bind_eq_bind, Option.bind_some]
  rw [if_neg (by simp), List.append_nil, List.append_assoc, Python.float_eq hnumeral hread hbound]
  rfl

/-- A number with no more places than are written. -/
theorem writes_ofRat {places : ℕ} (hplaces : 0 < places) {q : ℚ}
    (hrounded : Decimal.rounded places q = q) (hbound : |q| < Python.floatBound) :
    Writes (Decimal.ofRat places q) (.float (.finite q)) := by
  have hread := @Decimal.toRat_ofRat places q hplaces
  rw [hrounded] at hread
  obtain ⟨hall, hlength, -⟩ :=
    Decimal.fraction_spec places (Decimal.roundHalfEven (|q| * 10 ^ places)).toNat
  refine writes_pointed _ _ ?_ hall hread hbound
  intro hnil
  have hplaces' := hlength hplaces
  rw [hnil] at hplaces'
  exact absurd hplaces' (Nat.ne_of_lt hplaces)

end

end JsonText
