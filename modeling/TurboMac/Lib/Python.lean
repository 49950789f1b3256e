import TurboMac.Lib.Significant

/-! # Text in Python

`str.strip` and `float` of a text, with `float`'s infinities, its underscores
and the spaces around it. Digits outside ASCII are not read.
-/

namespace Python

/-- `str.isspace` of one character. -/
def isSpace (c : Char) : Bool :=
  let code := c.toNat
  decide (9 ≤ code ∧ code ≤ 13 ∨ 28 ≤ code ∧ code ≤ 32) ||
    code ∈ [0x85, 0xa0, 0x1680, 0x2028, 0x2029, 0x202f, 0x205f, 0x3000] ||
    decide (0x2000 ≤ code ∧ code ≤ 0x200a)

/-- `str.strip`. -/
def strip (text : List Char) : List Char := (text.dropWhile isSpace).rdropWhile isSpace

/-- Where `str.splitlines` ends a line. -/
def isLineBreak (c : Char) : Bool :=
  let code := c.toNat
  decide (10 ≤ code ∧ code ≤ 13 ∨ 28 ≤ code ∧ code ≤ 30) || code ∈ [0x85, 0x2028, 0x2029]

/-- The lines of a text; `line` is what there is of the first of them, reversed. -/
def splitlinesFrom (line : List Char) : List Char → List (List Char)
  | [] => if line = [] then [] else [line.reverse]
  | '\r' :: '\n' :: text => line.reverse :: splitlinesFrom [] text
  | c :: text =>
    if isLineBreak c then line.reverse :: splitlinesFrom [] text
    else splitlinesFrom (c :: line) text

/-- `str.splitlines`. -/
def splitlines (text : List Char) : List (List Char) := splitlinesFrom [] text

/-- A `float`, exact. -/
inductive Float where
  | finite (q : ℚ)
  | infinity (negative : Bool)
  | nan
deriving DecidableEq, Repr

/-- Underscores are allowed between digits; `after` tells that a digit comes before. -/
def dropUnderscores (after : Bool) : List Char → Option (List Char)
  | [] => some []
  | c :: text =>
    if c = '_' then
      if after ∧ text.head?.any Char.isDigit then dropUnderscores false text else none
    else (dropUnderscores c.isDigit text).map (c :: ·)

/-- What is as large is infinite. -/
def floatBound : ℚ := 2 ^ 1024 - 2 ^ 970

/-- `float(text)`, or none for a `ValueError`. -/
def float (text : List Char) : Option Float :=
  let text := strip text
  let (negative, body) := Decimal.sign text
  let name := body.map Char.toLower
  if name = "inf".toList ∨ name = "infinity".toList then some (.infinity negative)
  else if name = "nan".toList then some .nan
  else
    (dropUnderscores false text).bind Decimal.toRat |>.map fun q =>
      if floatBound ≤ |q| then .infinity (decide (q < 0)) else .finite q

/-- What has been stripped is itself again when a space is put after it. -/
theorem strip_append_space (text : List Char) {c : Char} (hc : isSpace c = true) :
    strip (strip text ++ [c]) = strip text := by
  have hfirst : ∀ a, (strip text).head? = some a → isSpace a = false := by
    intro a ha
    have hprefix : strip text <+: text.dropWhile isSpace := List.rdropWhile_prefix _ _
    have hhead := List.head?_dropWhile_not isSpace text
    rcases hprefix with ⟨rest, hrest⟩
    rw [← hrest, List.head?_append, ha] at hhead
    simpa using hhead
  by_cases hempty : strip text = []
  · rw [hempty]
    simp [strip, hc]
  · have hdrop : (strip text ++ [c]).dropWhile isSpace = strip text ++ [c] := by
      obtain ⟨a, rest, heq⟩ := List.exists_cons_of_ne_nil hempty
      rw [heq, List.cons_append]
      exact List.dropWhile_cons_of_neg (by simp [hfirst a (by rw [heq]; rfl)])
    calc strip (strip text ++ [c])
        = (strip text ++ [c]).rdropWhile isSpace := by rw [strip, hdrop]
      _ = (strip text).rdropWhile isSpace := List.rdropWhile_concat_pos _ _ _ hc
      _ = strip text := List.rdropWhile_idempotent _ _

/-- What neither starts nor ends with a space is stripped of nothing. -/
theorem strip_eq {text : List Char} (hfirst : ∀ c, text.head? = some c → isSpace c = false)
    (hlast : ∀ c, text.getLast? = some c → isSpace c = false) : strip text = text := by
  have hdrop : text.dropWhile isSpace = text := by
    cases text with
    | nil => rfl
    | cons c text => exact List.dropWhile_cons_of_neg (by simp [hfirst c rfl])
  unfold strip
  rw [hdrop, List.rdropWhile_eq_self_iff]
  intro hne
  have hc := hlast _ (List.getLast?_eq_some_getLast hne)
  simp [hc]

section

variable {text : List Char}

theorem isSpace_of_isNumeral {c : Char} (h : Decimal.IsNumeral c) : isSpace c = false := by
  rcases h with hdigit | hother
  · obtain ⟨hlow, hhigh⟩ : 48 ≤ c.toNat ∧ c.toNat ≤ 57 := Char.isDigit_iff_toNat.1 hdigit
    unfold isSpace
    simp only [Bool.or_eq_false_iff, decide_eq_false_iff_not, List.mem_cons, List.not_mem_nil,
      or_false]
    omega
  · simp only [List.mem_cons, List.not_mem_nil, or_false] at hother
    rcases hother with rfl | rfl | rfl | rfl
    all_goals decide

theorem toLower_of_isNumeral {c : Char} (h : Decimal.IsNumeral c) : c.toLower ≠ 'n' := by
  rcases h with hdigit | hother
  · obtain ⟨hlow, hhigh⟩ : 48 ≤ c.toNat ∧ c.toNat ≤ 57 := Char.isDigit_iff_toNat.1 hdigit
    have hlower : c.toLower = c := by
      unfold Char.toLower
      rw [dif_neg]
      rintro ⟨hupper, -⟩
      have hletter : 65 ≤ c.toNat := hupper
      omega
    rw [hlower]
    rintro rfl
    exact absurd hdigit (by decide)
  · simp only [List.mem_cons, List.not_mem_nil, or_false] at hother
    rcases hother with rfl | rfl | rfl | rfl
    all_goals decide

/-- The rest of a text without its sign. -/
theorem sign_subset (text : List Char) : ∀ c ∈ (Decimal.sign text).2, c ∈ text := by
  unfold Decimal.sign
  split
  · exact fun c hc => List.mem_cons_of_mem _ hc
  · exact fun c hc => List.mem_cons_of_mem _ hc
  · exact fun c hc => hc

theorem dropUnderscores_eq (h : '_' ∉ text) (after : Bool) : dropUnderscores after text = some text := by
  induction text generalizing after with
  | nil => rfl
  | cons c text ih =>
      rw [List.mem_cons, not_or] at h
      unfold dropUnderscores
      rw [if_neg (Ne.symm h.1), ih h.2]
      rfl

/-- Of what consists of the characters of a number, `float` is the number. -/
theorem float_eq {q : ℚ} (hnumeral : ∀ c ∈ text, Decimal.IsNumeral c) (hread : Decimal.toRat text = some q)
    (hbound : |q| < floatBound) : float text = some (.finite q) := by
  have hstrip : strip text = text := by
    apply strip_eq
    · exact fun c hc => isSpace_of_isNumeral (hnumeral c (List.mem_of_mem_head? hc))
    · exact fun c hc => isSpace_of_isNumeral (hnumeral c (List.mem_of_mem_getLast? hc))
  have hn : 'n' ∉ (Decimal.sign text).2.map Char.toLower := by
    rw [List.mem_map]
    rintro ⟨c, hc, hlower⟩
    exact toLower_of_isNumeral (hnumeral c (sign_subset text c hc)) hlower
  have hname : ∀ name : String, 'n' ∈ name.toList → (Decimal.sign text).2.map Char.toLower ≠ name.toList := by
    rintro name hmem heq
    exact hn (heq ▸ hmem)
  have hunderscore : '_' ∉ text := by
    intro hmem
    exact absurd (hnumeral '_' hmem) (by decide)
  unfold float
  rw [hstrip]
  dsimp only
  rw [if_neg (not_or.mpr ⟨hname "inf" (by decide), hname "infinity" (by decide)⟩),
    if_neg (hname "nan" (by decide)), dropUnderscores_eq hunderscore, Option.bind_some, hread,
    Option.map_some, if_neg (not_le.mpr hbound)]

end

end Python
