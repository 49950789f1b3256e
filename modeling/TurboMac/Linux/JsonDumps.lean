import TurboMac.Lib.JsonText
import TurboMac.Linux.Settings

/-! # `json.dumps` and `json.loads`

The text of a value as `protocol.py` writes it, compact and in ASCII, and what a text is read
as. The text of a float is `float.__repr__`, here `repr`. Both go into a list or a dictionary by
a call, of which Python has `levels` left. What is written is read back, up to what comes behind
it.
-/

namespace TurboMac.Linux

open JsonText

/-! ## Writing -/

mutual

/-- `json.dumps(value, separators=(",", ":"))`. -/
def Json.dumps (repr : ℚ → List Char) : Json → List Char
  | .null => "null".toList
  | .bool b => if b then "true".toList else "false".toList
  | .int n => Decimal.ofInt n
  | .float q => repr q
  | .nan => "NaN".toList
  | .infinity negative => Decimal.minus negative ++ "Infinity".toList
  | .str s => quote s.toList
  | .arr [] => ['[', ']']
  | .arr (item :: items) => '[' :: (item.dumps repr ++ dumpsItems repr items)
  | .obj [] => ['\x7b', '\x7d']
  | .obj ((key, value) :: members) =>
    '\x7b' :: (quote key.toList ++ ':' :: (value.dumps repr ++ dumpsMembers repr members))

/-- The items after the first, and the bracket. -/
def dumpsItems (repr : ℚ → List Char) : List Json → List Char
  | [] => [']']
  | item :: items => ',' :: (item.dumps repr ++ dumpsItems repr items)

def dumpsMembers (repr : ℚ → List Char) : List (String × Json) → List Char
  | [] => ['\x7d']
  | (key, value) :: members =>
    ',' :: (quote key.toList ++ ':' :: (value.dumps repr ++ dumpsMembers repr members))

end

/-! ## Reading -/

def skipSpace (text : List Char) : List Char :=
  text.dropWhile fun c => c ∈ [' ', '\t', '\n', '\r']

def Json.ofNumber : Number → Json
  | .int n => .int n
  | .float (.finite q) => .float q
  | .float (.infinity negative) => .infinity negative
  | .float .nan => .nan

def jsonNames : List (String × Json) :=
  [("null", .null), ("true", .bool true), ("false", .bool false), ("NaN", .nan),
    ("Infinity", .infinity false), ("-Infinity", .infinity true)]

/-- What `json.loads` raises: a `ValueError`, or a `RecursionError`. -/
inductive JsonError where
  | value
  | recursion
deriving DecidableEq, Repr

/-- What is scanned, or a `ValueError`. -/
def orValueError {α : Type} (scanned : Option α) : Except JsonError α := scanned.elim (.error .value) .ok

/-- A number, or one of the names. -/
def scanAtom (text : List Char) : Option (Json × List Char) :=
  match scanNumber text with
  | some (value, rest) => some (.ofNumber value, rest)
  | none =>
    (jsonNames.find? fun item => item.1.toList.isPrefixOf text).map fun item =>
      (item.2, text.drop item.1.toList.length)

mutual

/-- A value, with so many levels left. A list takes two steps for its bracket. -/
def scanValue : ℕ → ℕ → List Char → Except JsonError (Json × List Char)
  | 0, _, _ => .error .value
  | _ + 1, _, [] => .error .value
  | n + 1, levels, c :: text =>
    if c = '"' then
      (orValueError (scanString text.length text)).map fun (s, rest) => (.str (String.ofList s), rest)
    else if c = '[' then
      match levels with
      | 0 => .error .recursion
      | levels + 1 =>
        match skipSpace text with
        | ']' :: rest => .ok (.arr [], rest)
        | text => (scanItems n levels text).map fun (items, rest) => (.arr items, rest)
    else if c = '\x7b' then
      match levels with
      | 0 => .error .recursion
      | levels + 1 =>
        match skipSpace text with
        | '\x7d' :: rest => .ok (.obj [], rest)
        | text => (scanMembers n levels text).map fun (members, rest) =>
          -- a key that comes again replaces the value
          (.obj (members.foldl (fun d member => Dict.set d member.1 member.2) []), rest)
    else orValueError (scanAtom (c :: text))

/-- The items of an array that is not empty. -/
def scanItems : ℕ → ℕ → List Char → Except JsonError (List Json × List Char)
  | 0, _, _ => .error .value
  | n + 1, levels, text => do
    let (item, text) ← scanValue n levels text
    match skipSpace text with
    | ',' :: text =>
      let (items, rest) ← scanItems n levels (skipSpace text)
      return (item :: items, rest)
    | ']' :: rest => return ([item], rest)
    | _ => .error .value

def scanMembers : ℕ → ℕ → List Char → Except JsonError (List (String × Json) × List Char)
  | 0, _, _ => .error .value
  | n + 1, levels, text =>
    match text with
    | '"' :: text => do
      let (key, text) ← orValueError (scanString text.length text)
      match skipSpace text with
      | ':' :: text =>
        let (value, text) ← scanValue n levels (skipSpace text)
        match skipSpace text with
        | ',' :: text =>
          let (members, rest) ← scanMembers n levels (skipSpace text)
          return ((String.ofList key, value) :: members, rest)
        | '\x7d' :: rest => return ([(String.ofList key, value)], rest)
        | _ => .error .value
      | _ => .error .value
    | _ => .error .value

end

/-- `json.loads`. -/
def Json.loads (levels : ℕ) (text : List Char) : Except JsonError Json := do
  let (value, rest) ← scanValue (2 * text.length) levels (skipSpace text)
  if skipSpace rest = [] then return value else .error .value

/-! ## What is written is read back -/

/-- A value that `json.dumps` writes with so many levels left: each number has a text that is
read as it, and no object has a key twice. -/
inductive Json.Dumpable (repr : ℚ → List Char) : ℕ → Json → Prop where
  | null {levels : ℕ} : Dumpable repr levels .null
  | bool {levels : ℕ} (b : Bool) : Dumpable repr levels (.bool b)
  | int {levels : ℕ} {n : ℤ} (h : Short n) : Dumpable repr levels (.int n)
  | float {levels : ℕ} {q : ℚ} (h : Writes (repr q) (.float (.finite q))) :
      Dumpable repr levels (.float q)
  | nan {levels : ℕ} : Dumpable repr levels .nan
  | infinity {levels : ℕ} (negative : Bool) : Dumpable repr levels (.infinity negative)
  | str {levels : ℕ} (s : String) : Dumpable repr levels (.str s)
  | arr {levels : ℕ} {items : List Json} (h : ∀ item ∈ items, Dumpable repr levels item) :
      Dumpable repr (levels + 1) (.arr items)
  | obj {levels : ℕ} {members : List (String × Json)} (hkeys : (members.map Prod.fst).Nodup)
      (h : ∀ member ∈ members, Dumpable repr levels member.2) :
      Dumpable repr (levels + 1) (.obj members)

section

variable {repr : ℚ → List Char} {text rest : List Char} {levels : ℕ}

theorem ends_nil : Strtod.Ends [] := nofun

theorem ends_cons {c : Char} (hdigit : c.isDigit = false) (hc : c ∉ ['.', 'e', 'E', 'x', 'X']) :
    Strtod.Ends (c :: text) := by
  intro c' rest heq
  cases heq
  exact ⟨hdigit, hc⟩

theorem skipSpace_cons {c : Char} (hc : c ∉ [' ', '\t', '\n', '\r']) :
    skipSpace (c :: text) = c :: text := by
  unfold skipSpace
  exact List.dropWhile_cons_of_neg (by simpa using hc)

/-- What a value starts with tells how to read it. -/
theorem scanValue_atom {n : ℕ} {value : Json} (hfirst : ∀ c more, text = c :: more →
    c ≠ '"' ∧ c ≠ '[' ∧ c ≠ '\x7b') (hatom : scanAtom text = some (value, rest)) (hne : text ≠ []) :
    scanValue (n + 1) levels text = .ok (value, rest) := by
  obtain ⟨c, more, rfl⟩ := List.exists_cons_of_ne_nil hne
  obtain ⟨h1, h2, h3⟩ := hfirst c more rfl
  rw [scanValue.eq_def]
  dsimp only
  rw [if_neg h1, if_neg h2, if_neg h3, hatom]
  rfl

theorem writes_ne_nil {value : Number} (h : Writes text value) : text ≠ [] := by
  rintro rfl
  have hread := h.read [] ends_nil
  cases hread

theorem scanAtom_writes {value : Number} (h : Writes text value) (hrest : Strtod.Ends rest) :
    scanAtom (text ++ rest) = some (.ofNumber value, rest) := by
  unfold scanAtom
  rw [h.read rest hrest]

theorem scanValue_writes {n : ℕ} {value : Number} (h : Writes text value) (hrest : Strtod.Ends rest) :
    scanValue (n + 1) levels (text ++ rest) = .ok (.ofNumber value, rest) := by
  have hne := writes_ne_nil h
  apply scanValue_atom _ (scanAtom_writes h hrest) (by simp [hne])
  intro c more heq
  obtain ⟨a, others, rfl⟩ := List.exists_cons_of_ne_nil hne
  rw [List.cons_append] at heq
  obtain ⟨rfl, -⟩ := List.cons.inj heq
  have hnumeral := h.numeral a List.mem_cons_self
  refine ⟨?_, ?_, ?_⟩ <;> (rintro rfl; exact absurd hnumeral (by decide))

/-- A name is not a number. -/
theorem scanValue_name {n : ℕ} {name : String} {value : Json} (hmem : (name, value) ∈ jsonNames) :
    scanValue (n + 1) levels (name.toList ++ rest) = .ok (value, rest) := by
  simp only [jsonNames, List.mem_cons, List.not_mem_nil, or_false, Prod.mk.injEq] at hmem
  rcases hmem with ⟨rfl, rfl⟩ | ⟨rfl, rfl⟩ | ⟨rfl, rfl⟩ | ⟨rfl, rfl⟩ | ⟨rfl, rfl⟩ | ⟨rfl, rfl⟩ <;> rfl

/-- The value is read back, whatever ends it. -/
def ReadBack (repr : ℚ → List Char) (levels : ℕ) (value : Json) : Prop :=
  ∀ (n : ℕ) (rest : List Char), (value.dumps repr).length ≤ n → Strtod.Ends rest →
    scanValue n levels (value.dumps repr ++ rest) = .ok (value, rest)

theorem readBack_writes {value : Number} (h : Writes text value) {n : ℕ} (hn : text.length ≤ n)
    (hrest : Strtod.Ends rest) : scanValue n levels (text ++ rest) = .ok (.ofNumber value, rest) := by
  have hpos := List.length_pos_of_ne_nil (writes_ne_nil h)
  obtain ⟨n, rfl⟩ := Nat.exists_eq_succ_of_ne_zero (show n ≠ 0 by omega)
  exact scanValue_writes h hrest

theorem readBack_name {name : String} {value : Json} (hmem : (name, value) ∈ jsonNames) {n : ℕ}
    (hn : name.toList.length ≤ n) : scanValue n levels (name.toList ++ rest) = .ok (value, rest) := by
  have hne : name.toList ≠ [] := by
    simp only [jsonNames, List.mem_cons, List.not_mem_nil, or_false, Prod.mk.injEq] at hmem
    rcases hmem with ⟨rfl, -⟩ | ⟨rfl, -⟩ | ⟨rfl, -⟩ | ⟨rfl, -⟩ | ⟨rfl, -⟩ | ⟨rfl, -⟩ <;> decide
  have hpos := List.length_pos_of_ne_nil hne
  obtain ⟨n, rfl⟩ := Nat.exists_eq_succ_of_ne_zero (show n ≠ 0 by omega)
  exact scanValue_name hmem

/-- A value starts neither with a space nor with a bracket that ends an array. -/
theorem dumps_head {value : Json} (h : value.Dumpable repr levels) :
    ∃ c more, value.dumps repr = c :: more ∧ c ∉ [' ', '\t', '\n', '\r', ']'] := by
  have hwrites : ∀ {text : List Char} {number : Number}, Writes text number →
      ∃ c more, text = c :: more ∧ c ∉ [' ', '\t', '\n', '\r', ']'] := by
    intro text number hw
    obtain ⟨c, more, rfl⟩ := List.exists_cons_of_ne_nil (writes_ne_nil hw)
    refine ⟨c, more, rfl, ?_⟩
    intro hc
    have hnumeral := hw.numeral c List.mem_cons_self
    simp only [List.mem_cons, List.not_mem_nil, or_false] at hc
    rcases hc with rfl | rfl | rfl | rfl | rfl <;> exact absurd hnumeral (by decide)
  cases h with
  | null => exact ⟨'n', _, rfl, by decide⟩
  | bool b =>
      cases b with
      | true => exact ⟨'t', _, rfl, by decide⟩
      | false => exact ⟨'f', _, rfl, by decide⟩
  | int hshort => exact hwrites (writes_ofInt hshort)
  | float hq => exact hwrites hq
  | nan => exact ⟨'N', _, rfl, by decide⟩
  | infinity negative =>
      cases negative with
      | true => exact ⟨'-', _, rfl, by decide⟩
      | false => exact ⟨'I', _, rfl, by decide⟩
  | str s => exact ⟨'"', _, rfl, by decide⟩
  | @arr _ items _ =>
      cases items with
      | nil => exact ⟨'[', _, rfl, by decide⟩
      | cons item items => exact ⟨'[', _, rfl, by decide⟩
  | @obj _ members _ _ =>
      cases members with
      | nil => exact ⟨'\x7b', _, rfl, by decide⟩
      | cons member members => exact ⟨'\x7b', _, rfl, by decide⟩

theorem skipSpace_dumps {value : Json} (h : value.Dumpable repr levels) (rest : List Char) :
    skipSpace (value.dumps repr ++ rest) = value.dumps repr ++ rest := by
  obtain ⟨c, more, heq, hc⟩ := dumps_head h
  rw [heq, List.cons_append]
  apply skipSpace_cons
  intro hmem
  apply hc
  simp only [List.mem_cons, List.not_mem_nil, or_false] at hmem ⊢
  tauto

theorem scanItems_dumps {items : List Json} (hitems : ∀ item ∈ items, ReadBack repr levels item)
    (hdump : ∀ item ∈ items, item.Dumpable repr levels) {item : Json}
    (hitem : ReadBack repr levels item) {n : ℕ}
    (hn : (item.dumps repr ++ dumpsItems repr items).length ≤ n) (rest : List Char) :
    scanItems n levels (item.dumps repr ++ (dumpsItems repr items ++ rest)) =
      .ok (item :: items, rest) := by
  induction items generalizing item n with
  | nil =>
      rw [List.length_append, dumpsItems, List.length_singleton] at hn
      obtain ⟨n, rfl⟩ := Nat.exists_eq_succ_of_ne_zero (show n ≠ 0 by omega)
      have hread := hitem n (']' :: rest) (by omega) (ends_cons (by decide) (by decide))
      rw [dumpsItems, scanItems]
      simp only [List.cons_append, List.nil_append, hread]
      rfl
  | cons next items ih =>
      rw [List.length_append, dumpsItems, List.length_cons] at hn
      obtain ⟨n, rfl⟩ := Nat.exists_eq_succ_of_ne_zero (show n ≠ 0 by omega)
      have hread := hitem n (',' :: (next.dumps repr ++ dumpsItems repr items ++ rest)) (by omega)
        (ends_cons (by decide) (by decide))
      have hnext := @ih (fun item h => hitems item (List.mem_cons_of_mem _ h))
        (fun item h => hdump item (List.mem_cons_of_mem _ h)) next (hitems next List.mem_cons_self) n
        (by omega)
      have hskip := skipSpace_dumps (hdump next List.mem_cons_self) (dumpsItems repr items ++ rest)
      rw [dumpsItems, scanItems]
      rw [List.append_assoc] at hread
      simp only [List.cons_append, List.append_assoc, hread]
      show (scanItems n levels (skipSpace (next.dumps repr ++ (dumpsItems repr items ++ rest)))).bind _ = _
      rw [hskip, hnext]
      rfl

theorem length_le_escape (text : List Char) : text.length ≤ (text.flatMap escape).length := by
  induction text with
  | nil => exact le_refl _
  | cons c text ih =>
      obtain ⟨a, more, heq, -⟩ := escape_ne_quote c
      rw [List.flatMap_cons, List.length_append, heq, List.length_cons, List.length_cons]
      omega

/-- A key, or a string after its first quote. -/
theorem scanString_rest (s : List Char) (rest : List Char) :
    scanString (s.flatMap escape ++ '"' :: rest).length (s.flatMap escape ++ '"' :: rest) =
      some (s, rest) := by
  apply scanString_quote
  have hle := length_le_escape s
  rw [List.length_append, List.length_cons]
  omega

theorem scanMembers_dumps {members : List (String × Json)}
    (hmembers : ∀ member ∈ members, ReadBack repr levels member.2)
    (hdump : ∀ member ∈ members, member.2.Dumpable repr levels) {key : String} {value : Json}
    (hvalue : ReadBack repr levels value) (hhead : value.Dumpable repr levels) {n : ℕ}
    (hn : (value.dumps repr ++ dumpsMembers repr members).length < n) (rest : List Char) :
    scanMembers n levels
        (quote key.toList ++ ':' :: (value.dumps repr ++ (dumpsMembers repr members ++ rest))) =
      .ok ((key, value) :: members, rest) := by
  induction members generalizing key value n with
  | nil =>
      rw [List.length_append, dumpsMembers, List.length_singleton] at hn
      obtain ⟨n, rfl⟩ := Nat.exists_eq_succ_of_ne_zero (show n ≠ 0 by omega)
      have hread := hvalue n ('\x7d' :: rest) (by omega) (ends_cons (by decide) (by decide))
      have hkey := scanString_rest key.toList (':' :: (value.dumps repr ++ '\x7d' :: rest))
      have hskip := skipSpace_dumps hhead ('\x7d' :: rest)
      rw [dumpsMembers, quote, scanMembers.eq_def]
      simp only [List.cons_append, List.append_assoc, List.nil_append, hkey]
      show (scanValue n levels (skipSpace (value.dumps repr ++ '\x7d' :: rest))).bind _ = _
      rw [hskip, hread]
      show Except.ok ([(String.ofList key.toList, value)], rest) = _
      rw [String.ofList_toList]
  | cons member members ih =>
      obtain ⟨nextKey, next⟩ := member
      rw [List.length_append, dumpsMembers, List.length_cons, List.length_append] at hn
      obtain ⟨n, rfl⟩ := Nat.exists_eq_succ_of_ne_zero (show n ≠ 0 by omega)
      have hmore := @ih (fun member h => hmembers member (List.mem_cons_of_mem _ h))
        (fun member h => hdump member (List.mem_cons_of_mem _ h)) nextKey next
        (hmembers (nextKey, next) List.mem_cons_self) (hdump (nextKey, next) List.mem_cons_self) n
        (by rw [List.length_cons] at hn; omega)
      set others := quote nextKey.toList ++ ':' :: (next.dumps repr ++ (dumpsMembers repr members ++ rest))
        with hothers
      have hread := hvalue n (',' :: others) (by omega) (ends_cons (by decide) (by decide))
      have hkey := scanString_rest key.toList (':' :: (value.dumps repr ++ ',' :: others))
      have hskip := skipSpace_dumps hhead (',' :: others)
      have hquote : skipSpace others = others := skipSpace_cons (by decide)
      have htext : dumpsMembers repr ((nextKey, next) :: members) ++ rest = ',' :: others := by
        rw [hothers, dumpsMembers]
        simp only [List.cons_append, List.append_assoc]
      rw [htext, quote, scanMembers.eq_def]
      simp only [List.cons_append, List.append_assoc, List.nil_append, hkey]
      show (scanValue n levels (skipSpace (value.dumps repr ++ ',' :: others))).bind _ = _
      rw [hskip, hread]
      show (scanMembers n levels (skipSpace others)).bind _ = _
      rw [hquote, hmore]
      show Except.ok ((String.ofList key.toList, value) :: (nextKey, next) :: members, rest) = _
      rw [String.ofList_toList]

/-- Members with different keys make the dictionary they are. -/
theorem foldl_set (members d : Dict Json) (h : (d.map Prod.fst ++ members.map Prod.fst).Nodup) :
    members.foldl (fun d member => Dict.set d member.1 member.2) d = d ++ members := by
  have hset : ∀ (d : Dict Json) (key : String) (value : Json), key ∉ d.map Prod.fst →
      Dict.set d key value = d ++ [(key, value)] := by
    intro d key value hkey
    induction d with
    | nil => rfl
    | cons item d ih =>
        rw [List.map_cons, List.mem_cons, not_or] at hkey
        rw [Dict.set, if_neg (Ne.symm hkey.1), ih hkey.2]
        rfl
  induction members generalizing d with
  | nil => simp
  | cons member members ih =>
      obtain ⟨key, value⟩ := member
      have hkey : key ∉ d.map Prod.fst := by
        rw [List.map_cons] at h
        exact fun hmem => (List.nodup_append.1 h).2.2 key hmem key List.mem_cons_self rfl
      rw [List.foldl_cons, hset d key value hkey, ih]
      · simp
      · simpa using h

theorem readBack {value : Json} (h : value.Dumpable repr levels) : ReadBack repr levels value := by
  induction h with
  | null => exact fun n rest hn _ => readBack_name (by simp [jsonNames]) hn
  | bool b =>
      cases b with
      | true => exact fun n rest hn _ => readBack_name (by simp [jsonNames]) hn
      | false => exact fun n rest hn _ => readBack_name (by simp [jsonNames]) hn
  | int hshort => exact fun n rest hn hrest => readBack_writes (writes_ofInt hshort) hn hrest
  | float hq => exact fun n rest hn hrest => readBack_writes hq hn hrest
  | nan => exact fun n rest hn _ => readBack_name (by simp [jsonNames]) hn
  | infinity negative =>
      cases negative with
      | true => exact fun n rest hn _ => @readBack_name _ _ "-Infinity" _ (by simp [jsonNames]) _ hn
      | false => exact fun n rest hn _ => @readBack_name _ _ "Infinity" _ (by simp [jsonNames]) _ hn
  | str s =>
      intro n rest hn _
      rw [Json.dumps, quote, List.length_cons] at hn
      obtain ⟨n, rfl⟩ := Nat.exists_eq_succ_of_ne_zero (show n ≠ 0 by omega)
      rw [Json.dumps, quote, List.cons_append, scanValue.eq_def]
      simp only [List.append_assoc, List.cons_append, List.nil_append, ↓reduceIte, scanString_rest]
      show Except.ok (Json.str (String.ofList s.toList), rest) = _
      rw [String.ofList_toList]
  | @arr levels items hdump ih =>
      intro n rest hn _
      cases items with
      | nil =>
          rw [Json.dumps] at hn
          obtain ⟨n, rfl⟩ := Nat.exists_eq_succ_of_ne_zero (show n ≠ 0 by rintro rfl; cases hn)
          rfl
      | cons item items =>
          rw [Json.dumps, List.length_cons] at hn
          obtain ⟨n, rfl⟩ := Nat.exists_eq_succ_of_ne_zero (show n ≠ 0 by omega)
          have hitem : item.Dumpable repr levels := hdump item List.mem_cons_self
          have hitems := scanItems_dumps (fun item h => ih item (List.mem_cons_of_mem _ h))
            (fun item h => hdump item (List.mem_cons_of_mem _ h)) (ih item List.mem_cons_self)
            (show _ ≤ n by omega) rest
          have hskip := skipSpace_dumps hitem (dumpsItems repr items ++ rest)
          obtain ⟨c, more, heq, hc⟩ := dumps_head hitem
          rw [Json.dumps, List.cons_append, scanValue.eq_def]
          simp only [List.append_assoc, hskip]
          rw [if_neg (by decide), if_pos trivial]
          split
          · rename_i heq'
            rw [heq, List.cons_append] at heq'
            exact absurd (List.cons.inj heq').1 fun h => hc (by rw [h]; decide)
          · rw [hitems]
            rfl
  | @obj levels members hkeys hdump ih =>
      intro n rest hn _
      cases members with
      | nil =>
          rw [Json.dumps] at hn
          obtain ⟨n, rfl⟩ := Nat.exists_eq_succ_of_ne_zero (show n ≠ 0 by rintro rfl; cases hn)
          rfl
      | cons member members =>
          obtain ⟨key, value⟩ := member
          rw [Json.dumps, List.length_cons, List.length_append, List.length_cons] at hn
          obtain ⟨n, rfl⟩ := Nat.exists_eq_succ_of_ne_zero (show n ≠ 0 by omega)
          have hvalue : value.Dumpable repr levels := hdump (key, value) List.mem_cons_self
          have hread : ReadBack repr levels value := ih (key, value) List.mem_cons_self
          have hmembers := @scanMembers_dumps repr levels members
            (fun member h => ih member (List.mem_cons_of_mem _ h))
            (fun member h => hdump member (List.mem_cons_of_mem _ h)) key value hread hvalue n
            (by omega) rest
          have hskip : ∀ more, skipSpace (quote key.toList ++ more) = quote key.toList ++ more :=
            fun more => skipSpace_cons (by decide)
          rw [Json.dumps, List.cons_append, scanValue.eq_def]
          simp only [List.append_assoc, List.cons_append, hskip]
          rw [if_neg (by decide), if_neg (by decide), if_pos trivial]
          split
          · rename_i heq'
            exact absurd (List.cons.inj heq').1 (by decide)
          · rw [hmembers]
            show Except.ok (Json.obj (((key, value) :: members).foldl _ []), rest) = _
            rw [foldl_set _ _ (by simpa using hkeys), List.nil_append]

/-- A value whose text has been written, with nothing but space behind it. -/
theorem loads_dumps {value : Json} (h : value.Dumpable repr levels) (hspace : skipSpace rest = [])
    (hrest : Strtod.Ends rest) : Json.loads levels (value.dumps repr ++ rest) = .ok value := by
  unfold Json.loads
  rw [skipSpace_dumps h, readBack h _ rest (by rw [List.length_append]; omega) hrest]
  exact if_pos hspace

/-- More levels do no harm. -/
theorem Json.Dumpable.mono {value : Json} (h : value.Dumpable repr levels) {more : ℕ}
    (hle : levels ≤ more) : value.Dumpable repr more := by
  induction h generalizing more with
  | null => exact .null
  | bool b => exact .bool b
  | int hshort => exact .int hshort
  | float hq => exact .float hq
  | nan => exact .nan
  | infinity negative => exact .infinity negative
  | str s => exact .str s
  | arr _ ih =>
      obtain ⟨more, rfl⟩ := Nat.exists_eq_succ_of_ne_zero (show more ≠ 0 by omega)
      exact .arr fun item hitem => ih item hitem (by omega)
  | obj hkeys _ ih =>
      obtain ⟨more, rfl⟩ := Nat.exists_eq_succ_of_ne_zero (show more ≠ 0 by omega)
      exact .obj hkeys fun member hmember => ih member hmember (by omega)

/-- Too deep is another error than no value. -/
example : Json.loads 2 "[[[".toList = .error .recursion ∧ Json.loads 3 "[[[".toList = .error .value :=
  ⟨rfl, rfl⟩

/-! ### Its characters -/

/-- No control character, and nothing outside ASCII. -/
def Printed (text : List Char) : Prop := ∀ c ∈ text, 32 ≤ c.toNat ∧ c.toNat ≤ 126

theorem printed_of_all {text : List Char}
    (h : (text.all fun c => decide (32 ≤ c.toNat ∧ c.toNat ≤ 126)) = true) : Printed text := by
  intro c hc
  exact of_decide_eq_true (List.all_eq_true.1 h c hc)

theorem printed_append {text text' : List Char} (h : Printed text) (h' : Printed text') :
    Printed (text ++ text') := fun c hc => (List.mem_append.1 hc).elim (h c) (h' c)

theorem printed_cons {c : Char} {text : List Char} (hc : 32 ≤ c.toNat ∧ c.toNat ≤ 126)
    (h : Printed text) : Printed (c :: text) := by
  intro a ha
  rcases List.mem_cons.1 ha with rfl | ha
  · exact hc
  · exact h a ha

theorem printed_hex (unit : ℕ) : Printed (hex unit) := by
  have hdigit : ∀ n < 16, 32 ≤ (Nat.digitChar n).toNat ∧ (Nat.digitChar n).toNat ≤ 126 := by decide
  intro c hc
  simp only [hex, List.mem_map, List.mem_cons, List.not_mem_nil, or_false] at hc
  obtain ⟨n, hn, rfl⟩ := hc
  apply hdigit
  omega

theorem printed_escape (c : Char) : Printed (escape c) := by
  unfold escape
  split
  · rename_i hplain
    have h : 32 ≤ c.toNat ∧ c.toNat ≤ 126 ∧ c ≠ '"' ∧ c ≠ '\\' := of_decide_eq_true hplain
    exact printed_cons ⟨h.1, h.2.1⟩ nofun
  · split
    · rename_i item hfind
      have hmem := List.mem_of_find?_eq_some hfind
      simp only [shortEscapes, List.mem_cons, List.not_mem_nil, or_false] at hmem
      rcases hmem with rfl | rfl | rfl | rfl | rfl | rfl | rfl <;> exact printed_of_all (by decide)
    · split
      · exact printed_cons (by decide) (printed_cons (by decide) (printed_hex _))
      · exact printed_cons (by decide) (printed_cons (by decide) (printed_append (printed_hex _)
          (printed_cons (by decide) (printed_cons (by decide) (printed_hex _)))))

theorem printed_quote (text : List Char) : Printed (quote text) := by
  refine printed_cons (by decide) (printed_append ?_ (printed_of_all (by decide)))
  intro c hc
  obtain ⟨a, -, ha⟩ := List.mem_flatMap.1 hc
  exact printed_escape a c ha

theorem printed_writes {value : Number} (h : Writes text value) : Printed text := by
  intro c hc
  rcases h.numeral c hc with hdigit | hother
  · obtain ⟨hlow, hhigh⟩ : 48 ≤ c.toNat ∧ c.toNat ≤ 57 := Char.isDigit_iff_toNat.1 hdigit
    omega
  · simp only [List.mem_cons, List.not_mem_nil, or_false] at hother
    rcases hother with rfl | rfl | rfl | rfl <;> decide

theorem printed_dumps {value : Json} (h : value.Dumpable repr levels) : Printed (value.dumps repr) := by
  induction h with
  | null => exact printed_of_all rfl
  | bool b => cases b <;> exact printed_of_all rfl
  | int hshort => exact printed_writes (writes_ofInt hshort)
  | float hq => exact printed_writes hq
  | nan => exact printed_of_all rfl
  | infinity negative => cases negative <;> exact printed_of_all rfl
  | str s => exact printed_quote _
  | @arr _ items _ ih =>
      have hitems : ∀ items : List Json, (∀ item ∈ items, Printed (item.dumps repr)) →
          Printed (dumpsItems repr items) := by
        intro items h
        induction items with
        | nil => exact printed_of_all rfl
        | cons item items ih =>
            rw [dumpsItems]
            exact printed_cons (by decide) (printed_append (h item List.mem_cons_self)
              (ih fun item hmem => h item (List.mem_cons_of_mem _ hmem)))
      cases items with
      | nil => exact printed_of_all rfl
      | cons item items =>
          rw [Json.dumps]
          exact printed_cons (by decide) (printed_append (ih item List.mem_cons_self)
            (hitems items fun item hmem => ih item (List.mem_cons_of_mem _ hmem)))
  | @obj _ members _ _ ih =>
      have hmembers : ∀ members : List (String × Json),
          (∀ member ∈ members, Printed (member.2.dumps repr)) →
          Printed (dumpsMembers repr members) := by
        intro members h
        induction members with
        | nil => exact printed_of_all rfl
        | cons member members ih =>
            rw [dumpsMembers]
            exact printed_cons (by decide) (printed_append (printed_quote _)
              (printed_cons (by decide) (printed_append (h member List.mem_cons_self)
                (ih fun member hmem => h member (List.mem_cons_of_mem _ hmem)))))
      cases members with
      | nil => exact printed_of_all rfl
      | cons member members =>
          rw [Json.dumps]
          exact printed_cons (by decide) (printed_append (printed_quote _)
            (printed_cons (by decide) (printed_append (ih member List.mem_cons_self)
              (hmembers members fun member hmem => ih member (List.mem_cons_of_mem _ hmem)))))

end

end TurboMac.Linux
