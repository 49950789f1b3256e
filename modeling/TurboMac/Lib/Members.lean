import Mathlib.Data.List.Basic
import Mathlib.Data.List.TakeWhile
import Mathlib.Tactic.Common

/-! # The first occurrence of a key

A reader that knows no grammar searches a text for a quoted key. In a text of members,
each with a quoted key, it finds the first member of that key, if no value has a quote
of its own or is the key itself.
-/

namespace Members

variable {α : Type*} [DecidableEq α]

/-- What follows the first occurrence of a token. -/
def after (token : List α) : List α → Option (List α)
  | [] => if token = [] then some [] else none
  | c :: text =>
    if token <+: c :: text then some ((c :: text).drop token.length) else after token text

section

variable {token xs text : List α} {c q : α}

theorem after_append (token text : List α) : after token (token ++ text) = some text := by
  cases happend : token ++ text with
  | nil =>
      obtain ⟨rfl, rfl⟩ := List.append_eq_nil_iff.mp happend
      exact if_pos rfl
  | cons c rest =>
      have hprefix : token <+: c :: rest := happend ▸ List.prefix_append token text
      rw [after, if_pos hprefix, ← happend, List.drop_left]

theorem after_cons_skip (h : ¬token <+: c :: text) :
    after token (c :: text) = after token text := by
  rw [after, if_neg h]

/-- Nothing starts where the first element of the token is not. -/
theorem after_append_of_notMem (h : q ∉ xs) :
    after (q :: token) (xs ++ text) = after (q :: token) text := by
  induction xs with
  | nil => rfl
  | cons x xs ih =>
      rw [List.mem_cons, not_or] at h
      have hnot : ¬q :: token <+: x :: (xs ++ text) := by
        rw [List.cons_prefix_cons]
        exact fun hprefix => h.1 hprefix.1
      rw [List.cons_append, after_cons_skip hnot]
      exact ih h.2

end

/-! ## Members -/

def quoted (text : List Char) : List Char := '"' :: (text ++ ['"'])

/-- The value of a member: one string, or a text without a quote. -/
inductive Value where
  | string (text : List Char)
  | bare (text : List Char)

namespace Value

def text : Value → List Char
  | string text => quoted text
  | bare text => text

/-- The quotes are those of a string. -/
def Clean : Value → Prop
  | string text => '"' ∉ text
  | bare text => '"' ∉ text

end Value

def member (m : String × Value) : List Char := quoted m.1.toList ++ ':' :: m.2.text

/-- Members, each with a comma behind it. -/
def render (members : List (String × Value)) : List Char := members.flatMap fun m => member m ++ [',']

/-- No character of a key is one that the text of members has between two keys. -/
def Word (key : List Char) : Prop := '"' ∉ key ∧ ':' ∉ key ∧ ',' ∉ key

instance (key : List Char) : Decidable (Word key) := inferInstanceAs (Decidable (_ ∧ _))

/-- The values have no quotes of their own, and none of them is the key as a string. -/
structure Searchable (key : String) (members : List (String × Value)) : Prop where
  keys : ∀ m ∈ members, '"' ∉ m.1.toList
  clean : ∀ m ∈ members, m.2.Clean
  strings : ∀ m ∈ members, m.2.text ≠ quoted key.toList

section

variable {key s rest : List Char} {c : Char}

/-- A quoted key starts at a quote only where the text up to the next quote is the key. -/
theorem eq_of_prefix_quoted (hkey : '"' ∉ key) (hs : '"' ∉ s) (h : quoted key <+: quoted s ++ rest) :
    key = s := by
  obtain ⟨tail, htail⟩ := h
  simp only [quoted, List.cons_append, List.append_assoc, List.cons.injEq, true_and] at htail
  have hspan : ∀ {xs : List Char} (ys : List Char), '"' ∉ xs →
      (xs ++ '"' :: ys).takeWhile (· ≠ '"') = xs := by
    intro xs ys hxs
    rw [List.takeWhile_append_of_pos]
    · simp
    · intro c hc
      have hne : c ≠ '"' := by
        rintro rfl
        exact hxs hc
      simpa using hne
  have heq := congrArg (List.takeWhile (· ≠ '"')) htail
  rwa [List.nil_append, List.nil_append, hspan _ hkey, hspan _ hs] at heq

/-- At a closing quote no quoted word starts. -/
theorem not_prefix_quoted (hkey : c ∉ key) (hc : c ≠ '"') : ¬quoted key <+: '"' :: c :: rest := by
  rintro ⟨tail, htail⟩
  cases key with
  | nil =>
      simp only [quoted, List.cons_append, List.nil_append, List.cons.injEq, true_and] at htail
      exact hc htail.1.symm
  | cons k key =>
      simp only [quoted, List.cons_append, List.cons.injEq, true_and] at htail
      rw [← htail.1] at hkey
      exact hkey List.mem_cons_self

/-- A quoted text that is not the key, and a character behind it, are skipped. -/
theorem after_quoted (hkey : '"' ∉ key) (hs : '"' ∉ s) (hne : s ≠ key) (hc : c ∉ key) (hquote : c ≠ '"') :
    after (quoted key) (quoted s ++ c :: rest) = after (quoted key) (c :: rest) := by
  have hopen : ¬quoted key <+: '"' :: (s ++ '"' :: c :: rest) := by
    intro hprefix
    apply hne
    symm
    have hprefix' : quoted key <+: quoted s ++ c :: rest := by simpa [quoted] using hprefix
    exact eq_of_prefix_quoted hkey hs hprefix'
  have htext : quoted s ++ c :: rest = '"' :: (s ++ '"' :: c :: rest) := by simp [quoted]
  rw [htext, after_cons_skip hopen]
  unfold quoted
  rw [after_append_of_notMem hs]
  exact after_cons_skip (not_prefix_quoted hc hquote)

/-- A member of another key is skipped. -/
theorem after_member (hkey : Word key) {name : List Char} {v : Value} (hname : '"' ∉ name)
    (hne : name ≠ key) (hclean : v.Clean) (hstring : v.text ≠ quoted key) :
    after (quoted key) (quoted name ++ ':' :: (v.text ++ ',' :: rest)) = after (quoted key) rest := by
  obtain ⟨hquote, hcolon, hcomma⟩ := hkey
  have hskip : ∀ {xs : List Char} (ys : List Char), '"' ∉ xs →
      after (quoted key) (xs ++ ys) = after (quoted key) ys := by
    intro xs ys hxs
    exact after_append_of_notMem hxs
  rw [after_quoted hquote hname hne hcolon (by decide)]
  cases v with
  | bare text =>
      have hnot : '"' ∉ ':' :: (text ++ [',']) := by
        have hclean' : '"' ∉ text := hclean
        simp [hclean']
      have htext : ':' :: ((Value.bare text).text ++ ',' :: rest) = ':' :: (text ++ [',']) ++ rest := by
        simp [Value.text]
      rw [htext]
      exact hskip rest hnot
  | string text =>
      have hne' : text ≠ key := by
        rintro rfl
        exact hstring rfl
      have hcolon' : ':' :: ((Value.string text).text ++ ',' :: rest) =
          [':'] ++ (quoted text ++ ',' :: rest) := rfl
      have hcomma' : ',' :: rest = [','] ++ rest := rfl
      rw [hcolon', hskip _ (by decide), after_quoted hquote hclean hne' hcomma (by decide), hcomma',
        hskip _ (by decide)]

end

/-- **The search finds the first member of the key**: its value is what follows the colon. -/
theorem after_render {key : String} (hkey : Word key.toList) {members : List (String × Value)} {v : Value}
    (h : Searchable key members) (hlookup : members.lookup key = some v) (tail : List Char) :
    ∃ rest, after (quoted key.toList) (render members ++ tail) = some (':' :: (v.text ++ ',' :: rest)) := by
  induction members with
  | nil => cases hlookup
  | cons m members ih =>
      have htext : render (m :: members) ++ tail =
          quoted m.1.toList ++ ':' :: (m.2.text ++ ',' :: (render members ++ tail)) := by
        simp [render, member]
      rw [htext]
      rw [List.lookup_cons] at hlookup
      by_cases heq : key = m.1
      · rw [heq, beq_self_eq_true] at hlookup
        cases hlookup
        rw [heq]
        exact ⟨_, after_append _ _⟩
      · have hbeq : (key == m.1) = false := beq_eq_false_iff_ne.mpr heq
        rw [hbeq] at hlookup
        have hne : m.1.toList ≠ key.toList := by
          intro htoList
          exact heq (String.toList_inj.mp htoList).symm
        have hrest : Searchable key members :=
          ⟨fun m' hm' => h.keys m' (List.mem_cons_of_mem _ hm'),
            fun m' hm' => h.clean m' (List.mem_cons_of_mem _ hm'),
            fun m' hm' => h.strings m' (List.mem_cons_of_mem _ hm')⟩
        obtain ⟨rest, hafter⟩ := ih hrest hlookup
        refine ⟨rest, ?_⟩
        rw [after_member hkey (h.keys m List.mem_cons_self) hne (h.clean m List.mem_cons_self)
          (h.strings m List.mem_cons_self)]
        exact hafter

end Members
