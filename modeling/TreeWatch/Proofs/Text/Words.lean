/-
This file says which words a text has. The scan goes from left to right and remembers the part
it is in; looked at from outside, a word is among the words of a text exactly if it stands there
between blanks or the ends of the text (`mem_words_iff`).
-/

import TreeWatch.Text.Word

namespace TreeWatch.Text

/-- A word stands in a text: before it and after it the text ends or has a blank. -/
def Stands (word text : List Char) : Prop :=
  ∃ before after, text = before ++ word ++ after ∧
    (∀ char ∈ before.getLast?, isBlank char = true) ∧
    ∀ char ∈ after.head?, isBlank char = true

/-- A text begins with a word, or the rest of one. -/
def Leads (word text : List Char) : Prop :=
  ∃ after, text = word ++ after ∧ ∀ char ∈ after.head?, isBlank char = true

/-- A word stands in a text behind a blank. -/
def Follows (word text : List Char) : Prop :=
  ∃ before blank rest, text = before ++ blank :: rest ∧ isBlank blank = true ∧ Leads word rest

variable {word text current : List Char} {char : Char}

theorem leads_cons {first : Char} :
    Leads (first :: word) (char :: text) ↔ first = char ∧ Leads word text := by
  constructor
  · rintro ⟨after, split, ends⟩
    obtain ⟨rfl, rfl⟩ := List.cons.inj split
    exact ⟨rfl, after, rfl, ends⟩
  · rintro ⟨rfl, after, rfl, ends⟩
    exact ⟨after, rfl, ends⟩

theorem leads_nil : Leads [] text ↔ ∀ char ∈ text.head?, isBlank char = true := by
  constructor
  · rintro ⟨after, rfl, ends⟩
    exact ends
  · exact fun ends => ⟨text, rfl, ends⟩

theorem follows_cons :
    Follows word (char :: text) ↔ (isBlank char = true ∧ Leads word text) ∨ Follows word text := by
  constructor
  · rintro ⟨before, blank, rest, split, solid, leads⟩
    cases before with
    | nil =>
      obtain ⟨rfl, rfl⟩ := List.cons.inj split
      exact .inl ⟨solid, leads⟩
    | cons first before =>
      obtain ⟨-, rfl⟩ := List.cons.inj split
      exact .inr ⟨before, blank, rest, rfl, solid, leads⟩
  · rintro (⟨blank, leads⟩ | ⟨before, blank, rest, rfl, solid, leads⟩)
    · exact ⟨[], char, text, rfl, blank, leads⟩
    · exact ⟨char :: before, blank, rest, rfl, solid, leads⟩

theorem stands_iff : Stands word text ↔ Leads word text ∨ Follows word text := by
  constructor
  · rintro ⟨before, after, rfl, begins, ends⟩
    rcases List.eq_nil_or_concat before with rfl | ⟨front, blank, rfl⟩
    · exact .inl ⟨after, rfl, ends⟩
    · refine .inr ⟨front, blank, word ++ after, by simp, begins blank (by simp), after, rfl, ends⟩
  · rintro (⟨after, rfl, ends⟩ | ⟨before, blank, rest, rfl, solid, after, rfl, ends⟩)
    · exact ⟨[], after, rfl, nofun, ends⟩
    · exact ⟨before ++ [blank], after, by simp, by simp [solid], ends⟩

/-- A word that has begun goes on in a text. -/
def Completes (word current text : List Char) : Prop :=
  ∃ rest, word = current.reverse ++ rest ∧ Leads rest text

theorem completes_nil : Completes word [] text ↔ Leads word text := by
  constructor
  · rintro ⟨rest, rfl, leads⟩
    exact leads
  · exact fun leads => ⟨word, rfl, leads⟩

theorem completes_end : Completes word current [] ↔ word = current.reverse := by
  constructor
  · rintro ⟨rest, rfl, after, split, -⟩
    obtain ⟨rfl, -⟩ := List.append_eq_nil_iff.mp split.symm
    exact List.append_nil _
  · rintro rfl
    exact ⟨[], (List.append_nil _).symm, leads_nil.mpr nofun⟩

/-- A word without blanks is over at a blank. -/
theorem completes_blank (solid : ∀ char ∈ word, isBlank char = false)
    (blank : isBlank char = true) :
    Completes word current (char :: text) ↔ word = current.reverse := by
  constructor
  · rintro ⟨rest, rfl, leads⟩
    cases rest with
    | nil => exact List.append_nil _
    | cons first rest =>
      obtain ⟨rfl, -⟩ := leads_cons.mp leads
      rw [solid first (List.mem_append_right _ List.mem_cons_self)] at blank
      cases blank
  · rintro rfl
    exact ⟨[], (List.append_nil _).symm, leads_nil.mpr (by simpa using blank)⟩

theorem completes_solid (solid : isBlank char = false) :
    Completes word current (char :: text) ↔ Completes word (char :: current) text := by
  constructor
  · rintro ⟨rest, rfl, leads⟩
    cases rest with
    | nil =>
      rw [leads_nil.mp leads char rfl] at solid
      cases solid
    | cons first rest =>
      obtain ⟨rfl, onward⟩ := leads_cons.mp leads
      exact ⟨rest, by simp, onward⟩
  · rintro ⟨rest, rfl, leads⟩
    exact ⟨char :: rest, by simp, leads_cons.mpr ⟨rfl, leads⟩⟩

/-- The scan finds a word that completes the part it is in, or that stands further on. -/
theorem mem_wordsFrom_iff (nonempty : word ≠ []) (solid : ∀ char ∈ word, isBlank char = false) :
    word ∈ wordsFrom current text ↔ Completes word current text ∨ Follows word text := by
  induction text generalizing current with
  | nil =>
    have nowhere : ¬ Follows word [] := by
      rintro ⟨before, blank, rest, split, -⟩
      simp at split
    rw [completes_end, or_iff_left nowhere, wordsFrom]
    cases current with
    | nil => simp [nonempty]
    | cons => simp
  | cons char text inductionHypothesis =>
    rw [follows_cons]
    cases blank : isBlank char with
    | true =>
      have found : word ∈ wordsFrom current (char :: text) ↔
          word = current.reverse ∨ word ∈ wordsFrom [] text := by
        rw [wordsFrom, if_pos blank]
        cases current with
        | nil => simp [nonempty]
        | cons => simp
      rw [found, inductionHypothesis, completes_nil, completes_blank solid blank]
      simp
    | false =>
      rw [wordsFrom, if_neg (by simp [blank]), inductionHypothesis, completes_solid blank]
      simp

/-- The words of a text are the words that stand there. -/
theorem mem_words_iff (nonempty : word ≠ []) (solid : ∀ char ∈ word, isBlank char = false) :
    word ∈ words text ↔ Stands word text := by
  rw [words, mem_wordsFrom_iff nonempty solid, completes_nil, stands_iff]

/-! ### Characters of words -/

/-- Letters and digits of ASCII are part of words. -/
theorem isWord_of_isAlphanum {char : Char} (plain : char.isAlphanum = true) :
    isWord char = true := by
  have table : ∀ code < 128, (65 ≤ code ∧ code ≤ 90) ∨ (97 ≤ code ∧ code ≤ 122) ∨
      (48 ≤ code ∧ code ≤ 57) → inRuns wordBoundaries code = true := by decide
  have code : (65 ≤ char.toNat ∧ char.toNat ≤ 90) ∨ (97 ≤ char.toNat ∧ char.toNat ≤ 122) ∨
      (48 ≤ char.toNat ∧ char.toNat ≤ 57) := by
    delta Char.isAlphanum Char.isAlpha Char.isUpper Char.isLower Char.isDigit at plain
    simpa [UInt32.le_iff_toNat_le, or_assoc] using plain
  exact table char.toNat (by omega) code

end TreeWatch.Text
