/-
This file says what may stand behind the newest snapshot. A tail is explained if some octets
continue it to a further marker, blanks before it aside. As long as no marker is complete this
is exactly what the decoder asks for (`mayStart_iff_explained`), so it neither waits for a
snapshot that cannot come nor gives up one that can. What is not explained stays so whatever
follows, hence a tail is rejected from its first octet on that no snapshot explains
(`rejected_from_first_unexplained`).
-/

import Mathlib.Data.List.DropRight
import TreeWatch.Proofs.Parsing

namespace TreeWatch

namespace Stream

open Json (skipBlanks)

variable {text tail piece : Bytes}

/-! ### Continuations -/

/-- Behind blanks the text begins with a marker. -/
def Begins (text : Bytes) : Prop :=
  ∃ blanks rest, (∀ byte ∈ blanks, Json.isBlank byte = true) ∧ text = blanks ++ rest ∧ Marked rest

/-- Some octets continue the tail to a further marker. -/
def Explained (tail : Bytes) : Prop := ∃ more, Begins (tail ++ more)

/-- Blanks in front are passed over whether or not more octets follow. -/
theorem skipBlanks_continued (text more : Bytes) :
    skipBlanks (text ++ more) = skipBlanks (skipBlanks text ++ more) := by
  rw [skipBlanks, skipBlanks, skipBlanks, List.dropWhile_append, List.dropWhile_append,
    List.dropWhile_idempotent]

theorem begins_iff : Begins text ↔ startsHere (skipBlanks text) = true := by
  constructor
  · rintro ⟨blanks, rest, blank, rfl, marked⟩
    obtain ⟨gap, more, _, brace⟩ := id marked
    have solid : skipBlanks rest = rest := brace ▸ rfl
    have passed : skipBlanks (blanks ++ rest) = skipBlanks rest :=
      List.dropWhile_append_of_pos blank
    rw [passed, solid]
    exact startsHere_iff.mpr marked
  · intro here
    exact ⟨text.takeWhile Json.isBlank, skipBlanks text,
      fun _ member => List.mem_takeWhile_imp member, List.takeWhile_append_dropWhile.symm,
      startsHere_iff.mp here⟩

theorem Begins.append (begins : Begins text) (more : Bytes) : Begins (text ++ more) := by
  obtain ⟨blanks, rest, blank, rfl, marked⟩ := begins
  have here := startsHere_append (startsHere_iff.mpr marked) more
  exact ⟨blanks, rest ++ more, blank, List.append_assoc .., startsHere_iff.mp here⟩

theorem explained_nil : Explained [] :=
  ⟨0x7b :: markerKey, begins_iff.mpr rfl⟩

/-- What stands before an explained octet is explained. -/
theorem Explained.cut (explained : Explained tail) (early : piece <+: tail) : Explained piece := by
  obtain ⟨rest, rfl⟩ := early
  obtain ⟨more, begins⟩ := explained
  exact ⟨rest ++ more, List.append_assoc piece rest more ▸ begins⟩

/-! ### The decoder's test -/

theorem mayStart_skipBlanks (tail : Bytes) : mayStart (skipBlanks tail) = mayStart tail := by
  rw [mayStart, mayStart, skipBlanks, skipBlanks, List.dropWhile_idempotent]

/-- What may start can be continued: by the octets that the key still lacks. -/
theorem explained_of_mayStart (may : mayStart tail = true) : Explained tail := by
  unfold mayStart at may
  cases solid : skipBlanks tail with
  | nil =>
    refine ⟨0x7b :: markerKey, begins_iff.mpr ?_⟩
    rw [skipBlanks_continued, solid]
    rfl
  | cons byte rest =>
    simp only [solid, Bool.and_eq_true, beq_iff_eq, List.isPrefixOf_iff_prefix] at may
    obtain ⟨rfl, lacking, whole⟩ := may
    refine ⟨lacking, begins_iff.mpr ?_⟩
    have brace : skipBlanks (0x7b :: (rest ++ lacking)) = 0x7b :: (rest ++ lacking) := rfl
    have key : skipBlanks (rest ++ lacking) = markerKey := by
      rw [skipBlanks_continued, whole]
      rfl
    rw [skipBlanks_continued, solid, List.cons_append, brace, startsHere, key, Bool.and_eq_true,
      List.isPrefixOf_iff_prefix]
    exact ⟨rfl, List.prefix_rfl⟩

/-- What can be continued to a marker and is none yet may start one. -/
theorem mayStart_of_explained (unmarked : ¬ Begins tail) (explained : Explained tail) :
    mayStart tail = true := by
  obtain ⟨more, begins⟩ := explained
  rw [← mayStart_skipBlanks]
  by_cases nothing : skipBlanks tail = []
  · rw [nothing]
    rfl
  · have marked := skipBlanks_append nothing more ▸ begins_iff.mp begins
    have quiet := Bool.eq_false_iff.mpr fun here => unmarked (begins_iff.mpr here)
    exact mayStart_piece marked (List.prefix_append _ more) quiet

theorem mayStart_iff_explained (unmarked : ¬ Begins tail) :
    mayStart tail = true ↔ Explained tail :=
  ⟨explained_of_mayStart, mayStart_of_explained unmarked⟩

/-! ### The first octet that nothing explains -/

theorem exists_first_unexplained (unexplained : ¬ Explained tail) :
    ∃ shown byte rest, tail = shown ++ byte :: rest ∧ Explained shown ∧
      ¬ Explained (shown ++ [byte]) := by
  induction tail using List.reverseRecOn with
  | nil => exact absurd explained_nil unexplained
  | append_singleton tail last inductionHypothesis =>
    by_cases before : Explained tail
    · exact ⟨tail, last, [], rfl, before, unexplained⟩
    · obtain ⟨shown, byte, rest, rfl, explained, stops⟩ := inductionHypothesis before
      exact ⟨shown, byte, rest ++ [last], List.append_assoc shown (byte :: rest) [last],
        explained, stops⟩

/-- Of a tail exactly the pieces before that octet are explained. -/
theorem explained_cut_iff {shown rest : Bytes} {byte : UInt8} (explained : Explained shown)
    (stops : ¬ Explained (shown ++ [byte])) (early : piece <+: shown ++ byte :: rest) :
    Explained piece ↔ piece <+: shown := by
  refine ⟨fun fine => ?_, fun before => explained.cut before⟩
  have next : shown ++ [byte] <+: shown ++ byte :: rest :=
    (List.prefix_append_right_inj shown).mpr (List.cons_prefix_cons.mpr ⟨rfl, List.nil_prefix⟩)
  rcases List.prefix_or_prefix_of_prefix early next with within | beyond
  · exact (List.prefix_concat_iff.mp within).resolve_left fun all => stops (all ▸ fine)
  · exact absurd (fine.cut beyond) stops

/-! ### Behind the newest snapshot -/

/-- The text is one complete value that begins with a marker, and behind that one no marker
begins in the text and its tail. -/
structure NewestBefore (text tail : Bytes) : Prop where
  marked : Marked text
  complete : ∃ value, Json.readFirst text = .ok (value, [])
  last : ∀ skipped, 0 < skipped → ¬ Marked ((text ++ tail).drop skipped)

namespace NewestBefore

theorem cut (newest : NewestBefore text tail) (early : piece <+: tail) :
    NewestBefore text piece where
  marked := newest.marked
  complete := newest.complete
  last skipped behind marked := by
    obtain ⟨rest, rfl⟩ := early
    refine newest.last skipped behind (startsHere_iff.mp ?_)
    have inside : skipped ≤ (text ++ piece).length := by
      by_contra beyond
      rw [List.drop_of_length_le (Nat.le_of_not_le beyond)] at marked
      cases startsHere_iff.mpr marked
    rw [← List.append_assoc, List.drop_append_of_le_length inside]
    exact startsHere_append (startsHere_iff.mpr marked) rest

theorem not_begins (newest : NewestBefore text tail) : ¬ Begins tail := by
  rintro ⟨blanks, rest, _, rfl, marked⟩
  obtain ⟨_, _, _, brace⟩ := newest.marked
  refine newest.last (text.length + blanks.length) ?_ ?_
  · rw [brace, List.length_cons]
    omega
  · rw [← List.append_assoc, ← List.length_append, List.drop_left]
    exact marked

/-- Behind the newest snapshot the tail alone decides whether it is rejected. -/
theorem rejected_iff (newest : NewestBefore text tail) (before : Bytes) :
    decodeLatest (before ++ text ++ tail) = .error .trailingCharacters ↔ ¬ Explained tail := by
  have here := startsHere_iff.mpr newest.marked
  obtain ⟨value, complete⟩ := newest.complete
  obtain ⟨gap, more, _, brace⟩ := newest.marked
  obtain ⟨members, rfl⟩ := Json.object_of_readFirst (brace ▸ complete)
  have silent : Silent (gap ++ (Utf8.encode "\"timestamp\"" ++ more) ++ tail) [] := by
    refine silent_of_drop fun skipped => ?_
    by_contra starts
    rw [Bool.not_eq_false, startsHere_iff] at starts
    exact newest.last (skipped + 1) (Nat.succ_pos skipped) (brace ▸ starts)
  have first := startsHere_append here tail
  obtain ⟨older, passed⟩ := starts_append 0 [] before (text ++ tail)
  have found : starts 0 [] (before ++ text ++ tail) =
      (0 + before.length, text ++ tail) :: older := by
    rw [List.append_assoc, passed]
    rw [brace, List.cons_append] at first ⊢
    rw [starts_of_silent silent, if_pos first]
  rw [decodeLatest_complete found (Json.readFirst_append complete nofun tail),
    ← mayStart_iff_explained newest.not_begins]
  split
  · next may =>
    refine ⟨fun rejected => ?_, fun other => absurd may other⟩
    rcases ofValue_cases here complete with untimed | ⟨snapshot, taken⟩
    · rw [untimed] at rejected
      cases rejected
    · rw [taken] at rejected
      cases rejected
  · next other => exact ⟨fun _ => other, fun _ => rfl⟩

end NewestBefore

/-- Octets that do not begin with a complete marker, blanks aside, may start one exactly if some
octets continue them to one. Behind the newest snapshot a tail is rejected, however much of it
has arrived, exactly if nothing explains it, and this from one certain octet on: the first
that no continuation explains. -/
theorem rejected_from_first_unexplained :
    (∀ tail, ¬ Begins tail → (mayStart tail = true ↔ Explained tail)) ∧
    ∀ before text tail, NewestBefore text tail →
      (∀ cut, cut <+: tail →
        (decodeLatest (before ++ text ++ cut) = .error .trailingCharacters ↔ ¬ Explained cut)) ∧
      (¬ Explained tail → ∃ shown byte rest, tail = shown ++ byte :: rest ∧
        ∀ cut, cut <+: tail → (Explained cut ↔ cut <+: shown)) := by
  refine ⟨fun tail unmarked => mayStart_iff_explained unmarked, fun before text tail newest =>
    ⟨fun cut early => (newest.cut early).rejected_iff before, fun unexplained => ?_⟩⟩
  obtain ⟨shown, byte, rest, rfl, explained, stops⟩ := exists_first_unexplained unexplained
  exact ⟨shown, byte, rest, rfl, fun cut early => explained_cut_iff explained stops early⟩

/-- A snapshot. -/
def shortText : Bytes := Utf8.encode "\x7b\"timestamp\":1\x7d"

/-- What begins like another one, but has another key. -/
def otherKey : Bytes := Utf8.encode " \x7b\"times\":"

theorem newestBefore_otherKey : NewestBefore shortText otherKey where
  marked := startsHere_iff.mp rfl
  complete := ⟨_, rfl⟩
  last skipped behind marked := by
    have quiet : ∀ skipped < 25, 0 < skipped →
        startsHere ((shortText ++ otherKey).drop skipped) = false := by decide
    by_cases inside : skipped < 25
    · cases (quiet skipped inside behind).symm.trans (startsHere_iff.mpr marked)
    · rw [List.drop_of_length_le (Nat.not_lt.mp inside)] at marked
      cases startsHere_iff.mpr marked

/-- Up to the closing quote of the other key a snapshot can follow, from then on none can. -/
theorem rejected_from_first_unexplained_other_key :
    ¬ Begins otherKey ∧ NewestBefore shortText otherKey ∧ ¬ Explained otherKey ∧
      decodeLatest ([0x5b] ++ shortText ++ otherKey) = .error .trailingCharacters ∧
      ∃ shown byte rest, otherKey = shown ++ byte :: rest ∧
        ∀ cut, cut <+: otherKey → (Explained cut ↔ cut <+: shown) := by
  have unmarked : ¬ Begins otherKey := fun begins => by cases begins_iff.mp begins
  have unexplained : ¬ Explained otherKey := fun explained => by
    cases (rejected_from_first_unexplained.1 otherKey unmarked).mpr explained
  obtain ⟨rejected, first⟩ :=
    rejected_from_first_unexplained.2 [0x5b] shortText otherKey newestBefore_otherKey
  exact ⟨unmarked, newestBefore_otherKey, unexplained,
    (rejected otherKey List.prefix_rfl).mpr unexplained, first unexplained⟩

end Stream

end TreeWatch
