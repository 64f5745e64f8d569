/-
This file compares the decoder of a stream, which tries the markers from the newest one down
and stops reading where a value ends, with the parser of a single snapshot. What the decoder
yields stands behind a marker and is what the parser makes of the octets from there to the
closing brace; behind no later marker a value is complete. Without a marker nothing is decoded,
and it is only then that a marker is missing (`decodeLatest_sound`).
-/

import TreeWatch.Proofs.Boundaries

namespace TreeWatch

namespace Stream

variable {text stream buffer : Bytes}

/-! ### Markers -/

/-- The text begins with a brace and, blanks aside, the key of the timestamp. -/
def Marked (text : Bytes) : Prop :=
  ∃ gap rest, (∀ byte ∈ gap, Json.isBlank byte = true) ∧
    text = 0x7b :: (gap ++ (Utf8.encode "\"timestamp\"" ++ rest))

theorem startsHere_iff : startsHere text = true ↔ Marked text := by
  constructor
  · intro here
    cases text with
    | nil => cases here
    | cons byte inner =>
      rw [startsHere, Bool.and_eq_true, List.isPrefixOf_iff_prefix] at here
      obtain ⟨brace, rest, key⟩ := here
      have blank : ∀ byte ∈ inner.takeWhile Json.isBlank, Json.isBlank byte = true :=
        fun _ member => List.mem_takeWhile_imp member
      refine ⟨inner.takeWhile Json.isBlank, rest, blank, ?_⟩
      rw [eq_of_beq brace]
      exact congrArg _ ((congrArg _ key).trans List.takeWhile_append_dropWhile).symm
  · rintro ⟨gap, rest, blank, rfl⟩
    rw [startsHere, Bool.and_eq_true, List.isPrefixOf_iff_prefix, Json.skipBlanks,
      List.dropWhile_append_of_pos blank]
    exact ⟨rfl, rest, rfl⟩

/-- Every marker of a text is one of its starts. -/
theorem mem_starts_of_startsHere {offset skipped : Nat} {older : List (Nat × Bytes)}
    (here : startsHere (stream.drop skipped) = true) :
    (offset + skipped, stream.drop skipped) ∈ starts offset older stream := by
  induction stream generalizing offset skipped older with
  | nil =>
    rw [List.drop_nil] at here
    cases here
  | cons byte rest inductionHypothesis =>
    cases skipped with
    | zero =>
      have first : startsHere (byte :: rest) = true := here
      rw [starts, if_pos first, starts_older]
      exact List.mem_append_right _ List.mem_cons_self
    | succ skipped =>
      rw [starts, show offset + (skipped + 1) = offset + 1 + skipped by omega]
      exact inductionHypothesis here

/-- The starts are listed from the back of the text to its front. -/
theorem starts_decreasing (offset : Nat) (stream : Bytes) :
    (starts offset [] stream).Pairwise fun newer older => older.1 < newer.1 := by
  induction stream generalizing offset with
  | nil => exact List.Pairwise.nil
  | cons byte rest inductionHypothesis =>
    rw [starts]
    split
    · rw [starts_older]
      refine List.pairwise_append.mpr
        ⟨inductionHypothesis (offset + 1), List.pairwise_singleton _ _, ?_⟩
      intro start member first only
      obtain rfl := List.mem_singleton.mp only
      rcases mem_starts member with nothing | ⟨skipped, rfl, _⟩
      · cases nothing
      · show offset < offset + 1 + skipped
        omega
    · exact inductionHypothesis (offset + 1)

/-- A marker behind one of the starts is among the newer ones. -/
theorem mem_newer {offset later : Nat} {newer older : List (Nat × Bytes)}
    (found : starts 0 [] buffer = newer ++ (offset, text) :: older) (behind : offset < later)
    (here : startsHere (buffer.drop later) = true) : (later, buffer.drop later) ∈ newer := by
  have listed : (0 + later, buffer.drop later) ∈ starts 0 [] buffer := mem_starts_of_startsHere here
  have order := starts_decreasing 0 buffer
  rw [Nat.zero_add, found] at listed
  rw [found] at order
  have split := List.pairwise_cons.mp (List.pairwise_append.mp order).2.1
  rcases List.mem_append.mp listed with new | rest
  · exact new
  · rcases List.mem_cons.mp rest with same | old
    · obtain ⟨rfl, _⟩ := Prod.mk.inj same
      exact absurd behind (Nat.lt_irrefl _)
    · exact absurd behind (Nat.lt_asymm (split.1 _ old))

/-! ### What stands at a marker -/

/-- The value at a marker ends inside of the buffer, and its octets alone read as that value. -/
theorem exists_read_extract {offset : Nat} {rest : Bytes} {value : Json}
    (here : startsHere (buffer.drop offset) = true)
    (complete : Json.readFirst (buffer.drop offset) = .ok (value, rest)) :
    ∃ stop ≤ buffer.length, Json.read (buffer.extract offset stop) = .ok value := by
  obtain ⟨gap, more, _, begins⟩ := startsHere_iff.mp here
  rw [begins] at complete
  obtain ⟨piece, split, alone⟩ := Json.read_of_readFirst complete
  rw [split, ← List.cons_append] at begins
  have long := congrArg List.length begins
  rw [List.length_drop, List.length_append, List.length_cons] at long
  refine ⟨offset + (piece.length + 1), by omega, ?_⟩
  rw [List.extract_eq_take_drop, Nat.add_sub_cancel_left, begins, List.cons_append,
    List.take_succ_cons, List.take_left]
  exact alone

/-- The decoder finds a value of which all octets have arrived. -/
theorem readFirst_of_extract {later stop : Nat} {value : Json}
    (here : startsHere (buffer.drop later) = true)
    (holds : Json.read (buffer.extract later stop) = .ok value) :
    ∃ rest, Json.readFirst (buffer.drop later) = .ok (value, rest) := by
  obtain ⟨gap, more, _, begins⟩ := startsHere_iff.mp here
  rw [List.extract_eq_take_drop, begins] at holds
  cases size : stop - later with
  | zero =>
    rw [size] at holds
    cases holds
  | succ length =>
    rw [size, List.take_succ_cons] at holds
    rw [begins]
    exact Json.readFirst_of_read (List.cons_prefix_cons.mpr ⟨rfl, List.take_prefix _ _⟩) holds

/-- What decoding yields is what parsing the octets from one marker on yields, no value is
complete at a later marker, what is found at a marker is always an object, and a marker is
missing only where there is none. -/
theorem decodeLatest_sound (buffer : Bytes) :
    (∀ decoded, decodeLatest buffer = .ok decoded →
      Marked (buffer.drop decoded.offset) ∧
      (∃ stop ≤ buffer.length,
        Snapshot.parse (buffer.extract decoded.offset stop) = .ok decoded.snapshot) ∧
      ∀ later, decoded.offset < later → Marked (buffer.drop later) →
        ∀ stop value, Json.read (buffer.extract later stop) ≠ .ok value) ∧
    decodeLatest buffer ≠ .error .notAnObject ∧
    (decodeLatest buffer = .error .missingMarker → ∀ offset, ¬ Marked (buffer.drop offset)) := by
  refine ⟨fun decoded read => ?_, fun failed => ?_, fun failed offset marked => ?_⟩
  · cases read ▸ decodes buffer with
    | @landed offset text rest newer older value snapshot found lacking complete taken =>
      have standing := stands_of_mem_starts (offset, text)
        (found ▸ List.mem_append_right newer List.mem_cons_self)
      obtain ⟨rfl, here⟩ : text = buffer.drop offset ∧ startsHere text = true := standing
      obtain ⟨stop, inside, alone⟩ := exists_read_extract here complete
      have parsed := parse_eq_ok_iff.mpr ⟨value, alone, taken⟩
      refine ⟨startsHere_iff.mp here, ⟨stop, inside, parsed⟩,
        fun later behind marked stop other holds => ?_⟩
      -- On its way down the list the decoder has passed this marker, so it read no value there.
      have next := startsHere_iff.mpr marked
      obtain ⟨fault, failed⟩ := lacking _ (mem_newer found behind next)
      obtain ⟨rest, arrived⟩ := readFirst_of_extract next holds
      cases arrived.symm.trans failed
  · cases failed ▸ decodes buffer
  · have here := startsHere_iff.mpr marked
    cases failed ▸ decodes buffer with
    | unmarked none =>
      have listed : (0 + offset, buffer.drop offset) ∈ starts 0 [] buffer :=
        mem_starts_of_startsHere here
      rw [none] at listed
      cases listed

/-- A snapshot between octets that are none, and the beginning of another one. -/
def secondCut : Bytes := Utf8.encode "[\x7b\"timestamp\":1\x7dx\x7b\"timestamp\":2"

/-- While the second snapshot is arriving the first one is decoded, and where nothing can begin
there is no marker. -/
theorem decodeLatest_sound_second_cut :
    (decodeLatest secondCut = .ok ⟨{ timestamp := 1 }, 1⟩ ∧
      (∃ stop ≤ secondCut.length,
        Snapshot.parse (secondCut.extract 1 stop) = .ok { timestamp := 1 }) ∧
      Marked (secondCut.drop 17) ∧
      ∀ stop value, Json.read (secondCut.extract 17 stop) ≠ .ok value) ∧
    decodeLatest [0x5b] = .error .missingMarker ∧ ∀ offset, ¬ Marked ([0x5b].drop offset) := by
  have first : decodeLatest secondCut = .ok ⟨{ timestamp := 1 }, 1⟩ := rfl
  have second : Marked (secondCut.drop 17) := startsHere_iff.mp rfl
  have none : decodeLatest [0x5b] = .error .missingMarker := rfl
  obtain ⟨_, parsed, later⟩ := (decodeLatest_sound secondCut).1 _ first
  exact ⟨⟨first, parsed, second, later 17 (by decide) second⟩, none,
    (decodeLatest_sound [0x5b]).2.2 none⟩

end Stream

end TreeWatch
