/-
This file proves that a stream can be picked up anywhere. Whatever stands before the text
of a snapshot, and wherever the text of the next one is cut, decoding yields that snapshot
from where it starts (`decodeLatest_resumes`). A piece of a text by itself leaves
the decoder waiting, never at fault (`decodeLatest_cut`). Blanks before the piece make no
difference to either (`decodeLatest_gap`, `decodeLatest_wire_gap`).
-/

import TreeWatch.Proofs.Silence

namespace TreeWatch.Stream

variable {snapshot next : Snapshot} {cut : Bytes}

theorem anchored_wire (unnamed : Snapshot.timestampKey ∉ snapshot.statuses.keys) (rest : Bytes) :
    Anchored (Utf8.encode snapshot.wire ++ rest) :=
  ⟨startsHere_wire snapshot rest, .object snapshot.members, rest, snapshot,
    snapshot.readFirst_wire rest, Snapshot.ofValue_members unnamed⟩

/-! ### Blanks between snapshots -/

section Blanks

variable {gap : Bytes} (blank : ∀ byte ∈ gap, Json.isBlank byte = true)

include blank

theorem starts_gap (text : Bytes) (offset : Nat) (older : List (Nat × Bytes)) :
    starts offset older (gap ++ text) = starts (offset + gap.length) older text := by
  have plain : 0x7b ∉ gap := fun brace => absurd (blank 0x7b brace) (by decide)
  exact (silent_of_plain plain text).starts_append offset older

theorem mayStart_gap (text : Bytes) : mayStart (gap ++ text) = mayStart text := by
  have same : Json.skipBlanks (gap ++ text) = Json.skipBlanks text :=
    List.dropWhile_append_of_pos blank
  rw [mayStart, same, mayStart]

variable (early : cut <+: Utf8.encode next.wire) (short : cut ≠ Utf8.encode next.wire)

include early short

/-- Blanks and a piece of a snapshot leave the decoder waiting. The piece is either no start
yet, and may become one, or a start at which no value stands complete. -/
theorem decodeLatest_gap : decodeLatest (gap ++ cut) = .error .incomplete := by
  have inside := next.prefix_of_cut early short
  have starts := starts_gap blank cut 0 []
  rw [starts_cut inside] at starts
  cases here : startsHere cut with
  | false =>
    rw [here, if_neg Bool.false_ne_true] at starts
    rw [decodeLatest_none starts, mayStart_gap blank, if_pos (mayStart_cut inside here)]
  | true =>
    obtain ⟨fault, read, unfinished⟩ := next.readFirst_wire_cut early short
    rw [here, if_pos rfl] at starts
    rw [decodeLatest_fault starts read, if_pos unfinished]
    rfl

/-- The members of a snapshot count until the one behind it is complete, whatever blanks stand
between the two. -/
theorem decodeLatest_wire_gap (snapshot : Snapshot) :
    decodeLatest (Utf8.encode snapshot.wire ++ (gap ++ cut)) =
      (ofValue (.object snapshot.members)).map (⟨·, 0⟩) := by
  have inside := next.prefix_of_cut early short
  have starts := starts_wire snapshot (gap ++ cut) 0 []
  rw [starts_gap blank, starts_cut inside] at starts
  cases here : startsHere cut with
  | false =>
    rw [here, if_neg Bool.false_ne_true] at starts
    rw [decodeLatest_complete starts (snapshot.readFirst_wire (gap ++ cut)),
      mayStart_gap blank, if_pos (mayStart_cut inside here)]
  | true =>
    obtain ⟨fault, read, unfinished⟩ := next.readFirst_wire_cut early short
    rw [here, if_pos rfl] at starts
    rw [decodeLatest_fault starts read, if_pos unfinished]
    simp only [newestComplete, snapshot.readFirst_wire]

end Blanks

/-! ### Snapshots one right behind the other -/

theorem decodeLatest_cut (early : cut <+: Utf8.encode next.wire)
    (short : cut ≠ Utf8.encode next.wire) : decodeLatest cut = .error .incomplete :=
  decodeLatest_gap (List.forall_mem_nil _) early short

/-- A snapshot counts until the one behind it is complete. -/
theorem decodeLatest_wire (unnamed : Snapshot.timestampKey ∉ snapshot.statuses.keys)
    (early : cut <+: Utf8.encode next.wire) (short : cut ≠ Utf8.encode next.wire) :
    decodeLatest (Utf8.encode snapshot.wire ++ cut) = .ok ⟨snapshot, 0⟩ := by
  have whole := decodeLatest_wire_gap (List.forall_mem_nil _) early short snapshot
  rw [Snapshot.ofValue_members unnamed] at whole
  exact whole

/-- The text of a snapshot is decoded to it unless an entity is named like the time. -/
theorem decodeLatest_wire_eq (snapshot : Snapshot) :
    decodeLatest (Utf8.encode snapshot.wire) =
      if Snapshot.timestampKey ∈ snapshot.statuses.keys then .error .invalidTimestamp
      else .ok ⟨snapshot, 0⟩ := by
  have alone := decodeLatest_wire_gap (List.forall_mem_nil _) List.nil_prefix
    (wire_ne_nil snapshot).symm snapshot
  rw [List.append_nil, List.append_nil] at alone
  rw [alone]
  split
  · next named =>
    rw [Snapshot.ofValue_members_named named]
    rfl
  · next unnamed =>
    rw [Snapshot.ofValue_members unnamed]
    rfl

theorem decodeLatest_wire_eq_ok_iff : decodeLatest (Utf8.encode snapshot.wire) =
    .ok ⟨snapshot, 0⟩ ↔ Snapshot.timestampKey ∉ snapshot.statuses.keys := by
  rw [decodeLatest_wire_eq]
  split
  · next named => exact ⟨nofun, fun unnamed => absurd named unnamed⟩
  · next unnamed => exact ⟨fun _ => unnamed, fun _ => rfl⟩

/-- Decoding finds a snapshot behind any octets whatever and before any piece of another
one, in full and where it starts. -/
theorem decodeLatest_resumes (garbage : Bytes) (snapshot : Snapshot)
    (unnamed : Snapshot.timestampKey ∉ snapshot.statuses.keys) (next : Snapshot) (cut : Bytes)
    (early : cut <+: Utf8.encode next.wire) (short : cut ≠ Utf8.encode next.wire) :
    decodeLatest (garbage ++ Utf8.encode snapshot.wire ++ cut) =
      .ok ⟨snapshot, garbage.length⟩ := by
  rw [List.append_assoc, decodeLatest_append garbage (anchored_wire unnamed cut),
    decodeLatest_wire unnamed early short, Except.map, Decoded.moved, Nat.zero_add]

/-- An unclosed string and an octet that is no text stand before a snapshot whose entity
looks like a marker, and the next snapshot stops inside its key. -/
theorem decodeLatest_resumes_lookalike :
    let snapshot : Snapshot :=
      { timestamp := -5, statuses := .ofList [("\x7b\"timestamp\":1\x7d", .value "\n\x7b\\")] }
    decodeLatest (([0x7b, 0x22, 0xff] : Bytes) ++ Utf8.encode snapshot.wire ++
      Utf8.encode "\x7b\"timest") = .ok ⟨snapshot, 3⟩ := by
  refine decodeLatest_resumes [0x7b, 0x22, 0xff] _ ?_ { timestamp := 7 }
    (Utf8.encode "\x7b\"timest") ⟨Utf8.encode "amp\":7\x7d", rfl⟩ ?_
  · decide
  · decide

end TreeWatch.Stream
