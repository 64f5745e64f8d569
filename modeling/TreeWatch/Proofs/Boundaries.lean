/-
This file settles where a snapshot may be cut while it arrives. A text that is accepted as
one snapshot and holds one marker may be cut anywhere: the decoder waits for the rest, and
so the request goes on, except where the cut falls inside a number whose digits so far are
beyond every float. Such a number is refused although its exponent is still to come, and
the request breaks (`piece_waits_iff`). No cut inside a key, a text, a literal word or
between two of them does any harm.
-/

import Mathlib.Data.List.TakeWhile
import TreeWatch.Proofs.Json.Cutting
import TreeWatch.Proofs.Streaming

namespace TreeWatch

namespace Stream

open Json (StopsOutOfRange)

variable {text piece : Bytes}

/-! ### A text of one snapshot -/

/-- The text is accepted as one snapshot. It begins with a marker, ends with the closing
brace, and no other marker stands in it. -/
structure Sole (text : Bytes) : Prop where
  accepted : ∃ snapshot, Snapshot.parse text = .ok snapshot
  marked : startsHere text = true
  closed : text.getLast? = some 0x7d
  alone : ∀ skipped, 0 < skipped → startsHere (text.drop skipped) = false

theorem silent_of_drop (quiet : ∀ skipped, startsHere (text.drop skipped) = false) :
    Silent text [] := by
  induction text with
  | nil => trivial
  | cons byte text inductionHypothesis =>
    refine ⟨?_, inductionHypothesis fun skipped => quiet (skipped + 1)⟩
    rw [List.append_nil]
    exact quiet 0

theorem startsHere_drop_of_plain (plain : 0x7b ∉ text) (skipped : Nat) :
    startsHere (text.drop skipped) = false := by
  cases left : text.drop skipped with
  | nil => rfl
  | cons byte rest =>
    have member : byte ∈ text := List.drop_subset skipped text (left ▸ List.mem_cons_self)
    have other : (byte == 0x7b) = false := beq_false_of_ne fun equal => plain (equal ▸ member)
    rw [startsHere, other, Bool.false_and]

theorem parse_eq_ok_iff {snapshot : Snapshot} : Snapshot.parse text = .ok snapshot ↔
    ∃ value, Json.read text = .ok value ∧ ofValue value = .ok snapshot := by
  unfold Snapshot.parse
  cases Json.read text with
  | ok value => exact ⟨fun taken => ⟨value, rfl, taken⟩, fun ⟨_, same, taken⟩ =>
      Except.ok.inj same ▸ taken⟩
  | error fault => exact ⟨nofun, fun ⟨_, impossible, _⟩ => nomatch impossible⟩

namespace Sole

/-- The closing brace completes the value, so nothing is left behind it. -/
theorem advance_eq (sole : Sole text) :
    ∃ members, Json.advance (.value []) text = .complete (.object members) [] := by
  obtain ⟨snapshot, accepted⟩ := sole.accepted
  obtain ⟨value, read, taken⟩ := parse_eq_ok_iff.mp accepted
  obtain ⟨rest, first, blank⟩ := Json.read_eq_ok_iff.mp read
  obtain ⟨members, rfl⟩ := object_of_ofValue taken
  have complete := Json.advance_of_readFirst first nofun
  rcases List.eq_nil_or_concat rest with rfl | ⟨front, last, rfl⟩
  · exact ⟨members, complete⟩
  · -- The last octet would be blank and a brace at once.
    obtain ⟨before, rfl⟩ := Json.suffix_of_advance complete
    have brace := sole.closed
    rw [List.concat_eq_append, ← List.append_assoc, List.getLast?_concat] at brace
    obtain rfl := Option.some.inj brace
    have blanks := List.dropWhile_eq_nil_iff.mp blank 0x7d (by simp)
    cases blanks

theorem starts_piece (sole : Sole text) (early : piece <+: text) :
    starts 0 [] piece = if startsHere piece then [(0, piece)] else [] := by
  cases piece with
  | nil => rfl
  | cons byte part =>
    obtain ⟨more, rfl⟩ := early
    have silent : Silent (part ++ more) [] :=
      silent_of_drop fun skipped => sole.alone (skipped + 1) (Nat.succ_pos skipped)
    exact starts_of_silent (silent.cut (List.prefix_append part more)) 0 []

end Sole

/-! ### Pieces of it -/

/-- Octets that may become a marker leave the reader at the key of the time or before it. -/
theorem open_of_mayStart (may : mayStart text = true) :
    ∃ state, Json.advance (.value []) text = .partly state ∧ state.Open := by
  have blanks : Json.advance (.value []) text = Json.advance (.value []) (Json.skipBlanks text) :=
    Json.advance_skipBlanks (fun byte blank => by rw [Json.State.step, if_pos blank]) text
  rw [blanks]
  unfold mayStart at may
  cases solid : Json.skipBlanks text with
  | nil => exact ⟨_, rfl, _, rfl, rfl⟩
  | cons byte rest =>
    simp only [solid, Bool.and_eq_true, beq_iff_eq, List.isPrefixOf_iff_prefix] at may
    obtain ⟨rfl, early⟩ := may
    show ∃ state, Json.advance (.objectStart []) rest = .partly state ∧ state.Open
    rw [Json.advance_skipBlanks (fun byte blank => by rw [Json.State.step, if_pos blank]) rest]
    have key : Json.Leads (.objectStart []) (markerKey ++ [0x3a]) _ :=
      Json.leads_key ⟨_, rfl, rfl⟩ rfl Snapshot.timestampKey
    exact key.cut (early.trans (List.prefix_append markerKey [0x3a]))

section Piece

variable (sole : Sole text) (early : piece <+: text)

include sole early

/-- A piece that does not stop inside a number out of range leaves the decoder waiting. -/
theorem decodeLatest_piece (short : piece ≠ text) (inRange : ¬ StopsOutOfRange piece) :
    decodeLatest piece = .error .incomplete := by
  have starts := sole.starts_piece early
  cases here : startsHere piece with
  | false =>
    rw [here, if_neg Bool.false_ne_true] at starts
    rw [decodeLatest_none starts, if_pos (mayStart_piece sole.marked early here)]
  | true =>
    obtain ⟨more, rfl⟩ := early
    obtain ⟨members, whole⟩ := sole.advance_eq
    have cut : more ≠ [] := by
      rintro rfl
      exact short (List.append_nil piece).symm
    obtain ⟨fault, read, unfinished⟩ := Json.readFirst_piece whole nofun cut inRange
    rw [here, if_pos rfl] at starts
    rw [decodeLatest_fault starts read, if_pos unfinished]
    rfl

/-- One that does is refused, as if the number could not come into range any more. -/
theorem decodeLatest_stops (stops : StopsOutOfRange piece) :
    decodeLatest piece = .error (.ofFault piece ⟨.numberOutOfRange, 0⟩) := by
  have starts := sole.starts_piece early
  cases here : startsHere piece with
  | false =>
    obtain ⟨state, progress, waiting⟩ :=
      open_of_mayStart (mayStart_piece sole.marked early here)
    exact absurd stops (Json.not_stopsOutOfRange progress waiting)
  | true =>
    rw [here, if_pos rfl] at starts
    rw [decodeLatest_fault starts (Json.readFirst_stopsOutOfRange stops), if_neg (by decide)]

end Piece

end Stream

namespace Connection

open Json (StopsOutOfRange)

variable {text received : Bytes} {connection : Connection} {generation : Nat}

theorem feed_stale (stale : connection.isCurrent generation = false)
    (chunks : List (Bytes × Moment)) : connection.feed generation chunks = .ok connection := by
  induction chunks with
  | nil => rfl
  | cons head chunks inductionHypothesis =>
    rw [feed, progress_stale head.2 stale]
    exact inductionHypothesis

/-- A request on which a piece of a snapshot has arrived goes on as long as no further chunk
stops inside a number out of range. -/
theorem feed_piece (sole : Stream.Sole text) (current : connection.isCurrent generation = true)
    (kept : connection.buffer = received) (inRange : ¬ StopsOutOfRange received)
    (chunks : List (Bytes × Moment)) (early : received ++ chunks.flatMap Prod.fst <+: text)
    (short : received ++ chunks.flatMap Prod.fst ≠ text) :
    ∃ after, connection.feed generation chunks = .ok after ∧
      (after.isCurrent generation = true ↔
        ∀ first, first <+: chunks → ¬ StopsOutOfRange (received ++ first.flatMap Prod.fst)) := by
  induction chunks generalizing connection received with
  | nil =>
    refine ⟨connection, rfl, fun _ first nothing => ?_, fun _ => current⟩
    rw [List.prefix_nil.mp nothing, List.flatMap_nil, List.append_nil]
    exact inRange
  | cons head chunks inductionHypothesis =>
    obtain ⟨chunk, moment⟩ := head
    rw [List.flatMap_cons, ← List.append_assoc] at early short
    have near : received ++ chunk <+: text := (List.prefix_append _ _).trans early
    have part : received ++ chunk ≠ text := by
      rintro rfl
      exact short (early.eq_of_length_le (List.prefix_append _ _).length_le)
    subst kept
    by_cases stops : StopsOutOfRange (connection.buffer ++ chunk)
    · have failed := Stream.decodeLatest_stops sole near stops
      have given := (connection.receive chunk moment).isCurrent_fail moment
        (.decode (.ofFault (connection.buffer ++ chunk) ⟨.numberOutOfRange, 0⟩)) generation
      rw [feed, progress_failed moment current rfl failed]
      refine ⟨_, feed_stale given chunks, fun wanted => ?_, fun sound => ?_⟩
      · rw [given] at wanted
        cases wanted
      · refine absurd ?_ (sound [(chunk, moment)] ⟨chunks, rfl⟩)
        simpa using stops
    · have waits := Stream.decodeLatest_piece sole near part stops
      have still : (connection.receive chunk moment).isCurrent generation = true := current
      obtain ⟨after, done, goes⟩ := inductionHypothesis still rfl stops early short
      rw [feed, progress_incomplete moment current waits]
      refine ⟨after, done, goes.trans ⟨fun sound first begins => ?_, fun sound first begins => ?_⟩⟩
      · rcases List.prefix_cons_iff.mp begins with rfl | ⟨later, rfl, rest⟩
        · simpa using inRange
        · simpa [receive] using sound later rest
      · simpa [receive] using sound ((chunk, moment) :: first)
          (List.cons_prefix_cons.mpr ⟨rfl, begins⟩)

/-- A text of one snapshot may be cut anywhere but inside a number that is out of range so
far. The decoder waits for the rest exactly if the piece does not end there, and the request
goes on exactly as long as no chunk does. -/
theorem piece_waits_iff (text : Bytes) (sole : Stream.Sole text) :
    (∀ piece, piece <+: text → piece ≠ text →
      (Stream.decodeLatest piece = .error .incomplete ↔ ¬ StopsOutOfRange piece)) ∧
    ∀ (connection : Connection) (generation : Nat) (chunks : List (Bytes × Moment)),
      connection.isCurrent generation = true → connection.buffer = [] →
      chunks.flatMap Prod.fst <+: text → chunks.flatMap Prod.fst ≠ text →
      ∃ after, connection.feed generation chunks = .ok after ∧
        (after.isCurrent generation = true ↔
          ∀ first, first <+: chunks → ¬ StopsOutOfRange (first.flatMap Prod.fst)) := by
  refine ⟨fun piece early short => ⟨fun waits stops => ?_, ?_⟩, ?_⟩
  · rw [Stream.decodeLatest_stops sole early stops] at waits
    cases waits
  · exact Stream.decodeLatest_piece sole early short
  · intro connection generation chunks current fresh early short
    have start : ¬ StopsOutOfRange [] := Json.not_stopsOutOfRange rfl ⟨_, rfl, rfl⟩
    exact feed_piece sole current fresh start chunks early short

/-! ### A number that comes into range with its exponent -/

/-- A snapshot up to the last of 331 digits, which are out of range without an exponent. -/
def longPiece : Bytes :=
  Utf8.encode "\x7b\"timestamp\":1,\"pump\":1" ++ List.replicate 330 0x30

/-- The snapshot in full. The exponent makes the number a small one. -/
def longText : Bytes := longPiece ++ Utf8.encode "e-400\x7d"

set_option maxRecDepth 4000 in
theorem sole_longText : Stream.Sole longText where
  accepted := ⟨_, rfl⟩
  marked := rfl
  closed := rfl
  alone := by
    intro skipped positive
    obtain ⟨skipped, rfl⟩ := Nat.exists_eq_add_one.mpr positive
    have plain : 0x7b ∉ longText.tail := by decide
    exact Stream.startsHere_drop_of_plain plain skipped

set_option maxRecDepth 4000 in
theorem longPiece_stops : StopsOutOfRange longPiece := ⟨_, _, rfl, rfl⟩

theorem longPiece_ne_longText : longPiece ≠ longText := by
  intro equal
  have nothing := List.append_cancel_left ((List.append_nil longPiece).trans equal)
  cases nothing

/-- The decoder does not wait for the exponent of such a number. -/
theorem piece_waits_iff_long_number :
    Stream.Sole longText ∧ longPiece <+: longText ∧ longPiece ≠ longText ∧
      Stream.decodeLatest longPiece ≠ .error .incomplete := by
  have early : longPiece <+: longText := List.prefix_append _ _
  refine ⟨sole_longText, early, longPiece_ne_longText, fun waits => ?_⟩
  exact ((piece_waits_iff longText sole_longText).1 longPiece early longPiece_ne_longText).mp waits
    longPiece_stops

end Connection

end TreeWatch
