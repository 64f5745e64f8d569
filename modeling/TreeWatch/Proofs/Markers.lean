/-
This file proves what decoding a stream owes to the place of its markers. What stands at the
starts decides what decoding comes to (`Decodes`). Octets before a point only add starts that
are older than all those behind it (`starts_append`). A start at which a snapshot stands
complete is an anchor: no octet before it can change what decoding yields
(`decodeLatest_append`), no octet appended later can take it away (`Anchored.append`), and
from then on the decoder never waits (`decodeLatest_ne_incomplete`).
-/

import TreeWatch.Snapshot.Stream
import TreeWatch.Proofs.Json.Objects

namespace TreeWatch

/-- A decoded snapshot whose offset is counted from further ahead. -/
def Decoded.moved (distance : Nat) (decoded : Decoded) : Decoded :=
  { decoded with offset := decoded.offset + distance }

namespace Stream

/-! ### The list of starts -/

/-- A start counted from further ahead. -/
def moved (distance : Nat) (start : Nat × Bytes) : Nat × Bytes := (start.1 + distance, start.2)

theorem starts_older (offset : Nat) (older : List (Nat × Bytes)) (text : Bytes) :
    starts offset older text = starts offset [] text ++ older := by
  induction text generalizing offset older with
  | nil => rfl
  | cons byte rest inductionHypothesis =>
    unfold starts
    by_cases here : startsHere (byte :: rest) = true
    · simp only [here, if_true]
      rw [inductionHypothesis (offset + 1) (_ :: older), inductionHypothesis (offset + 1) [_],
        List.append_assoc, List.singleton_append]
    · simp only [here]
      exact inductionHypothesis (offset + 1) older

theorem starts_moved (offset distance : Nat) (older : List (Nat × Bytes)) (text : Bytes) :
    starts (offset + distance) (older.map (moved distance)) text =
      (starts offset older text).map (moved distance) := by
  induction text generalizing offset older with
  | nil => rfl
  | cons byte rest inductionHypothesis =>
    unfold starts
    rw [show offset + distance + 1 = offset + 1 + distance by omega]
    by_cases here : startsHere (byte :: rest) = true
    · simp only [here, if_true]
      exact inductionHypothesis (offset + 1) ((offset, byte :: rest) :: older)
    · simp only [here]
      exact inductionHypothesis (offset + 1) older

/-- Every start is one of the older ones or stands in the text. -/
theorem mem_starts {offset : Nat} {older : List (Nat × Bytes)} {text : Bytes}
    {start : Nat × Bytes} (member : start ∈ starts offset older text) :
    start ∈ older ∨ ∃ skipped, start = (offset + skipped, text.drop skipped) ∧
      startsHere start.2 = true := by
  induction text generalizing offset older with
  | nil => exact Or.inl member
  | cons byte rest inductionHypothesis =>
    unfold starts at member
    rcases inductionHypothesis member with old | ⟨skipped, equal, stands⟩
    · by_cases here : startsHere (byte :: rest) = true
      · rw [if_pos here] at old
        rcases List.mem_cons.mp old with rfl | old
        · exact Or.inr ⟨0, rfl, here⟩
        · exact Or.inl old
      · rw [if_neg here] at old
        exact Or.inl old
    · refine Or.inr ⟨skipped + 1, ?_, stands⟩
      rw [equal, List.drop_succ_cons, Nat.add_right_comm, Nat.add_assoc]

theorem stands_of_mem_starts {stream : Bytes} (start : Nat × Bytes)
    (member : start ∈ starts 0 [] stream) :
    start.2 = stream.drop start.1 ∧ startsHere start.2 = true := by
  rcases mem_starts member with old | ⟨skipped, rfl, here⟩
  · cases old
  · exact ⟨by rw [Nat.zero_add], here⟩

/-- The octets before a point only add starts that are older than all at and after it. -/
theorem starts_append (offset : Nat) (older : List (Nat × Bytes)) (first second : Bytes) :
    ∃ held, starts offset older (first ++ second) =
      starts (offset + first.length) held second := by
  induction first generalizing offset older with
  | nil => exact ⟨older, rfl⟩
  | cons byte rest inductionHypothesis =>
    obtain ⟨held, equal⟩ := inductionHypothesis (offset + 1)
      (if startsHere (byte :: (rest ++ second)) then
        (offset, byte :: (rest ++ second)) :: older else older)
    refine ⟨held, ?_⟩
    rw [List.cons_append, starts, equal, List.length_cons]
    congr 1
    omega

/-! ### Complete values -/

theorem newestComplete_moved (distance : Nat) (candidates : List (Nat × Bytes)) :
    newestComplete (candidates.map (moved distance)) =
      (newestComplete candidates).map (Decoded.moved distance) := by
  induction candidates with
  | nil => rfl
  | cons head older inductionHypothesis =>
    obtain ⟨offset, text⟩ := head
    unfold newestComplete
    simp only [List.map_cons, moved]
    cases Json.readFirst text with
    | ok result =>
      obtain ⟨value, rest⟩ := result
      show (ofValue value).map _ = ((ofValue value).map _).map _
      cases ofValue value <;> rfl
    | error fault => exact inductionHypothesis

/-- The search for a complete value ends at the latest where one stands. -/
theorem newestComplete_append {offset : Nat} {text rest : Bytes} {value : Json}
    (complete : Json.readFirst text = .ok (value, rest)) (newer older : List (Nat × Bytes)) :
    newestComplete (newer ++ (offset, text) :: older) =
      newestComplete (newer ++ [(offset, text)]) := by
  induction newer with
  | nil => simp only [List.nil_append, newestComplete, complete]
  | cons head newer inductionHypothesis =>
    simp only [List.cons_append, newestComplete]
    rw [inductionHypothesis]

/-- No value stands complete at some starts. -/
def Lacking (candidates : List (Nat × Bytes)) : Prop :=
  ∀ start ∈ candidates, ∃ fault, Json.readFirst start.2 = .error fault

theorem Lacking.cons {candidates : List (Nat × Bytes)} (lacking : Lacking candidates)
    {offset : Nat} {text : Bytes} {fault : Json.Fault}
    (failed : Json.readFirst text = .error fault) : Lacking ((offset, text) :: candidates) :=
  List.forall_mem_cons.mpr ⟨⟨fault, failed⟩, lacking⟩

/-- The search for a complete value finds none, or the newest one. -/
theorem newestComplete_cases (candidates : List (Nat × Bytes)) :
    (Lacking candidates ∧ newestComplete candidates = .error .incomplete) ∨
      ∃ newer older offset text value rest, candidates = newer ++ (offset, text) :: older ∧
        Lacking newer ∧ Json.readFirst text = .ok (value, rest) ∧
        newestComplete candidates = (ofValue value).map (⟨·, offset⟩) := by
  induction candidates with
  | nil => exact Or.inl ⟨nofun, rfl⟩
  | cons head older inductionHypothesis =>
    obtain ⟨offset, text⟩ := head
    unfold newestComplete
    cases read : Json.readFirst text with
    | ok result => exact Or.inr ⟨[], older, offset, text, result.1, result.2, rfl, nofun, read, rfl⟩
    | error fault =>
      rcases inductionHypothesis with ⟨none, waits⟩ |
        ⟨newer, others, place, other, value, rest, rfl, none, complete, found⟩
      · exact Or.inl ⟨none.cons read, waits⟩
      · exact Or.inr ⟨(offset, text) :: newer, others, place, other, value, rest, rfl,
          none.cons read, complete, found⟩

/-! ### What decoding comes to -/

/-- Without a start nothing can be decoded. -/
theorem decodeLatest_none {buffer : Bytes} (found : starts 0 [] buffer = []) :
    decodeLatest buffer = .error (if mayStart buffer then .incomplete else .missingMarker) := by
  rw [decodeLatest, found]

section Newest

variable {buffer text : Bytes} {offset : Nat} {older : List (Nat × Bytes)}
  (found : starts 0 [] buffer = (offset, text) :: older)

include found

/-- A complete value at the newest start decides. -/
theorem decodeLatest_complete {value : Json} {rest : Bytes}
    (complete : Json.readFirst text = .ok (value, rest)) : decodeLatest buffer =
      if mayStart rest then (ofValue value).map (⟨·, offset⟩)
      else .error .trailingCharacters := by
  rw [decodeLatest, found]
  simp only [complete]

/-- A fault at the newest start decides, unless the value there is still arriving. -/
theorem decodeLatest_fault {fault : Json.Fault} (failed : Json.readFirst text = .error fault) :
    decodeLatest buffer = if fault.cause.category = .unfinished then newestComplete older
      else .error (.ofFault text fault) := by
  rw [decodeLatest, found]
  simp only [failed]

end Newest

/-- What decoding some octets can come to, by what stands at their starts. -/
inductive Decodes (buffer : Bytes) : Except DecodeError Decoded → Prop
  | unmarked (none : starts 0 [] buffer = []) : Decodes buffer (.error .missingMarker)
  | waiting (lacking : Lacking (starts 0 [] buffer)) : Decodes buffer (.error .incomplete)
  | broken {offset : Nat} {text : Bytes} {older : List (Nat × Bytes)} {fault : Json.Fault}
      (found : starts 0 [] buffer = (offset, text) :: older)
      (failed : Json.readFirst text = .error fault)
      (hopeless : fault.cause.category ≠ .unfinished) : Decodes buffer (.error (.ofFault text fault))
  | trailing {offset : Nat} {text rest : Bytes} {older : List (Nat × Bytes)} {value : Json}
      (found : starts 0 [] buffer = (offset, text) :: older)
      (complete : Json.readFirst text = .ok (value, rest)) (other : ¬mayStart rest) :
      Decodes buffer (.error .trailingCharacters)
  | refused {offset : Nat} {text rest : Bytes} {newer older : List (Nat × Bytes)} {value : Json}
      (found : starts 0 [] buffer = newer ++ (offset, text) :: older) (lacking : Lacking newer)
      (complete : Json.readFirst text = .ok (value, rest))
      (untimed : ofValue value = .error .invalidTimestamp) :
      Decodes buffer (.error .invalidTimestamp)
  | landed {offset : Nat} {text rest : Bytes} {newer older : List (Nat × Bytes)} {value : Json}
      {snapshot : Snapshot} (found : starts 0 [] buffer = newer ++ (offset, text) :: older)
      (lacking : Lacking newer) (complete : Json.readFirst text = .ok (value, rest))
      (taken : ofValue value = .ok snapshot) : Decodes buffer (.ok ⟨snapshot, offset⟩)

/-- The value at a start is an object, and all that can be wrong with it is its timestamp. -/
theorem ofValue_cases {text rest : Bytes} {value : Json} (here : startsHere text = true)
    (complete : Json.readFirst text = .ok (value, rest)) :
    ofValue value = .error .invalidTimestamp ∨ ∃ snapshot, ofValue value = .ok snapshot := by
  cases text with
  | nil => cases here
  | cons byte inner =>
    rw [startsHere, Bool.and_eq_true] at here
    obtain rfl : byte = 0x7b := eq_of_beq here.1
    obtain ⟨members, rfl⟩ := Json.object_of_readFirst complete
    rw [ofValue]
    cases Snapshot.ofMembers? members with
    | none => exact Or.inl rfl
    | some snapshot => exact Or.inr ⟨snapshot, rfl⟩

/-- The newest complete value settles the matter. -/
theorem decodes_settled {buffer text rest : Bytes} {offset : Nat} {newer older : List (Nat × Bytes)}
    {value : Json} (found : starts 0 [] buffer = newer ++ (offset, text) :: older)
    (lacking : Lacking newer) (complete : Json.readFirst text = .ok (value, rest)) :
    Decodes buffer ((ofValue value).map (⟨·, offset⟩)) := by
  have member : (offset, text) ∈ starts 0 [] buffer :=
    found ▸ List.mem_append_right newer List.mem_cons_self
  rcases ofValue_cases (stands_of_mem_starts _ member).2 complete with untimed | ⟨snapshot, taken⟩
  · rw [untimed]
    exact .refused found lacking complete untimed
  · rw [taken]
    exact .landed found lacking complete taken

theorem decodes (buffer : Bytes) : Decodes buffer (decodeLatest buffer) := by
  cases found : starts 0 [] buffer with
  | nil =>
    rw [decodeLatest_none found]
    split
    · exact .waiting (by rw [found]; exact List.forall_mem_nil _)
    · exact .unmarked found
  | cons newest older =>
    obtain ⟨offset, text⟩ := newest
    cases read : Json.readFirst text with
    | ok result =>
      obtain ⟨value, rest⟩ := result
      rw [decodeLatest_complete found read]
      split
      · have newest : starts 0 [] buffer = [] ++ (offset, text) :: older := found
        exact decodes_settled newest nofun read
      · next other => exact .trailing found read other
    | error fault =>
      rw [decodeLatest_fault found read]
      split
      · -- While the newest value is arriving the ones before it decide.
        rcases newestComplete_cases older with ⟨none, waits⟩ |
          ⟨newer, others, place, other, value, rest, rfl, none, complete, settles⟩
        · rw [waits]
          exact .waiting (found ▸ none.cons read)
        · rw [settles]
          exact decodes_settled found (none.cons read) complete
      · next hopeless => exact .broken found read hopeless

/-! ### Anchors -/

/-- At the front of these octets a snapshot stands complete. -/
def Anchored (text : Bytes) : Prop :=
  startsHere text = true ∧ ∃ value rest snapshot,
    Json.readFirst text = .ok (value, rest) ∧ ofValue value = .ok snapshot

/-- At the front of these octets this snapshot stands complete. -/
def Heads (snapshot : Snapshot) (text : Bytes) : Prop :=
  startsHere text = true ∧ ∃ value rest,
    Json.readFirst text = .ok (value, rest) ∧ ofValue value = .ok snapshot

theorem Heads.anchored {snapshot : Snapshot} {text : Bytes} (heads : Heads snapshot text) :
    Anchored text := by
  obtain ⟨here, value, rest, complete, taken⟩ := heads
  exact ⟨here, value, rest, snapshot, complete, taken⟩

/-- What decoding yields stands complete where it says. -/
theorem heads_of_decodeLatest {stream : Bytes} {decoded : Decoded}
    (read : decodeLatest stream = .ok decoded) :
    Heads decoded.snapshot (stream.drop decoded.offset) := by
  cases read ▸ decodes stream with
  | landed found lacking complete taken =>
    have standing := stands_of_mem_starts _ (found ▸ List.mem_append_right _ List.mem_cons_self)
    exact standing.1 ▸ ⟨standing.2, _, _, complete, taken⟩

theorem object_of_ofValue {value : Json} {snapshot : Snapshot}
    (taken : ofValue value = .ok snapshot) : ∃ members, value = .object members := by
  cases value with
  | object members => exact ⟨members, rfl⟩
  | _ => cases taken

theorem markerKey_ne_nil : markerKey ≠ [] := by decide

theorem skipBlanks_append {text : Bytes} (stands : Json.skipBlanks text ≠ []) (more : Bytes) :
    Json.skipBlanks (text ++ more) = Json.skipBlanks text ++ more := by
  unfold Json.skipBlanks at stands ⊢
  rw [List.dropWhile_append, if_neg (by simpa using stands)]

/-- What follows a complete marker does not matter. -/
theorem startsHere_append {text : Bytes} (here : startsHere text = true) (more : Bytes) :
    startsHere (text ++ more) = true := by
  cases text with
  | nil => cases here
  | cons byte rest =>
    simp only [startsHere, Bool.and_eq_true, List.isPrefixOf_iff_prefix] at here
    simp only [List.cons_append, startsHere, Bool.and_eq_true, List.isPrefixOf_iff_prefix]
    refine ⟨here.1, ?_⟩
    have stands : Json.skipBlanks rest ≠ [] := fun nothing =>
      markerKey_ne_nil (List.prefix_nil.mp (nothing ▸ here.2))
    rw [skipBlanks_append stands]
    exact here.2.trans (List.prefix_append _ _)

/-- A piece of a text that begins with a marker, if too short to show it, may become one. -/
theorem mayStart_piece {text piece : Bytes} (marked : startsHere text = true)
    (early : piece <+: text) (quiet : startsHere piece = false) : mayStart piece = true := by
  cases piece with
  | nil => rfl
  | cons byte part =>
    obtain ⟨more, rfl⟩ := early
    rw [List.cons_append, startsHere, Bool.and_eq_true, List.isPrefixOf_iff_prefix] at marked
    rw [startsHere, marked.1, Bool.true_and, Bool.eq_false_iff, ne_eq,
      List.isPrefixOf_iff_prefix] at quiet
    obtain rfl : byte = 0x7b := eq_of_beq marked.1
    have short : Json.skipBlanks part <+: markerKey := by
      by_cases blank : Json.skipBlanks part = []
      · rw [blank]
        exact List.nil_prefix
      · have key := skipBlanks_append blank more ▸ marked.2
        exact (List.prefix_or_prefix_of_prefix (List.prefix_append _ more) key).resolve_right quiet
    show (Json.skipBlanks part).isPrefixOf markerKey = true
    exact List.isPrefixOf_iff_prefix.mpr short

theorem Heads.append {snapshot : Snapshot} {text : Bytes} (heads : Heads snapshot text)
    (more : Bytes) : Heads snapshot (text ++ more) := by
  obtain ⟨here, value, rest, complete, taken⟩ := heads
  obtain ⟨members, rfl⟩ := object_of_ofValue taken
  exact ⟨startsHere_append here more, _, rest ++ more,
    Json.readFirst_append complete nofun more, taken⟩

theorem Anchored.append {text : Bytes} (anchored : Anchored text) (more : Bytes) :
    Anchored (text ++ more) := by
  obtain ⟨here, value, rest, snapshot, complete, taken⟩ := anchored
  have heads : Heads snapshot text := ⟨here, value, rest, complete, taken⟩
  exact (heads.append more).anchored

/-- Decoding yields a snapshot only where one stands complete. -/
theorem anchored_of_decodeLatest {stream : Bytes} {decoded : Decoded}
    (read : decodeLatest stream = .ok decoded) : Anchored (stream.drop decoded.offset) :=
  (heads_of_decodeLatest read).anchored

/-- The starts of a text that begins with one: the later ones, then this one, then those
found before. -/
theorem starts_of_startsHere {text : Bytes} (here : startsHere text = true) :
    ∃ newer : List (Nat × Bytes), starts 0 [] text = newer ++ [(0, text)] ∧
      ∀ offset older, starts offset older text =
        newer.map (moved offset) ++ (offset, text) :: older := by
  cases text with
  | nil => cases here
  | cons byte rest =>
    refine ⟨starts 1 [] rest, ?_, fun offset older => ?_⟩
    · rw [starts, if_pos here, starts_older]
    · rw [starts, if_pos here, starts_older, Nat.add_comm offset 1]
      exact congrArg (· ++ _) (starts_moved 1 offset [] rest)

/-- Octets before a start at which a value stands complete only move what is decoded. -/
theorem decodeLatest_append_complete (before : Bytes) {text rest : Bytes} {value : Json}
    (here : startsHere text = true) (complete : Json.readFirst text = .ok (value, rest)) :
    decodeLatest (before ++ text) = (decodeLatest text).map (.moved before.length) := by
  obtain ⟨newer, near, list⟩ := starts_of_startsHere here
  obtain ⟨held, passed⟩ := starts_append 0 [] before text
  have far : starts 0 [] (before ++ text) =
      newer.map (moved before.length) ++ (before.length, text) :: held := by
    rw [passed, list, Nat.zero_add]
  cases newer with
  | nil =>
    -- This start itself is the newest, and its value stands complete on both sides.
    rw [decodeLatest_complete far complete, decodeLatest_complete near complete]
    by_cases more : mayStart rest = true
    · rw [if_pos more, if_pos more]
      cases ofValue value with
      | ok snapshot => rw [Except.map, Except.map, Except.map, Decoded.moved, Nat.zero_add]
      | error error => rfl
    · rw [if_neg more, if_neg more]
      rfl
  | cons head newer =>
    -- A newer start decides. While it is arriving the search ends at this one, before it
    -- gets to the starts that only the whole stream has.
    obtain ⟨offset, other⟩ := head
    have farHead : starts 0 [] (before ++ text) = (offset + before.length, other) ::
        (newer.map (moved before.length) ++ (before.length, text) :: held) := far
    have nearHead : starts 0 [] text = (offset, other) :: (newer ++ [(0, text)]) := near
    cases read : Json.readFirst other with
    | ok result =>
      obtain ⟨found, after⟩ := result
      rw [decodeLatest_complete farHead read, decodeLatest_complete nearHead read]
      by_cases more : mayStart after = true
      · rw [if_pos more, if_pos more]
        cases ofValue found <;> rfl
      · rw [if_neg more, if_neg more]
        rfl
    | error fault =>
      rw [decodeLatest_fault farHead read, decodeLatest_fault nearHead read]
      by_cases unfinished : fault.cause.category = .unfinished
      · rw [if_pos unfinished, if_pos unfinished, newestComplete_append complete,
          ← newestComplete_moved, List.map_append, List.map_cons, List.map_nil, moved,
          Nat.zero_add]
      · rw [if_neg unfinished, if_neg unfinished]
        rfl

/-- Octets before an anchor only move what is decoded. -/
theorem decodeLatest_append (before : Bytes) {text : Bytes} (anchored : Anchored text) :
    decodeLatest (before ++ text) = (decodeLatest text).map (.moved before.length) := by
  obtain ⟨here, _, _, _, complete, _⟩ := anchored
  exact decodeLatest_append_complete before here complete

/-- A complete value settles the matter, one way or the other. -/
theorem ofValue_ne_incomplete (value : Json) (offset : Nat) :
    (ofValue value).map (Decoded.mk · offset) ≠ .error .incomplete := by
  unfold ofValue
  split
  · split <;> nofun
  · nofun

/-- Once a snapshot is complete, no octets that follow leave the decoder waiting. -/
theorem decodeLatest_ne_incomplete {text : Bytes} (anchored : Anchored text) :
    decodeLatest text ≠ .error .incomplete := by
  obtain ⟨here, value, rest, snapshot, complete, taken⟩ := anchored
  obtain ⟨newer, found, _⟩ := starts_of_startsHere here
  intro waits
  cases waits ▸ decodes text with
  | waiting lacking =>
    obtain ⟨fault, failed⟩ := lacking (0, text)
      (found ▸ List.mem_append_right newer (List.mem_singleton_self _))
    cases complete.symm.trans failed

end Stream

end TreeWatch
