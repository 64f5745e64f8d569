/-
This file proves that no marker stands inside the text of a snapshot, whatever its
entities and statuses are called. A marker needs a brace with the quoted key of the time
behind it. The only braces between the two of a snapshot stand inside quoted texts, where
the next quote closes the text and is followed by a colon, a comma or a brace
(`not_marker_quotedBody`). Hence the starts found in a snapshot followed by anything are
the snapshot itself and those found behind it (`starts_wire`).
-/

import TreeWatch.Proofs.Markers
import TreeWatch.Proofs.Wire

namespace TreeWatch

namespace Stream

open Json (quotedBody skipBlanks)

/-! ### Silent texts -/

/-- No snapshot starts inside a text that is followed by the rest. -/
def Silent : Bytes → Bytes → Prop
  | [], _ => True
  | byte :: text, rest => startsHere (byte :: text ++ rest) = false ∧ Silent text rest

variable {first second text part rest : Bytes}

theorem Silent.append (head : Silent first (second ++ rest)) (tail : Silent second rest) :
    Silent (first ++ second) rest := by
  induction first with
  | nil => exact tail
  | cons byte first inductionHypothesis =>
    refine ⟨?_, inductionHypothesis head.2⟩
    have here := head.1
    rw [← List.append_assoc] at here
    exact here

theorem silent_of_plain (plain : 0x7b ∉ text) (rest : Bytes) : Silent text rest := by
  induction text with
  | nil => exact trivial
  | cons byte text inductionHypothesis =>
    rw [List.mem_cons, not_or] at plain
    have other : (byte == 0x7b) = false := beq_false_of_ne (Ne.symm plain.1)
    refine ⟨?_, inductionHypothesis plain.2⟩
    rw [List.cons_append, startsHere, other, Bool.false_and]

/-- A piece cut off a silent text is silent by itself. -/
theorem Silent.cut (silent : Silent text rest) (early : part <+: text) : Silent part [] := by
  induction text generalizing part with
  | nil =>
    rw [List.prefix_nil.mp early]
    trivial
  | cons byte text inductionHypothesis =>
    cases part with
    | nil => trivial
    | cons head part =>
      obtain ⟨rfl, ⟨lost, rfl⟩⟩ := List.cons_prefix_cons.mp early
      refine ⟨?_, inductionHypothesis silent.2 (List.prefix_append _ _)⟩
      by_contra here
      rw [List.append_nil, Bool.not_eq_false] at here
      have later := startsHere_append here (lost ++ rest)
      rw [List.cons_append, ← List.append_assoc, ← List.cons_append, silent.1] at later
      cases later

/-- A silent text only moves the starts behind it. -/
theorem Silent.starts_append (silent : Silent text rest) (offset : Nat)
    (older : List (Nat × Bytes)) :
    starts offset older (text ++ rest) = starts (offset + text.length) older rest := by
  induction text generalizing offset with
  | nil => rfl
  | cons byte text inductionHypothesis =>
    have here : startsHere (byte :: (text ++ rest)) = false := silent.1
    rw [List.cons_append, starts, here, if_neg Bool.false_ne_true,
      inductionHypothesis silent.2, List.length_cons, Nat.add_assoc, Nat.add_comm 1]

/-- In a text that is silent behind its first octet only the whole text can be a start. -/
theorem starts_of_silent {byte : UInt8} (silent : Silent text []) (offset : Nat)
    (older : List (Nat × Bytes)) : starts offset older (byte :: text) =
      if startsHere (byte :: text) then (offset, byte :: text) :: older else older := by
  have passed := silent.starts_append (offset + 1)
  simp only [List.append_nil] at passed
  rw [starts, passed]
  rfl

/-! ### Quoted texts -/

theorem skipBlanks_blank {byte : UInt8} (blank : Json.isBlank byte = true) (text : Bytes) :
    skipBlanks (byte :: text) = skipBlanks text :=
  List.dropWhile_cons_of_pos blank

theorem skipBlanks_solid {byte : UInt8} (solid : Json.isBlank byte = false) (text : Bytes) :
    skipBlanks (byte :: text) = byte :: text :=
  List.dropWhile_cons_of_neg (by simp [solid])

/-- The key of the time is not read at an octet that is neither blank nor a quote. -/
theorem not_marker_cons {byte : UInt8} (solid : Json.isBlank byte = false) (other : byte ≠ 0x22)
    (text : Bytes) : ¬ markerKey <+: skipBlanks (byte :: text) := by
  intro marker
  rw [skipBlanks_solid solid] at marker
  exact other (List.cons_prefix_cons.mp (show 0x22 :: _ <+: byte :: text from marker)).1.symm

/-- Apart from the space, no character written as itself begins with a blank or a quote. -/
theorem solid_of_mem_encodeChar {char : Char} (notQuote : char ≠ '"') (notSpace : char ≠ ' ')
    (visible : ¬ char.toNat < 0x20) {byte : UInt8} (member : byte ∈ String.utf8EncodeChar char) :
    Json.isBlank byte = false ∧ byte ≠ 0x22 := by
  have code (small : byte.toNat < 0x80) : char.toNat = byte.toNat :=
    Utf8.toNat_eq_of_mem_encodeChar member small
  refine ⟨?_, ?_⟩
  · by_contra blank
    rw [Bool.not_eq_false, Json.isBlank] at blank
    simp only [Bool.or_eq_true, beq_iff_eq] at blank
    rcases blank with ((rfl | rfl) | rfl) | rfl
    · exact notSpace (Char.toNat_inj.mp (code (by decide)))
    all_goals
      rw [code (by decide)] at visible
      revert visible
      decide
  · rintro rfl
    exact notQuote (Char.toNat_inj.mp (code (by decide)))

/-- What is left of a quoted text never reads as the key of the time: the closing quote
is followed by an octet that does not begin that name. -/
theorem not_marker_quotedBody (chars : List Char) {next : UInt8} (other : next ≠ 0x74)
    (rest : Bytes) : ¬ markerKey <+: skipBlanks (quotedBody chars ++ 0x22 :: next :: rest) := by
  induction chars with
  | nil =>
    intro marker
    have key : 0x22 :: 0x74 :: _ <+: 0x22 :: next :: rest := marker
    exact other (List.cons_prefix_cons.mp (List.cons_prefix_cons.mp key).2).1.symm
  | cons char chars inductionHypothesis =>
    rw [Json.quotedBody_cons, List.append_assoc]
    have escaped := Json.escaped_escape char
    generalize (Json.escape char).flatMap String.utf8EncodeChar = bytes at escaped ⊢
    cases escaped with
    | letter => exact not_marker_cons rfl (by decide) _
    | code => exact not_marker_cons rfl (by decide) _
    | plain notQuote _ visible =>
      by_cases space : char = ' '
      · have blank : String.utf8EncodeChar ' ' = [0x20] := by decide
        rw [space, blank, List.singleton_append, skipBlanks_blank rfl]
        exact inductionHypothesis
      · obtain ⟨byte, more, octets⟩ := List.exists_cons_of_ne_nil (Utf8.encodeChar_ne_nil char)
        have member : byte ∈ String.utf8EncodeChar char := octets ▸ List.mem_cons_self
        obtain ⟨solid, other⟩ := solid_of_mem_encodeChar notQuote space visible member
        rw [octets]
        exact not_marker_cons solid other _

theorem brace_notMem_hexDigits : ∀ code < 0x20,
    0x7b ∉ (Json.hexDigits code).flatMap String.utf8EncodeChar := by
  decide

/-- Only a brace is written with a brace. -/
theorem brace_notMem_escaped {char : Char} (other : char ≠ '\x7b') {bytes : Bytes}
    (escaped : Json.Escaped char bytes) : 0x7b ∉ bytes := by
  cases escaped with
  | letter letter meant known =>
    have different : 0x7b ≠ letter := by
      rintro rfl
      cases known
    simpa using different
  | code control =>
    rw [List.mem_append, not_or]
    exact ⟨by decide, brace_notMem_hexDigits char.toNat control⟩
  | plain =>
    intro member
    exact other (Char.toNat_inj.mp (Utf8.toNat_eq_of_mem_encodeChar member (by decide)))

theorem silent_quotedBody (chars : List Char) {next : UInt8} (other : next ≠ 0x74)
    (rest : Bytes) : Silent (quotedBody chars) (0x22 :: next :: rest) := by
  induction chars with
  | nil => trivial
  | cons char chars inductionHypothesis =>
    rw [Json.quotedBody_cons]
    refine Silent.append ?_ inductionHypothesis
    by_cases brace : char = '\x7b'
    · have octet : (Json.escape '\x7b').flatMap String.utf8EncodeChar = [0x7b] := by decide
      have far := not_marker_quotedBody chars other rest
      rw [brace, octet]
      refine ⟨?_, trivial⟩
      rw [List.singleton_append, startsHere, Bool.and_eq_false_iff]
      rw [← List.isPrefixOf_iff_prefix, Bool.not_eq_true] at far
      exact Or.inr far
    · exact silent_of_plain (brace_notMem_escaped brace (Json.escaped_escape char)) _

/-- A quoted text is silent unless the octet behind it begins the name of the time. -/
theorem silent_quote (text : String) {next : UInt8} (other : next ≠ 0x74) (rest : Bytes) :
    Silent (Utf8.encode (Json.quote text)) (next :: rest) := by
  rw [Json.encode_quote]
  exact ⟨rfl, (silent_quotedBody text.toList other rest).append
    (silent_of_plain (by decide) (next :: rest))⟩

/-! ### The text of a snapshot -/

open Snapshot (entityBytes)

theorem brace_notMem_repr (number : Nat) : 0x7b ∉ Utf8.encode number.repr := by
  intro brace
  rw [Utf8.encode_eq_flatMap] at brace
  obtain ⟨char, member, octet⟩ := List.mem_flatMap.mp brace
  obtain rfl : char = '\x7b' :=
    Char.toNat_inj.mp (Utf8.toNat_eq_of_mem_encodeChar octet (by decide))
  exact absurd (Json.isDigit_of_mem_repr member) (by decide)

theorem brace_notMem_int (value : Int) : 0x7b ∉ Utf8.encode (toString value) := by
  rw [Int.toString_eq_repr, Int.repr_eq_if]
  split
  · exact brace_notMem_repr _
  · rw [Utf8.encode_append, List.mem_append, not_or]
    exact ⟨by decide, brace_notMem_repr _⟩

theorem silent_status (status : Status) {next : UInt8} (other : next ≠ 0x74) (rest : Bytes) :
    Silent (Utf8.encode status.wire) (next :: rest) := by
  cases status with
  | unknown => exact silent_of_plain (by decide) _
  | value text => exact silent_quote text other rest

theorem silent_entity (entity : EntityId × Status) {next : UInt8} (other : next ≠ 0x74)
    (rest : Bytes) : Silent (entityBytes entity) (next :: rest) :=
  ⟨rfl, (silent_quote entity.1 (by decide) _).append ⟨rfl, silent_status entity.2 other rest⟩⟩

/-- Behind an entity stands a comma or the closing brace. -/
theorem silent_entities (entities : Entries Status) (rest : Bytes) :
    Silent (entities.flatMap entityBytes) (0x7d :: rest) := by
  induction entities with
  | nil => trivial
  | cons entity entities inductionHypothesis =>
    rw [List.flatMap_cons]
    refine Silent.append ?_ inductionHypothesis
    cases entities with
    | nil => exact silent_entity entity (by decide) rest
    | cons following entities => exact silent_entity entity (show 0x2c ≠ 0x74 by decide) _

theorem silent_inside (snapshot : Snapshot) (rest : Bytes) :
    Silent snapshot.inside (0x7d :: rest) :=
  (silent_quote Snapshot.timestampKey (by decide) _).append ⟨rfl,
    (silent_of_plain (brace_notMem_int _) _).append (silent_entities _ rest)⟩

theorem startsHere_wire (snapshot : Snapshot) (rest : Bytes) :
    startsHere (Utf8.encode snapshot.wire ++ rest) = true := by
  have key : markerKey <+: snapshot.inside := List.prefix_append _ _
  have solid : skipBlanks (snapshot.inside ++ [0x7d]) = snapshot.inside ++ [0x7d] := rfl
  refine startsHere_append ?_ rest
  rw [Snapshot.encode_wire, startsHere, solid, Bool.and_eq_true, List.isPrefixOf_iff_prefix]
  exact ⟨rfl, key.trans (List.prefix_append _ _)⟩

/-- The starts in a snapshot followed by anything: the snapshot itself, and those behind. -/
theorem starts_wire (snapshot : Snapshot) (rest : Bytes) (offset : Nat)
    (older : List (Nat × Bytes)) :
    starts offset older (Utf8.encode snapshot.wire ++ rest) =
      starts (offset + (Utf8.encode snapshot.wire).length)
        ((offset, Utf8.encode snapshot.wire ++ rest) :: older) rest := by
  have here := startsHere_wire snapshot rest
  have silent : Silent (snapshot.inside ++ [0x7d]) rest :=
    (silent_inside snapshot rest).append (silent_of_plain (by decide) rest)
  rw [Snapshot.encode_wire, List.cons_append] at here ⊢
  rw [starts, if_pos here, silent.starts_append, List.length_cons, Nat.add_assoc, Nat.add_comm 1]

/-! ### A snapshot cut short -/

variable {snapshot : Snapshot} {cut : Bytes}

/-- In a piece of a snapshot only the whole piece can be a start. -/
theorem starts_cut (early : cut <+: 0x7b :: snapshot.inside) (offset : Nat)
    (older : List (Nat × Bytes)) :
    starts offset older cut = if startsHere cut then (offset, cut) :: older else older := by
  cases cut with
  | nil => rfl
  | cons byte part =>
    exact starts_of_silent ((silent_inside snapshot []).cut (List.cons_prefix_cons.mp early).2)
      offset older

/-- A piece that is no start yet may become one. -/
theorem mayStart_cut (early : cut <+: 0x7b :: snapshot.inside) (quiet : startsHere cut = false) :
    mayStart cut = true := by
  have marked := startsHere_wire snapshot []
  rw [List.append_nil, Snapshot.encode_wire, ← List.cons_append] at marked
  exact mayStart_piece marked (early.trans (List.prefix_append _ _)) quiet

end Stream

end TreeWatch
