/-
This file proves that a quoted text is read back as that text. Writing escapes one
character at a time and reading undoes it one octet at a time; between characters the
scan holds exactly the octets of the characters read (`follow_escaped`), so the closing
quote finds the octets of the whole text.
-/

import Mathlib.Data.List.Basic
import TreeWatch.Proofs.Json.Reading
import TreeWatch.Proofs.Text.Encoding

namespace TreeWatch.Json

/-! ### The octets of a quoted text -/

/-- The octets of some characters between quotes. -/
def quotedBody (chars : List Char) : Bytes :=
  chars.flatMap fun char => (escape char).flatMap String.utf8EncodeChar

theorem quotedBody_cons (char : Char) (chars : List Char) :
    quotedBody (char :: chars) =
      (escape char).flatMap String.utf8EncodeChar ++ quotedBody chars := rfl

theorem encode_quote (text : String) :
    Utf8.encode (quote text) = 0x22 :: (quotedBody text.toList ++ [0x22]) := by
  have quoteChar : String.utf8EncodeChar '"' = [0x22] := by decide
  rw [quote, Utf8.encode_ofList, List.cons_append, List.flatMap_cons, List.flatMap_append,
    List.flatMap_assoc, List.flatMap_singleton, quoteChar]
  rfl

/-- The ways to write a character between quotes: behind a backslash by a letter of its
own or by its code, or as it is. -/
inductive Escaped (char : Char) : Bytes → Prop where
  | letter (letter meant : UInt8) (known : escapedByte? letter = some meant)
      (other : letter ≠ 0x75) (same : String.utf8EncodeChar char = [meant]) :
      Escaped char [0x5c, letter]
  | code (control : char.toNat < 0x20) :
      Escaped char ([0x5c, 0x75, 0x30, 0x30] ++
        (hexDigits char.toNat).flatMap String.utf8EncodeChar)
  | plain (notQuote : char ≠ '"') (notBackslash : char ≠ '\\') (visible : ¬ char.toNat < 0x20) :
      Escaped char (String.utf8EncodeChar char)

theorem escaped_escape (char : Char) :
    Escaped char ((escape char).flatMap String.utf8EncodeChar) := by
  unfold escape
  split
  · next equal =>
    subst equal
    exact .letter 0x22 0x22 rfl (by decide) (by decide)
  split
  · next equal =>
    subst equal
    exact .letter 0x5c 0x5c rfl (by decide) (by decide)
  split
  · next equal =>
    subst equal
    exact .letter 0x62 0x08 rfl (by decide) (by decide)
  split
  · next equal =>
    subst equal
    exact .letter 0x66 0x0c rfl (by decide) (by decide)
  split
  · next equal =>
    subst equal
    exact .letter 0x6e 0x0a rfl (by decide) (by decide)
  split
  · next equal =>
    subst equal
    exact .letter 0x72 0x0d rfl (by decide) (by decide)
  split
  · next equal =>
    subst equal
    exact .letter 0x74 0x09 rfl (by decide) (by decide)
  split
  · next control =>
    rw [List.flatMap_append]
    exact .code control
  · next notQuote notBackslash _ _ _ _ _ visible =>
    rw [List.flatMap_singleton]
    exact .plain notQuote notBackslash visible

/-! ### Following a scan -/

namespace TextScan

/-- The scan after octets none of which ends it or is at fault. -/
def follow : TextScan → Bytes → Option TextScan
  | scan, [] => some scan
  | scan, byte :: rest =>
    match scan.step byte with
    | .more next => follow next rest
    | _ => none

theorem follow_cons {scan next : TextScan} {byte : UInt8} (taken : scan.step byte = .more next)
    (rest : Bytes) : scan.follow (byte :: rest) = next.follow rest := by
  simp only [follow, taken]

theorem follow_append {scan between : TextScan} {first : Bytes}
    (followed : scan.follow first = some between) (second : Bytes) :
    scan.follow (first ++ second) = between.follow second := by
  induction first generalizing scan with
  | nil =>
    obtain rfl := Option.some.inj followed
    rfl
  | cons byte rest inductionHypothesis =>
    rw [List.cons_append, follow]
    rw [follow] at followed
    cases step : scan.step byte with
    | more next =>
      simp only [step] at followed
      exact inductionHypothesis followed
    | _ =>
      simp only [step] at followed
      cases followed

/-- Octets that are neither quotes, backslashes nor control characters stand for
themselves. -/
theorem follow_plain (collected bytes : Bytes)
    (plain : ∀ byte ∈ bytes, byte ≠ 0x22 ∧ byte ≠ 0x5c ∧ 0x20 ≤ byte.toNat) :
    follow { collected } bytes = some { collected := bytes.reverse ++ collected } := by
  induction bytes generalizing collected with
  | nil => rfl
  | cons byte rest inductionHypothesis =>
    obtain ⟨notQuote, notBackslash, visible⟩ := plain byte List.mem_cons_self
    have allowed : ¬ byte < 0x20 := by
      rw [UInt8.lt_iff_toNat_lt]
      exact Nat.not_lt.mpr visible
    have step : TextScan.step { collected } byte = .more { collected := byte :: collected } := by
      simp [TextScan.step, notQuote, notBackslash, allowed]
    rw [follow_cons step, inductionHypothesis (byte :: collected) fun other member =>
      plain other (List.mem_cons_of_mem _ member)]
    simp

theorem plain_encodeChar {char : Char} (notQuote : char ≠ '"') (notBackslash : char ≠ '\\')
    (visible : ¬ char.toNat < 0x20) :
    ∀ byte ∈ String.utf8EncodeChar char, byte ≠ 0x22 ∧ byte ≠ 0x5c ∧ 0x20 ≤ byte.toNat := by
  intro byte member
  refine ⟨?_, ?_, ?_⟩
  · rintro rfl
    exact notQuote (Char.toNat_inj.mp (Utf8.toNat_eq_of_mem_encodeChar member (by decide)))
  · rintro rfl
    exact notBackslash (Char.toNat_inj.mp (Utf8.toNat_eq_of_mem_encodeChar member (by decide)))
  · by_cases small : byte.toNat < 0x80
    · rw [← Utf8.toNat_eq_of_mem_encodeChar member small]
      exact Nat.not_lt.mp visible
    · omega

/-- The two digits written for a control character are read as its code. -/
theorem hexNumber?_hexDigits : ∀ code < 0x20,
    ((hexDigits code).flatMap String.utf8EncodeChar).length = 2 ∧
      hexNumber? (((hexDigits code).flatMap String.utf8EncodeChar).reverse ++ [0x30, 0x30]) =
        some code := by
  decide

theorem follow_control (collected : Bytes) {char : Char} (control : char.toNat < 0x20) :
    follow { collected } ([0x5c, 0x75, 0x30, 0x30] ++
        (hexDigits char.toNat).flatMap String.utf8EncodeChar) =
      some { collected := (String.utf8EncodeChar char).reverse ++ collected } := by
  obtain ⟨two, number⟩ := hexNumber?_hexDigits char.toNat control
  obtain ⟨high, low, digits⟩ := List.length_eq_two.mp two
  rw [digits] at number ⊢
  have notLow : isLowSurrogate char.toNat = false := by
    simp only [isLowSurrogate, Bool.and_eq_false_iff, decide_eq_false_iff_not]
    omega
  have notHigh : isHighSurrogate char.toNat = false := by
    simp only [isHighSurrogate, Bool.and_eq_false_iff, decide_eq_false_iff_not]
    omega
  have read : takeCode { collected, part := .code [high, 0x30, 0x30] none } char.toNat none =
      .more { collected := (String.utf8EncodeChar char).reverse ++ collected } := by
    simp [takeCode, notLow, notHigh, push]
  have last : TextScan.step { collected, part := .code [high, 0x30, 0x30] none } low =
      .more { collected := (String.utf8EncodeChar char).reverse ++ collected } := by
    have code : hexNumber? [low, high, 0x30, 0x30] = some char.toNat := number
    simp [TextScan.step, code, read]
  show follow { collected, part := .code [high, 0x30, 0x30] none } [low] = _
  rw [follow_cons last]
  rfl

/-- Whatever a character is written as, the scan takes it for the character. -/
theorem follow_escaped (collected : Bytes) {char : Char} {bytes : Bytes}
    (escaped : Escaped char bytes) : follow { collected } bytes =
      some { collected := (String.utf8EncodeChar char).reverse ++ collected } := by
  cases escaped with
  | letter letter meant known other same =>
    have taken : TextScan.step { collected, part := .escape } letter =
        .more { collected := meant :: collected } := by
      simp [TextScan.step, other, known]
    show follow { collected, part := .escape } [letter] = _
    rw [follow_cons taken, same]
    rfl
  | code control => exact follow_control collected control
  | plain notQuote notBackslash visible =>
    exact follow_plain collected _ (plain_encodeChar notQuote notBackslash visible)

theorem follow_quotedBody (collected : Bytes) (chars : List Char) :
    follow { collected } (quotedBody chars) =
      some { collected := (chars.flatMap String.utf8EncodeChar).reverse ++ collected } := by
  induction chars generalizing collected with
  | nil => rfl
  | cons char chars inductionHypothesis =>
    rw [quotedBody_cons, follow_append (follow_escaped collected (escaped_escape char)),
      inductionHypothesis]
    simp

/-- After the octets between the quotes of a text the closing quote gives the text. -/
theorem step_quotedBody (text : String) :
    ∃ scan, follow {} (quotedBody text.toList) = some scan ∧ scan.step 0x22 = .done text := by
  refine ⟨_, follow_quotedBody [] text.toList, ?_⟩
  rw [List.append_nil, ← Utf8.encode_eq_flatMap]
  simp [TextScan.step, Utf8.decode?_encode]

end TextScan

end TreeWatch.Json
