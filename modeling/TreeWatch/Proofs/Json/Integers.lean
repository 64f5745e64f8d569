/-
This file proves that an integer is read back from its decimal digits. After some
digits the scan holds the number they write (`scans_decimal`), as long as it fits 64
bits, and the number ends at the first octet that is no part of it. Inside a container
a number may be cut anywhere: what is there already is a number, or a lone sign.
-/

import TreeWatch.Proofs.Json.Reading
import TreeWatch.Proofs.Text.Encoding

namespace TreeWatch.Json

/-! ### Digits -/

/-- The octet of a digit. -/
def digitByte (digit : Nat) : UInt8 := UInt8.ofNat (0x30 + digit)

theorem encodeChar_digitChar : ∀ digit < 10,
    String.utf8EncodeChar (Nat.digitChar digit) = [digitByte digit] := by
  decide

theorem isDigit_digitByte : ∀ digit < 10, isDigit (digitByte digit) = true := by
  decide

theorem toNat_digitByte : ∀ digit < 10, (digitByte digit).toNat - 0x30 = digit := by
  decide

theorem encode_repr_of_lt {number : Nat} (small : number < 10) :
    Utf8.encode number.repr = [digitByte number] := by
  rw [Nat.repr_of_lt small, String.singleton_eq_ofList, Utf8.encode_ofList,
    List.flatMap_singleton, encodeChar_digitChar number small]

theorem encode_repr_of_le {number : Nat} (large : 10 ≤ number) :
    Utf8.encode number.repr = Utf8.encode (number / 10).repr ++ [digitByte (number % 10)] := by
  rw [Nat.repr_eq_repr_append_repr large, Utf8.encode_append,
    encode_repr_of_lt (Nat.mod_lt number (by decide))]

theorem isDigit_of_mem_repr {number : Nat} {char : Char} (member : char ∈ number.repr.toList) :
    char.isDigit = true := by
  rw [Nat.toList_repr] at member
  exact Nat.isDigit_of_mem_toDigits (by decide) (by decide) member

/-! ### Scanning digits -/

namespace NumberScan

/-- The scan inside the digits before the point. -/
def whole (negative : Bool) (digits : Nat) : NumberScan := { part := .whole, negative, digits }

/-- A digit that continues or begins the whole part of a number that still fits. -/
theorem step_digitByte {part : NumberPart} (negative : Bool) (digits : Nat) {digit : Nat}
    (bound : digit < 10) (goes : part.step (digitByte digit) = .more .whole)
    (fits : digits * 10 + digit < UInt64.size) :
    step { part, negative, digits } (digitByte digit) =
      .more (whole negative (digits * 10 + digit)) := by
  have room : ¬ UInt64.size ≤ digits * 10 + digit := Nat.not_le.mpr fits
  simp only [step, goes, toNat_digitByte digit bound, pushWhole, room, Bool.false_or,
    decide_false, Bool.false_eq_true, if_false, whole]

theorem start?_digitByte : ∀ digit < 10, 0 < digit →
    start? (digitByte digit) = some (whole false digit) := by
  intro digit bound positive
  have part : NumberPart.start? (digitByte digit) = some .whole := by
    revert digit
    decide
  rw [start?, part, Option.map_some, toNat_digitByte digit bound]
  rfl

/-- A number without point and exponent whose digits fit has a value wherever it stops. -/
theorem exists_value {scan : NumberScan} (exact : scan.scientific = false)
    (fits : scan.overflowed = false) : ∃ number, scan.value = .ok number := by
  unfold value
  simp only [exact, fits, Bool.or_false, Bool.false_eq_true, if_false]
  split
  · exact ⟨_, rfl⟩
  · split <;> exact ⟨_, rfl⟩

/-- Neither a point nor an exponent was read, and no digit was left out. -/
def Plain (scan : NumberScan) : Prop := scan.scientific = false ∧ scan.overflowed = false

/-- The scan after some octets of an integer, taken one after the other. -/
inductive Scans : Bytes → NumberScan → Prop where
  | start {byte : UInt8} {scan : NumberScan} (begins : start? byte = some scan)
      (plain : scan.Plain) : Scans [byte] scan
  | push {text : Bytes} {byte : UInt8} {scan next : NumberScan} (scans : Scans text scan)
      (taken : scan.step byte = .more next) (plain : next.Plain) : Scans (text ++ [byte]) next

theorem Scans.plain {text : Bytes} {scan : NumberScan} (scans : Scans text scan) : scan.Plain := by
  cases scans with
  | start _ plain => exact plain
  | push _ _ plain => exact plain

/-- Digits lead to the scan of the number they write, from any octets behind which a leading
digit begins one. -/
theorem scans_decimal (sign : Bytes) {negative : Bool}
    (first : ∀ digit < 10, 0 < digit → Scans (sign ++ [digitByte digit]) (whole negative digit))
    {number : Nat} (positive : 0 < number) (fits : number < UInt64.size) :
    Scans (sign ++ Utf8.encode number.repr) (whole negative number) := by
  induction number using Nat.strongRecOn with
  | ind number inductionHypothesis =>
    by_cases small : number < 10
    · rw [encode_repr_of_lt small]
      exact first number small positive
    · have large : 10 ≤ number := Nat.not_lt.mp small
      have before := inductionHypothesis (number / 10) (by omega) (by omega) (by omega)
      have whole : number / 10 * 10 + number % 10 = number := by omega
      have last : number % 10 < 10 := Nat.mod_lt number (by decide)
      have goes : NumberPart.whole.step (digitByte (number % 10)) = .more .whole := by
        rw [NumberPart.step, if_pos (isDigit_digitByte _ last)]
      have step := step_digitByte negative (number / 10) last goes (by omega)
      rw [whole] at step
      rw [encode_repr_of_le large, ← List.append_assoc]
      exact .push before step ⟨rfl, rfl⟩

/-- The digits of an integer of 64 bits lead to a scan of that integer. -/
theorem scans_integer {value : Int} (lower : Int64.minValue.toInt ≤ value)
    (upper : value < UInt64.size) : ∃ scan, Scans (Utf8.encode (toString value)) scan ∧
      scan.value = .ok (.int value) ∧ (scan.part = .zero ∨ scan.part = .whole) := by
  have least : Int64.minValue.toInt = -9223372036854775808 := rfl
  have size : UInt64.size = 18446744073709551616 := rfl
  rw [Int.toString_eq_repr, Int.repr_eq_if]
  rcases Int.lt_trichotomy value 0 with negative | rfl | positive
  · rw [if_neg (by omega), Utf8.encode_append]
    have sign : Scans (Utf8.encode "-") { part := .sign, negative := true } :=
      .start rfl ⟨rfl, rfl⟩
    refine ⟨whole true (-value).toNat, scans_decimal _ (fun digit bound leading => ?_) (by omega)
      (by omega), ?_, Or.inr rfl⟩
    · have goes : NumberPart.sign.step (digitByte digit) = .more .whole := by
        revert digit
        decide
      have step := step_digitByte true 0 bound goes (by omega)
      rw [Nat.zero_mul, Nat.zero_add] at step
      exact .push sign step ⟨rfl, rfl⟩
    · have back : -((-value).toNat : Int) = value := by omega
      have inside : ¬ ((-value).toNat = 0 ∨ value < Int64.minValue.toInt) := by omega
      simp only [NumberScan.value, whole, Bool.or_false, Bool.false_eq_true,
        not_true_eq_false, if_false, back]
      rw [if_neg inside]
  · exact ⟨{ part := .zero }, .start rfl ⟨rfl, rfl⟩, rfl, Or.inl rfl⟩
  · rw [if_pos (by omega)]
    refine ⟨whole false value.toNat, scans_decimal [] (fun digit bound leading =>
      .start (start?_digitByte digit bound leading) ⟨rfl, rfl⟩) (by omega) (by omega), ?_,
      Or.inr rfl⟩
    have back : (value.toNat : Int) = value := by omega
    simp only [NumberScan.value, whole, Bool.or_false, Bool.false_eq_true,
      not_false_eq_true, if_true, if_false, back]

/-! ### The first octet -/

variable {byte : UInt8} {scan : NumberScan} (begins : start? byte = some scan)

include begins

theorem ne_of_start? {octet : UInt8} (none : start? octet = none) : byte ≠ octet := by
  rintro rfl
  cases none.symm.trans begins

theorem solid_of_start? : isBlank byte = false := by
  simp only [isBlank, Bool.or_eq_false_iff, beq_eq_false_iff_ne]
  exact ⟨⟨⟨ne_of_start? begins rfl, ne_of_start? begins rfl⟩, ne_of_start? begins rfl⟩,
    ne_of_start? begins rfl⟩

end NumberScan

/-! ### Integers inside a container -/

variable {frame : Frame} {around : List Frame}

/-- A plain number inside a container may be cut anywhere. -/
theorem open_of_plain {scan : NumberScan} (plain : scan.Plain) :
    (State.number scan (frame :: around)).Open := by
  refine open_of_number fun cause failed => ?_
  unfold NumberScan.finish at failed
  split at failed
  · obtain ⟨number, value⟩ := NumberScan.exists_value plain.1 plain.2
    rw [value] at failed
    cases failed
  · rw [← Except.error.inj failed]
    rfl

/-- Where a value must start an octet that can begin a number does. -/
theorem step_value_of_start? (around : List Frame) {byte : UInt8} {scan : NumberScan}
    (begins : NumberScan.start? byte = some scan) :
    (State.value around).step byte = .more (.number scan around) := by
  have other {octet : UInt8} (none : NumberScan.start? octet = none) : byte ≠ octet :=
    NumberScan.ne_of_start? begins none
  simp only [State.step, NumberScan.solid_of_start? begins, State.begin, word?, beq_iff_eq,
    @other 0x22 rfl, @other 0x7b rfl, @other 0x5b rfl, @other 0x6e rfl, @other 0x74 rfl,
    @other 0x66 rfl, Bool.false_eq_true, if_false, begins]

/-- The reader follows the scan of an integer, which may be cut anywhere. -/
theorem leads_of_scans {text : Bytes} {scan : NumberScan} (scans : NumberScan.Scans text scan) :
    Leads (.value (frame :: around)) text (.number scan (frame :: around)) := by
  induction scans with
  | start begins plain =>
    exact .single ⟨_, rfl, rfl⟩ (step_value_of_start? _ begins) (open_of_plain plain)
  | push scans taken plain inductionHypothesis =>
    refine inductionHypothesis.trans (.single (open_of_plain scans.plain) ?_ (open_of_plain plain))
    rw [State.step, taken]

/-- Inside a container the digits of an integer lead to a scan of that integer, which any
octet ends that cannot belong to a number. -/
theorem leads_integer (frame : Frame) (around : List Frame) {value : Int}
    (lower : Int64.minValue.toInt ≤ value) (upper : value ≤ Int64.maxValue.toInt) :
    ∃ scan, Leads (.value (frame :: around)) (Utf8.encode (toString value))
        (.number scan (frame :: around)) ∧
      scan.value = .ok (.int value) ∧ (scan.part = .zero ∨ scan.part = .whole) := by
  have most : Int64.maxValue.toInt < UInt64.size := by decide
  obtain ⟨scan, scans, reads, digits⟩ := NumberScan.scans_integer lower (by omega)
  exact ⟨scan, leads_of_scans scans, reads, digits⟩

end TreeWatch.Json
