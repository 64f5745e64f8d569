/-
This file proves that values of a known shape are read back from their compact text. Inside of a
container a reader takes the octets of a value up to the comma or bracket behind it (`Takes`):
texts and integers, which may be missing, and from them lists (`list_takes`) and records
(`record_fills`). A record is read by filling a draft, one field per member that was written;
members that were left out leave the draft as it is (`Fills`).
-/

import TreeWatch.Json.Shape
import TreeWatch.Proofs.Json.Integers
import TreeWatch.Proofs.Json.Quoting

namespace TreeWatch.Json

/-! ### Scans in one go -/

theorem TextScan.run_follow {scan after : TextScan} {first : Bytes}
    (followed : scan.follow first = some after) (rest : Bytes) :
    scan.run (first ++ rest) = after.run rest := by
  induction first generalizing scan with
  | nil =>
    obtain rfl := Option.some.inj followed
    rfl
  | cons byte first inductionHypothesis =>
    rw [TextScan.follow] at followed
    rw [List.cons_append, TextScan.run]
    cases step : scan.step byte with
    | more next =>
      simp only [step] at followed
      exact inductionHypothesis followed
    | _ =>
      simp only [step] at followed
      cases followed

/-- Between its quotes a text is read back up to the closing one. -/
theorem TextScan.run_quotedBody (text : String) (rest : Bytes) :
    TextScan.run {} (quotedBody text.toList ++ 0x22 :: rest) = .ok (text, rest) := by
  obtain ⟨scan, followed, done⟩ := step_quotedBody text
  rw [run_follow followed, run, done]

/-- A comma or a closing bracket. -/
def Separates (byte : UInt8) : Prop := byte = 0x2c ∨ byte = 0x5d ∨ byte = 0x7d

theorem NumberScan.Scans.run_eq {text : Bytes} {scan : NumberScan} (scans : Scans text scan) :
    ∃ byte more start, text = byte :: more ∧ start? byte = some start ∧
      ∀ rest, start.run (more ++ rest) = scan.run rest := by
  induction scans with
  | start begins _ => exact ⟨_, [], _, rfl, begins, fun _ => rfl⟩
  | @push _ last _ _ _ taken _ inductionHypothesis =>
    obtain ⟨byte, more, start, rfl, begins, runs⟩ := inductionHypothesis
    refine ⟨byte, more ++ [last], start, rfl, begins, fun rest => ?_⟩
    rw [List.append_assoc, runs, List.singleton_append, NumberScan.run, taken]

/-- A separator ends an integer. -/
theorem NumberScan.run_separates {scan : NumberScan} {number : Number}
    (digits : scan.part = .zero ∨ scan.part = .whole) (value : scan.value = .ok number)
    {next : UInt8} (separates : Separates next) (rest : Bytes) :
    scan.run (next :: rest) = .ok (number, next :: rest) := by
  have part : scan.part.step next = .ended := by
    rcases digits with equal | equal <;> rcases separates with rfl | rfl | rfl <;> rw [equal] <;> rfl
  have ends : scan.step next = .ended := by rw [NumberScan.step, part]
  rw [run, ends]
  simp only [value]

namespace Reader

variable {α β : Type}

/-- What the first reader takes is not there for the next one. -/
theorem bind_ok {reader : Reader α} {next : α → Reader β} {text rest : Bytes} {value : α}
    (read : reader text = .ok (value, rest)) : (reader >>= next) text = next value rest := by
  show (reader text >>= fun taken => next taken.1 taken.2) = _
  rw [read]
  rfl

theorem map_ok {reader : Reader α} (f : α → β) {text rest : Bytes} {value : α}
    (read : reader text = .ok (value, rest)) : (f <$> reader) text = .ok (f value, rest) := by
  rw [map_eq_pure_bind, bind_ok read]
  rfl

theorem peek_solid {byte : UInt8} (solid : isBlank byte = false) (rest : Bytes) :
    peek (byte :: rest) = .ok (some byte, byte :: rest) := by
  have stays : skipBlanks (byte :: rest) = byte :: rest := by
    rw [skipBlanks, List.dropWhile_cons_of_neg (by simp [solid])]
  rw [peek, stays]
  rfl

theorem peekValue_solid {byte : UInt8} (solid : isBlank byte = false) (rest : Bytes) :
    peekValue (byte :: rest) = .ok (byte, byte :: rest) := by
  rw [peekValue, bind_ok (peek_solid solid rest)]
  rfl

theorem drop_cons (byte : UInt8) (rest : Bytes) : drop (byte :: rest) = .ok ((), rest) := rfl

theorem get_self (text : Bytes) : (get : Reader Bytes) text = .ok (text, text) := rfl

/-! ### Values inside of a container -/

/-- The reader takes these octets for the value and leaves the separator behind them. -/
def Takes (reader : Reader α) (text : Bytes) (value : α) : Prop :=
  ∀ next rest, Separates next → reader (text ++ next :: rest) = .ok (value, next :: rest)

theorem takeString_quote (value : String) (rest : Bytes) :
    takeString (Utf8.encode (quote value) ++ rest) = .ok (value, rest) := by
  rw [encode_quote, List.cons_append, List.append_assoc, takeString,
    bind_ok (drop_cons 0x22 _)]
  exact TextScan.run_quotedBody value rest

theorem text_takes (wanted value : String) : Takes (text wanted) (Utf8.encode (quote value)) value := by
  intro next rest _
  have begins : ∃ more, Utf8.encode (quote value) ++ next :: rest = 0x22 :: more := by
    rw [encode_quote]
    exact ⟨_, rfl⟩
  have taken := takeString_quote value (next :: rest)
  obtain ⟨more, quoted⟩ := begins
  rw [quoted] at taken ⊢
  rw [text, bind_ok (peekValue_solid rfl more)]
  exact taken

/-- An integer within the bounds of its field. -/
theorem integer_takes {low high value : Int} (wanted : String) (lower : Int64.minValue.toInt ≤ value)
    (upper : value < UInt64.size) (inside : low ≤ value ∧ value ≤ high) :
    Takes (integer low high wanted) (Utf8.encode (toString value)) value := by
  intro next rest separates
  obtain ⟨scan, scans, reads, digits⟩ := NumberScan.scans_integer lower upper
  obtain ⟨byte, more, start, octets, begins, runs⟩ := scans.run_eq
  have run : (fun text => NumberScan.run start text : Reader Number) (more ++ next :: rest) =
      .ok (.int value, next :: rest) := by
    show NumberScan.run start _ = _
    rw [runs, NumberScan.run_separates digits reads separates]
  rw [octets, List.cons_append, integer,
    bind_ok (peekValue_solid (NumberScan.solid_of_start? begins) _)]
  simp only [begins]
  rw [bind_ok (drop_cons byte _), bind_ok run]
  simp only [inside, and_self, if_true]
  rfl

theorem int64_takes (value : Int64) : Takes int64 (Utf8.encode (toString value.toInt)) value := by
  intro next rest separates
  have lower := Int64.minValue_le_toInt value
  have upper := Int64.toInt_le value
  have most : Int64.maxValue.toInt < UInt64.size := by decide
  rw [int64, bind_ok (integer_takes "i64" lower (by omega) ⟨lower, upper⟩ next rest separates),
    Int64.ofInt_toInt]
  rfl

theorem uint64_takes (value : UInt64) : Takes uint64 (Utf8.encode (toString value.toNat)) value := by
  intro next rest separates
  have least : Int64.minValue.toInt ≤ 0 := by decide
  have size : UInt64.size = 18446744073709551616 := rfl
  have bound := value.toNat_lt
  have read := @integer_takes 0 (UInt64.size - 1) value.toNat "u64" (by omega) (by omega) (by omega)
    next rest separates
  rw [show toString value.toNat = toString (value.toNat : Int) from rfl, uint64, bind_ok read,
    Int.toNat_natCast, UInt64.ofNat_toNat]
  rfl

/-- What begins neither like a blank nor like `null` is not missing. -/
theorem optional_takes {reader : Reader α} {text : Bytes} {value : α} {byte : UInt8} {more : Bytes}
    (begins : text = byte :: more) (solid : isBlank byte = false) (other : byte ≠ 0x6e)
    (takes : Takes reader text value) : Takes (optional reader) text (some value) := by
  subst begins
  intro next rest separates
  rw [List.cons_append, optional, bind_ok (peek_solid solid _)]
  refine (congrFun ?_ _).trans (map_ok some (takes next rest separates))
  split
  · next equal => exact absurd (Option.some.inj equal) other
  · rfl

theorem optional_uint64_takes (value : UInt64) :
    Takes (optional uint64) (Utf8.encode (toString value.toNat)) (some value) := by
  have least : Int64.minValue.toInt ≤ 0 := by decide
  have bound : (value.toNat : Int) < UInt64.size := Int.ofNat_lt.mpr value.toNat_lt
  obtain ⟨scan, scans, _⟩ := NumberScan.scans_integer (by omega) bound
  obtain ⟨byte, more, start, octets, begins, _⟩ := scans.run_eq
  exact optional_takes octets (NumberScan.solid_of_start? begins)
    (NumberScan.ne_of_start? begins rfl) (uint64_takes value)

theorem optional_text_takes (wanted value : String) :
    Takes (optional (text wanted)) (Utf8.encode (quote value)) (some value) :=
  optional_takes (encode_quote value) rfl (by decide) (text_takes wanted value)

/-- A value that is put somewhere once it is read. -/
theorem Takes.put {reader : Reader α} {text : Bytes} {value : α} (takes : Takes reader text value)
    (f : α → β) : Takes (reader >>= fun value => pure (f value)) text (f value) := by
  intro next rest separates
  rw [bind_ok (takes next rest separates)]
  rfl

/-! ### Texts between commas -/

/-- The comma before an item, unless it is the first one. -/
def comma (first : Bool) : Bytes := if first then [] else [0x2c]

/-- Some texts with a comma before each but the first. -/
def separated : Bool → List Bytes → Bytes
  | _, [] => []
  | first, text :: texts => comma first ++ (text ++ separated false texts)

theorem encode_intercalate (texts : List String) :
    Utf8.encode (",".intercalate texts) = separated true (texts.map Utf8.encode) := by
  induction texts with
  | nil => rfl
  | cons text texts inductionHypothesis =>
    cases texts with
    | nil => simp [separated, comma]
    | cons next texts =>
      have octet : Utf8.encode "," = [0x2c] := rfl
      rw [String.intercalate_cons_cons, Utf8.encode_append, Utf8.encode_append,
        inductionHypothesis, octet]
      simp [separated, comma]

/-- Behind an item stands a comma or what closes the container. -/
theorem exists_separates (texts : List Bytes) {close : UInt8} (closes : Separates close)
    (rest : Bytes) : ∃ next more, separated false texts ++ close :: rest = next :: more ∧
      Separates next := by
  cases texts with
  | nil => exact ⟨close, rest, rfl, closes⟩
  | cons text texts => exact ⟨0x2c, _, rfl, Or.inl rfl⟩

theorem length_le_separated (first : Bool) {texts : List Bytes} (solid : ∀ text ∈ texts, text ≠ []) :
    texts.length ≤ (separated first texts).length := by
  induction texts generalizing first with
  | nil => exact Nat.zero_le _
  | cons text texts inductionHypothesis =>
    obtain ⟨head, others⟩ := List.forall_mem_cons.mp solid
    have behind := inductionHypothesis false others
    have positive := List.length_pos_iff.mpr head
    rw [separated, List.length_append, List.length_append, List.length_cons]
    omega

/-! ### Lists -/

theorem anotherItem_end (first : Bool) (rest : Bytes) :
    anotherItem first (0x5d :: rest) = .ok (false, 0x5d :: rest) := by
  rw [anotherItem, bind_ok (peek_solid rfl rest)]
  rfl

theorem anotherItem_comma {byte : UInt8} (solid : isBlank byte = false) (other : byte ≠ 0x5d)
    (first : Bool) (rest : Bytes) :
    anotherItem first (comma first ++ byte :: rest) = .ok (true, byte :: rest) := by
  cases first with
  | true =>
    show anotherItem true (byte :: rest) = _
    rw [anotherItem, bind_ok (peek_solid solid rest)]
    refine congrFun (g := (pure true : Reader Bool)) ?_ _
    split
    · next equal => cases equal
    · next equal => exact absurd (Option.some.inj equal) other
    · rfl
  | false =>
    show anotherItem false (0x2c :: byte :: rest) = _
    rw [anotherItem, bind_ok (peek_solid rfl _)]
    show (drop >>= fun _ => _) (0x2c :: byte :: rest) = _
    rw [bind_ok (drop_cons 0x2c _), bind_ok (peek_solid solid rest)]
    refine congrFun (g := (pure true : Reader Bool)) ?_ _
    split
    · next equal => exact absurd (Option.some.inj equal) other
    · rfl
    · next equal => cases equal

section Lists

variable {item : Reader α} {write : α → Bytes}

/-- Items that are written one after the other with commas between them are read in order. -/
theorem items_separated {values : List α} (takes : ∀ value ∈ values, Takes item (write value) value)
    (begins : ∀ value ∈ values, ∃ byte more, write value = byte :: more ∧
      isBlank byte = false ∧ byte ≠ 0x5d)
    (rest : Bytes) {fuel : Nat} (enough : values.length < fuel) (first : Bool) (before : List α) :
    items item fuel first before (separated first (values.map write) ++ 0x5d :: rest) =
      .ok (before.reverse ++ values, 0x5d :: rest) := by
  induction values generalizing fuel first before with
  | nil =>
    obtain ⟨fuel, rfl⟩ := Nat.exists_eq_succ_of_ne_zero (Nat.ne_zero_of_lt enough)
    show items item (fuel + 1) first before (0x5d :: rest) = _
    rw [items, bind_ok (anotherItem_end first rest), List.append_nil]
    rfl
  | cons value values inductionHypothesis =>
    obtain ⟨fuel, rfl⟩ := Nat.exists_eq_succ_of_ne_zero (Nat.ne_zero_of_lt enough)
    obtain ⟨head, others⟩ := List.forall_mem_cons.mp takes
    obtain ⟨⟨byte, more, octets, solid, other⟩, beginsOthers⟩ := List.forall_mem_cons.mp begins
    obtain ⟨next, behind, follows, separates⟩ :=
      exists_separates (values.map write) (Or.inr (Or.inl rfl)) rest
    have onward := inductionHypothesis others beginsOthers (Nat.lt_of_succ_lt_succ enough) false
      (value :: before)
    have read := head next behind separates
    rw [follows] at onward
    rw [octets, List.cons_append] at read
    rw [List.map_cons, separated, List.append_assoc, List.append_assoc, follows, octets,
      List.cons_append, items, bind_ok (anotherItem_comma solid other first _)]
    simp only [if_true]
    rw [bind_ok read, onward, List.reverse_cons, List.append_assoc, List.singleton_append]

theorem list_separated {values : List α} (takes : ∀ value ∈ values, Takes item (write value) value)
    (begins : ∀ value ∈ values, ∃ byte more, write value = byte :: more ∧
      isBlank byte = false ∧ byte ≠ 0x5d) (rest : Bytes) :
    list item (0x5b :: (separated true (values.map write) ++ 0x5d :: rest)) =
      .ok (values, rest) := by
  have solid : ∀ text ∈ values.map write, text ≠ [] := by
    rw [List.forall_mem_map]
    intro value member
    obtain ⟨byte, more, octets, _⟩ := begins value member
    exact octets ▸ List.cons_ne_nil byte more
  have room := length_le_separated true solid
  have enough : values.length <
      (separated true (values.map write) ++ 0x5d :: rest).length + 1 := by
    rw [List.length_map] at room
    rw [List.length_append]
    omega
  have all := items_separated takes begins rest enough true []
  rw [list, bind_ok (peekValue_solid rfl _)]
  show (drop >>= fun _ => _) _ = _
  rw [bind_ok (drop_cons 0x5b _), bind_ok (get_self _), bind_ok all]
  rfl

end Lists

/-! ### Records -/

theorem anotherKey_end (first : Bool) (rest : Bytes) :
    anotherKey first (0x7d :: rest) = .ok (none, 0x7d :: rest) := by
  rw [anotherKey, bind_ok (peek_solid rfl rest)]
  rfl

theorem anotherKey_comma (first : Bool) (name : String) (rest : Bytes) :
    anotherKey first (comma first ++ (Utf8.encode (quote name) ++ rest)) =
      .ok (some name, rest) := by
  have taken := map_ok some (takeString_quote name rest)
  obtain ⟨more, quoted⟩ : ∃ more, Utf8.encode (quote name) ++ rest = 0x22 :: more := by
    rw [encode_quote]
    exact ⟨_, rfl⟩
  rw [quoted] at taken ⊢
  cases first with
  | true =>
    show anotherKey true (0x22 :: more) = _
    rw [anotherKey, bind_ok (peek_solid rfl more)]
    exact taken
  | false =>
    show anotherKey false (0x2c :: 0x22 :: more) = _
    rw [anotherKey, bind_ok (peek_solid rfl _)]
    show (drop >>= fun _ => _) (0x2c :: 0x22 :: more) = _
    rw [bind_ok (drop_cons 0x2c _), bind_ok (peek_solid rfl more)]
    exact taken

theorem colon_cons (rest : Bytes) : colon (0x3a :: rest) = .ok ((), rest) := by
  rw [colon, bind_ok (peek_solid rfl rest)]
  rfl

/-- The octets of a member, unless it is left out. -/
def memberBytes? (member : String × Option String) : Option Bytes :=
  member.2.map fun text => Utf8.encode (quote member.1) ++ 0x3a :: Utf8.encode text

section Records

variable {Draft : Type} (fields : List (RecordField Draft))

/-- Reading some members takes one draft to another: each that is not left out goes into its own
field, which was still empty. -/
inductive Fills : Draft → List (String × Option String) → Draft → Prop where
  | done (draft : Draft) : Fills draft [] draft
  | absent {draft last : Draft} {name : String} {members : List (String × Option String)}
      (onward : Fills draft members last) : Fills draft ((name, none) :: members) last
  | given {draft next last : Draft} {name text : String} {members : List (String × Option String)}
      {field : RecordField Draft} (known : fields.find? (·.name == name) = some field)
      (fresh : field.given draft = false) (takes : Takes (field.value draft) (Utf8.encode text) next)
      (onward : Fills next members last) : Fills draft ((name, some text) :: members) last

variable {fields} {draft last : Draft} {written : List (String × Option String)}

/-- A member that may be left out. -/
theorem Fills.optional {name : String} {field : RecordField Draft} {value : Option α}
    {write : α → String} (filled : Option α → Draft) (empty : filled none = draft)
    (known : fields.find? (·.name == name) = some field) (fresh : field.given draft = false)
    (takes : ∀ value, Takes (field.value draft) (Utf8.encode (write value)) (filled (some value)))
    (onward : Fills fields (filled value) written last) :
    Fills fields draft ((name, value.map write) :: written) last := by
  cases value with
  | none => exact .absent (empty ▸ onward)
  | some value => exact .given known fresh (takes value) onward

theorem members_fills (fills : Fills fields draft written last) (rest : Bytes) {fuel : Nat}
    (enough : (written.filterMap memberBytes?).length < fuel) (first : Bool) :
    members fields fuel first draft
        (separated first (written.filterMap memberBytes?) ++ 0x7d :: rest) =
      .ok (last, 0x7d :: rest) := by
  induction fills generalizing fuel first with
  | done draft =>
    obtain ⟨fuel, rfl⟩ := Nat.exists_eq_succ_of_ne_zero (Nat.ne_zero_of_lt enough)
    show members fields (fuel + 1) first draft (0x7d :: rest) = _
    rw [members, bind_ok (anotherKey_end first rest)]
    rfl
  | absent _ inductionHypothesis => exact inductionHypothesis enough first
  | @given draft next last name text written field known fresh takes _ inductionHypothesis =>
    obtain ⟨fuel, rfl⟩ := Nat.exists_eq_succ_of_ne_zero (Nat.ne_zero_of_lt enough)
    have onward := inductionHypothesis (Nat.lt_of_succ_lt_succ enough) false
    obtain ⟨byte, behind, follows, separates⟩ :=
      exists_separates (written.filterMap memberBytes?) (Or.inr (Or.inr rfl)) rest
    have read := takes byte behind separates
    have member : memberBytes? (name, some text) =
      some (Utf8.encode (quote name) ++ 0x3a :: Utf8.encode text) := rfl
    rw [follows] at onward
    rw [List.filterMap_cons_some member, separated, List.append_assoc, List.append_assoc,
      List.append_assoc, follows, List.cons_append, members, bind_ok (anotherKey_comma first name _)]
    simp only [known, fresh, Bool.false_eq_true, if_false]
    rw [bind_ok (colon_cons _), bind_ok read, onward]

/-- A record is read to its closing brace if its members fill a draft that lacks nothing. -/
theorem record_fills (fills : Fills fields draft written last)
    (complete : ∀ field ∈ fields, field.hasDefault = true ∨ field.given last = true)
    (kind : String) (rest : Bytes) :
    record kind fields draft
        (0x7b :: (separated true (written.filterMap memberBytes?) ++ 0x7d :: rest)) =
      .ok (last, rest) := by
  have solid : ∀ text ∈ written.filterMap memberBytes?, text ≠ [] := by
    intro text member
    obtain ⟨⟨name, value⟩, _, bytes⟩ := List.mem_filterMap.mp member
    obtain ⟨text, _, rfl⟩ := Option.map_eq_some_iff.mp bytes
    rw [encode_quote]
    exact List.cons_ne_nil _ _
  have room := length_le_separated true solid
  have enough : (written.filterMap memberBytes?).length <
      (separated true (written.filterMap memberBytes?) ++ 0x7d :: rest).length + 1 := by
    rw [List.length_append]
    omega
  have all := members_fills fills rest enough true
  have lacking : fields.find? (fun field => !field.hasDefault && !field.given last) = none := by
    rw [List.find?_eq_none]
    intro field member
    rcases complete field member with default | given
    · simp [default]
    · simp [given]
  rw [record, bind_ok (peekValue_solid rfl _)]
  show (drop >>= fun _ => _) _ = _
  rw [bind_ok (drop_cons 0x7b _), bind_ok (get_self _), bind_ok all, bind_ok (drop_cons 0x7d rest)]
  simp only [lacking]
  rfl

end Records

/-! ### Whole texts -/

theorem whole_ok {reader : Reader α} {text : Bytes} {value : α}
    (read : reader text = .ok (value, [])) : whole reader text = .ok value := by
  rw [whole, read]
  rfl

end Reader

end TreeWatch.Json
