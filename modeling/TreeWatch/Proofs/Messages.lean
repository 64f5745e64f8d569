/-
This file proves that a log message is read back from its text, whatever it says: the fields that
are left out on writing are those with a default on reading, for every change on its own. What is
read is the message that was written, so it is judged and painted like that one (`parse_wire`).
-/

import TreeWatch.TickLog
import TreeWatch.Proofs.Json.Shapes

namespace TreeWatch.TickLog

open Json.Reader

/-! ### The octets of a message -/

theorem encode_objectText (members : List (String × Option String)) :
    Utf8.encode (objectText members) =
      0x7b :: (separated true (members.filterMap memberBytes?) ++ [0x7d]) := by
  have opening : Utf8.encode "\x7b" = [0x7b] := rfl
  have close : Utf8.encode "\x7d" = [0x7d] := rfl
  have colon : Utf8.encode ":" = [0x3a] := rfl
  have octets (member : String × Option String) :
      (member.2.map fun text => Json.quote member.1 ++ ":" ++ text).map Utf8.encode =
        memberBytes? member := by
    rw [memberBytes?, Option.map_map]
    refine congrArg (member.2.map ·) (funext fun text => ?_)
    rw [Function.comp_apply, Utf8.encode_append, Utf8.encode_append, colon, List.append_assoc,
      List.singleton_append]
  rw [objectText, Utf8.encode_append, Utf8.encode_append, encode_intercalate,
    List.map_filterMap, opening, close, List.append_assoc, List.singleton_append]
  simp only [octets]

/-- Between its brackets the list of changes has their texts, with commas. -/
theorem encode_changes (changes : List StatusChange) :
    Utf8.encode ("[" ++ ",".intercalate (changes.map changeWire) ++ "]") =
      0x5b ::
        (separated true (changes.map fun change => Utf8.encode (changeWire change)) ++ [0x5d]) := by
  have opening : Utf8.encode "[" = [0x5b] := rfl
  have close : Utf8.encode "]" = [0x5d] := rfl
  rw [Utf8.encode_append, Utf8.encode_append, encode_intercalate, List.map_map, opening, close,
    List.append_assoc, List.singleton_append]
  rfl

/-! ### Reading a change -/

/-- The draft of a change of which every member has been read that is written. -/
def changeDraft (change : StatusChange) : ChangeDraft :=
  { uid := change.uid.map some
    nodeName := some change.nodeName
    previousStatus := change.previousStatus.map some
    currentStatus := some change.currentStatus }

theorem fills_change (change : StatusChange) : Fills changeFields {}
    [("uid", change.uid.map fun uid => toString uid.toNat),
      ("node_name", some (Json.quote change.nodeName)),
      ("previous_status", change.previousStatus.map Json.quote),
      ("current_status", some (Json.quote change.currentStatus))]
    (changeDraft change) := by
  refine .optional (fun uid => { uid := uid.map some }) rfl rfl rfl
    (fun uid => (optional_uint64_takes uid).put _) ?_
  refine .given rfl rfl ((text_takes _ change.nodeName).put _) ?_
  refine .optional (fun previous =>
    { uid := change.uid.map some
      nodeName := some change.nodeName
      previousStatus := previous.map some }) rfl rfl rfl
    (fun previous => (optional_text_takes _ previous).put _) ?_
  exact .given rfl rfl ((text_takes _ change.currentStatus).put _) (.done _)

theorem join_map_some {α : Type} (value : Option α) : (value.map some).join = value := by
  cases value <;> rfl

theorem change_takes (change : StatusChange) :
    Takes changeReader (Utf8.encode (changeWire change)) change := by
  intro next rest _
  have complete : ∀ field ∈ changeFields, field.hasDefault = true ∨
      field.given (changeDraft change) = true := by
    simp [changeFields, changeDraft]
  have read := record_fills (fills_change change) complete "struct StatusChange" (next :: rest)
  rw [changeWire, encode_objectText, List.cons_append, List.append_assoc, List.singleton_append,
    changeReader, bind_ok read]
  simp only [changeDraft, join_map_some, Option.getD_some]
  rfl

/-! ### Reading a message -/

theorem changes_takes (changes : List StatusChange) :
    Takes (list changeReader)
      (Utf8.encode ("[" ++ ",".intercalate (changes.map changeWire) ++ "]")) changes := by
  intro next rest _
  have begins (change : StatusChange) : ∃ byte more,
      Utf8.encode (changeWire change) = byte :: more ∧ Json.isBlank byte = false ∧ byte ≠ 0x5d :=
    ⟨0x7b, _, encode_objectText _, rfl, by decide⟩
  rw [encode_changes, List.cons_append, List.append_assoc, List.singleton_append]
  exact list_separated (fun change _ => change_takes change) (fun change _ => begins change) _

theorem fills_message (log : TickLog) : Fills fields {}
    [("timestamp", some (toString log.timestamp.toInt)),
      ("event_log", some ("[" ++ ",".intercalate (log.changes.map changeWire) ++ "]"))]
    { timestamp := some log.timestamp, changes := some log.changes } := by
  refine .given rfl rfl ((int64_takes log.timestamp).put _) ?_
  exact .given rfl rfl ((changes_takes log.changes).put _) (.done _)

/-- A message is read back from its text as the message that was written, so the same is found
of it and the same snapshot made of it. -/
theorem parse_wire (log : TickLog) :
    parse (Utf8.encode log.wire) = .ok log ∧
      (parse (Utf8.encode log.wire)).map validate = .ok log.validate ∧
      (parse (Utf8.encode log.wire)).map toSnapshot = .ok log.toSnapshot := by
  have complete : ∀ field ∈ fields, field.hasDefault = true ∨
      field.given { timestamp := some log.timestamp, changes := some log.changes } = true := by
    simp [fields]
  have read := record_fills (fills_message log) complete "struct BehaviorTreeLog" []
  have parsed : parse (Utf8.encode log.wire) = .ok log := by
    rw [wire, encode_objectText]
    refine whole_ok ?_
    rw [reader, bind_ok read]
    rfl
  rw [parsed]
  exact ⟨rfl, rfl, rfl⟩

end TreeWatch.TickLog
