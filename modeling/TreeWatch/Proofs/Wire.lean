/-
This file proves that a snapshot is read back from its text on the wire. The reader
follows the members one by one and stays open until the closing brace, so the whole text
is read as its members whatever stands behind it (`readFirst_wire`), and every piece cut
off before the brace is read as ending early (`readFirst_wire_cut`). The members give the
snapshot back unless one of its entities bears the name of the time (`ofValue_members`).
-/

import TreeWatch.Proofs.Json.Members
import TreeWatch.Proofs.Tables
import TreeWatch.Snapshot.Stream

namespace TreeWatch

/-- The JSON value written for a status. -/
def Status.json : Status → Json
  | .unknown => .null
  | .value text => .string text

theorem Status.ofJson_json (status : Status) : Status.ofJson status.json = status := by
  cases status <;> rfl

namespace Snapshot

variable (snapshot : Snapshot)

/-! ### The octets of a snapshot -/

/-- The octets of one entity, with the comma before it. -/
def entityBytes (entity : EntityId × Status) : Bytes :=
  0x2c :: (Utf8.encode (Json.quote entity.1) ++ 0x3a :: Utf8.encode entity.2.wire)

/-- The octets between the two braces of a snapshot. -/
def inside : Bytes :=
  Utf8.encode (Json.quote timestampKey) ++ 0x3a ::
    (Utf8.encode (toString snapshot.timestamp.toInt) ++
      snapshot.statuses.entries.flatMap entityBytes)

theorem encode_wire : Utf8.encode snapshot.wire = 0x7b :: (snapshot.inside ++ [0x7d]) := by
  have opening : Utf8.encode "\x7b" = [0x7b] := rfl
  have close : Utf8.encode "\x7d" = [0x7d] := rfl
  have colon : Utf8.encode ":" = [0x3a] := rfl
  have comma : Utf8.encode "," = [0x2c] := rfl
  simp only [wire, Utf8.encode_append, Utf8.encode_join, opening, close, colon, comma, inside,
    List.flatMap_map, List.append_assoc, List.cons_append, List.nil_append]
  rfl

/-! ### Reading the members -/

/-- The members of a snapshot, in the order of their keys. -/
def members : Entries Json :=
  Entries.ofPairs ((timestampKey, .number (.int snapshot.timestamp.toInt)) ::
    snapshot.statuses.entries.map fun entity => (entity.1, entity.2.json))

variable {around : List Json.Frame} {before : Json.State} {members : Entries Json}

theorem leads_status (name : String) (status : Status) :
    Json.Leads (.value (.object members name :: around)) (Utf8.encode status.wire)
      (.objectAfter (members.put name status.json) around) := by
  cases status with
  | unknown => exact Json.leads_null name
  | value text => exact Json.leads_string name text

theorem leads_entity (settled : before.Settled members around) (entity : EntityId × Status) :
    Json.Leads before (entityBytes entity)
      (.objectAfter (members.put entity.1 entity.2.json) around) := by
  have key : Json.Leads (.objectNext members around) _ _ :=
    Json.leads_key ⟨_, rfl, rfl⟩ rfl entity.1
  have bytes : entityBytes entity =
      0x2c :: ((Utf8.encode (Json.quote entity.1) ++ [0x3a]) ++ Utf8.encode entity.2.wire) := by
    rw [entityBytes, List.append_assoc, List.singleton_append]
  rw [bytes]
  exact .step settled.waiting settled.comma (key.trans (leads_status entity.1 entity.2))

theorem leads_entities (settled : before.Settled members around) (entities : Entries Status) :
    ∃ after, Json.Leads before (entities.flatMap entityBytes) after ∧
      after.Settled ((entities.map fun entity => (entity.1, entity.2.json)).foldl
        (fun members member => members.put member.1 member.2) members) around := by
  induction entities generalizing before members with
  | nil => exact ⟨before, .stay settled.waiting, settled⟩
  | cons entity entities inductionHypothesis =>
    obtain ⟨after, leads, arrived⟩ := inductionHypothesis
      (Json.settled_objectAfter (members.put entity.1 entity.2.json) around)
    exact ⟨after, (leads_entity settled entity).trans leads, arrived⟩

/-- Up to its closing brace a snapshot leads the reader between members. -/
theorem leads_inside : ∃ after, Json.Leads (.value []) (0x7b :: snapshot.inside) after ∧
    after.Settled snapshot.members [] := by
  have brace : Json.Leads (.value []) [0x7b] (.objectStart []) :=
    .single ⟨_, rfl, rfl⟩ rfl ⟨_, rfl, rfl⟩
  have key : Json.Leads (.objectStart []) _ _ := Json.leads_key ⟨_, rfl, rfl⟩ rfl timestampKey
  obtain ⟨between, time, settled⟩ := Json.leads_int64 timestampKey snapshot.timestamp
  obtain ⟨after, entities, arrived⟩ := leads_entities settled snapshot.statuses.entries
  have bytes : 0x7b :: snapshot.inside =
      [0x7b] ++ ((Utf8.encode (Json.quote timestampKey) ++ [0x3a]) ++
        (Utf8.encode (toString snapshot.timestamp.toInt) ++
          snapshot.statuses.entries.flatMap entityBytes)) := by
    rw [inside, List.append_assoc, List.singleton_append, List.singleton_append]
  rw [bytes]
  exact ⟨after, brace.trans (key.trans (time.trans entities)), arrived⟩

/-- The text of a snapshot is read as its members; what follows is left. -/
theorem readFirst_wire (rest : Bytes) :
    Json.readFirst (Utf8.encode snapshot.wire ++ rest) = .ok (.object snapshot.members, rest) := by
  obtain ⟨after, leads, settled⟩ := snapshot.leads_inside
  have bytes : Utf8.encode snapshot.wire ++ rest =
      (0x7b :: snapshot.inside) ++ 0x7d :: rest := by
    rw [encode_wire, List.cons_append, List.cons_append, List.append_assoc, List.singleton_append]
  have complete : Json.advance (.value []) (Utf8.encode snapshot.wire ++ rest) =
      .complete (.object snapshot.members) rest := by
    rw [bytes, Json.advance_append, leads.advance_eq, Json.Progress.resume, Json.advance,
      settled.brace]
    rfl
  rw [Json.readFirst, complete]

/-- A text that is cut short lacks its closing brace. -/
theorem prefix_of_cut {cut : Bytes} (early : cut <+: Utf8.encode snapshot.wire)
    (short : cut ≠ Utf8.encode snapshot.wire) : cut <+: 0x7b :: snapshot.inside := by
  rw [encode_wire, ← List.cons_append] at early short
  exact (List.prefix_concat_iff.mp early).resolve_left short

theorem readFirst_wire_cut {cut : Bytes} (early : cut <+: Utf8.encode snapshot.wire)
    (short : cut ≠ Utf8.encode snapshot.wire) :
    ∃ fault, Json.readFirst cut = .error fault ∧ fault.cause.category = .unfinished := by
  obtain ⟨after, leads, _⟩ := snapshot.leads_inside
  exact Json.readFirst_cut leads (snapshot.prefix_of_cut early short)

/-! ### The snapshot of the members -/

variable {snapshot}

theorem sorted_members (snapshot : Snapshot) : snapshot.members.Sorted :=
  Entries.sorted_ofPairs _

/-- Writing the entities after the time loses none of them. -/
theorem lookup_members (sought : String) :
    snapshot.members.lookup sought =
      ((snapshot.statuses.get? sought).map Status.json).or
        (if sought = timestampKey then some (.number (.int snapshot.timestamp.toInt))
          else none) := by
  have sorted := Entries.sorted_map Status.json snapshot.statuses.sorted
  rw [members, Entries.ofPairs, List.foldl_cons, Entries.lookup_foldl_put sorted,
    Entries.lookup_map fun _ => Status.json, Entries.lookup_put, List.lookup_nil]
  rfl

theorem int64?_toInt (value : Int64) : (Json.Number.int value.toInt).int64? = some value := by
  rw [Json.Number.int64?, if_pos ⟨Int64.minValue_le_toInt value, Int64.toInt_le value⟩,
    Int64.ofInt_toInt]

/-- The members give the snapshot back, provided that no entity is named like the time. -/
theorem ofValue_members (unnamed : timestampKey ∉ snapshot.statuses.keys) :
    Stream.ofValue (.object snapshot.members) = .ok snapshot := by
  have absent := SortedMap.get?_eq_none unnamed
  have time : snapshot.members.lookup timestampKey =
      some (.number (.int snapshot.timestamp.toInt)) := by
    rw [lookup_members, absent, if_pos rfl]
    rfl
  have sorted := Entries.sorted_map Status.ofJson (Entries.sorted_filter
    (fun member => member.1 != timestampKey) snapshot.sorted_members)
  have statuses : SortedMap.ofList ((snapshot.members.filter fun member =>
      member.1 != timestampKey).map fun member => (member.1, Status.ofJson member.2)) =
      snapshot.statuses := by
    refine SortedMap.ext_get? fun sought => ?_
    show (Entries.ofPairs _).lookup sought = _
    rw [Entries.ofPairs_of_sorted sorted,
      Entries.lookup_map fun _ => Status.ofJson, Entries.lookup_filter_ne]
    by_cases equal : sought = timestampKey
    · rw [if_pos equal, equal, absent]
      rfl
    · rw [if_neg equal, lookup_members, if_neg equal, Option.or_none, Option.map_map]
      have same : Status.ofJson ∘ Status.json = id := funext Status.ofJson_json
      rw [same, Option.map_id, id]
  rw [Stream.ofValue, ofMembers?, time]
  simp only [int64?_toInt, Option.map_some, statuses]

/-- An entity named like the time takes its place. -/
theorem ofValue_members_named (named : timestampKey ∈ snapshot.statuses.keys) :
    Stream.ofValue (.object snapshot.members) = .error .invalidTimestamp := by
  obtain ⟨status, found⟩ := SortedMap.mem_keys_iff.mp named
  have time : snapshot.members.lookup timestampKey = some status.json := by
    rw [lookup_members, found]
    rfl
  rw [Stream.ofValue, ofMembers?, time]
  cases status <;> rfl

end Snapshot

theorem wire_ne_nil (snapshot : Snapshot) : Utf8.encode snapshot.wire ≠ [] := by
  rw [Snapshot.encode_wire]
  exact List.cons_ne_nil _ _

end TreeWatch
