/-
This file settles which snapshots of the demo feed its clients can read. The entities of the
board are the identifiers of the drawing, and nothing keeps one of them from being the name of
the time. Where a state is drawn for such an entity, the text has that member twice and the last
one, a colour, is taken for the time (`decodeLatest_wire_eq`). So clients get a snapshot of the
feed exactly if no state was drawn for an entity of that name, and every snapshot exactly if the
drawing has no such node (`reaches_clients_iff`).
-/

import TreeWatch.Demo
import TreeWatch.Diagram
import TreeWatch.Proofs.Publishing

namespace TreeWatch

open Snapshot (timestampKey)

variable {snapshot : Snapshot}

namespace Demo

/-! ### The snapshots of the feed -/

theorem mem_keys_paintOutcome {drawn : EntityId × Option NodeState} {entity : EntityId} :
    entity ∈ (paintOutcome snapshot drawn).statuses.keys ↔
      entity ∈ snapshot.statuses.keys ∨ ∃ state, (entity, some state) = drawn := by
  obtain ⟨name, outcome⟩ := drawn
  cases outcome with
  | none => simp [paintOutcome]
  | some state =>
    simp only [paintOutcome, Snapshot.withStatus, SortedMap.mem_keys_iff, SortedMap.get?_insert]
    by_cases same : entity = name <;> simp [same]

theorem mem_keys_painted {drawn : List (EntityId × Option NodeState)} {entity : EntityId} :
    entity ∈ (drawn.foldl paintOutcome snapshot).statuses.keys ↔
      entity ∈ snapshot.statuses.keys ∨ ∃ state, (entity, some state) ∈ drawn := by
  induction drawn generalizing snapshot with
  | nil => simp
  | cons first drawn inductionHypothesis =>
    rw [List.foldl_cons, inductionHypothesis, mem_keys_paintOutcome, or_assoc, ← exists_or]
    simp only [List.mem_cons]

/-- A snapshot of the feed reports the entities for which a state was drawn. -/
theorem mem_keys_snapshot {entities : List EntityId} {draw : Draw} {entity : EntityId} :
    entity ∈ (Demo.snapshot entities draw).statuses.keys ↔
      ∃ state, (entity, some state) ∈ entities.zip draw.outcomes := by
  rw [Demo.snapshot, mem_keys_painted]
  exact or_iff_right List.not_mem_nil

/-- The board shows what the feed published last. -/
theorem latest_publishAll (board : Board) (earlier : List Draw) (draw : Draw) :
    (publishAll board (earlier ++ [draw])).1.latest = some (Demo.snapshot board.entities draw) := by
  induction earlier generalizing board with
  | nil => rfl
  | cons first earlier inductionHypothesis =>
    exact inductionHypothesis (board.publish (Demo.snapshot board.entities first)).1

/-- Chance may draw a state for every entity. -/
theorem exists_draw (entities : List EntityId) {entity : EntityId} (member : entity ∈ entities) :
    ∃ draw : Draw, ∃ state, (entity, some state) ∈ entities.zip draw.outcomes := by
  refine ⟨⟨0, entities.map fun _ => some .idle⟩, .idle, ?_⟩
  rw [← List.map_prod_left_eq_zip]
  exact List.mem_map.mpr ⟨entity, member, rfl⟩

/-- The server of a drawing after the demo feed has published the snapshots of some draws. -/
def server (drawing : String) (emitInterval : Nat) (draws : List Draw) : Server where
  board := (publishAll { entities := Diagram.entityIds drawing } draws).1
  emitInterval
  diagram := some drawing

/-- Whatever was drawn, all that a stream of the server writes is the text of the snapshot that
the feed published last. Clients decode it to that snapshot exactly if no state was drawn for an
entity named like the time; otherwise they are told that its time is none. So they can read every
snapshot, whatever the draws and the clock, exactly if the drawing has no node of that name. -/
theorem reaches_clients_iff (drawing : String) (emitInterval : Nat) (earlier : List Draw) :
    let entities := Diagram.entityIds drawing
    (∀ draw : Draw,
      let published := Demo.snapshot entities draw
      let board := (server drawing emitInterval (earlier ++ [draw])).board
      (∀ ticker now stopAt, (Server.read board (.statuses ticker) now stopAt).1 =
          List.replicate (ticker.ticks now stopAt).1.length published.wire) ∧
        (Stream.decodeLatest (Utf8.encode published.wire) = .ok ⟨published, 0⟩ ↔
          ∀ state, (timestampKey, some state) ∉ entities.zip draw.outcomes) ∧
        ∀ state, (timestampKey, some state) ∈ entities.zip draw.outcomes →
          Stream.decodeLatest (Utf8.encode published.wire) = .error .invalidTimestamp) ∧
    ((∀ draw : Draw, Stream.decodeLatest (Utf8.encode (Demo.snapshot entities draw).wire) =
        .ok ⟨Demo.snapshot entities draw, 0⟩) ↔ timestampKey ∉ entities) := by
  intro entities
  have newest (draw : Draw) : (server drawing emitInterval (earlier ++ [draw])).board.latest =
      some (Demo.snapshot entities draw) := latest_publishAll { entities } earlier draw
  refine ⟨fun draw => ⟨Server.read_statuses (newest draw), ?_, fun state drawn => ?_⟩,
    fun all among => ?_, fun absent draw => ?_⟩
  · rw [Stream.decodeLatest_wire_eq_ok_iff, mem_keys_snapshot, not_exists]
  · rw [Stream.decodeLatest_wire_eq, if_pos (mem_keys_snapshot.mpr ⟨state, drawn⟩)]
  · -- One draw that gives this entity a state is enough.
    obtain ⟨draw, drawn⟩ := exists_draw entities among
    exact Stream.decodeLatest_wire_eq_ok_iff.mp (all draw) (mem_keys_snapshot.mpr drawn)
  · refine Stream.decodeLatest_wire_eq_ok_iff.mpr fun named => ?_
    obtain ⟨state, drawn⟩ := mem_keys_snapshot.mp named
    exact absent (List.of_mem_zip drawn).1

/-- A group of the drawing has the name of the time, and it is drawn idle. -/
theorem reaches_clients_iff_named_node :
    let drawing := "<g id=\"timestamp\" class=\"node\">"
    let draw : Draw := ⟨1, [some .idle]⟩
    let published := Demo.snapshot (Diagram.entityIds drawing) draw
    published = ⟨1, .ofList [(timestampKey, .value "#9999FF")]⟩ ∧
      published.wire = "\x7b\"timestamp\":1,\"timestamp\":\"#9999FF\"\x7d" ∧
      Stream.decodeLatest (Utf8.encode published.wire) = .error .invalidTimestamp := by
  intro drawing draw published
  have entities : Diagram.entityIds drawing = [timestampKey] := by decide +kernel
  have equal : published = ⟨1, .ofList [(timestampKey, .value "#9999FF")]⟩ := by
    show Demo.snapshot (Diagram.entityIds drawing) draw = _
    rw [entities]
    rfl
  have drawn : (timestampKey, some .idle) ∈ (Diagram.entityIds drawing).zip draw.outcomes := by
    rw [entities]
    exact List.mem_cons_self
  refine ⟨equal, ?_, ((reaches_clients_iff drawing 1000 []).1 draw).2.2 .idle drawn⟩
  rw [equal]
  decide

end Demo

end TreeWatch
