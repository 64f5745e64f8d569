/-
This file says which identifiers survive being written into a drawing. A character that cannot
stand in an attribute value is written as a reference, and the values of a drawing are taken as
they are written, so an identifier with such a character comes back as another one. A reference
is longer than the character it stands for, hence of the identifiers of a drawing the shortest
that is changed is lost: no other one is changed into it (`unescaped_of_subset`). So the identifiers
come back exactly if none of them needs a reference, and otherwise one of the entities is never
shown a status (`entityIds_drawn`).
-/

import TreeWatch.Proofs.Drawings
import TreeWatch.Proofs.Rows

namespace TreeWatch.Diagram

/-! ### References -/

/-- The characters that are written as references in an attribute value. -/
def references : List (Char × String) :=
  [('&', "&amp;"), ('<', "&lt;"), ('>', "&gt;"), ('"', "&quot;")]

def escapeChar (char : Char) : List Char := ((references.lookup char).map String.toList).getD [char]

def escape (chars : List Char) : List Char := chars.flatMap escapeChar

/-- The character needs a reference. -/
def Special (char : Char) : Prop := char ∈ references.map Prod.fst

instance : DecidablePred Special := fun char => inferInstanceAs (Decidable (char ∈ _))

/-- An identifier that is written without references. -/
def Unescaped (id : EntityId) : Prop := ∀ char ∈ id.toList, ¬ Special char

/-- The identifier as an attribute value. -/
def escaped (id : EntityId) : EntityId := String.ofList (escape id.toList)

variable {char : Char} {chars : List Char} {id : EntityId}

theorem escapeChar_of_not_special (plain : ¬ Special char) : escapeChar char = [char] := by
  have absent : references.lookup char = none := by
    rw [List.lookup_eq_none_iff]
    intro reference member
    exact bne_iff_ne.mpr fun same => plain (List.mem_map.mpr ⟨reference, member, same.symm⟩)
  rw [escapeChar, absent]
  rfl

/-- A reference is longer than the character it stands for. -/
theorem one_lt_length_escapeChar (special : Special char) : 1 < (escapeChar char).length := by
  have each : ∀ reference ∈ references, 1 < (escapeChar reference.1).length := by decide
  obtain ⟨reference, member, rfl⟩ := List.mem_map.mp special
  exact each reference member

/-- Neither quotes nor brackets are left. -/
theorem legible_escapeChar : ∀ one ∈ escapeChar char, one ≠ '"' ∧ one ≠ '>' := by
  by_cases special : Special char
  · have each : ∀ reference ∈ references,
        (escapeChar reference.1).all (fun one => one != '"' && one != '>') = true := by decide
    obtain ⟨reference, member, rfl⟩ := List.mem_map.mp special
    intro one inside
    simpa using List.all_eq_true.mp (each reference member) one inside
  · rw [escapeChar_of_not_special special]
    intro one member
    obtain rfl := List.mem_singleton.mp member
    constructor
    all_goals
      rintro rfl
      exact special (by decide)

theorem escape_of_not_special (plain : ∀ char ∈ chars, ¬ Special char) : escape chars = chars := by
  induction chars with
  | nil => rfl
  | cons char chars inductionHypothesis =>
    rw [escape, List.flatMap_cons, escapeChar_of_not_special (plain char List.mem_cons_self),
      ← escape, inductionHypothesis fun other member => plain other (.tail _ member)]
    rfl

theorem length_le_length_escape (chars : List Char) : chars.length ≤ (escape chars).length := by
  induction chars with
  | nil => exact Nat.le_refl _
  | cons char chars inductionHypothesis =>
    have one : 1 ≤ (escapeChar char).length := by
      by_cases special : Special char
      · exact Nat.le_of_lt (one_lt_length_escapeChar special)
      · rw [escapeChar_of_not_special special]
        exact Nat.le_refl _
    rw [escape, List.flatMap_cons, ← escape, List.length_append, List.length_cons]
    omega

theorem length_lt_length_escape (member : char ∈ chars) (special : Special char) :
    chars.length < (escape chars).length := by
  obtain ⟨before, after, rfl⟩ := List.append_of_mem member
  have longer := one_lt_length_escapeChar special
  have front := length_le_length_escape before
  have behind := length_le_length_escape after
  simp only [escape, List.flatMap_append, List.flatMap_cons, List.length_append,
    List.length_cons] at front behind ⊢
  omega

theorem escaped_of_unescaped (plain : Unescaped id) : escaped id = id := by
  rw [escaped, escape_of_not_special plain, String.ofList_toList]

theorem length_lt_length_escaped (changed : ¬ Unescaped id) : id.length < (escaped id).length := by
  simp only [Unescaped, Classical.not_forall, not_not] at changed
  obtain ⟨char, member, special⟩ := changed
  rw [escaped, String.length_ofList, ← String.length_toList]
  exact length_lt_length_escape member special

/-- If all identifiers are among those that come back, none of them needs a reference. -/
theorem unescaped_of_subset {ids : List EntityId} (subset : ∀ id ∈ ids, id ∈ ids.map escaped) :
    ∀ id ∈ ids, Unescaped id := by
  -- By induction on the length: what is changed into an identifier is shorter than it.
  have upTo (bound : Nat) : ∀ id ∈ ids, id.length < bound → Unescaped id := by
    induction bound with
    | zero => exact fun _ _ short => absurd short (Nat.not_lt_zero _)
    | succ bound inductionHypothesis =>
      intro id member short
      obtain ⟨source, among, rfl⟩ := List.mem_map.mp (subset id member)
      by_cases plain : Unescaped source
      · rwa [escaped_of_unescaped plain]
      · have shorter := length_lt_length_escaped plain
        exact absurd (inductionHypothesis source among (by omega)) plain
  exact fun id member => upTo _ id member (Nat.lt_succ_self _)

/-! ### Drawn nodes -/

/-- The attributes of the group that is drawn for an entity. -/
def nodeGroup (id : EntityId) : List Attribute :=
  [⟨"id".toList, escape id.toList⟩, ⟨"class".toList, "node".toList⟩]

/-- The drawing of some entities, each with the text behind its tag. -/
def drawn (front : List Char) (nodes : List (EntityId × List Char)) : Drawing where
  front := front
  groups := nodes.map fun node => (nodeGroup node.1, node.2)

theorem legible_nodeGroup : ∀ one ∈ nodeGroup id, one.Legible := by
  intro one member
  simp only [nodeGroup, List.mem_cons, List.not_mem_nil, or_false] at member
  rcases member with rfl | rfl
  · refine ⟨⟨'i', ['d'], rfl, by decide, List.all_eq_true.mp (by decide)⟩, fun char inside => ?_⟩
    obtain ⟨source, _, among⟩ := List.mem_flatMap.mp inside
    exact legible_escapeChar char among
  · have plain : Attribute.Plain ⟨"class".toList, "node".toList⟩ := by decide
    exact plain.legible

theorem identifies_nodeGroup : Identifies (nodeGroup id) (escaped id) := by
  rw [identifies_iff]
  exact ⟨escape id.toList, "node".toList, rfl, rfl, by decide, rfl⟩

section

variable {front : List Char} {nodes : List (EntityId × List Char)}

theorem nodes_drawn :
    Nodes ((drawn front nodes).groups.map Prod.fst) ((nodes.map Prod.fst).map escaped) := by
  induction nodes with
  | nil => exact .nil
  | cons node nodes inductionHypothesis => exact .node identifies_nodeGroup inductionHypothesis

theorem legible_drawn (free : Untagged front) (behind : ∀ node ∈ nodes, Untagged node.2) :
    (drawn front nodes).Legible where
  front := free
  attributes := by
    intro group member
    obtain ⟨node, _, rfl⟩ := List.mem_map.mp member
    exact legible_nodeGroup
  behind := by
    intro group member
    obtain ⟨node, among, rfl⟩ := List.mem_map.mp member
    exact behind node among

/-- The identifiers of drawn nodes come back as their values are written. -/
theorem entityIds_eq_escaped (free : Untagged front) (behind : ∀ node ∈ nodes, Untagged node.2) :
    entityIds (String.ofList (drawn front nodes).text) =
      ((nodes.map Prod.fst).map escaped).eraseDups := by
  obtain ⟨ids, read, equal⟩ := entityIds_legible (legible_drawn free behind)
  rw [equal, read.unique nodes_drawn]

end

/-- Some identifiers are among those that come back exactly if none of them needs a reference. -/
theorem subset_escaped_iff {ids : List EntityId} :
    (∀ id ∈ ids, id ∈ (ids.map escaped).eraseDups) ↔ ∀ id ∈ ids, Unescaped id := by
  simp only [List.mem_eraseDups]
  constructor
  · exact unescaped_of_subset
  · exact fun plain id member => List.mem_map.mpr ⟨id, member, escaped_of_unescaped (plain id member)⟩

theorem eraseDups_escaped_iff {ids : List EntityId} :
    (ids.map escaped).eraseDups = ids.eraseDups ↔ ∀ id ∈ ids, Unescaped id := by
  constructor
  · intro equal
    rw [← subset_escaped_iff, equal]
    exact fun id member => List.mem_eraseDups.mpr member
  · intro plain
    rw [List.map_congr_left fun id member => escaped_of_unescaped (plain id member), List.map_id']

/-- A history of some entities shows the status of exactly these. -/
theorem shows_status_iff {entities : List EntityId} {snapshot : Snapshot} :
    ((History.table entities []).current snapshot).get? id = some (snapshot.statusOf id) ↔
      id ∈ entities := by
  rw [History.get?_current_table]
  split
  · next among => exact iff_of_true rfl among
  · next absent => exact iff_of_false nofun absent

/-- What is read from a drawing of some entities, one group for each, are the values that are
written there; these are the entities, in order and each once, exactly if no identifier needs a
reference. That is also exactly when a history of what was read shows each of the entities the
status it has, in whatever snapshot. -/
theorem entityIds_drawn (front : List Char) (nodes : List (EntityId × List Char))
    (free : Untagged front) (behind : ∀ node ∈ nodes, Untagged node.2) :
    entityIds (String.ofList (drawn front nodes).text) =
        ((nodes.map Prod.fst).map escaped).eraseDups ∧
      (entityIds (String.ofList (drawn front nodes).text) = (nodes.map Prod.fst).eraseDups ↔
        ∀ id ∈ nodes.map Prod.fst, Unescaped id) ∧
      ∃ history notices,
        History.uninitialized.track (entityIds (String.ofList (drawn front nodes).text)) =
          .ok (history, notices) ∧
        ((∀ snapshot, ∀ id ∈ nodes.map Prod.fst,
            (history.current snapshot).get? id = some (snapshot.statusOf id)) ↔
          ∀ id ∈ nodes.map Prod.fst, Unescaped id) := by
  rw [entityIds_eq_escaped free behind]
  obtain ⟨notices, tracked⟩ := History.track_eq_table ((nodes.map Prod.fst).map escaped).eraseDups
  refine ⟨rfl, eraseDups_escaped_iff, _, notices, tracked, ?_⟩
  simp only [shows_status_iff]
  rw [← subset_escaped_iff]
  exact ⟨fun shown => shown ⟨0, .empty⟩, fun among _ => among⟩

/-- An ampersand comes back as its reference, and the entity is not among those read. -/
theorem entityIds_drawn_ampersand :
    entityIds "<g id=\"a&amp;b\" class=\"node\">" = ["a&amp;b"] ∧
      "a&b" ∉ entityIds "<g id=\"a&amp;b\" class=\"node\">" := by
  have text : String.ofList (drawn [] [("a&b", [])]).text =
      "<g id=\"a&amp;b\" class=\"node\">" := by decide
  have read := (entityIds_drawn [] [("a&b", [])] (by decide) (by decide)).1
  rw [text] at read
  rw [read]
  decide

end TreeWatch.Diagram
