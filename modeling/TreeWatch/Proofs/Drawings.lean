/-
This file proves that a drawing is read as it was written. A drawing is text with opening tags of
groups in between, and the scan for tags finds these and no others, because no piece of text
begins a tag and no tag ends before its own end (`nodes_groupTags`). Inside a tag the scan for
attributes takes each name together with its own value (`attributes_texts`). So the entities of a
drawing are the identifiers of the groups that are nodes, in the order of the drawing and each
once (`entityIds_drawing`).
-/

import TreeWatch.Diagram
import TreeWatch.Proofs.Text.Words

namespace TreeWatch.Diagram

/-! ### Attributes -/

namespace Attribute

/-- An attribute as a drawing holds it, with the blank before it. -/
def text (one : Attribute) : List Char :=
  ' ' :: (one.name ++ '=' :: '"' :: (one.value ++ ['"']))

/-- An attribute that can be read back: its name is a name, and its value ends neither itself
nor the tag. -/
structure Legible (one : Attribute) : Prop where
  name : ∃ first rest, one.name = first :: rest ∧ isNameStart first = true ∧
    ∀ char ∈ rest, isNameChar char = true
  value : ∀ char ∈ one.value, char ≠ '"' ∧ char ≠ '>'

/-- An attribute of plain characters: those of its name are of ASCII, and those of its value
stand for themselves. -/
structure Plain (one : Attribute) : Prop where
  start : ∃ first ∈ one.name.head?, first.isAlpha ∨ first ∈ ['_', ':']
  name : ∀ char ∈ one.name, char.isAlphanum ∨ char ∈ ['_', ':', '-', '.']
  value : ∀ char ∈ one.value, char ∉ ['"', '&', '<', '>']

theorem plain_iff {one : Attribute} :
    one.Plain ↔ (one.name.head?.any (fun first => first.isAlpha || ['_', ':'].contains first) &&
      one.name.all (fun char => char.isAlphanum || ['_', ':', '-', '.'].contains char) &&
      one.value.all fun char => !(['"', '&', '<', '>'].contains char)) = true := by
  simp only [Bool.and_eq_true, Option.any_eq_true, List.all_eq_true, Bool.or_eq_true,
    Bool.not_eq_true', ← Bool.not_eq_true, List.contains_iff_mem]
  constructor
  · exact fun plain => ⟨⟨plain.start, plain.name⟩, plain.value⟩
  · exact fun ⟨⟨start, name⟩, value⟩ => ⟨start, name, value⟩

instance : DecidablePred Plain := fun _ => decidable_of_iff _ plain_iff.symm

theorem isNameStart_of_plain {char : Char} (plain : char.isAlpha ∨ char ∈ ['_', ':']) :
    isNameStart char = true := by
  rcases plain with letter | mark
  · delta Char.isAlpha Char.isUpper Char.isLower at letter
    simp only [Bool.or_eq_true, Bool.and_eq_true, decide_eq_true_eq] at letter
    simp only [isNameStart, Bool.or_eq_true, Bool.and_eq_true, decide_eq_true_eq]
    exact .inl (.inl letter)
  · simp only [List.mem_cons, List.not_mem_nil, or_false] at mark
    rcases mark with rfl | rfl <;> decide

theorem isNameChar_of_plain {char : Char}
    (plain : char.isAlphanum ∨ char ∈ ['_', ':', '-', '.']) : isNameChar char = true := by
  rcases plain with word | mark
  · simp [isNameChar, Text.isWord_of_isAlphanum word]
  · simp only [List.mem_cons, List.not_mem_nil, or_false] at mark
    rcases mark with rfl | rfl | rfl | rfl <;> decide

theorem Plain.legible {one : Attribute} (plain : one.Plain) : one.Legible := by
  obtain ⟨first, head, start⟩ := plain.start
  obtain ⟨rest, name⟩ := List.head?_eq_some_iff.mp head
  refine ⟨⟨first, rest, name, isNameStart_of_plain start, fun char member => ?_⟩,
    fun char member => ?_⟩
  · exact isNameChar_of_plain (plain.name char (name ▸ List.mem_cons_of_mem first member))
  · have others := plain.value char member
    simp only [List.mem_cons, List.not_mem_nil, or_false, not_or] at others
    exact ⟨others.1, others.2.2.2⟩

end Attribute

variable {first : Char} {rest after : List Char}

/-- What begins with the rest of a name, an equals sign and a quoted value is that attribute. -/
theorem attribute?_quoted {value : List Char} (name : ∀ char ∈ rest, isNameChar char = true)
    (inside : ∀ char ∈ value, char ≠ '"') :
    attribute? first (rest ++ '=' :: '"' :: (value ++ '"' :: after)) =
      some (⟨first :: rest, value⟩, after) := by
  have equalSign : ¬ isNameChar '=' = true := by decide
  have solid : ∀ char ∈ value, (char != '"') = true := fun char member =>
    bne_iff_ne.mpr (inside char member)
  have behind : ('=' :: '"' :: (value ++ '"' :: after)).dropWhile Text.isBlank =
      '=' :: '"' :: (value ++ '"' :: after) := rfl
  have quoted : ('"' :: (value ++ '"' :: after)).dropWhile Text.isBlank =
      '"' :: (value ++ '"' :: after) := rfl
  simp only [attribute?, List.dropWhile_append_of_pos name, List.takeWhile_append_of_pos name,
    List.dropWhile_cons_of_neg equalSign, List.takeWhile_cons_of_neg equalSign, behind, quoted,
    List.dropWhile_append_of_pos solid, List.takeWhile_append_of_pos solid]
  simp

/-- Names do not begin with blanks. -/
theorem solid_of_isNameStart (start : isNameStart first = true) : Text.isBlank first = false := by
  have table : ∀ code ∈ Text.blanks, isNameStart (Char.ofNat code) = false := by decide
  cases blank : Text.isBlank first with
  | false => rfl
  | true =>
    rw [Text.isBlank, List.contains_iff_mem] at blank
    have other := table first.toNat blank
    rw [Char.ofNat_toNat, start] at other
    cases other

/-- Before another name a blank ends a name without a value. -/
theorem attribute?_blank {next : Char} (start : isNameStart next = true) :
    attribute? first (' ' :: next :: rest) = none := by
  have space : ¬ isNameChar ' ' = true := by decide
  have skipped : (' ' :: next :: rest).dropWhile Text.isBlank = next :: rest := by
    rw [List.dropWhile_cons_of_pos (by decide),
      List.dropWhile_cons_of_neg (by simp [solid_of_isNameStart start])]
  have other : next ≠ '=' := by
    rintro rfl
    exact absurd start (by decide)
  simp only [attribute?, List.dropWhile_cons_of_neg space, skipped]
  split
  · next same => exact absurd (List.cons.inj same).1 other
  · rfl

theorem attributes_skip (other : isNameStart first = false) :
    attributes (first :: rest) = attributes rest := by
  rw [attributes, if_neg (by simp [other])]

theorem attributes_found {found : Attribute} (start : isNameStart first = true)
    (read : attribute? first rest = some (found, after)) :
    attributes (first :: rest) = found :: attributes after := by
  rw [attributes, if_pos start]
  split
  · next same =>
    rw [read] at same
    cases same
    rfl
  · next same =>
    rw [read] at same
    cases same

theorem attributes_missed (start : isNameStart first = true)
    (read : attribute? first rest = none) :
    attributes (first :: rest) = attributes (rest.dropWhile isNameChar) := by
  rw [attributes, if_pos start]
  split
  · next same =>
    rw [read] at same
    cases same
  · rfl

theorem attributes_texts {written : List Attribute} (legible : ∀ one ∈ written, one.Legible) :
    attributes (written.flatMap Attribute.text) = written := by
  induction written with
  | nil => rw [List.flatMap_nil, attributes]
  | cons one written inductionHypothesis =>
    obtain ⟨⟨first, rest, name, start, chars⟩, value⟩ := legible one List.mem_cons_self
    have read : attribute? first (rest ++ '=' :: '"' ::
        (one.value ++ '"' :: written.flatMap Attribute.text)) =
          some (one, written.flatMap Attribute.text) := by
      rw [attribute?_quoted chars fun char member => (value char member).1, ← name]
    have shape : (one :: written).flatMap Attribute.text = ' ' :: first :: (rest ++ '=' :: '"' ::
        (one.value ++ '"' :: written.flatMap Attribute.text)) := by
      simp [Attribute.text, name]
    rw [shape, attributes_skip (by decide), attributes_found start read,
      inductionHypothesis fun other member => legible other (List.mem_cons_of_mem _ member)]

/-- The inside of a tag holds the attributes it was written with. -/
theorem attributes_tag {written : List Attribute} (legible : ∀ one ∈ written, one.Legible) :
    attributes ('g' :: written.flatMap Attribute.text) = written := by
  have start : isNameStart 'g' = true := by decide
  cases written with
  | nil =>
    rw [List.flatMap_nil, attributes_missed start rfl, List.dropWhile_nil, attributes]
  | cons one written =>
    obtain ⟨⟨first, rest, name, begins, -⟩, -⟩ := legible one List.mem_cons_self
    have texts := attributes_texts legible
    have shape : ∃ more, (one :: written).flatMap Attribute.text = ' ' :: first :: more := by
      rw [List.flatMap_cons, Attribute.text, name]
      exact ⟨_, rfl⟩
    obtain ⟨more, shape⟩ := shape
    rw [shape] at texts ⊢
    rw [attributes_missed start (attribute?_blank begins), List.dropWhile_cons_of_neg (by decide),
      texts]

/-! ### Tags -/

/-- An opening tag of a group begins here. -/
def Opens (text : List Char) : Prop :=
  ∃ blank rest, text = '<' :: 'g' :: blank :: rest ∧ Text.isBlank blank = true

/-- Nowhere in a text an opening tag of a group begins. -/
def Untagged (text : List Char) : Prop :=
  ∀ before blank after, text = before ++ '<' :: 'g' :: blank :: after → Text.isBlank blank = false

theorem opens_iff {text : List Char} :
    Opens text ↔ text.take 2 = ['<', 'g'] ∧ text[2]?.any Text.isBlank = true := by
  rw [Option.any_eq_true]
  constructor
  · rintro ⟨blank, rest, rfl, solid⟩
    exact ⟨rfl, blank, rfl, solid⟩
  · rintro ⟨start, blank, third, solid⟩
    rcases text with _ | ⟨first, _ | ⟨second, text⟩⟩
    · cases start
    · cases start
    · cases start
      cases text with
      | nil => cases third
      | cons _ rest =>
        cases third
        exact ⟨blank, rest, rfl, solid⟩

theorem untagged_nil : Untagged [] := fun before _ _ split => absurd split (by simp)

theorem untagged_cons {text : List Char} :
    Untagged (first :: text) ↔ ¬ Opens (first :: text) ∧ Untagged text := by
  constructor
  · intro untagged
    refine ⟨?_, fun before blank after split => ?_⟩
    · rintro ⟨blank, after, split, solid⟩
      rw [untagged [] blank after split] at solid
      cases solid
    · exact untagged (first :: before) blank after (congrArg (first :: ·) split)
  · rintro ⟨closed, later⟩ (_ | ⟨_, before⟩) blank after split
    · exact Bool.eq_false_iff.mpr fun solid => closed ⟨blank, after, split, solid⟩
    · exact later before blank after (List.cons.inj split).2

instance : DecidablePred Opens := fun _ => decidable_of_iff _ opens_iff.symm

instance decidableUntagged : DecidablePred Untagged
  | [] => isTrue untagged_nil
  | _ :: text =>
    have := decidableUntagged text
    decidable_of_iff _ untagged_cons.symm

theorem groupTags_opens {blank : Char} (solid : Text.isBlank blank = true) :
    groupTags none ('<' :: 'g' :: blank :: rest) = groupTags (some [blank, 'g']) rest := by
  rw [groupTags, if_pos solid]

theorem groupTags_skip (closed : ¬ Opens (first :: rest)) :
    groupTags none (first :: rest) = groupTags none rest := by
  rw [groupTags.eq_def]
  split
  · next impossible => cases impossible
  · next impossible _ => cases impossible
  · next blank behind _ same =>
    rw [if_neg fun solid => closed ⟨blank, behind, same, solid⟩, (List.cons.inj same).2]
  · next same => rw [(List.cons.inj same).2]

/-- A tag that has begun ends at the next closing bracket. -/
theorem groupTags_inside {inside content : List Char}
    (unfinished : ∀ char ∈ content, char ≠ '>') :
    groupTags (some inside) (content ++ '>' :: after) =
      (inside.reverse ++ content) :: groupTags none after := by
  induction content generalizing inside with
  | nil => rw [List.nil_append, groupTags, if_pos (by decide), List.append_nil]
  | cons char content inductionHypothesis =>
    have other : ¬ (char == '>') = true := by simpa using unfinished char List.mem_cons_self
    rw [List.cons_append, groupTags, if_neg other, inductionHypothesis fun char member =>
      unfinished char (List.mem_cons_of_mem _ member)]
    simp

/-- Text before a tag, or at the end, that begins no tag is passed over. -/
theorem groupTags_untagged {text : List Char} (untagged : Untagged text)
    (ahead : ∀ char ∈ rest.head?, char = '<') :
    groupTags none (text ++ rest) = groupTags none rest := by
  induction text with
  | nil => rfl
  | cons first text inductionHypothesis =>
    obtain ⟨free, later⟩ := untagged_cons.mp untagged
    have closed : ¬ Opens (first :: (text ++ rest)) := by
      rintro ⟨blank, behind, split, solid⟩
      -- A tag that begins in the text and ends up behind it would go on with the bracket there.
      rcases text with _ | ⟨second, _ | ⟨third, text⟩⟩
      · obtain ⟨-, rfl⟩ := List.cons.inj split
        exact absurd (ahead 'g' rfl) (by decide)
      · simp only [List.cons_append, List.nil_append, List.cons.injEq] at split
        obtain ⟨-, -, rfl⟩ := split
        exact absurd (ahead blank rfl ▸ solid) (by decide)
      · simp only [List.cons_append, List.cons.injEq] at split
        obtain ⟨rfl, rfl, rfl, -⟩ := split
        exact free ⟨third, text, rfl, solid⟩
    rw [List.cons_append, groupTags_skip closed, inductionHypothesis later]

/-! ### Nodes -/

/-- The last of some attributes that has this name has this value. -/
def LastIs (name : String) (written : List Attribute) (value : List Char) : Prop :=
  ∃ before after, written = before ++ ⟨name.toList, value⟩ :: after ∧
    ∀ one ∈ after, one.name ≠ name.toList

/-- A group with these attributes is a node with this identifier: `node` is among the words of
its class. -/
def Identifies (written : List Attribute) (id : EntityId) : Prop :=
  ∃ value classes, LastIs "id" written value ∧ LastIs "class" written classes ∧
    Text.Stands "node".toList classes ∧ id = String.ofList value

/-- These are the identifiers of the nodes among some groups, in order. -/
inductive Nodes : List (List Attribute) → List EntityId → Prop where
  | nil : Nodes [] []
  | node {written : List Attribute} {id : EntityId} {groups : List (List Attribute)}
      {ids : List EntityId} (identifies : Identifies written id) (rest : Nodes groups ids) :
      Nodes (written :: groups) (id :: ids)
  | other {written : List Attribute} {groups : List (List Attribute)} {ids : List EntityId}
      (nameless : ∀ id, ¬ Identifies written id) (rest : Nodes groups ids) :
      Nodes (written :: groups) ids

theorem lastValue?_eq_some_iff {name : String} {written : List Attribute} {value : List Char} :
    lastValue? name written = some value ↔ LastIs name written value := by
  unfold lastValue?
  rw [Option.map_eq_some_iff]
  simp only [List.find?_eq_some_iff_append, beq_iff_eq, Bool.not_eq_true', beq_eq_false_iff_ne]
  constructor
  · rintro ⟨⟨_, _⟩, ⟨rfl, later, earlier, split, others⟩, rfl⟩
    refine ⟨earlier.reverse, later.reverse, ?_, fun one member => others one (by simpa using member)⟩
    rw [← List.reverse_inj, split]
    simp
  · rintro ⟨before, after, rfl, others⟩
    refine ⟨⟨name.toList, value⟩,
      ⟨rfl, after.reverse, before.reverse, by simp, fun one member => ?_⟩, rfl⟩
    exact others one (by simpa using member)

theorem solid_node : ∀ char ∈ "node".toList, Text.isBlank char = false := by
  have solid : "node".toList.all (fun char => !Text.isBlank char) = true := by decide
  exact fun char member => (Bool.not_eq_true' _).mp (List.all_eq_true.mp solid char member)

theorem identifies_iff {written : List Attribute} {id : EntityId} :
    Identifies written id ↔ ∃ value classes, lastValue? "id" written = some value ∧
      lastValue? "class" written = some classes ∧ "node".toList ∈ Text.words classes ∧
      id = String.ofList value := by
  have nonempty : "node".toList ≠ [] := by decide
  simp only [Identifies, lastValue?_eq_some_iff, Text.mem_words_iff nonempty solid_node]

theorem nodeId?_eq_some_iff {tag : List Char} {id : EntityId} :
    nodeId? tag = some id ↔ Identifies (attributes tag) id := by
  rw [identifies_iff]
  simp only [nodeId?]
  generalize lastValue? "id" (attributes tag) = named
  generalize lastValue? "class" (attributes tag) = classed
  cases named with
  | none => simp
  | some value =>
    cases classed with
    | none => simp
    | some classes => simp [eq_comm]

theorem LastIs.unique {name : String} {written : List Attribute} {value other : List Char}
    (last : LastIs name written value) (also : LastIs name written other) : value = other := by
  rw [← lastValue?_eq_some_iff] at last also
  exact Option.some.inj (last.symm.trans also)

/-- A group has one identifier at most. -/
theorem Identifies.unique {written : List Attribute} {id other : EntityId}
    (identifies : Identifies written id) (also : Identifies written other) : id = other := by
  obtain ⟨value, _, last, _, _, rfl⟩ := identifies
  obtain ⟨_, _, same, _, _, rfl⟩ := also
  rw [last.unique same]

theorem Nodes.unique {groups : List (List Attribute)} {ids others : List EntityId}
    (nodes : Nodes groups ids) (also : Nodes groups others) : ids = others := by
  induction nodes generalizing others with
  | nil =>
    cases also
    rfl
  | node identifies _ inductionHypothesis =>
    cases also with
    | node same rest => rw [identifies.unique same, inductionHypothesis rest]
    | other nameless => exact absurd identifies (nameless _)
  | other nameless _ inductionHypothesis =>
    cases also with
    | node identifies => exact absurd identifies (nameless _)
    | other _ rest => exact inductionHypothesis rest

/-- One more tag in front adds its identifier if it is a node. -/
theorem Nodes.tag {groups : List (List Attribute)} {tags : List (List Char)}
    (nodes : Nodes groups (tags.filterMap nodeId?)) (tag : List Char) :
    Nodes (attributes tag :: groups) ((tag :: tags).filterMap nodeId?) := by
  cases read : nodeId? tag with
  | none =>
    rw [List.filterMap_cons_none read]
    refine .other (fun id identifies => ?_) nodes
    rw [← nodeId?_eq_some_iff, read] at identifies
    cases identifies
  | some id =>
    rw [List.filterMap_cons_some read]
    exact .node (nodeId?_eq_some_iff.mp read) nodes

theorem firstOccurrences_eq (ids : List EntityId) : firstOccurrences ids = ids.eraseDups := by
  have scan (ids seen : List EntityId) : List.eraseDupsBy.loop (· == ·) ids seen =
      (ids.foldl (fun seen id => if seen.contains id then seen else id :: seen) seen).reverse := by
    induction ids generalizing seen with
    | nil => rfl
    | cons id ids inductionHypothesis =>
      rw [List.eraseDupsBy.loop, List.foldl_cons, List.contains_eq_any_beq]
      cases seen.any (id == ·) with
      | true => exact inductionHypothesis seen
      | false => exact inductionHypothesis (id :: seen)
  exact (scan ids []).symm

/-! ### Drawings -/

/-- A drawing: some text, then opening tags of groups, each with its attributes and the text
behind it. -/
structure Drawing where
  front : List Char
  groups : List (List Attribute × List Char)

namespace Drawing

/-- An opening tag of a group. -/
def tag (written : List Attribute) : List Char :=
  '<' :: 'g' :: (written.flatMap Attribute.text ++ ['>'])

/-- Groups, each with the text behind it. -/
def groupsText (groups : List (List Attribute × List Char)) : List Char :=
  groups.flatMap fun group => tag group.1 ++ group.2

def text (drawing : Drawing) : List Char := drawing.front ++ groupsText drawing.groups

/-- Everything in a drawing can be read back. -/
structure Legible (drawing : Drawing) : Prop where
  front : Untagged drawing.front
  attributes : ∀ group ∈ drawing.groups, ∀ one ∈ group.1, one.Legible
  behind : ∀ group ∈ drawing.groups, Untagged group.2

/-- A drawing that holds plain attributes only and otherwise text in which no tag of a group
begins. -/
structure Plain (drawing : Drawing) : Prop where
  front : Untagged drawing.front
  attributes : ∀ group ∈ drawing.groups, ∀ one ∈ group.1, one.Plain
  behind : ∀ group ∈ drawing.groups, Untagged group.2

theorem Plain.legible {drawing : Drawing} (plain : drawing.Plain) : drawing.Legible where
  front := plain.front
  attributes group among one member := (plain.attributes group among one member).legible
  behind := plain.behind

theorem plain_iff {drawing : Drawing} :
    drawing.Plain ↔ Untagged drawing.front ∧
      (∀ group ∈ drawing.groups, ∀ one ∈ group.1, one.Plain) ∧
      ∀ group ∈ drawing.groups, Untagged group.2 :=
  ⟨fun plain => ⟨plain.front, plain.attributes, plain.behind⟩,
    fun conditions => ⟨conditions.1, conditions.2.1, conditions.2.2⟩⟩

instance : DecidablePred Plain := fun _ => decidable_of_iff _ plain_iff.symm

theorem head_groupsText (groups : List (List Attribute × List Char)) :
    ∀ char ∈ (groupsText groups).head?, char = '<' := by
  cases groups with
  | nil => nofun
  | cons group groups => simp [groupsText, tag]

end Drawing

open Drawing

theorem unclosed_texts {written : List Attribute} (legible : ∀ one ∈ written, one.Legible) :
    ∀ char ∈ written.flatMap Attribute.text, char ≠ '>' := by
  rintro char member rfl
  obtain ⟨one, among, inside⟩ := List.mem_flatMap.mp member
  obtain ⟨⟨first, rest, name, start, chars⟩, value⟩ := legible one among
  simp only [Attribute.text, name, List.mem_cons, List.mem_append, List.not_mem_nil, or_false,
    List.cons_append, Char.reduceEq, false_or] at inside
  rcases inside with same | inRest | inValue
  · exact absurd (same ▸ start) (by decide)
  · exact absurd (chars '>' inRest) (by decide)
  · exact (value '>' inValue).2 rfl

/-- The opening tag that has attributes is found, with what stands in it. -/
theorem groupTags_tag {one : Attribute} {written : List Attribute}
    (legible : ∀ other ∈ one :: written, other.Legible) :
    groupTags none (tag (one :: written) ++ rest) =
      ('g' :: (one :: written).flatMap Attribute.text) :: groupTags none rest := by
  obtain ⟨inside, shape⟩ : ∃ inside, (one :: written).flatMap Attribute.text = ' ' :: inside :=
    ⟨_, rfl⟩
  have unclosed := unclosed_texts legible
  rw [shape] at unclosed
  have laidOut : tag (one :: written) ++ rest = '<' :: 'g' :: ' ' :: (inside ++ '>' :: rest) := by
    rw [tag, shape]
    simp
  rw [laidOut, groupTags_opens (by decide), shape, groupTags_inside fun char member =>
    unclosed char (List.mem_cons_of_mem _ member)]
  rfl

/-- A tag without attributes is none the scan looks for. -/
theorem groupTags_bare : groupTags none (tag [] ++ rest) = groupTags none rest := by
  have closed : ¬ Opens ('<' :: 'g' :: '>' :: rest) := by
    rintro ⟨blank, _, split, solid⟩
    simp only [List.cons.injEq, true_and] at split
    exact absurd (split.1 ▸ solid) (by decide)
  have letter : ¬ Opens ('g' :: '>' :: rest) := by
    rintro ⟨_, _, split, -⟩
    cases split
  have bracket : ¬ Opens ('>' :: rest) := by
    rintro ⟨_, _, split, -⟩
    cases split
  calc groupTags none (tag [] ++ rest) = groupTags none ('<' :: 'g' :: '>' :: rest) := rfl
    _ = groupTags none rest := by
      rw [groupTags_skip closed, groupTags_skip letter, groupTags_skip bracket]

/-- What the scan reads from groups are the identifiers of the nodes among them. -/
theorem nodes_groupTags {groups : List (List Attribute × List Char)}
    (legible : ∀ group ∈ groups, ∀ one ∈ group.1, one.Legible)
    (behind : ∀ group ∈ groups, Untagged group.2) :
    Nodes (groups.map Prod.fst) ((groupTags none (groupsText groups)).filterMap nodeId?) := by
  induction groups with
  | nil =>
    rw [groupsText, List.flatMap_nil, groupTags]
    exact .nil
  | cons group groups inductionHypothesis =>
    obtain ⟨written, piece⟩ := group
    have rest := inductionHypothesis (fun other member => legible other (.tail _ member))
      fun other member => behind other (.tail _ member)
    have shape : groupsText ((written, piece) :: groups) =
        tag written ++ (piece ++ groupsText groups) := by simp [groupsText]
    have passed : groupTags none (piece ++ groupsText groups) = groupTags none (groupsText groups) :=
      groupTags_untagged (behind _ List.mem_cons_self) (head_groupsText groups)
    rw [shape, List.map_cons]
    cases written with
    | nil =>
      rw [groupTags_bare, passed]
      refine .other ?_ rest
      rintro id ⟨value, _, ⟨before, after, split, -⟩, -⟩
      exact absurd split (by simp)
    | cons one written =>
      have each := legible _ List.mem_cons_self
      have here := rest.tag ('g' :: (one :: written).flatMap Attribute.text)
      rw [attributes_tag each] at here
      rwa [groupTags_tag each, passed]

/-- The entities of a drawing that can be read back are its nodes, each once. -/
theorem entityIds_legible {drawing : Drawing} (legible : drawing.Legible) :
    ∃ ids, Nodes (drawing.groups.map Prod.fst) ids ∧
      entityIds (String.ofList drawing.text) = ids.eraseDups := by
  refine ⟨_, nodes_groupTags legible.attributes legible.behind, ?_⟩
  rw [entityIds, String.toList_ofList, Drawing.text,
    groupTags_untagged legible.front (head_groupsText _), firstOccurrences_eq]

/-- The entities of a plain drawing are the identifiers of the groups in it that are nodes, in
the order of the drawing and each where it first occurs. -/
theorem entityIds_drawing (drawing : Drawing) (plain : drawing.Plain) :
    ∃ ids, (∀ others, Nodes (drawing.groups.map Prod.fst) others ↔ others = ids) ∧
      entityIds (String.ofList drawing.text) = ids.eraseDups := by
  obtain ⟨ids, nodes, read⟩ := entityIds_legible plain.legible
  refine ⟨ids, fun others => ⟨fun also => also.unique nodes, ?_⟩, read⟩
  rintro rfl
  exact nodes

/-- One node twice, the first time with another name in between, a group whose class has
`node` only as a part of a word, and one without attributes. -/
def sketch : Drawing where
  front := "<svg>".toList
  groups :=
    [([⟨"id".toList, "Y".toList⟩, ⟨"id".toList, "X".toList⟩, ⟨"data-id".toList, "Z".toList⟩,
        ⟨"class".toList, "leaf node".toList⟩], "<a>".toList),
      ([⟨"class".toList, "nodes".toList⟩, ⟨"id".toList, "N".toList⟩], "</g>".toList),
      ([], "<g".toList),
      ([⟨"class".toList, "node".toList⟩, ⟨"id".toList, "X".toList⟩], [])]

theorem entityIds_drawing_sketch :
    sketch.Plain ∧ entityIds (String.ofList sketch.text) = ["X"] := by
  have plain : sketch.Plain := by decide
  have nodes : Nodes (sketch.groups.map Prod.fst) ["X", "X"] := by
    refine .node ?_ (.other (fun id => ?_) (.other (fun id => ?_) (.node ?_ .nil)))
    all_goals rw [identifies_iff]
    · exact ⟨"X".toList, "leaf node".toList, by decide, by decide, by decide, by decide⟩
    · rintro ⟨_, classes, -, last, word, -⟩
      obtain rfl : "nodes".toList = classes := Option.some.inj last
      exact absurd word (by decide)
    · rintro ⟨_, _, last, -⟩
      cases last
    · exact ⟨"X".toList, "node".toList, by decide, by decide, by decide, by decide⟩
  obtain ⟨ids, only, read⟩ := entityIds_drawing sketch plain
  refine ⟨plain, read.trans ?_⟩
  rw [← (only _).mp nodes]
  decide

end TreeWatch.Diagram
