/-
This file finds the entities of a rendered diagram. Every node of the behaviour tree
is drawn as a group whose `class` contains the word `node`, and the group's `id` names
the entity. The drawing is not checked to be well formed: opening tags of groups are
taken one after the other, and inside each of them everything that reads as a quoted
attribute counts. Where an attribute repeats, its last value holds. Values are taken
as they are written.
-/

import TreeWatch.Status
import TreeWatch.Text.Word

namespace TreeWatch

namespace Diagram

/-- An attribute as it is written. -/
structure Attribute where
  name : List Char
  value : List Char
  deriving DecidableEq

/-- The characters an attribute name can begin with. -/
def isNameStart (char : Char) : Bool :=
  ('A' ≤ char && char ≤ 'Z') || ('a' ≤ char && char ≤ 'z') || char == '_' || char == ':'

/-- The characters an attribute name can go on with. -/
def isNameChar (char : Char) : Bool :=
  Text.isWord char || char == '-' || char == ':' || char == '.'

/-- The attribute that starts at the front, whose name starts with `first`, and the
text after it. -/
def attribute? (first : Char) (rest : List Char) : Option (Attribute × List Char) :=
  let afterName := rest.dropWhile isNameChar
  match afterName.dropWhile Text.isBlank with
  | '=' :: afterEqual =>
    match afterEqual.dropWhile Text.isBlank with
    | '"' :: quoted =>
      match quoted.dropWhile (· != '"') with
      | [] => none
      | _ :: after =>
        some (⟨first :: rest.takeWhile isNameChar, quoted.takeWhile (· != '"')⟩, after)
    | _ => none
  | _ => none

theorem length_dropWhile_le (p : Char → Bool) (text : List Char) :
    (text.dropWhile p).length ≤ text.length :=
  (List.dropWhile_sublist p).length_le

/-- An attribute uses up some of the text. -/
theorem length_lt_of_attribute? {first : Char} {rest after : List Char} {found : Attribute}
    (read : attribute? first rest = some (found, after)) : after.length < rest.length := by
  unfold attribute? at read
  simp only at read
  split at read
  · next afterEqual equalSign =>
    split at read
    · next quoted quote =>
      split at read
      · cases read
      · next last remaining closing =>
        simp only [Option.some.injEq, Prod.mk.injEq] at read
        obtain ⟨-, rfl⟩ := read
        have one := length_dropWhile_le isNameChar rest
        have two := length_dropWhile_le Text.isBlank (rest.dropWhile isNameChar)
        have three := length_dropWhile_le Text.isBlank afterEqual
        have four := length_dropWhile_le (· != '"') quoted
        rw [equalSign] at two
        rw [quote] at three
        rw [closing] at four
        simp only [List.length_cons] at two three four
        omega
    · cases read
  · cases read

/-- All attributes in a text, from left to right. Whether one starts with a name only
depends on what follows the name, so where none does, none starts inside the name. -/
def attributes : List Char → List Attribute
  | [] => []
  | char :: rest =>
    if isNameStart char then
      match _read : attribute? char rest with
      | some (found, after) => found :: attributes after
      | none => attributes (rest.dropWhile isNameChar)
    else attributes rest
termination_by text => text.length
decreasing_by
  · have := length_lt_of_attribute? _read
    simp only [List.length_cons]
    omega
  · have := length_dropWhile_le isNameChar rest
    simp only [List.length_cons]
    omega
  · simp

/-- The opening tags of groups, each without its angle brackets; `inside` holds the
characters of a tag that has begun, last one first. -/
def groupTags : Option (List Char) → List Char → List (List Char)
  | _, [] => []
  | some inside, char :: rest =>
    if char == '>' then inside.reverse :: groupTags none rest
    else groupTags (some (char :: inside)) rest
  | none, '<' :: 'g' :: blank :: rest =>
    if Text.isBlank blank then groupTags (some [blank, 'g']) rest
    else groupTags none ('g' :: blank :: rest)
  | none, _ :: rest => groupTags none rest

/-- The last value of an attribute. -/
def lastValue? (name : String) (found : List Attribute) : Option (List Char) :=
  (found.reverse.find? fun one => one.name == name.toList).map (·.value)

/-- The entity a group stands for, if it is a node and has an identifier. -/
def nodeId? (tag : List Char) : Option EntityId :=
  let found := attributes tag
  match lastValue? "id" found, lastValue? "class" found with
  | some id, some classes =>
    if (Text.words classes).contains "node".toList then some (String.ofList id) else none
  | _, _ => none

/-- Keeps the first occurrence of everything. -/
def firstOccurrences (ids : List EntityId) : List EntityId :=
  (ids.foldl (fun seen id => if seen.contains id then seen else id :: seen) []).reverse

/-- The entities of a diagram in the order they are drawn, each once. -/
def entityIds (drawing : String) : List EntityId :=
  firstOccurrences ((groupTags none drawing.toList).filterMap nodeId?)

end Diagram

end TreeWatch
