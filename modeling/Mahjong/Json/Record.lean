import Mahjong.Json.Tree
import Mahjong.SortedMap

/-!
This module contains the reading of records from JSON trees. A record is written as an object, whose
members may stand in any order and between members of other names, or as an array of its fields in
their own order.
-/

namespace Mahjong.Json

/--
The members that have one of the given names, or `none` if two of them have the same name.
-/
def pick? {α : Type} (names : List String) (members : List (String × α)) :
    Option (List (String × α)) :=
  let known := members.filter (names.contains ·.1)
  if (known.map (·.1)).Nodup then some known else none

/--
Give names to unnamed fields, or `none` if there are more of them than names.
-/
def align? {α : Type} (names : List String) (elements : List α) : Option (List (String × α)) :=
  if elements.length ≤ names.length then some (names.zip elements) else none

namespace Tree

/--
The members of an object, all of whose keys have to name texts.
-/
def members? : Tree → Option (List (String × Tree))
  | .object members => members.mapM fun (key, tree) => key.map (·, tree)
  | _ => none

/--
The fields of a record by their names.
-/
def fields? (names : List String) : Tree → Option (List (String × Tree))
  | .array elements => align? names elements
  | tree => tree.members?.bind (pick? names)

def string? : Tree → Option String
  | .string s => s
  | _ => none

/--
A number as a double, whether or not it is written as an integer.
-/
def float? : Tree → Option Float
  | .number n => n.toFloat?
  | _ => none

/--
What may be left out by writing `null`.
-/
def nullable? {α : Type} (read : Tree → Option α) : Tree → Option (Option α)
  | .null => some none
  | tree => (read tree).map some

/--
An object from texts to texts. Of members with the same key the last one counts.
-/
def stringMap? (tree : Tree) : Option (SortedMap String) := do
  let members ← tree.members?
  let entries ← members.mapM fun (key, tree) => tree.string?.map (key, ·)
  return .ofList entries

end Tree

/--
Read a field that has to be there.
-/
def required? {α β : Type} (fields : List (String × α)) (name : String) (read : α → Option β) :
    Option β :=
  (fields.lookup name).bind read

/--
Read a field that has a value of its own when it is left out.
-/
def optional? {α β : Type} (fields : List (String × α)) (name : String) (default : β)
    (read : α → Option β) : Option β :=
  match fields.lookup name with
  | none => some default
  | some tree => read tree

end Mahjong.Json
