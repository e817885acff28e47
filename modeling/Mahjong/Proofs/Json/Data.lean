import Mahjong.Json.Data

/-!
This module contains what can be written without an error: values, records of what can be written,
and maps whose keys are texts.
-/

namespace Mahjong.Json.Data

theorem toValue_ofMembers (members : List (String × Value))
    : (ofMembers members).toValue = .ok (.object members) := by
  have hfields : fieldValues (members.map fun member => (member.1, .value member.2))
      =
    .ok members := by
    induction members with
    | nil => rfl
    | cons member rest ih =>
      rw [List.map_cons, fieldValues, toValue, ih]
      rfl
  unfold ofMembers
  rw [toValue, hfields]
  rfl

theorem toValue_list_map {α : Type} (f : α → Value) (row : List α)
    : (list (row.map (.value <| f ·))).toValue = .ok (.array (row.map f)) := by
  have helements : elementValues (row.map (.value <| f ·)) = .ok (row.map f) := by
    induction row with
    | nil => rfl
    | cons a rest ih =>
      rw [List.map_cons, elementValues, toValue, ih]
      rfl
  rw [toValue, helements]
  rfl

theorem toValue_map_map {α : Type} (f : α → Value) (entries : List (String × α))
    : (map (entries.map fun entry => (.value (.string entry.1), .value (f entry.2)))).toValue
        =
      .ok (.object (entries.map fun entry => (entry.1, f entry.2))) := by
  have hentries :
      entryValues (entries.map fun entry => (.value (.string entry.1), .value (f entry.2)))
        =
      .ok (entries.map fun entry => (entry.1, f entry.2)) := by
    induction entries with
    | nil => rfl
    | cons entry rest ih =>
      rw [List.map_cons, entryValues, toKey, toValue, ih]
      rfl
  rw [toValue, hentries]
  rfl

/--
Two values of one map under keys that are no texts.
-/
example : (map [(.value (.string "a"), .list []), (.list [], .value .null)]).compact
    =
  .error .keyNotText := by
  rfl

section

variable {d : Data} {v : Value} (h : d.toValue = .ok v)
include h

theorem compact_of_toValue : d.compact = .ok v.compact := by
  unfold compact
  rw [h]
  rfl

theorem indented_of_toValue : d.indented = .ok v.indented := by
  unfold indented
  rw [h]
  rfl

theorem canonicalText_of_toValue : d.canonicalText = .ok v.canonicalText := by
  unfold canonicalText
  rw [h]
  rfl

end

end Mahjong.Json.Data
