import Mahjong.Proofs.Json.Spelling
import Mahjong.Render.Rendering

/-!
This module contains the spellings that the JSON forms are read from: a record is the same in each of
them, and an instruction is the same wherever its type stands among its members.
-/

namespace Mahjong

open Json

theorem Overrides.ofTree?_eq_of_respells {s t : Tree}
    (h : s.Respells ["baseUrl", "tileDesigns"] t)
    : ofTree? s = ofTree? t := by
  apply h.bind_fields? (by decide)
  intro fields fields' hlookup
  simp only [optional?, hlookup]

theorem Style.ofTree?_eq_of_respells {s t : Tree}
    (h : s.Respells ["tileDesigns", "tileWidth", "tileHeight", "tileGap", "spaceWidth"] t)
    : ofTree? s = ofTree? t := by
  apply h.bind_fields? (by decide)
  intro fields fields' hlookup
  simp only [Dimensions.ofFields?, required?, hlookup]

theorem Theme.ofTree?_eq_of_respells {s t : Tree}
    (h : s.Respells ["id", "name", "engineMinVersion", "tileDesigns", "tileWidth", "tileHeight",
      "tileGap", "spaceWidth"] t)
    : ofTree? s = ofTree? t := by
  apply h.bind_fields? (by decide)
  intro fields fields' hlookup
  simp only [Dimensions.ofFields?, required?, optional?, hlookup]

theorem Request.ofTree?_eq_of_respells {s t : Tree}
    (h : s.Respells ["notation", "theme", "overrides"] t)
    : ofTree? s = ofTree? t := by
  apply h.bind_fields? (by decide)
  intro fields fields' hlookup
  simp only [required?, optional?, hlookup]

theorem Rendering.ofTree?_eq_of_respells {s t : Tree}
    (h : s.Respells ["themeId", "engineVersion", "instructions", "markup", "width", "height",
      "requestHash", "markupHash"] t)
    : ofTree? s = ofTree? t := by
  apply h.bind_fields? (by decide)
  intro fields fields' hlookup
  simp only [required?, hlookup]

namespace Instruction

theorem ofMembers?_eq_of_perm (type : String) {members others : List (String × Value)}
    (h : members.Perm others)
    : ofMembers? type members = ofMembers? type others := by
  unfold ofMembers?
  split
  . apply bind_pick?_eq_of_perm h
    intro fields fields' hlookup
    simp only [hlookup]
  . rfl
  . rfl

/--
The type of an instruction can be any one of its members.
-/
theorem ofValue?_object_eq_of_perm {members others : List (String × Value)}
    (h : members.Perm others)
    : ofValue? (.object members) = ofValue? (.object others) := by
  have htypes := h.filter (·.1 == "type")
  have hrest := h.filter (·.1 != "type")
  unfold ofValue?
  dsimp only
  generalize members.filter (·.1 == "type") = types at *
  generalize others.filter (·.1 == "type") = types' at *
  split
  . rw [← List.singleton_perm.1 htypes]
    apply ofMembers?_eq_of_perm _ hrest
  . next hnot =>
    split
    . next name type =>
      have := List.perm_singleton.1 htypes
      exact absurd this (hnot name type)
    . rfl

theorem ofMembers?_cons_of_not_mem {name : String} (h : name ∉ ["tileKey", "tileOrient"])
    (type : String) (v : Value) (members : List (String × Value))
    : ofMembers? type ((name, v) :: members) = ofMembers? type members := by
  unfold ofMembers?
  rw [pick?_cons_of_not_mem h]

theorem ofValue?_object_cons_of_not_mem {name : String}
    (h : name ∉ ["type", "tileKey", "tileOrient"]) (v : Value) (members : List (String × Value))
    : ofValue? (.object ((name, v) :: members)) = ofValue? (.object members) := by
  have htype := List.ne_of_not_mem_cons h
  have hnot := List.not_mem_of_not_mem_cons h
  unfold ofValue?
  dsimp only
  rw [List.filter_cons_of_neg (by simpa using htype), List.filter_cons_of_pos (by simpa using htype)]
  simp only [ofMembers?_cons_of_not_mem hnot]

end Instruction

end Mahjong
