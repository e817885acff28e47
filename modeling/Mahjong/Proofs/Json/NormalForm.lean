import Mathlib
import Mahjong.Proofs.Json.Canonical
import Mahjong.Proofs.Json.Outline

/-!
This module contains the proof that the canonical text of a value is a normal form: it is the same
for values that are the same up to the order of members, and it reads back as such a value.
-/

namespace Mahjong.Json.Value

theorem ofText?_canonicalText {v : Value} (h : v.IsReadable maxDepth)
    : ofText? v.canonicalText = some v.canonical := by
  exact ofText?_compact h.canonical

theorem canonicalText_eq_iff {v w : Value} (hv : v.IsReadable maxDepth)
    (hw : w.IsReadable maxDepth)
    : v.canonicalText = w.canonicalText ↔ Same v w := by
  rw [← canonical_eq_iff]
  constructor
  . intro h
    have hread := ofText?_canonicalText hv
    rw [h, ofText?_canonicalText hw] at hread
    exact (Option.some.inj hread).symm
  . intro h
    unfold canonicalText
    rw [h]

theorem same_canonical (v : Value) : Same v v.canonical := by
  rw [← canonical_eq_iff, canonical_canonical]

theorem canonicalText_canonical (v : Value) : v.canonical.canonicalText = v.canonicalText := by
  unfold canonicalText
  rw [canonical_canonical]

theorem run?_canonicalText (v : Value) (depth : Nat)
    : run? Outline.next? ⟨.outside, depth⟩ v.canonicalText.toList = some ⟨.outside, depth⟩ := by
  unfold canonicalText compact
  rw [String.toList_ofList]
  apply Outline.run?_write

theorem isBlank_canonicalText (v : Value)
    : ∀ c ∈ outsideStrings .outside v.canonicalText.toList, Text.isBlank c = false := by
  exact Outline.isBlank_of_mem_outsideStrings (run?_canonicalText v 0)

theorem canonicalText_normal {text1 text2 : String} {v1 v2 : Value}
    (h1 : ofText? text1 = some v1) (h2 : ofText? text2 = some v2)
    : (v1.canonicalText = v2.canonicalText ↔ Same v1 v2) ∧
      ∃ w,
        ofText? v1.canonicalText = some w ∧
        Same v1 w ∧
        w.canonicalText = v1.canonicalText ∧
        w.IsSorted ∧
        ∀ c ∈ outsideStrings .outside v1.canonicalText.toList, Text.isBlank c = false := by
  have hread1 := isReadable_of_ofText? h1
  have hread2 := isReadable_of_ofText? h2
  refine ⟨canonicalText_eq_iff hread1 hread2, v1.canonical, ?_, ?_, ?_, ?_, ?_⟩
  . exact ofText?_canonicalText hread1
  . exact same_canonical v1
  . exact canonicalText_canonical v1
  . exact isSorted_canonical v1
  . exact isBlank_canonicalText v1

theorem canonicalText_normal_members
    : ∃ v1 v2,
        ofText? "[\x7b\"b\": 1, \"a\": 2, \"b\": 3\x7d]" = some v1 ∧
        ofText? "[\x7b\"a\":2,\"b\":3\x7d]" = some v2 ∧
        Same v1 v2 := by
  have h1 : ofText? "[\x7b\"b\": 1, \"a\": 2, \"b\": 3\x7d]"
      =
    some (.array [.object [("b", .int 1), ("a", .int 2), ("b", .int 3)]]) := by
    cbv
  have h2 : ofText? "[\x7b\"a\":2,\"b\":3\x7d]"
      =
    some (.array [.object [("a", .int 2), ("b", .int 3)]]) := by
    cbv
  refine ⟨_, _, h1, h2, (canonicalText_normal h1 h2).1.1 ?_⟩
  cbv

end Mahjong.Json.Value
