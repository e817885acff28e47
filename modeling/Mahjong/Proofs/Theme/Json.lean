import Mahjong.Proofs.Json.Data
import Mahjong.Proofs.Json.Record
import Mahjong.Theme.Json

/-!
This module contains the proof that styles, themes and overrides are read from their own JSON forms.
Dimensions are, too, if all of them are finite, and only then.
-/

namespace Mahjong

open Json

theorem stringMap?_designs (designs : SortedMap String)
    : (designsToValue designs).tree.stringMap? = some designs := by
  unfold designsToValue Tree.stringMap?
  rw [Tree.members?_tree, Option.bind_eq_bind, Option.bind_some]
  unfold fieldTrees SortedMap.map
  dsimp only
  rw [List.map_map, mapM_map_of_read, Option.bind_eq_bind, Option.bind_some,
    SortedMap.ofList_entries]
  . rfl
  . intro entry
    rfl

theorem toValue_designsToData (designs : SortedMap String)
    : (designsToData designs).toValue = .ok (designsToValue designs) := by
  exact Data.toValue_map_map .string designs.entries

namespace Dimensions

def IsFinite (d : Dimensions Float) : Prop :=
  ∀ member ∈ [d.tileWidth, d.tileHeight, d.tileGap, d.spaceWidth], Decimal.isFinite member

theorem ofFields?_fieldTrees {d : Dimensions Float} {members : List (String × Value)}
    (hmembers : ∀ member ∈ d.toMembers, members.lookup member.1 = some member.2)
    : ofFields? (fieldTrees members)
        =
      do
        return {
          tileWidth := ← (Value.float d.tileWidth).tree.float?
          tileHeight := ← (Value.float d.tileHeight).tree.float?
          tileGap := ← (Value.float d.tileGap).tree.float?
          spaceWidth := ← (Value.float d.spaceWidth).tree.float? } := by
  unfold toMembers at hmembers
  simp only [List.forall_mem_cons] at hmembers
  rcases hmembers with ⟨hwidth, hheight, hgap, hspace, _⟩
  unfold ofFields?
  rw [required?_fieldTrees hwidth, required?_fieldTrees hheight, required?_fieldTrees hgap,
    required?_fieldTrees hspace]

theorem ofFields?_of_isFinite {d : Dimensions Float} (hd : d.IsFinite)
    {members : List (String × Value)}
    (hmembers : ∀ member ∈ d.toMembers, members.lookup member.1 = some member.2)
    : ofFields? (fieldTrees members) = some d := by
  unfold IsFinite at hd
  simp only [List.forall_mem_cons] at hd
  rcases hd with ⟨hwidth, hheight, hgap, hspace, _⟩
  rw [ofFields?_fieldTrees hmembers, Tree.float?_tree_of_isFinite hwidth,
    Tree.float?_tree_of_isFinite hheight, Tree.float?_tree_of_isFinite hgap,
    Tree.float?_tree_of_isFinite hspace]
  rfl

/--
A number that is not finite is written as null, which is read as no number.
-/
theorem ofFields?_of_not_isFinite {d : Dimensions Float} (hd : ¬d.IsFinite)
    {members : List (String × Value)}
    (hmembers : ∀ member ∈ d.toMembers, members.lookup member.1 = some member.2)
    : ofFields? (fieldTrees members) = none := by
  rw [Option.eq_none_iff_forall_ne_some]
  intro read hread
  apply hd
  rw [ofFields?_fieldTrees hmembers] at hread
  simp only [Option.bind_eq_bind, Option.bind_eq_some_iff] at hread
  rcases hread with ⟨width, hwidth, height, hheight, gap, hgap, space, hspace, _⟩
  have hfinite : ∀ {x y : Float}, (Value.float x).tree.float? = some y → Decimal.isFinite x := by
    intro x y h
    by_contra hx
    rw [Tree.float?_tree_of_not_isFinite hx] at h
    contradiction
  unfold IsFinite
  simp only [List.forall_mem_cons]
  exact ⟨hfinite hwidth, hfinite hheight, hfinite hgap, hfinite hspace, by simp⟩

theorem isFinite_of_ofFields? {fields : List (String × Tree)} {d : Dimensions Float}
    (h : ofFields? fields = some d)
    : d.IsFinite := by
  unfold ofFields? at h
  simp only [Option.bind_eq_bind, Option.bind_eq_some_iff] at h
  rcases h with ⟨width, hwidth, height, hheight, gap, hgap, space, hspace, hd⟩
  have hd := Option.some.inj hd
  subst hd
  unfold IsFinite
  simp only [List.forall_mem_cons]
  exact ⟨isFinite_of_required? hwidth, isFinite_of_required? hheight, isFinite_of_required? hgap,
    isFinite_of_required? hspace, by simp⟩

end Dimensions

namespace Style

theorem lookup_toMembers (style : Style Float)
    : ∀ member ∈ style.dimensions.toMembers,
        style.toMembers.lookup member.1 = some member.2 := by
  simp only [Dimensions.toMembers, List.forall_mem_cons]
  exact ⟨rfl, rfl, rfl, rfl, by simp⟩

theorem ofTree?_tree {style : Style Float} (h : style.dimensions.IsFinite)
    : ofTree? style.toValue.tree = some style := by
  have hfields : style.toValue.tree.fields?
      ["tileDesigns", "tileWidth", "tileHeight", "tileGap", "spaceWidth"]
      =
    some (fieldTrees style.toMembers) := by
    apply Tree.fields?_tree
    . rfl
    . decide
  have hdesigns : required? (fieldTrees style.toMembers) "tileDesigns" Tree.stringMap?
      =
    some style.designs := by
    exact stringMap?_designs style.designs
  unfold ofTree?
  rw [hfields, Option.bind_eq_bind, Option.bind_some, hdesigns,
    Dimensions.ofFields?_of_isFinite h (lookup_toMembers style)]
  rfl

theorem isFinite_of_ofTree? {tree : Tree} {style : Style Float} (h : ofTree? tree = some style)
    : style.dimensions.IsFinite := by
  unfold ofTree? at h
  simp only [Option.bind_eq_bind, Option.bind_eq_some_iff] at h
  rcases h with ⟨fields, _, designs, _, d, hd, hstyle⟩
  have hstyle := Option.some.inj hstyle
  subst hstyle
  exact Dimensions.isFinite_of_ofFields? hd

end Style

namespace Theme

theorem lookup_toMembers (theme : Theme)
    : ∀ member ∈ theme.dimensions.toMembers,
        theme.toMembers.lookup member.1 = some member.2 := by
  simp only [Dimensions.toMembers, List.forall_mem_cons]
  exact ⟨rfl, rfl, rfl, rfl, by simp⟩

/--
Whether a theme is read from its own JSON form depends on its dimensions alone.
-/
theorem ofTree?_tree_eq (theme : Theme)
    : ofTree? theme.toValue.tree
        =
      (Dimensions.ofFields? (fieldTrees theme.toMembers)).map
        fun dimensions => { theme with dimensions } := by
  have hfields : theme.toValue.tree.fields?
      ["id", "name", "engineMinVersion", "tileDesigns", "tileWidth", "tileHeight", "tileGap",
        "spaceWidth"]
      =
    some (fieldTrees theme.toMembers) := by
    apply Tree.fields?_tree
    . rfl
    . decide
  have hid : required? (fieldTrees theme.toMembers) "id" Tree.string? = some theme.id := by
    rfl
  have hname : required? (fieldTrees theme.toMembers) "name" Tree.string? = some theme.name := by
    rfl
  have hversion : optional? (fieldTrees theme.toMembers) "engineMinVersion" defaultMinVersion
      Tree.string?
      =
    some theme.engineMinVersion := by
    rfl
  have hdesigns : required? (fieldTrees theme.toMembers) "tileDesigns" Tree.stringMap?
      =
    some theme.designs := by
    exact stringMap?_designs theme.designs
  unfold ofTree?
  rw [hfields, Option.bind_eq_bind, Option.bind_some, hid, hname, hversion, hdesigns]
  cases Dimensions.ofFields? (fieldTrees theme.toMembers) with
  | none => rfl
  | some d => rfl

theorem ofTree?_tree {theme : Theme} (h : theme.dimensions.IsFinite)
    : ofTree? theme.toValue.tree = some theme := by
  rw [ofTree?_tree_eq, Dimensions.ofFields?_of_isFinite h (lookup_toMembers theme)]
  rfl

theorem ofTree?_tree_of_not_isFinite {theme : Theme} (h : ¬theme.dimensions.IsFinite)
    : ofTree? theme.toValue.tree = none := by
  rw [ofTree?_tree_eq, Dimensions.ofFields?_of_not_isFinite h (lookup_toMembers theme)]
  rfl

theorem isFinite_of_ofTree? {tree : Tree} {theme : Theme} (h : ofTree? tree = some theme)
    : theme.dimensions.IsFinite := by
  unfold ofTree? at h
  simp only [Option.bind_eq_bind, Option.bind_eq_some_iff] at h
  rcases h with ⟨fields, _, id, _, name, _, version, _, designs, _, d, hd, htheme⟩
  have htheme := Option.some.inj htheme
  subst htheme
  exact Dimensions.isFinite_of_ofFields? hd

end Theme

namespace Overrides

theorem toValue_toData (overrides : Overrides)
    : overrides.toData.toValue = .ok overrides.toValue := by
  unfold toData
  rw [Data.toValue, Data.fieldValues, Data.fieldValues, Data.fieldValues, Data.toValue,
    toValue_designsToData]
  rfl

theorem ofTree?_tree (overrides : Overrides)
    : ofTree? overrides.toValue.tree = some overrides := by
  have hfields : overrides.toValue.tree.fields? ["baseUrl", "tileDesigns"]
      =
    some (fieldTrees overrides.toMembers) := by
    apply Tree.fields?_tree
    . rfl
    . decide
  have hbase : optional? (fieldTrees overrides.toMembers) "baseUrl" none
      (Tree.nullable? Tree.string?)
      =
    some overrides.baseUrl := by
    exact Tree.nullable?_string overrides.baseUrl
  have hdesigns : optional? (fieldTrees overrides.toMembers) "tileDesigns" .empty Tree.stringMap?
      =
    some overrides.designs := by
    exact stringMap?_designs overrides.designs
  unfold ofTree?
  rw [hfields, Option.bind_eq_bind, Option.bind_some, hbase, hdesigns]
  rfl

end Overrides

end Mahjong
