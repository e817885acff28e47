import Mahjong.Proofs.Json.Record
import Mahjong.Proofs.Theme.Json
import Mahjong.Render.Rendering

/-!
This module contains the proof that instructions, requests and renderings are read from their own
JSON forms, and with it that all JSON forms can be written and read without a change.
-/

namespace Mahjong

open Json

namespace Instruction

theorem isReadable_toValue (room : Nat) (i : Instruction) : i.toValue.IsReadable (room + 1) := by
  have hstring : ∀ s, (Value.string s).IsReadable room := by
    intro s
    exact .string room s
  unfold toValue
  cases i with
  | tile key orientation =>
    apply Value.IsReadable.object
    simp [hstring, Orientation.toValue]
  | gap =>
    apply Value.IsReadable.object
    simp [hstring]

theorem ofValue?_toValue (i : Instruction) : ofValue? i.toValue = some i := by
  cases i with
  | tile key orientation =>
    cases orientation with
    | upright => rfl
    | sideways => rfl
    | stacked => rfl
  | gap => rfl

theorem ofTree?_tree (room : Nat) (i : Instruction)
    : ofTree? (room + 1) i.toValue.tree = some i := by
  unfold ofTree?
  rw [Tree.value?_tree (isReadable_toValue room i)]
  exact ofValue?_toValue i

theorem listOfTree?_tree (room : Nat) (instructions : List Instruction)
    : listOfTree? (room + 2) (listToValue instructions).tree = some instructions := by
  unfold listToValue Value.tree listOfTree?
  dsimp only
  rw [elementTrees_eq_map, List.map_map]
  apply mapM_map_of_read
  apply ofTree?_tree

end Instruction

namespace Request

theorem ofTree?_tree (request : Request) : ofTree? request.toValue.tree = some request := by
  have hfields : request.toValue.tree.fields? ["notation", "theme", "overrides"]
      =
    some (fieldTrees request.toMembers) := by
    apply Tree.fields?_tree
    . rfl
    . decide
  have hhand : required? (fieldTrees request.toMembers) "notation" Tree.string?
      =
    some request.hand := by
    rfl
  have htheme : optional? (fieldTrees request.toMembers) "theme" none (Tree.nullable? Tree.string?)
      =
    some request.theme := by
    exact Tree.nullable?_string request.theme
  have hoverrides : optional? (fieldTrees request.toMembers) "overrides" none
      (Tree.nullable? Overrides.ofTree?)
      =
    some request.overrides := by
    apply Tree.nullable?_tree
    . simp [Overrides.toValue, Value.tree]
    . apply Overrides.ofTree?_tree
  unfold ofTree?
  rw [hfields, Option.bind_eq_bind, Option.bind_some, hhand, htheme, hoverrides]
  rfl

end Request

def Extent.IsFinite (extent : Extent Float) : Prop :=
  Decimal.isFinite extent.width ∧ Decimal.isFinite extent.height

namespace Rendering

theorem ofTree?_tree {r : Rendering} (h : r.extent.IsFinite)
    : ofTree? r.toValue.tree = some r := by
  rcases h with ⟨hwidth, hheight⟩
  have hfields : r.toValue.tree.fields?
      ["themeId", "engineVersion", "instructions", "markup", "width", "height", "requestHash",
        "markupHash"]
      =
    some (fieldTrees r.toMembers) := by
    apply Tree.fields?_tree
    . rfl
    . decide
  have hthemeId : required? (fieldTrees r.toMembers) "themeId" Tree.string? = some r.themeId := by
    rfl
  have hversion : required? (fieldTrees r.toMembers) "engineVersion" Tree.string?
      =
    some r.engineVersion := by
    rfl
  have hinstructions : required? (fieldTrees r.toMembers) "instructions"
      (Instruction.listOfTree? (maxDepth - 1))
      =
    some r.instructions := by
    exact Instruction.listOfTree?_tree 124 r.instructions
  have hmarkup : required? (fieldTrees r.toMembers) "markup" Tree.string? = some r.markup := by
    rfl
  have hwidth : required? (fieldTrees r.toMembers) "width" Tree.float? = some r.extent.width := by
    exact Tree.float?_tree_of_isFinite hwidth
  have hheight : required? (fieldTrees r.toMembers) "height" Tree.float?
      =
    some r.extent.height := by
    exact Tree.float?_tree_of_isFinite hheight
  have hrequestHash : required? (fieldTrees r.toMembers) "requestHash" Tree.string?
      =
    some r.requestHash := by
    rfl
  have hmarkupHash : required? (fieldTrees r.toMembers) "markupHash" Tree.string?
      =
    some r.markupHash := by
    rfl
  unfold ofTree?
  rw [hfields, Option.bind_eq_bind, Option.bind_some, hthemeId, hversion, hinstructions, hmarkup,
    hwidth, hheight, hrequestHash, hmarkupHash]
  rfl

theorem isFinite_of_ofTree? {tree : Tree} {r : Rendering} (h : ofTree? tree = some r)
    : r.extent.IsFinite := by
  unfold ofTree? at h
  simp only [Option.bind_eq_bind, Option.bind_eq_some_iff] at h
  rcases h with ⟨fields, _, id, _, version, _, row, _, markup, _, width, hwidth, height, hheight,
    request, _, hash, _, hr⟩
  have hr := Option.some.inj hr
  subst hr
  exact ⟨isFinite_of_required? hwidth, isFinite_of_required? hheight⟩

end Rendering

/--
All JSON forms can be written and read without a change. Numbers have to be finite, since there are
no words for others.
-/
theorem forms_roundTrip
    : RoundTrips Instruction.listToValue (Instruction.listOfTree? maxDepth) (fun _ => True) ∧
      RoundTrips Request.toValue Request.ofTree? (fun _ => True) ∧
      RoundTrips Overrides.toValue Overrides.ofTree? (fun _ => True) ∧
      RoundTrips Style.toValue Style.ofTree? (·.dimensions.IsFinite) ∧
      RoundTrips Theme.toValue Theme.ofTree? (·.dimensions.IsFinite) ∧
      RoundTrips Rendering.toValue Rendering.ofTree? (·.extent.IsFinite) := by
  refine ⟨?_, ?_, ?_, ?_, ?_, ?_⟩
  . apply RoundTrips.of_tree
    . intro instructions _
      exact Instruction.listOfTree?_tree 125 instructions
    . simp
  . apply RoundTrips.of_tree
    . intro request _
      apply Request.ofTree?_tree
    . simp
  . apply RoundTrips.of_tree
    . intro overrides _
      apply Overrides.ofTree?_tree
    . simp
  . apply RoundTrips.of_tree
    . intro style
      apply Style.ofTree?_tree
    . intro tree style
      apply Style.isFinite_of_ofTree?
  . apply RoundTrips.of_tree
    . intro theme
      apply Theme.ofTree?_tree
    . intro tree theme
      apply Theme.isFinite_of_ofTree?
  . apply RoundTrips.of_tree
    . intro r
      apply Rendering.ofTree?_tree
    . intro tree r
      apply Rendering.isFinite_of_ofTree?

/--
A tile whose type comes last, and a gap as an array.
-/
def Instruction.respelledList : String :=
  "[\x7b\"tileOrient\": \"upright\", \"x\": 0, \"tileKey\": \"1m\", \"type\": \"tile\"\x7d, " ++
    "[\"space\"]]"

/--
A request without overrides, between a member that names no field and one with nothing.
-/
def Request.respelled : String :=
  "\x7b\"note\": [], \"notation\": \"1m\", \"theme\": null\x7d"

/--
Overrides as an array that ends before the designs.
-/
def Overrides.respelled : String :=
  "[\"/t\"]"

/--
A style as an array, with two designs for one key.
-/
def Style.respelled : String :=
  "[\x7b\"1m\": \"a\", \"1m\": \"b\"\x7d, 30, 4e1, 2.5, -0]"

/--
A theme without a minimum version, whose members are in another order. The number that is out of
range belongs to no field.
-/
def Theme.respelled : String :=
  "\x7b\"tileWidth\": 30, \"tileHeight\": 40, \"tileGap\": 2.5, \"spaceWidth\": 10, " ++
    "\"tileDesigns\": \x7b\x7d, \"x\": 1e999, \"name\": \"Bare\", \"id\": \"bare\"\x7d"

def Rendering.respelled : String :=
  "[\"bare\", \"0.1.0\", [[\"space\"]], \"<svg/>\", 10, 40, \"\", \"\"]"

theorem forms_roundTrip_respelled
    : (∃ instructions,
        read? (Instruction.listOfTree? maxDepth) Instruction.respelledList = some instructions ∧
        instructions = [.tile "1m" .upright, .gap] ∧
        read? (Instruction.listOfTree? maxDepth) (Instruction.listToValue instructions).compact
          =
        some instructions) ∧
      (∃ request,
        read? Request.ofTree? Request.respelled = some request ∧
        request = ⟨"1m", none, none⟩ ∧
        read? Request.ofTree? request.toValue.compact = some request) ∧
      (∃ overrides,
        read? Overrides.ofTree? Overrides.respelled = some overrides ∧
        overrides = ⟨some "/t", .empty⟩ ∧
        read? Overrides.ofTree? overrides.toValue.compact = some overrides) ∧
      (∃ style,
        read? Style.ofTree? Style.respelled = some style ∧
        style.designs.entries = [("1m", "b")] ∧
        read? Style.ofTree? style.toValue.indented = some style) ∧
      (∃ theme,
        read? Theme.ofTree? Theme.respelled = some theme ∧
        theme.engineMinVersion = defaultMinVersion ∧
        read? Theme.ofTree? theme.toValue.indented = some theme) ∧
      ∃ r,
        read? Rendering.ofTree? Rendering.respelled = some r ∧
        r.instructions = [.gap] ∧
        read? Rendering.ofTree? r.toValue.indented = some r := by
  rcases forms_roundTrip with ⟨hinstructions, hrequest, hoverrides, hstyle, htheme, hrendering⟩
  refine ⟨?_, ?_, ?_, ?_, ?_, ?_⟩
  . have hread : read? (Instruction.listOfTree? maxDepth) Instruction.respelledList
        =
      some [.tile "1m" .upright, .gap] := by
      decide +kernel
    exact ⟨_, hread, rfl, hinstructions.read?_again (by simp) hread⟩
  . have hread : read? Request.ofTree? Request.respelled = some ⟨"1m", none, none⟩ := by
      cbv
    exact ⟨_, hread, rfl, hrequest.read?_again (by simp) hread⟩
  . have hread : read? Overrides.ofTree? Overrides.respelled = some ⟨some "/t", .empty⟩ := by
      cbv
    exact ⟨_, hread, rfl, hoverrides.read?_again (by simp) hread⟩
  -- Numbers have no decidable equality, so that of records with numbers only a field is computed.
  . have hread : (read? Style.ofTree? Style.respelled).map (·.designs.entries)
        =
      some [("1m", "b")] := by
      decide +kernel
    rcases Option.map_eq_some_iff.1 hread with ⟨style, hread, hdesigns⟩
    exact ⟨style, hread, hdesigns, hstyle.read?_again (by simp) hread⟩
  . have hread : (read? Theme.ofTree? Theme.respelled).map (·.engineMinVersion)
        =
      some defaultMinVersion := by
      decide +kernel
    rcases Option.map_eq_some_iff.1 hread with ⟨theme, hread, hversion⟩
    exact ⟨theme, hread, hversion, htheme.read?_again (by simp) hread⟩
  . have hread : (read? Rendering.ofTree? Rendering.respelled).map (·.instructions)
        =
      some [.gap] := by
      decide +kernel
    rcases Option.map_eq_some_iff.1 hread with ⟨r, hread, hgap⟩
    exact ⟨r, hread, hgap, hrendering.read?_again (by simp) hread⟩

end Mahjong
