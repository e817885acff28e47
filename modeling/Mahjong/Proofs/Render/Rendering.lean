import Mahjong.Proofs.Decimal.Bits
import Mahjong.Proofs.Theme.Loading
import Mahjong.Render.Rendering

/-!
This module contains what drawing a request can come to. The hand has no part in it, and in a
catalog that was loaded from a directory only the id of a theme and the version it needs can stand in
the way.
-/

namespace Mahjong

open Json

namespace Theme

theorem checkVersion_of_fault? {theme : Theme} (h : theme.fault? = none)
    : theme.checkVersion = .ok () ∨
      theme.checkVersion = .error (.engineTooOld theme.id theme.engineMinVersion) := by
  unfold fault? at h
  split at h
  . cases h
  . split at h
    . cases h
    . split at h
      . cases h
      . next minimum hparse =>
        unfold checkVersion
        rw [hparse]
        dsimp only
        split
        . exact .inr rfl
        . exact .inl rfl

end Theme

namespace Request

theorem toValue_toData (request : Request) : request.toData.toValue = .ok request.toValue := by
  unfold toData
  rw [Data.toValue, Data.fieldValues, Data.fieldValues, Data.fieldValues, Data.fieldValues,
    Data.toValue, Data.toValue]
  cases hoverrides : request.overrides with
  | none =>
    unfold toValue toMembers
    rw [hoverrides]
    rfl
  | some overrides =>
    unfold toValue toMembers
    rw [hoverrides, Option.elim_some, Overrides.toValue_toData]
    rfl

/--
Every request can be written, so that every request has a fingerprint.
-/
theorem fingerprint_toData (request : Request) (id version : String)
    : fingerprint id request.toData version
        =
      .ok (Digest.ofText (fingerprintText id request.toValue version)) := by
  unfold fingerprint
  rw [Data.canonicalText_of_toValue request.toValue_toData]
  rfl

end Request

namespace Rendering

theorem toValue_toData (r : Rendering) : r.toData.toValue = .ok r.toValue := by
  apply Data.toValue_ofMembers

/--
What is drawn can be written, whatever was drawn.
-/
theorem compact_toData (r : Rendering) : r.toData.compact = .ok r.toValue.compact := by
  apply Data.compact_of_toValue
  apply toValue_toData

end Rendering

/--
What is drawn for a request in a style.
-/
def Request.drawnIn (request : Request) (style : Style Float) : Rendering where
  themeId := request.themeId
  engineVersion := engineVersionText
  instructions := Hand.parse request.hand
  markup := style.render (Hand.parse request.hand)
  extent := style.dimensions.measure (Hand.parse request.hand)
  requestHash := Digest.ofText
    (fingerprintText request.themeId request.toValue engineVersionText)
  markupHash := Digest.ofText (style.render (Hand.parse request.hand))

namespace Catalog

theorem style_eq (catalog : Catalog) (id : String) (overrides : Option Overrides)
    : catalog.style id overrides
        =
      match catalog.get? id with
      | none => .error (.themeNotFound id)
      | some theme =>
        match theme.checkVersion with
        | .error e => .error e
        | .ok _ => .ok (theme.style overrides) := by
  unfold style
  cases catalog.get? id with
  | none => rfl
  | some theme =>
    dsimp only
    cases theme.checkVersion with
    | error e => rfl
    | ok _ => rfl

theorem render_eq_map (catalog : Catalog) (request : Request)
    : catalog.render request
        =
      (catalog.style request.themeId request.overrides).map request.drawnIn := by
  unfold render
  rw [request.fingerprint_toData]
  cases catalog.style request.themeId request.overrides with
  | error e => rfl
  | ok style => rfl

theorem render_of_error {catalog : Catalog} {request : Request} {e : RenderError}
    (h : catalog.style request.themeId request.overrides = .error e)
    : catalog.render request = .error e := by
  rw [render_eq_map, h]
  rfl

theorem exists_render {catalog : Catalog} {request : Request} {style : Style Float}
    (h : catalog.style request.themeId request.overrides = .ok style)
    : ∃ drawn, catalog.render request = .ok drawn := by
  rw [render_eq_map, h]
  exact ⟨_, rfl⟩

/--
A catalog of checked themes, each under its own id, among them one for requests without a theme.
-/
structure IsSound (catalog : Catalog) : Prop where
  id_eq : ∀ id theme, catalog.get? id = some theme → theme.id = id
  fault?_eq_none : ∀ id theme, catalog.get? id = some theme → theme.fault? = none
  exists_default : ∃ theme, catalog.get? defaultThemeId = some theme

theorem isSound_builtin : builtin.IsSound := by
  have hget : ∀ id theme, builtin.get? id = some theme →
      id = defaultThemeId ∧ theme = .builtin := by
    intro id theme h
    rw [get?_builtin] at h
    split at h
    . next hid => exact ⟨hid, (Option.some.inj h).symm⟩
    . contradiction
  constructor
  . intro id theme h
    rw [(hget id theme h).1, (hget id theme h).2]
    rfl
  . intro id theme h
    rw [(hget id theme h).2]
    rfl
  . exact ⟨.builtin, get?_builtin defaultThemeId⟩

theorem isSound_register {catalog : Catalog} (hsound : catalog.IsSound) {theme : Theme}
    (hvalid : theme.fault? = none)
    : (catalog.register theme).IsSound := by
  constructor
  . intro id other h
    rw [get?_register] at h
    split at h
    . next hid => rw [hid, Option.some.inj h]
    . exact hsound.id_eq id other h
  . intro id other h
    rw [get?_register] at h
    split at h
    . rw [← Option.some.inj h]
      exact hvalid
    . exact hsound.fault?_eq_none id other h
  . rw [get?_register]
    split
    . exact ⟨theme, rfl⟩
    . exact hsound.exists_default

theorem isSound_foldl_register {catalog : Catalog} (hsound : catalog.IsSound) {themes : List Theme}
    (hvalid : ∀ theme ∈ themes, theme.fault? = none)
    : (themes.foldl register catalog).IsSound := by
  induction themes generalizing catalog with
  | nil => assumption
  | cons theme rest ih =>
    rcases List.forall_mem_cons.1 hvalid with ⟨htheme, hrest⟩
    rw [List.foldl_cons]
    apply ih
    . apply isSound_register hsound htheme
    . assumption

theorem isSound_load {directory : Directory} {catalog : Catalog}
    (hload : load directory = .ok catalog)
    : catalog.IsSound := by
  cases directory with
  | missing =>
    cases hload
    exact isSound_builtin
  | unreadable e => contradiction
  | listing entries =>
    rw [load_listing_eq] at hload
    cases hload
    apply isSound_foldl_register isSound_builtin
    intro theme htheme
    rcases List.mem_filterMap.1 htheme with ⟨entry, _, hentry⟩
    rcases Theme.addedBy?_eq_some_iff.1 hentry with ⟨_, _, _, _, hfault⟩
    assumption

theorem IsSound.isFinite_of_mem_list {catalog : Catalog} (hsound : catalog.IsSound) {theme : Theme}
    (h : theme ∈ catalog.list)
    : theme.dimensions.IsFinite := by
  rcases List.mem_map.1 h with ⟨entry, hentry, heq⟩
  have hget := (catalog.themes.mem_entries_iff entry.1 entry.2).1 hentry
  rw [← heq]
  apply Theme.isFinite_of_fault?
  exact hsound.fault?_eq_none entry.1 entry.2 hget

theorem IsSound.style_cases {catalog : Catalog} (hsound : catalog.IsSound) (id : String)
    (overrides : Option Overrides)
    : (catalog.get? id = none ∧ catalog.style id overrides = .error (.themeNotFound id)) ∨
      ∃ theme,
        catalog.get? id = some theme ∧
        (catalog.style id overrides = .ok (theme.style overrides) ∨
          catalog.style id overrides = .error (.engineTooOld id theme.engineMinVersion)) := by
  rw [style_eq]
  cases hget : catalog.get? id with
  | none => exact .inl ⟨rfl, rfl⟩
  | some theme =>
    refine .inr ⟨theme, rfl, ?_⟩
    dsimp only
    rcases Theme.checkVersion_of_fault? (hsound.fault?_eq_none id theme hget) with hcheck | hcheck
    . rw [hcheck]
      exact .inl rfl
    . rw [hcheck, hsound.id_eq id theme hget]
      exact .inr rfl

theorem IsSound.render_cases {catalog : Catalog} (hsound : catalog.IsSound) (request : Request)
    : (catalog.get? request.themeId = none ∧
        catalog.render request = .error (.themeNotFound request.themeId)) ∨
      ∃ theme,
        catalog.get? request.themeId = some theme ∧
        ((∃ drawn, catalog.render request = .ok drawn) ∨
          catalog.render request
            =
          .error (.engineTooOld request.themeId theme.engineMinVersion)) := by
  rcases hsound.style_cases request.themeId request.overrides
    with ⟨hget, hstyle⟩ | ⟨theme, hget, hstyle | hstyle⟩
  . exact .inl ⟨hget, render_of_error hstyle⟩
  . exact .inr ⟨theme, hget, .inl (exists_render hstyle)⟩
  . exact .inr ⟨theme, hget, .inr (render_of_error hstyle)⟩

theorem IsSound.length_of_style {catalog : Catalog} (hsound : catalog.IsSound) {id : String}
    {overrides : Option Overrides} {style : Style Float}
    (hstyle : catalog.style id overrides = .ok style)
    : ∀ length ∈ [style.dimensions.tileWidth, style.dimensions.tileHeight,
          style.dimensions.tileGap, style.dimensions.spaceWidth],
        length.isFinite ∧ 0 ≤ length := by
  rcases hsound.style_cases id overrides with ⟨_, h⟩ | ⟨theme, hget, h | h⟩
  . rw [hstyle] at h
    cases h
  . rw [hstyle] at h
    cases h
    intro length hlength
    have hnamed : ∃ name, (name, length) ∈ Theme.namedDimensions theme.dimensions := by
      simp only [Theme.style, List.mem_cons, List.not_mem_nil, or_false] at hlength
      simp only [Theme.namedDimensions, List.mem_cons, Prod.mk.injEq, List.not_mem_nil, or_false]
      rcases hlength with hlength | hlength | hlength | hlength
      . exact ⟨_, .inl ⟨rfl, hlength⟩⟩
      . exact ⟨_, .inr (.inl ⟨rfl, hlength⟩)⟩
      . exact ⟨_, .inr (.inr (.inl ⟨rfl, hlength⟩))⟩
      . exact ⟨_, .inr (.inr (.inr ⟨rfl, hlength⟩))⟩
    rcases hnamed with ⟨name, hnamed⟩
    have hchecked := Theme.isLength_of_fault? (hsound.fault?_eq_none id theme hget) _ hnamed
    unfold Theme.isLength at hchecked
    rw [Bool.and_eq_true, Decimal.isFinite_eq] at hchecked
    rcases hchecked with ⟨hfinite, hnegative⟩
    constructor
    . exact hfinite
    . apply Decimal.zero_le_of_isFinite hfinite
      simpa using hnegative
  . rw [hstyle] at h
    cases h

/--
In a catalog that was loaded from a directory, whatever is in it, no theme has a version that cannot
be read, every request can be written for its fingerprint, only ids that are not there are not found,
and all styles have dimensions that can be drawn.
-/
theorem render_of_load {directory : Directory} {catalog : Catalog}
    (hload : load directory = .ok catalog)
    : (∀ request,
        (∃ drawn, catalog.render request = .ok drawn) ∨
        catalog.render request = .error (.themeNotFound request.themeId) ∨
        ∃ theme,
          catalog.get? request.themeId = some theme ∧
          catalog.render request
            =
          .error (.engineTooOld request.themeId theme.engineMinVersion)) ∧
      (∀ request,
        (∀ text, catalog.render request ≠ .error (.invalidVersion text)) ∧
        ∀ e, catalog.render request ≠ .error (.unwritable e)) ∧
      (∀ request,
        (∃ id, catalog.render request = .error (.themeNotFound id))
          ↔
        catalog.get? request.themeId = none) ∧
      catalog.get? defaultThemeId ≠ none ∧
      ∀ id overrides style,
        catalog.style id overrides = .ok style →
        ∀ length ∈ [style.dimensions.tileWidth, style.dimensions.tileHeight,
            style.dimensions.tileGap, style.dimensions.spaceWidth],
          length.isFinite ∧ 0 ≤ length := by
  have hsound := isSound_load hload
  refine ⟨?_, ?_, ?_, ?_, ?_⟩
  . intro request
    rcases hsound.render_cases request with ⟨_, hrender⟩ | ⟨theme, hget, hrender | hrender⟩
    . exact .inr (.inl hrender)
    . exact .inl hrender
    . exact .inr (.inr ⟨theme, hget, hrender⟩)
  . intro request
    rcases hsound.render_cases request
      with ⟨_, hrender⟩ | ⟨theme, _, ⟨drawn, hrender⟩ | hrender⟩
    . simp [hrender]
    . simp [hrender]
    . simp [hrender]
  . intro request
    rcases hsound.render_cases request
      with ⟨hget, hrender⟩ | ⟨theme, hget, ⟨drawn, hrender⟩ | hrender⟩
    . simp [hget, hrender]
    . simp [hget, hrender]
    . simp [hget, hrender]
  . rcases hsound.exists_default with ⟨theme, hget⟩
    simp [hget]
  . intro id overrides style hstyle
    apply hsound.length_of_style hstyle

theorem render_of_load_house
    : ∃ catalog,
        load (.listing Directory.houseEntries) = .ok catalog ∧
        (∀ e, catalog.render ⟨"1m", none, some { baseUrl := "/" }⟩ ≠ .error (.unwritable e)) ∧
        (∃ id, catalog.render ⟨"1m", some "day", none⟩ = .error (.themeNotFound id)) ∧
        (¬∃ id, catalog.render ⟨"1m", none, none⟩ = .error (.themeNotFound id)) ∧
        ∃ style,
          catalog.style Theme.night.id (some { baseUrl := "/" }) = .ok style ∧
          style.dimensions.tileGap.isFinite ∧
          0 ≤ style.dimensions.tileGap := by
  have hstyle : ((builtin.register .night).register .house).style Theme.night.id
        (some { baseUrl := "/" })
      =
    .ok (Theme.night.style (some { baseUrl := "/" })) := by
    rw [style_eq, get?_register, get?_register]
    rfl
  rcases render_of_load load_houseEntries with ⟨_, hnever, hmissing, hdefault, hlength⟩
  refine ⟨_, load_houseEntries, (hnever _).2, ?_, ?_, _, hstyle, ?_⟩
  . rw [hmissing, get?_register, get?_register, get?_builtin]
    decide
  . rw [hmissing]
    exact hdefault
  . apply hlength _ _ _ hstyle
    simp

end Catalog

end Mahjong
