import Mahjong.Proofs.Render.Fingerprint
import Mahjong.Proofs.Render.Rendering

/-!
This module contains the agreement of the ways to draw a hand. They all begin with the style of a
theme, which alone decides whether they fail, and from there on they do the same.
-/

namespace Mahjong.Catalog

theorem render_eq_error_iff (catalog : Catalog) (request : Request) (e : RenderError)
    : catalog.render request = .error e
        ↔
      catalog.style request.themeId request.overrides = .error e := by
  rw [render_eq_map]
  cases catalog.style request.themeId request.overrides with
  | error e => simp [Except.map]
  | ok style => simp [Except.map]

theorem exists_style_of_render {catalog : Catalog} {request : Request} {drawn : Rendering}
    (h : catalog.render request = .ok drawn)
    : ∃ style,
        catalog.style request.themeId request.overrides = .ok style ∧
        drawn = request.drawnIn style := by
  rw [render_eq_map] at h
  cases hstyle : catalog.style request.themeId request.overrides with
  | error e =>
    rw [hstyle] at h
    contradiction
  | ok style =>
    rw [hstyle] at h
    exact ⟨style, rfl, (Except.ok.inj h).symm⟩

theorem renderMarkup_eq_map (catalog : Catalog) (hand : String) (overrides : Option Overrides)
    : catalog.renderMarkup hand overrides
        =
      (catalog.render ⟨hand, none, overrides⟩).map (·.markup) := by
  have hid : Request.themeId ⟨hand, none, overrides⟩ = defaultThemeId := by
    rfl
  rw [render_eq_map, hid]
  unfold renderMarkup
  cases catalog.style defaultThemeId overrides with
  | error e => rfl
  | ok style => rfl

/--
To name the default theme changes nothing but what is hashed for the request.
-/
theorem render_default_eq_map (catalog : Catalog) (hand : String) (overrides : Option Overrides)
    : catalog.render ⟨hand, some defaultThemeId, overrides⟩
        =
      (catalog.render ⟨hand, none, overrides⟩).map fun drawn =>
        { drawn with
          requestHash := Digest.ofText <| fingerprintText defaultThemeId
            (Request.toValue ⟨hand, some defaultThemeId, overrides⟩) engineVersionText } := by
  have hid : Request.themeId ⟨hand, none, overrides⟩ = defaultThemeId ∧
      Request.themeId ⟨hand, some defaultThemeId, overrides⟩ = defaultThemeId := by
    exact ⟨rfl, rfl⟩
  rw [render_eq_map, render_eq_map, hid.1, hid.2]
  cases catalog.style defaultThemeId overrides with
  | error e => rfl
  | ok style => rfl

/--
The hand has no part in whether a request fails. What is drawn is what reading, layout and measuring
yield for the style of the theme, and a request without a theme is one for the default theme.
-/
theorem render_agrees (catalog : Catalog) (theme : Option String) (overrides : Option Overrides)
    : (∀ hand e,
        catalog.render ⟨hand, theme, overrides⟩ = .error e
          ↔
        catalog.style (theme.getD defaultThemeId) overrides = .error e) ∧
      (∀ hand1 hand2 e,
        catalog.render ⟨hand1, theme, overrides⟩ = .error e
          ↔
        catalog.render ⟨hand2, theme, overrides⟩ = .error e) ∧
      (∀ hand drawn,
        catalog.render ⟨hand, theme, overrides⟩ = .ok drawn →
        ∃ style,
          catalog.style (theme.getD defaultThemeId) overrides = .ok style ∧
          drawn.instructions = Hand.parse hand ∧
          drawn.markup = style.render (Hand.parse hand) ∧
          drawn.extent = style.dimensions.measure (Hand.parse hand) ∧
          drawn.markupHash = Digest.ofText drawn.markup) ∧
      ∀ hand,
        let unnamed : Request := ⟨hand, none, overrides⟩
        let named : Request := ⟨hand, some defaultThemeId, overrides⟩
        catalog.renderMarkup hand overrides = (catalog.render unnamed).map (·.markup) ∧
        catalog.render named
          =
        (catalog.render unnamed).map (fun drawn =>
          { drawn with
            requestHash :=
              Digest.ofText (fingerprintText defaultThemeId named.toValue engineVersionText) }) ∧
        fingerprintText defaultThemeId named.toValue engineVersionText
          ≠
        fingerprintText defaultThemeId unnamed.toValue engineVersionText := by
  refine ⟨?_, ?_, ?_, ?_⟩
  . intro hand e
    apply render_eq_error_iff
  . intro hand1 hand2 e
    rw [render_eq_error_iff, render_eq_error_iff]
    rfl
  . intro hand drawn h
    rcases exists_style_of_render h with ⟨style, hstyle, hdrawn⟩
    subst hdrawn
    exact ⟨style, hstyle, rfl, rfl, rfl, rfl⟩
  . intro hand
    refine ⟨?_, ?_, ?_⟩
    . apply renderMarkup_eq_map
    . apply render_default_eq_map
    . intro h
      have heq := @fingerprintText_request_inj ⟨hand, some defaultThemeId, overrides⟩
        ⟨hand, none, overrides⟩ h
      simp at heq

theorem render_agrees_house
    : let catalog := builtin.register .house
      (∃ drawn,
        catalog.render ⟨"1m'-", some defaultThemeId, none⟩ = .ok drawn ∧
        drawn.instructions = [.tile "1m" .sideways, .gap] ∧
        drawn.markup = (Theme.house.style none).render drawn.instructions ∧
        catalog.renderMarkup "1m'-" none = .ok drawn.markup) ∧
      catalog.render ⟨"9p", some "day", none⟩ = .error (.themeNotFound "day") := by
  have hhouse : (builtin.register .house).style defaultThemeId none
      =
    .ok (Theme.house.style none) := by
    rw [style_eq, get?_register]
    rfl
  have hday : (builtin.register .house).style "day" none = .error (.themeNotFound "day") := by
    rw [style_eq, get?_register, get?_builtin]
    rfl
  rcases @exists_render (builtin.register .house) ⟨"1m'-", none, none⟩ _ hhouse with ⟨unnamed, h⟩
  rcases render_agrees (builtin.register .house) (some defaultThemeId) none
    with ⟨_, _, hdrawn, hways⟩
  rcases hways "1m'-" with ⟨hmarkup, hnamed, _⟩
  rw [h] at hmarkup hnamed
  rcases hdrawn "1m'-" _ hnamed with ⟨style, hstyle, hinstructions, hrender, _⟩
  have hparse : Hand.parse "1m'-" = [.tile "1m" .sideways, .gap] := by
    decide
  have heq := hhouse.symm.trans hstyle
  cases heq
  refine ⟨⟨_, hnamed, hinstructions.trans hparse, ?_, hmarkup⟩, ?_⟩
  . rw [hinstructions]
    exact hrender
  . exact ((render_agrees (builtin.register .house) (some "day") none).1 "9p" _).2 hday

end Mahjong.Catalog
