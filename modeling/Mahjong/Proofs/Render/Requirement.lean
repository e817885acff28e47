import Mahjong.Proofs.Render.Rendering
import Mahjong.Proofs.Version.Writing

/-!
This module contains the themes that this engine is recent enough for. A theme that needs a
pre-release of the engine's own version gets by with it. Build metadata counts as later than none,
so that a theme that asks for it without a pre-release is refused.
-/

namespace Mahjong

namespace Version

/--
A released version without build metadata comes before another one if its numbers do, or if they are
equal and the other one is a release with build metadata.
-/
theorem compare_eq_lt_iff_of_release {v w : Version} (hpre : v.preRelease = [])
    (hbuild : v.build = [])
    : v.compare w = .lt
        ↔
      v.major < w.major ∨
      v.major = w.major ∧
        (v.minor < w.minor ∨
        v.minor = w.minor ∧
          (v.patch < w.patch ∨ v.patch = w.patch ∧ w.preRelease = [] ∧ w.build ≠ [])) := by
  have hrest : (comparePreReleases [] w.preRelease).then (compareRows [] w.build) = .lt
      ↔
    w.preRelease = [] ∧ w.build ≠ [] := by
    cases w.preRelease with
    | nil => cases w.build <;> simp [comparePreReleases, compareRows]
    | cons identifier rest => simp [comparePreReleases]
  unfold compare
  rw [hpre, hbuild]
  simp only [Ordering.then_eq_lt, Nat.compare_eq_lt, Nat.compare_eq_eq]
  rw [← Ordering.then_eq_lt, hrest]

/--
The minimum versions that this engine meets.
-/
theorem engineVersion_compare_ne_lt_iff (minimum : Version)
    : engineVersion.compare minimum ≠ .lt
        ↔
      minimum.major = 0 ∨
      minimum.major = 1 ∧ minimum.minor = 0 ∧ minimum.patch = 0 ∧
        (minimum.preRelease ≠ [] ∨ minimum.build = []) := by
  rw [ne_eq, compare_eq_lt_iff_of_release rfl rfl]
  unfold engineVersion
  by_cases hpre : minimum.preRelease = []
  . by_cases hbuild : minimum.build = []
    . simp only [hpre, hbuild, ne_eq, not_true_eq_false, and_false, or_false, or_true, and_true]
      omega
    . simp only [hpre, hbuild, ne_eq, not_true_eq_false, not_false_eq_true, and_self, and_true,
        or_self, and_false, or_false]
      omega
  . simp only [hpre, ne_eq, false_and, and_false, or_false, not_false_eq_true, true_or, and_true]
    omega

end Version

namespace Theme

theorem checkVersion_of_not_exists {theme : Theme}
    (h : ¬∃ minimum : Version, minimum.IsWellFormed ∧ minimum.write = theme.engineMinVersion)
    : theme.checkVersion = .error (.invalidVersion theme.engineMinVersion) := by
  unfold checkVersion
  cases hparse : Version.parse theme.engineMinVersion with
  | error e => rfl
  | ok minimum => exact absurd ⟨minimum, (Version.parse_eq_ok_iff _ _).1 hparse⟩ h

theorem checkVersion_of_write {theme : Theme} {minimum : Version} (h : minimum.IsWellFormed)
    (htext : minimum.write = theme.engineMinVersion)
    : theme.checkVersion
        =
      if engineVersion.compare minimum = .lt then
        .error (.engineTooOld theme.id theme.engineMinVersion)
      else
        .ok () := by
  unfold checkVersion
  rw [(Version.parse_eq_ok_iff _ _).2 ⟨h, htext⟩]

end Theme

theorem RenderError.message_engineTooOld (id minimum : String)
    : (engineTooOld id minimum).message
        =
      "Theme " ++ id ++ " requires engine >= " ++ minimum ++ ", current is 1.0.0" := by
  have hcurrent : ", current is 1.0.0" = ", current is " ++ engineVersionText := by
    rfl
  rw [hcurrent, ← String.append_assoc]
  rfl

namespace Catalog

theorem style_of_get? {catalog : Catalog} {id : String} {theme : Theme}
    (h : catalog.get? id = some theme) (overrides : Option Overrides)
    : catalog.style id overrides = theme.checkVersion.map fun _ => theme.style overrides := by
  rw [style_eq, h]
  dsimp only
  cases theme.checkVersion with
  | error e => rfl
  | ok _ => rfl

/--
Whether a theme can be used is decided by the text of its minimum version alone.
-/
theorem style_of_minimum {catalog : Catalog} {id : String} {theme : Theme}
    (h : catalog.get? id = some theme) (overrides : Option Overrides)
    : ((¬∃ minimum : Version, minimum.IsWellFormed ∧ minimum.write = theme.engineMinVersion) →
        catalog.style id overrides = .error (.invalidVersion theme.engineMinVersion)) ∧
      ∀ minimum : Version, minimum.IsWellFormed → minimum.write = theme.engineMinVersion →
        let admitted :=
          minimum.major = 0 ∨
          minimum.major = 1 ∧ minimum.minor = 0 ∧ minimum.patch = 0 ∧
            (minimum.preRelease ≠ [] ∨ minimum.build = [])
        let refusal := RenderError.engineTooOld theme.id theme.engineMinVersion
        (catalog.style id overrides = .ok (theme.style overrides) ↔ admitted) ∧
        (¬admitted → catalog.style id overrides = .error refusal) ∧
        refusal.message
          =
        "Theme " ++ theme.id ++ " requires engine >= " ++ theme.engineMinVersion ++
          ", current is 1.0.0" := by
  rw [style_of_get? h]
  constructor
  . intro hnot
    rw [Theme.checkVersion_of_not_exists hnot]
    rfl
  . intro minimum hminimum htext admitted refusal
    have hmessage := RenderError.message_engineTooOld theme.id theme.engineMinVersion
    have hiff : _ ↔ admitted := Version.engineVersion_compare_ne_lt_iff minimum
    rw [Theme.checkVersion_of_write hminimum htext]
    by_cases hlt : engineVersion.compare minimum = .lt
    . have hnot : ¬admitted := fun h => hiff.2 h hlt
      rw [if_pos hlt]
      refine ⟨⟨?_, ?_⟩, ?_, hmessage⟩
      . intro h
        contradiction
      . intro h
        contradiction
      . intro _
        rfl
    . have hadmitted : admitted := hiff.1 hlt
      rw [if_neg hlt]
      refine ⟨⟨?_, ?_⟩, ?_, hmessage⟩
      . intro _
        exact hadmitted
      . intro _
        rfl
      . intro h
        contradiction

theorem get?_night (minimum : String)
    : let night := { Theme.night with engineMinVersion := minimum }
      (builtin.register night).get? Theme.night.id = some night := by
  dsimp only
  rw [get?_register, if_pos rfl]

theorem style_of_minimum_night
    : let needs (minimum : String) : Theme := { Theme.night with engineMinVersion := minimum }
      let style (minimum : String) := (builtin.register (needs minimum)).style Theme.night.id none
      (∀ v : Version, v.IsWellFormed → v.write ≠ "1.0.0-01") ∧
      style "1.0.0-01" = .error (.invalidVersion "1.0.0-01") ∧
      style "1.0.0-rc.1+5" = .ok ((needs "1.0.0-rc.1+5").style none) ∧
      style "1.0.0+5" = .error (.engineTooOld Theme.night.id "1.0.0+5") := by
  have hzero : ∀ v : Version, v.IsWellFormed → v.write ≠ "1.0.0-01" := by
    intro v h htext
    have hparse := (Version.parse_eq_ok_iff _ _).2 ⟨h, htext⟩
    contradiction
  have hcandidate : Version.parse "1.0.0-rc.1+5" = .ok ⟨1, 0, 0, ["rc", "1"], ["5"]⟩ := by
    rfl
  have hbuild : Version.parse "1.0.0+5" = .ok ⟨1, 0, 0, [], ["5"]⟩ := by
    rfl
  rcases (Version.parse_eq_ok_iff _ _).1 hcandidate with ⟨hcandidate, hcandidateText⟩
  rcases (Version.parse_eq_ok_iff _ _).1 hbuild with ⟨hbuild, hbuildText⟩
  refine ⟨hzero, ?_, ?_, ?_⟩
  . apply (style_of_minimum (get?_night "1.0.0-01") none).1
    rintro ⟨v, h, htext⟩
    exact hzero v h htext
  . apply ((style_of_minimum (get?_night "1.0.0-rc.1+5") none).2 _ hcandidate hcandidateText).1.2
    decide
  . apply ((style_of_minimum (get?_night "1.0.0+5") none).2 _ hbuild hbuildText).2.1
    decide

end Catalog

end Mahjong
