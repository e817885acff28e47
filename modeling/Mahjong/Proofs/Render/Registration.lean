import Mahjong.Proofs.Render.Rendering
import Mahjong.Proofs.Text.Utf8

/-!
This module contains what a catalog holds after any number of themes were registered, and that a
request sees nothing of it but the theme that it asks for.
-/

namespace Mahjong.Catalog

/--
A catalog that holds each theme under its own id, among them one for requests without a theme. The
themes need not be valid.
-/
structure IsIndexed (catalog : Catalog) : Prop where
  id_eq : ∀ entry ∈ catalog.themes.entries, entry.2.id = entry.1
  exists_default : ∃ theme, catalog.get? defaultThemeId = some theme

theorem IsSound.isIndexed {catalog : Catalog} (hsound : catalog.IsSound) : catalog.IsIndexed := by
  constructor
  . intro entry hentry
    apply hsound.id_eq
    exact (SortedMap.mem_entries_iff catalog.themes entry.1 entry.2).1 hentry
  . exact hsound.exists_default

theorem isIndexed_initial {initial : Catalog}
    (hinitial : initial = builtin ∨ ∃ directory, load directory = .ok initial)
    : initial.IsIndexed := by
  apply IsSound.isIndexed
  rcases hinitial with heq | ⟨directory, hload⟩
  . rw [heq]
    exact isSound_builtin
  . exact isSound_load hload

theorem isIndexed_register {catalog : Catalog} (h : catalog.IsIndexed) (theme : Theme)
    : (catalog.register theme).IsIndexed := by
  constructor
  . intro entry hentry
    rcases SortedMap.mem_insertEntry hentry with heq | hentry
    . rw [heq]
    . exact h.id_eq entry hentry
  . rw [get?_register]
    split
    . exact ⟨theme, rfl⟩
    . exact h.exists_default

theorem isIndexed_foldl_register {catalog : Catalog} (h : catalog.IsIndexed) (themes : List Theme)
    : (themes.foldl register catalog).IsIndexed := by
  induction themes generalizing catalog with
  | nil => assumption
  | cons theme rest ih =>
    rw [List.foldl_cons]
    apply ih
    apply isIndexed_register h

section

variable {catalog : Catalog} (h : catalog.IsIndexed)
include h

theorem IsIndexed.pairwise_list
    : catalog.list.Pairwise fun s t => Text.utf8Bytes s.id < Text.utf8Bytes t.id := by
  unfold list SortedMap.values
  rw [List.pairwise_map]
  apply catalog.themes.ascending.imp_of_mem
  intro first second hfirst hsecond hlt
  rw [h.id_eq first hfirst, h.id_eq second hsecond]
  exact Text.utf8Bytes_lt hlt

theorem IsIndexed.mem_list_iff (theme : Theme)
    : theme ∈ catalog.list ↔ catalog.get? theme.id = some theme := by
  unfold list SortedMap.values get?
  rw [← SortedMap.mem_entries_iff]
  constructor
  . intro hmem
    rcases List.mem_map.1 hmem with ⟨entry, hentry, heq⟩
    have hid := h.id_eq entry hentry
    rw [heq] at hid
    rw [hid, ← heq]
    exact hentry
  . intro hmem
    exact List.mem_map.2 ⟨_, hmem, rfl⟩

end

/--
Of the themes with one id the one that was registered last counts.
-/
theorem get?_foldl_register_eq_find? (catalog : Catalog) (themes : List Theme) (id : String)
    : (themes.foldl register catalog).get? id
        =
      (themes.reverse.find? (·.id = id)).or (catalog.get? id) := by
  induction themes generalizing catalog with
  | nil => rfl
  | cons theme rest ih =>
    rw [List.foldl_cons, ih, get?_register, List.reverse_cons, List.find?_append, Option.or_assoc]
    by_cases hid : theme.id = id
    . simp [hid]
    . simp [hid, Ne.symm hid]

theorem style_congr {catalog other : Catalog} {id : String} (h : catalog.get? id = other.get? id)
    (overrides : Option Overrides)
    : catalog.style id overrides = other.style id overrides := by
  rw [style_eq, style_eq, h]

theorem render_congr {catalog other : Catalog} {request : Request}
    (h : catalog.get? request.themeId = other.get? request.themeId)
    : catalog.render request = other.render request := by
  rw [render_eq_map, render_eq_map, style_congr h]

theorem get?_foldl_register_filter (catalog : Catalog) (themes : List Theme) (id : String)
    : ((themes.filter (·.id = id)).foldl register catalog).get? id
        =
      (themes.foldl register catalog).get? id := by
  rw [get?_foldl_register_eq_find?, get?_foldl_register_eq_find?, ← List.filter_reverse,
    List.find?_filter]
  simp

/--
However many themes are registered, with whatever ids, a catalog holds the latest theme of each id,
in the order of the ids, and a request is drawn as if no themes with other ids had been registered.
-/
theorem foldl_register_holds_latest {initial : Catalog}
    (hinitial : initial = builtin ∨ ∃ directory, load directory = .ok initial)
    (themes : List Theme)
    : let catalog := themes.foldl register initial
      (∀ entry ∈ catalog.themes.entries, entry.2.id = entry.1) ∧
      (catalog.list.Pairwise fun s t => Text.utf8Bytes s.id < Text.utf8Bytes t.id) ∧
      (∀ theme, theme ∈ catalog.list ↔ catalog.get? theme.id = some theme) ∧
      (∃ theme, catalog.get? defaultThemeId = some theme) ∧
      (∀ id, catalog.get? id = (themes.reverse.find? (·.id = id)).or (initial.get? id)) ∧
      (∀ (other : Catalog) (request : Request),
        catalog.get? request.themeId = other.get? request.themeId →
        catalog.render request = other.render request) ∧
      ∀ request : Request,
        ((themes.filter (·.id = request.themeId)).foldl register initial).render request
          =
        catalog.render request := by
  have hindexed := isIndexed_foldl_register (isIndexed_initial hinitial) themes
  refine ⟨hindexed.id_eq, hindexed.pairwise_list, hindexed.mem_list_iff, hindexed.exists_default,
    ?_, ?_, ?_⟩
  . intro id
    apply get?_foldl_register_eq_find?
  . intro other request h
    apply render_congr h
  . intro request
    apply render_congr
    apply get?_foldl_register_filter

theorem foldl_register_holds_latest_house
    : ∃ initial,
        load (.listing Directory.houseEntries) = .ok initial ∧
        let catalog := [Theme.endless, .builtin, .night].foldl register initial
        (catalog.list.Pairwise fun s t => Text.utf8Bytes s.id < Text.utf8Bytes t.id) ∧
        catalog.get? Theme.night.id = some .night ∧
        catalog.get? defaultThemeId = some .builtin ∧
        catalog.get? "day" = none ∧
        catalog.render ⟨"1m", none, none⟩ = builtin.render ⟨"1m", none, none⟩ ∧
        ([Theme.builtin].foldl register initial).render ⟨"1m", none, none⟩
          =
        catalog.render ⟨"1m", none, none⟩ := by
  rcases foldl_register_holds_latest (.inr ⟨_, load_houseEntries⟩) [Theme.endless, .builtin, .night]
    with ⟨_, hlist, _, _, hget, hrender, hothers⟩
  have hdefault := hget defaultThemeId
  have hday := hget "day"
  rw [get?_register, get?_register, get?_builtin] at hday
  refine ⟨_, load_houseEntries, hlist, ?_, hdefault, hday, ?_, ?_⟩
  . exact hget Theme.night.id
  . apply hrender
    exact hdefault.trans (get?_builtin defaultThemeId).symm
  . exact hothers ⟨"1m", none, none⟩

end Mahjong.Catalog
