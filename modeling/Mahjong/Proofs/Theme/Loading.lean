import Mahjong.Proofs.Theme.File
import Mahjong.SortedMap.Lemmas
import Mahjong.Theme.Events

/-!
This module contains what a catalog holds after a directory was loaded. Each entry of the directory
yields one theme or none, so that entries without a theme can be left out, and with one theme for
each id the entries can come in any order.
-/

namespace Mahjong

namespace Theme

/--
Whether an entry of a directory is a theme file that holds a valid theme.
-/
def IsIn (theme : Theme) (entry : String × FileContent) : Prop :=
  Path.hasJsonExtension entry.1 ∧
    ∃ text, entry.2.text = .ok text ∧ ofText? text = some theme ∧ theme.fault? = none

/--
The theme that an entry of a directory adds to a catalog.
-/
def addedBy? (entry : String × FileContent) : Option Theme :=
  if Path.hasJsonExtension entry.1 then (ofFile entry.2).toOption else none

theorem validate_eq_ok_iff {theme valid : Theme}
    : theme.validate = .ok valid ↔ theme = valid ∧ theme.fault? = none := by
  unfold validate
  cases theme.fault? with
  | none => simp
  | some fault => simp

theorem ofFile_eq_ok_iff {content : FileContent} {theme : Theme}
    : ofFile content = .ok theme
        ↔
      ∃ text, content.text = .ok text ∧ ofText? text = some theme ∧ theme.fault? = none := by
  unfold ofFile
  cases content.text with
  | error e => simp
  | ok text =>
    dsimp only
    cases hread : ofText? text with
    | none => simp [hread]
    | some read =>
      dsimp only
      rw [validate_eq_ok_iff]
      constructor
      . rintro ⟨heq, hfault⟩
        subst heq
        exact ⟨text, rfl, hread, hfault⟩
      . rintro ⟨_, htext, hsome, hfault⟩
        cases htext
        rw [hread] at hsome
        cases hsome
        exact ⟨rfl, hfault⟩

theorem addedBy?_eq_some_iff {entry : String × FileContent} {theme : Theme}
    : addedBy? entry = some theme ↔ theme.IsIn entry := by
  unfold addedBy? IsIn
  rw [← ofFile_eq_ok_iff]
  split
  . next hname =>
    cases ofFile entry.2 with
    | error e => simp [Except.toOption]
    | ok read => simp [Except.toOption, hname]
  . next hname => simp [hname]

end Theme

namespace Directory

/--
The entries from which no theme is loaded. A directory cannot be read as a text either.
-/
inductive IsUnusable : String × FileContent → Prop where
  | extension {name content} (h : ¬Path.hasJsonExtension name) : IsUnusable (name, content)
  | unreadable {name content error} (h : FileContent.text content = .error error)
      : IsUnusable (name, content)
  | malformed {name content text} (htext : FileContent.text content = .ok text)
      (h : Theme.ofText? text = none)
      : IsUnusable (name, content)
  | invalid {name content text theme fault} (htext : FileContent.text content = .ok text)
      (hread : Theme.ofText? text = some theme) (h : theme.fault? = some fault)
      : IsUnusable (name, content)

theorem isUnusable_iff (entry : String × FileContent)
    : IsUnusable entry ↔ ∀ theme : Theme, ¬theme.IsIn entry := by
  constructor
  . intro h theme hin
    rcases hin with ⟨hname, text, htext, hread, hfault⟩
    cases h with
    | extension h => contradiction
    | unreadable h => simp [h] at htext
    | malformed htext' h => simp_all
    | invalid htext' hread' h => simp_all
  . intro h
    rcases entry with ⟨name, content⟩
    by_cases hname : Path.hasJsonExtension name
    . cases htext : FileContent.text content with
      | error e => exact .unreadable htext
      | ok text =>
        cases hread : Theme.ofText? text with
        | none => exact .malformed htext hread
        | some theme =>
          cases hfault : theme.fault? with
          | none =>
            have := h theme ⟨hname, text, htext, hread, hfault⟩
            contradiction
          | some fault => exact .invalid htext hread hfault
    . exact .extension hname

/--
Whether no two theme files hold valid themes with the same id.
-/
def HasDistinctIds (entries : List (String × FileContent)) : Prop :=
  entries.Pairwise fun a b => ∀ s t : Theme, s.IsIn a → t.IsIn b → s.id ≠ t.id

end Directory

namespace Catalog

theorem load_listing_eq (entries : List (String × FileContent))
    : load (.listing entries)
        =
      .ok ((entries.filterMap Theme.addedBy?).foldl register builtin) := by
  unfold load Directory.themeFiles
  dsimp only
  generalize builtin = catalog
  induction entries generalizing catalog with
  | nil => rfl
  | cons entry rest ih =>
    rw [List.filter_cons]
    split
    . next hname =>
      rw [List.map_cons, List.foldl_cons, ih]
      cases hfile : Theme.ofFile entry.2 with
      | error e =>
        have hentry : Theme.addedBy? entry = none := by
          simp [Theme.addedBy?, hfile, Except.toOption]
        rw [List.filterMap_cons_none hentry]
      | ok theme =>
        have hentry : Theme.addedBy? entry = some theme := by
          simp [Theme.addedBy?, hname, hfile, Except.toOption]
        rw [List.filterMap_cons_some hentry]
        rfl
    . next hname =>
      have hentry : Theme.addedBy? entry = none := by
        simp [Theme.addedBy?, hname]
      rw [ih, List.filterMap_cons_none hentry]

/--
With one theme for each id it does not matter when a theme is registered.
-/
theorem get?_foldl_register {themes : List Theme} (hdistinct : themes.Pairwise (·.id ≠ ·.id))
    (catalog : Catalog) (id : String)
    : (∀ theme ∈ themes, theme.id = id →
        (themes.foldl register catalog).get? id = some theme) ∧
      ((∀ theme ∈ themes, theme.id ≠ id) →
        (themes.foldl register catalog).get? id = catalog.get? id) := by
  induction themes generalizing catalog with
  | nil => simp
  | cons first rest ih =>
    rcases List.pairwise_cons.1 hdistinct with ⟨hfirst, hrest⟩
    rcases ih hrest (catalog.register first) with ⟨ihmem, ihnot⟩
    constructor
    . intro theme hmem hid
      rcases List.mem_cons.1 hmem with hmem | hmem
      . subst hmem hid
        rw [List.foldl_cons, ihnot, get?_register, if_pos rfl]
        intro other hother
        exact (hfirst other hother).symm
      . exact ihmem theme hmem hid
    . intro hnot
      rcases List.forall_mem_cons.1 hnot with ⟨hne, hnot⟩
      rw [List.foldl_cons, ihnot hnot, get?_register, if_neg hne.symm]

theorem pairwise_addedBy? {entries : List (String × FileContent)}
    (hdistinct : Directory.HasDistinctIds entries)
    : (entries.filterMap Theme.addedBy?).Pairwise (·.id ≠ ·.id) := by
  apply List.pairwise_filterMap.2
  apply hdistinct.imp
  intro a b h s hs t ht
  exact h s t (Theme.addedBy?_eq_some_iff.1 hs) (Theme.addedBy?_eq_some_iff.1 ht)

theorem get?_load_listing {entries : List (String × FileContent)}
    (hdistinct : Directory.HasDistinctIds entries) {catalog : Catalog}
    (hload : load (.listing entries) = .ok catalog) (id : String)
    : (∀ entry ∈ entries, ∀ theme : Theme, theme.IsIn entry → theme.id = id →
        catalog.get? id = some theme) ∧
      ((∀ entry ∈ entries, ∀ theme : Theme, theme.IsIn entry → theme.id ≠ id) →
        catalog.get? id = if id = defaultThemeId then some .builtin else none) := by
  rw [load_listing_eq] at hload
  cases hload
  rcases get?_foldl_register (pairwise_addedBy? hdistinct) builtin id with ⟨hmem, hnot⟩
  constructor
  . intro entry hentry theme hin hid
    apply hmem theme
    . apply List.mem_filterMap.2
      exact ⟨entry, hentry, Theme.addedBy?_eq_some_iff.2 hin⟩
    . assumption
  . intro h
    rw [hnot, get?_builtin]
    intro theme htheme
    rcases List.mem_filterMap.1 htheme with ⟨entry, hentry, hsome⟩
    exact h entry hentry theme (Theme.addedBy?_eq_some_iff.1 hsome)

theorem load_listing_filter {entries : List (String × FileContent)}
    {keep : String × FileContent → Bool}
    (hkeep : ∀ entry ∈ entries, ¬keep entry → Directory.IsUnusable entry)
    : load (.listing (entries.filter keep)) = load (.listing entries) := by
  have hthemes : (entries.filter keep).filterMap Theme.addedBy?
      =
    entries.filterMap Theme.addedBy? := by
    rw [List.filterMap_filter]
    apply List.filterMap_congr
    intro entry hentry
    split
    . rfl
    . next hnot =>
      symm
      apply Option.eq_none_iff_forall_ne_some.2
      intro theme hsome
      have hin := Theme.addedBy?_eq_some_iff.1 hsome
      exact (Directory.isUnusable_iff entry).1 (hkeep entry hentry hnot) theme hin
  rw [load_listing_eq, load_listing_eq, hthemes]

theorem register_comm {s t : Theme} (h : s.id ≠ t.id) (catalog : Catalog)
    : (catalog.register s).register t = (catalog.register t).register s := by
  have hget : ∀ id, ((catalog.register s).register t).get? id
      =
    ((catalog.register t).register s).get? id := by
    intro id
    simp only [get?_register]
    by_cases hid : id = s.id
    . have hne : id ≠ t.id := by
        rw [hid]
        assumption
      rw [if_neg hne, if_neg hne]
    . rw [if_neg hid, if_neg hid]
  exact congrArg Catalog.mk (SortedMap.ext_get? hget)

theorem load_listing_perm {entries others : List (String × FileContent)}
    (hdistinct : Directory.HasDistinctIds entries) (hperm : entries.Perm others)
    : load (.listing entries) = load (.listing others) := by
  rw [load_listing_eq, load_listing_eq]
  apply congrArg Except.ok
  apply (hperm.filterMap Theme.addedBy?).foldl_eq'
  intro s hs t ht catalog
  -- Themes that are equal can be exchanged without regard to their ids.
  by_cases heq : s = t
  . rw [heq]
  . apply register_comm
    have hsymm : Std.Symm fun s t : Theme => s.id ≠ t.id := by
      constructor
      intro s t
      exact Ne.symm
    exact (pairwise_addedBy? hdistinct).forall hs ht heq

theorem loadEvents_listing_perm (path : String) {entries others : List (String × FileContent)}
    (hperm : entries.Perm others)
    : (loadEvents path (.listing entries)).Perm (loadEvents path (.listing others)) := by
  unfold loadEvents Directory.themeFiles
  apply List.Perm.map
  apply List.Perm.map
  apply hperm.filter

/--
What is loaded from a directory does not depend on the order of its entries, nor on the entries that
hold no theme.
-/
theorem load_listing_unordered {entries : List (String × FileContent)}
    (hdistinct : Directory.HasDistinctIds entries)
    : (∀ others path, entries.Perm others →
        load (.listing entries) = load (.listing others) ∧
        (loadEvents path (.listing entries)).Perm (loadEvents path (.listing others))) ∧
      (∀ keep : String × FileContent → Bool,
        (∀ entry ∈ entries, ¬keep entry → Directory.IsUnusable entry) →
        load (.listing (entries.filter keep)) = load (.listing entries)) ∧
      ∃ catalog,
        load (.listing entries) = .ok catalog ∧
        ∀ id,
          (∀ entry ∈ entries, ∀ theme : Theme, theme.IsIn entry → theme.id = id →
            catalog.get? id = some theme) ∧
          ((∀ entry ∈ entries, ∀ theme : Theme, theme.IsIn entry → theme.id ≠ id) →
            catalog.get? id = if id = defaultThemeId then some .builtin else none) := by
  refine ⟨?_, ?_, ?_⟩
  . intro others path hperm
    constructor
    . apply load_listing_perm hdistinct hperm
    . apply loadEvents_listing_perm path hperm
  . intro keep hkeep
    apply load_listing_filter hkeep
  . refine ⟨_, load_listing_eq entries, ?_⟩
    apply get?_load_listing hdistinct
    apply load_listing_eq

end Catalog

theorem Theme.isIn_saved_iff (theme read : Theme) {write : Json.Value → String}
    (hwrite : write ∈ [Json.Value.compact, Json.Value.indented]) (name : String)
    : read.IsIn (name, .ok (write theme.toValue).toUTF8)
        ↔
      Path.hasJsonExtension name ∧ theme = read ∧ theme.fault? = none := by
  rw [← addedBy?_eq_some_iff, ← validate_eq_ok_iff]
  unfold addedBy?
  dsimp only
  rw [toOption_ofFile_write theme hwrite]
  cases theme.validate with
  | error e => simp [Except.toOption]
  | ok valid => simp [Except.toOption]

/--
A theme that takes the place of the built-in one.
-/
def Theme.house : Theme :=
  { Theme.builtin with name := "House" }

/--
Two theme files, one of them with the id of the built-in theme, among entries that hold no theme.
-/
def Directory.houseEntries : List (String × FileContent) :=
  [("night.json", .ok Theme.night.toValue.compact.toUTF8), ("old.json", .error .isADirectory),
    ("house.json", .ok Theme.house.toValue.indented.toUTF8), ("notes.txt", .ok "1m".toUTF8)]

theorem Directory.isUnusable_old : IsUnusable ("old.json", .error .isADirectory) := by
  exact .unreadable rfl

theorem Directory.hasDistinctIds_houseEntries : HasDistinctIds houseEntries := by
  have hnight := fun read => @Theme.isIn_saved_iff Theme.night read Json.Value.compact (by simp)
  have hhouse := fun read => @Theme.isIn_saved_iff Theme.house read Json.Value.indented (by simp)
  have hold := (isUnusable_iff _).1 isUnusable_old
  have hnotes : ∀ theme : Theme, ¬theme.IsIn ("notes.txt", .ok "1m".toUTF8) := by
    apply (isUnusable_iff _).1
    exact .extension (by decide)
  have hne : Theme.night.id ≠ Theme.house.id := by
    decide
  unfold HasDistinctIds houseEntries
  simp only [List.pairwise_cons, List.forall_mem_cons, hnight, hhouse, hold, hnotes, false_implies,
    implies_true, List.not_mem_nil, List.Pairwise.nil, and_true, true_and]
  rintro s t ⟨_, hs, _⟩ ⟨_, ht, _⟩
  rw [← hs, ← ht]
  assumption

theorem Catalog.load_houseEntries
    : load (.listing Directory.houseEntries) = .ok ((builtin.register .night).register .house) := by
  have hnight := @Theme.isIn_saved_iff Theme.night Theme.night Json.Value.compact (by simp)
    "night.json"
  have hhouse := @Theme.isIn_saved_iff Theme.house Theme.house Json.Value.indented (by simp)
    "house.json"
  rw [← Theme.addedBy?_eq_some_iff] at hnight hhouse
  rw [load_listing_eq]
  unfold Directory.houseEntries
  rw [List.filterMap_cons_some (hnight.2 ⟨by decide, rfl, rfl⟩), List.filterMap_cons_none rfl,
    List.filterMap_cons_some (hhouse.2 ⟨by decide, rfl, rfl⟩), List.filterMap_cons_none rfl]
  rfl

theorem Catalog.load_listing_unordered_house
    : Catalog.load (.listing Directory.houseEntries)
        =
      Catalog.load (.listing Directory.houseEntries.reverse) ∧
      (Catalog.loadEvents "themes" (.listing Directory.houseEntries)).Perm
        (Catalog.loadEvents "themes" (.listing Directory.houseEntries.reverse)) ∧
      Catalog.load (.listing (Directory.houseEntries.filter (·.1 ≠ "old.json")))
        =
      Catalog.load (.listing Directory.houseEntries) ∧
      ∃ catalog,
        Catalog.load (.listing Directory.houseEntries) = .ok catalog ∧
        catalog.get? defaultThemeId = some .house ∧
        catalog.get? Theme.night.id = some .night := by
  rcases load_listing_unordered Directory.hasDistinctIds_houseEntries
    with ⟨horder, hremove, catalog, hload, hget⟩
  have hperm := horder Directory.houseEntries.reverse "themes" (List.reverse_perm _).symm
  refine ⟨hperm.1, hperm.2, ?_, catalog, hload, ?_, ?_⟩
  . apply hremove
    intro entry hentry hname
    -- Only one entry has the name of the one that is left out.
    simp only [Directory.houseEntries, List.mem_cons, List.not_mem_nil, or_false] at hentry
    rcases hentry with hentry | hentry | hentry | hentry
    . simp [hentry] at hname
    . rw [hentry]
      exact Directory.isUnusable_old
    . simp [hentry] at hname
    . simp [hentry] at hname
  . apply (hget defaultThemeId).1 ("house.json", .ok Theme.house.toValue.indented.toUTF8)
    . simp [Directory.houseEntries]
    . apply (Theme.isIn_saved_iff Theme.house Theme.house (by simp) _).2
      exact ⟨by decide, rfl, rfl⟩
    . rfl
  . apply (hget Theme.night.id).1 ("night.json", .ok Theme.night.toValue.compact.toUTF8)
    . simp [Directory.houseEntries]
    . apply (Theme.isIn_saved_iff Theme.night Theme.night (by simp) _).2
      exact ⟨by decide, rfl, rfl⟩
    . rfl

end Mahjong
