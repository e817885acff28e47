import Mahjong.Proofs.Theme.Json
import Mahjong.SortedMap.Lemmas
import Mahjong.Theme.File

/-!
This module contains the proof that a theme that was saved to a file is loaded from it if and only if
it is valid.
-/

namespace Mahjong

open Json

theorem FileContent.text_toUTF8 (text : String) : FileContent.text (.ok text.toUTF8) = .ok text := by
  have hbytes : String.fromUTF8? text.toUTF8 = some text := by
    unfold String.fromUTF8?
    rw [String.toUTF8_eq_toByteArray, dif_pos text.isValidUTF8]
    rfl
  unfold FileContent.text
  simp only [bind, Except.bind]
  rw [hbytes]

namespace Theme

theorem isLength_of_fault? {theme : Theme} (h : theme.fault? = none)
    : ∀ member ∈ namedDimensions theme.dimensions, isLength member.2 := by
  unfold fault? at h
  split at h
  . contradiction
  . split at h
    . contradiction
    . next hfind =>
      intro member hmember
      have := List.find?_eq_none.1 hfind member hmember
      simpa using this

theorem isFinite_of_fault? {theme : Theme} (h : theme.fault? = none)
    : theme.dimensions.IsFinite := by
  have hlength : ∀ x, isLength x → Decimal.isFinite x := by
    intro x hx
    unfold isLength at hx
    rw [Bool.and_eq_true] at hx
    exact hx.1
  have hall := isLength_of_fault? h
  unfold namedDimensions at hall
  simp only [List.forall_mem_cons] at hall
  unfold Dimensions.IsFinite
  simp only [List.forall_mem_cons]
  rcases hall with ⟨hwidth, hheight, hgap, hspace, _⟩
  refine ⟨?_, ?_, ?_, ?_, by simp⟩
  all_goals
    apply hlength
    assumption

theorem validate_eq_ok_or (theme : Theme)
    : theme.validate = .ok theme ∨ ∃ e, theme.validate = .error e := by
  unfold validate
  split
  . exact .inr ⟨_, rfl⟩
  . exact .inl rfl

theorem isFinite_of_validate {theme valid : Theme} (h : theme.validate = .ok valid)
    : theme.dimensions.IsFinite := by
  unfold validate at h
  split at h
  . contradiction
  . next hfault => exact isFinite_of_fault? hfault

section

variable (theme : Theme) {write : Value → String}
  (hwrite : write ∈ [Value.compact, Value.indented])
include hwrite

theorem ofFile_write
    : ofFile (.ok (write theme.toValue).toUTF8)
        =
      match ofTree? theme.toValue.tree with
      | none => .error (.malformed (write theme.toValue))
      | some theme => theme.validate := by
  have htext : ofText? (write theme.toValue) = ofTree? theme.toValue.tree := by
    exact read?_write ofTree? theme.toValue hwrite
  unfold ofFile
  rw [FileContent.text_toUTF8]
  dsimp only
  generalize ofText? (write theme.toValue) = read at *
  subst htext
  cases ofTree? theme.toValue.tree with
  | none => rfl
  | some theme => rfl

/--
A saved theme is refused for another reason than before if a number in it has no words.
-/
theorem toOption_ofFile_write
    : (ofFile (.ok (write theme.toValue).toUTF8)).toOption = theme.validate.toOption := by
  rw [ofFile_write theme hwrite]
  by_cases h : theme.dimensions.IsFinite
  . rw [ofTree?_tree h]
  . rw [ofTree?_tree_of_not_isFinite h]
    rcases validate_eq_ok_or theme with hvalid | ⟨e, herror⟩
    . have := isFinite_of_validate hvalid
      contradiction
    . rw [herror]
      rfl

end

end Theme

namespace Catalog

theorem get?_register (catalog : Catalog) (theme : Theme) (id : String)
    : (catalog.register theme).get? id
        =
      if id = theme.id then some theme else catalog.get? id := by
  apply SortedMap.get?_insert

theorem get?_builtin (id : String)
    : builtin.get? id = if id = defaultThemeId then some .builtin else none := by
  apply get?_register

/--
Loading the only theme file of a directory, in which a theme was saved, adds the theme to the
built-in one if it is valid and nothing if it is not. A theme that was added is found under its id,
and under any other id there is what was there before.
-/
theorem load_saved (theme : Theme) {write : Value → String}
    (hwrite : write ∈ [Value.compact, Value.indented]) {entries : List (String × FileContent)}
    {name : String}
    (hentries : entries.filter (Path.hasJsonExtension ·.1)
        =
      [(name, .ok (write theme.toValue).toUTF8)])
    : load (.listing entries)
        =
      .ok (match theme.validate with
        | .ok _ => builtin.register theme
        | .error _ => builtin) ∧
      ∀ id,
        (builtin.register theme).get? id
          =
        if id = theme.id then some theme else builtin.get? id := by
  constructor
  . have hfile := Theme.toOption_ofFile_write theme hwrite
    unfold load Directory.themeFiles
    dsimp only
    rw [hentries]
    simp only [List.map_cons, List.map_nil, List.foldl_cons, List.foldl_nil]
    generalize Theme.ofFile _ = loaded at *
    rcases Theme.validate_eq_ok_or theme with hvalid | ⟨e, herror⟩
    . rw [hvalid] at hfile ⊢
      cases loaded with
      | ok read =>
        have hread := Option.some.inj hfile
        rw [hread]
      | error e => contradiction
    . rw [herror] at hfile ⊢
      cases loaded with
      | ok read => contradiction
      | error e => rfl
  . intro id
    apply get?_register

end Catalog

/--
A theme whose texts need escapes and whose gap is a negative zero.
-/
def Theme.night : Theme :=
  { Theme.builtin with
    id := "night \"\n"
    designs := .ofList [("1m", "\\moon")]
    dimensions := { Theme.builtin.dimensions with tileGap := -0.0 } }

/--
A theme that is saved with a null.
-/
def Theme.endless : Theme :=
  { Theme.night with dimensions := { Theme.night.dimensions with spaceWidth := 1.0 / 0.0 } }

theorem Catalog.load_saved_night
    : load (.listing
        [("notes.txt", .error .notFound), ("a.json", .ok Theme.night.toValue.indented.toUTF8)])
        =
      .ok (builtin.register .night) ∧
      (builtin.register .night).get? "night \"\n" = some .night ∧
      (builtin.register .night).get? "default" = some .builtin ∧
      load (.listing [("a.json", .ok Theme.endless.toValue.compact.toUTF8)]) = .ok builtin := by
  have hvalid : Theme.night.validate = .ok .night := by
    rfl
  have herror : Theme.endless.validate
      =
    .error (.invalid Theme.endless.id (.badLength "spaceWidth" Theme.endless.dimensions.spaceWidth))
      := by
    rfl
  rcases @load_saved Theme.night Value.indented (by simp)
    [("notes.txt", .error .notFound), ("a.json", .ok Theme.night.toValue.indented.toUTF8)]
    "a.json" rfl with ⟨hnight, hget⟩
  rcases @load_saved Theme.endless Value.compact (by simp)
    [("a.json", .ok Theme.endless.toValue.compact.toUTF8)] "a.json" rfl with ⟨hendless, _⟩
  rw [hvalid] at hnight
  rw [herror] at hendless
  refine ⟨hnight, hget "night \"\n", ?_, hendless⟩
  rw [hget "default", get?_builtin]
  rfl

end Mahjong
