import Mahjong.Proofs.Hand.Writing
import Mahjong.Proofs.Layout.Markup
import Mahjong.Proofs.Render.Rendering
import Mahjong.Render.Events

/-!
This module contains what is reported of designs that a style does not have: one warning for each
layer that is left without an address, and none besides. Of all tiles that can be written, the
built-in theme lacks the designs of three.
-/

namespace Mahjong

open Text

/--
The keys of the layers of an instruction, the base below the face.
-/
def Instruction.layerKeys : Instruction → List String
  | .tile key _ => [baseKey, key]
  | .gap => []

def layerKeys (instructions : List Instruction) : List String :=
  instructions.flatMap (·.layerKeys)

theorem layerKeys_cons (i : Instruction) (rest : List Instruction)
    : layerKeys (i :: rest) = i.layerKeys ++ layerKeys rest := by
  apply List.flatMap_cons

namespace Style

section

variable {α : Type} [Length α]

theorem missing_layers (style : Style α) (cursor : α) (i : Instruction)
    : ((style.layers cursor i).filterMap fun image =>
        if image.design.isNone then some image.key else none)
        =
      i.layerKeys.filter fun key => ¬style.designs.contains key := by
  cases i with
  | gap => rfl
  | tile key orientation =>
    unfold layers Instruction.layerKeys SortedMap.contains
    cases hbase : style.designs.get? baseKey <;> cases hface : style.designs.get? key <;>
      simp [hbase, hface]

theorem missing_draw (style : Style α) (instructions : List Instruction)
    : (style.draw instructions).missing
        =
      (layerKeys instructions).filter fun key => ¬style.designs.contains key := by
  unfold Drawing.missing
  rw [images_draw]
  -- Where the cursor stands has no part in which designs are there.
  generalize (Length.zero : α) = cursor
  induction instructions generalizing cursor with
  | nil => rfl
  | cons i rest ih =>
    rw [images_cons, List.filterMap_append, missing_layers, ih, layerKeys_cons, List.filter_append]

end

theorem filter_isWarning_renderEvents (style : Style Float) (instructions : List Instruction)
    : (style.renderEvents instructions).filter (·.isWarning)
        =
      ((layerKeys instructions).filter fun key => ¬style.designs.contains key).map
        .designMissing := by
  have hmissing : (·.isWarning) ∘ Event.designMissing = fun _ => true := by
    rfl
  unfold renderEvents
  dsimp only
  rw [missing_draw, List.filter_append, List.filter_map, hmissing, List.filter_true,
    List.filter_cons_of_neg (by simp [Event.isWarning]), List.filter_nil, List.append_nil]

end Style

def Text.Tag.href? : Tag → Option String
  | .empty "image" attributes => attributes.lookup "href"
  | _ => none

@[simp]
theorem Text.Tag.href?_opening (name : String) (attributes : List (String × String))
    : (opening name attributes).href? = none := by
  rfl

@[simp]
theorem Text.Tag.href?_closing (name : String) : (closing name).href? = none := by
  rfl

/--
The addresses that a reader finds in markup, in the order of its images.
-/
def addressesIn (markup : String) : Option (List String) :=
  (readTags markup).map (·.filterMap Tag.href?)

namespace Style

theorem href?_layerTag (d : Dimensions Float) (cursor : Float) (orientation : Orientation)
    (address : String)
    : (layerTag d cursor orientation address).href? = some address := by
  rfl

theorem filterMap_href?_layerTags (style : Style Float) (cursor : Float)
    (instructions : List Instruction)
    : (style.layerTags cursor instructions).filterMap Tag.href?
        =
      (layerKeys instructions).map style.address := by
  induction instructions generalizing cursor with
  | nil => rfl
  | cons i rest ih =>
    cases i with
    | gap =>
      unfold layerTags
      apply ih
    | tile key orientation =>
      unfold layerTags
      rw [List.filterMap_cons_some (href?_layerTag ..),
        List.filterMap_cons_some (href?_layerTag ..), ih]
      rfl

theorem addressesIn_render (style : Style Float) (instructions : List Instruction)
    : addressesIn (style.render instructions)
        =
      some ((layerKeys instructions).map style.address) := by
  unfold addressesIn
  rw [readTags_draw, Option.map_some]
  unfold tags matTags
  rw [List.filterMap_append, List.filterMap_append, filterMap_href?_layerTags]
  simp

theorem address_of_not_contains {style : Style Float} {key : String}
    (h : ¬style.designs.contains key)
    : style.address key = "" := by
  unfold SortedMap.contains at h
  unfold address
  rw [Option.not_isSome_iff_eq_none.1 h]
  rfl

end Style

namespace Hand

theorem not_isWarning_of_mem_events {piece : Piece} {suit : Suit} {e : Event}
    (h : e ∈ piece.events suit)
    : ¬e.isWarning := by
  unfold Piece.events at h
  split at h
  . contradiction
  . rw [List.mem_singleton] at h
    rw [h]
    simp [Event.isWarning]

theorem not_isWarning_of_mem_stepEvents {scan : Scan} {mark : Mark} {e : Event}
    (h : e ∈ scan.stepEvents mark)
    : ¬e.isWarning := by
  unfold Scan.stepEvents at h
  split at h
  . rcases List.mem_flatMap.1 h with ⟨piece, _, hmem⟩
    exact not_isWarning_of_mem_events hmem
  . split at h
    . exact not_isWarning_of_mem_events h
    . contradiction
  . contradiction

theorem not_isWarning_of_mem_runEvents {scan : Scan} {text : List Char} {e : Event}
    (h : e ∈ scan.runEvents text)
    : ¬e.isWarning := by
  induction text generalizing scan with
  | nil => contradiction
  | cons c rest ih =>
    unfold Scan.runEvents at h
    rcases List.mem_append.1 h with h | h
    . exact not_isWarning_of_mem_stepEvents h
    . exact ih h

/--
To read a hand is no cause for a warning, whatever is written.
-/
theorem filter_isWarning_parseEvents (text : String)
    : (parseEvents text).filter (·.isWarning) = [] := by
  unfold parseEvents
  dsimp only
  rw [List.filter_append, List.filter_append,
    List.filter_eq_nil_iff.2 fun _ => not_isWarning_of_mem_runEvents]
  split <;> rfl

end Hand

namespace Theme

theorem get?_builtin_designs (key : String)
    : builtin.designs.get? key
        =
      if key ∈ builtinKeys then some ("tiles/" ++ key ++ ".svg") else none := by
  apply SortedMap.get?_ofList_map

/--
The honors that can be written but are in no set of tiles, which has seven of them.
-/
def unpictured : List String := ["0z", "8z", "9z"]

theorem mem_builtinKeys_iff {key : String} (h : key = baseKey ∨ key ∈ Hand.tileKeys)
    : key ∈ builtinKeys ↔ key ∉ unpictured := by
  rcases h with h | h
  . rw [h]
    decide
  . revert key
    decide

theorem contains_builtin_iff (key : String)
    : builtin.designs.contains key ↔ key ∈ builtinKeys := by
  unfold SortedMap.contains
  rw [get?_builtin_designs]
  split
  . next h => simp [h]
  . next h => simp [h]

theorem address_builtin_eq_empty_iff (key : String)
    : (builtin.style none).address key = "" ↔ key ∉ builtinKeys := by
  have haddress : (builtin.style none).address key = (builtin.designs.get? key).getD "" := by
    rfl
  rw [haddress, get?_builtin_designs]
  split
  . next h => simp [h]
  . next h => simp [h]

end Theme

def Instruction.faceKey? : Instruction → Option String
  | .tile key _ => some key
  | .gap => none

def faceKeys (instructions : List Instruction) : List String :=
  instructions.filterMap (·.faceKey?)

theorem mem_layerKeys {instructions : List Instruction} (h : Hand.IsDrawable instructions)
    {key : String} (hkey : key ∈ layerKeys instructions)
    : key = baseKey ∨ key ∈ Hand.tileKeys := by
  rcases List.mem_flatMap.1 hkey with ⟨i, hi, hmem⟩
  cases i with
  | gap => contradiction
  | tile face orientation =>
    simp only [Instruction.layerKeys, List.mem_cons, List.not_mem_nil, or_false] at hmem
    rcases hmem with heq | heq
    . exact .inl heq
    . rw [heq]
      exact .inr (h face orientation hi)

theorem filter_layerKeys_unpictured (instructions : List Instruction)
    : (layerKeys instructions).filter (· ∈ Theme.unpictured)
        =
      (faceKeys instructions).filter (· ∈ Theme.unpictured) := by
  have hbase : baseKey ∉ Theme.unpictured := by
    decide
  induction instructions with
  | nil => rfl
  | cons i rest ih =>
    rw [layerKeys_cons, List.filter_append, ih]
    cases i with
    | gap => rfl
    | tile key orientation =>
      have hfaces : faceKeys (.tile key orientation :: rest) = key :: faceKeys rest := by
        rfl
      rw [hfaces, ← List.singleton_append, List.filter_append]
      simp [Instruction.layerKeys, hbase]

/--
The built-in theme lacks the designs of some faces, but not the one below them.
-/
theorem filter_not_contains_builtin {instructions : List Instruction}
    (h : Hand.IsDrawable instructions)
    : ((layerKeys instructions).filter fun key => ¬Theme.builtin.designs.contains key)
        =
      (faceKeys instructions).filter (· ∈ Theme.unpictured) := by
  rw [← filter_layerKeys_unpictured]
  apply List.filter_congr
  intro key hkey
  have hmem := Theme.mem_builtinKeys_iff (mem_layerKeys h hkey)
  rw [decide_eq_decide, Theme.contains_builtin_iff, hmem, Decidable.not_not]

namespace Catalog

theorem filter_isWarning_renderEvents {catalog : Catalog} {request : Request} {style : Style Float}
    (hstyle : catalog.style request.themeId request.overrides = .ok style)
    : (catalog.renderEvents request).filter (·.isWarning)
        =
      (style.renderEvents (Hand.parse request.hand)).filter (·.isWarning) := by
  unfold renderEvents handEvents
  rw [render_eq_map, hstyle, List.filter_append]
  dsimp only [Except.map]
  rw [List.filter_append, Hand.filter_isWarning_parseEvents, List.nil_append]
  simp [Event.isWarning]

end Catalog

/--
Each layer without a design is reported once, in the order of drawing, and has no address. In the
built-in theme these are the faces of three tiles.
-/
theorem Style.missing_designs_reported
    : (∀ (style : Style Float) (hand : List Instruction),
        let missing := (layerKeys hand).filter fun key => ¬style.designs.contains key
        let warnings := (style.renderEvents hand).filter (·.isWarning)
        warnings = missing.map .designMissing ∧
        (∀ explain,
          warnings.map (·.line explain)
            =
          missing.map ("WARN no design for tile key " ++ Text.quoted ·)) ∧
        addressesIn (style.render hand) = some ((layerKeys hand).map style.address) ∧
        ∀ key ∈ missing, style.address key = "") ∧
      ∀ text,
        let request : Request := ⟨text, none, none⟩
        let hand := Hand.parse text
        let style := Theme.builtin.style none
        ∃ drawn,
          Catalog.builtin.render request = .ok drawn ∧
          (Catalog.builtin.renderEvents request).filter (·.isWarning)
            =
          ((faceKeys hand).filter (· ∈ Theme.unpictured)).map .designMissing ∧
          addressesIn drawn.markup = some ((layerKeys hand).map style.address) ∧
          ∀ key ∈ layerKeys hand, (style.address key = "" ↔ key ∈ Theme.unpictured) := by
  constructor
  . intro style hand missing warnings
    have hwarnings : warnings = missing.map .designMissing := by
      apply filter_isWarning_renderEvents
    refine ⟨hwarnings, ?_, addressesIn_render style hand, ?_⟩
    . intro explain
      rw [hwarnings, List.map_map]
      apply List.map_congr_left
      intro key _
      rfl
    . intro key hkey
      apply address_of_not_contains
      simpa using (List.mem_filter.1 hkey).2
  . intro text request hand style
    have hdrawable := Hand.isDrawable_parse text
    have hstyle : Catalog.builtin.style request.themeId none = .ok style := by
      rw [Catalog.style_eq, Catalog.get?_builtin]
      rfl
    have hdrawn : Catalog.builtin.render request = .ok (request.drawnIn style) := by
      rw [Catalog.render_eq_map, hstyle]
      rfl
    refine ⟨_, hdrawn, ?_, addressesIn_render style hand, ?_⟩
    . rw [Catalog.filter_isWarning_renderEvents hstyle, filter_isWarning_renderEvents,
        ← filter_not_contains_builtin hdrawable]
      rfl
    . intro key hkey
      have hmem := Theme.mem_builtinKeys_iff (mem_layerKeys hdrawable hkey)
      rw [Theme.address_builtin_eq_empty_iff, hmem, Decidable.not_not]

theorem Style.missing_designs_reported_honors
    : let blank : Style Float := ⟨.empty, Theme.builtin.dimensions⟩
      let honors : Request := ⟨"18z-0z\"", none, none⟩
      blank.address baseKey = "" ∧
      (∃ drawn,
        Catalog.builtin.render honors = .ok drawn ∧
        (Catalog.builtin.renderEvents honors).filter (·.isWarning)
          =
        [.designMissing "8z", .designMissing "0z", .designMissing "0z"]) ∧
      (Theme.builtin.style none).address baseKey ≠ "" ∧
      (Theme.builtin.style none).address "1z" ≠ "" ∧
      (Theme.builtin.style none).address "8z" = "" := by
  intro blank honors
  rcases missing_designs_reported with ⟨hreported, hbuiltin⟩
  rcases hbuiltin "18z-0z\"" with ⟨drawn, hdrawn, hwarnings, _, haddress⟩
  have hhand : Hand.parse "18z-0z\""
      =
    [.tile "1z" .upright, .tile "8z" .upright, .gap, .tile "0z" .sideways,
      .tile "0z" .stacked] := by
    decide
  rw [hhand] at hwarnings haddress
  refine ⟨?_, ⟨drawn, hdrawn, hwarnings⟩, ?_, ?_, ?_⟩
  . apply (hreported blank [.tile "x" .upright]).2.2.2
    decide
  . rw [ne_eq, haddress baseKey (by decide)]
    decide
  . rw [ne_eq, haddress "1z" (by decide)]
    decide
  . rw [haddress "8z" (by decide)]
    decide

end Mahjong
