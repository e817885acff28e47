import Mahjong.Layout.Markup
import Mahjong.Proofs.Decimal.Digits
import Mahjong.Proofs.Layout.Drawing
import Mahjong.Proofs.Text.Tags

/-!
This module contains what a reader finds in the markup of a drawing. All addresses of designs come
back as they are in the style, so that none of them can change the elements around it.
-/

namespace Mahjong

open Text

/--
The tags of a mat and of the vector image on it that holds some tags.
-/
def matTags (height : String) (inner : List Tag) : List Tag :=
  [.opening "div" [("style", matStyle)],
    .opening "svg" [("width", "100%"), ("height", height), ("style", "display: block;")]] ++
  inner ++
  [.closing "svg", .closing "div"]

theorem wellNamed_matTags {height : String} {inner : List Tag}
    (h : ∀ tag ∈ inner, tag.WellNamed)
    : ∀ tag ∈ matTags height inner, tag.WellNamed := by
  have hnames : Tag.IsName "div" ∧ Tag.IsName "svg" ∧ Tag.IsName "style" ∧ Tag.IsName "width" ∧
      Tag.IsName "height" := by
    refine ⟨?_, ?_, ?_, ?_, ?_⟩
    all_goals
      apply Tag.isName_of_all
      . decide
      . decide
  unfold matTags
  simp only [List.forall_mem_append]
  refine ⟨⟨?_, h⟩, ?_⟩
  . simp only [List.forall_mem_cons, Tag.WellNamed, hnames]
    simp
  . simp [Tag.WellNamed, hnames]

section

variable {α : Type} (text : α → String)

/--
The tag of an image with a given address, with numbers shown by `text`.
-/
def imageTag (d : Dimensions α) (place : Placement α) (href : String) : Tag :=
  .empty "image" <|
    [("href", href), ("x", text place.x), ("y", text place.y),
      ("width", text d.tileWidth), ("height", text d.tileHeight)] ++
    (if place.rotated then [("transform", "rotate(-90)")] else [])

theorem wellNamed_imageTag (d : Dimensions α) (place : Placement α) (href : String)
    : (imageTag text d place href).WellNamed := by
  have hnames : Tag.IsName "image" ∧ Tag.IsName "href" ∧ Tag.IsName "x" ∧ Tag.IsName "y" ∧
      Tag.IsName "width" ∧ Tag.IsName "height" ∧ Tag.IsName "transform" := by
    refine ⟨?_, ?_, ?_, ?_, ?_, ?_, ?_⟩
    all_goals
      apply Tag.isName_of_all
      . decide
      . decide
  unfold imageTag Tag.WellNamed
  by_cases hrotated : place.rotated
  . simp [hrotated, hnames]
  . simp [hrotated, hnames]

def Image.tag (d : Dimensions α) (image : Image α) : Tag :=
  imageTag text d image.placement (image.design.getD "")

namespace Drawing

variable [Length α]

/--
The tags of a drawing.
-/
def tags (drawing : Drawing α) : List Tag :=
  matTags (text drawing.dimensions.canvasHeight)
    (drawing.images.map (·.tag text drawing.dimensions))

theorem markup_eq_join (drawing : Drawing α)
    : drawing.markup text = String.join ((drawing.tags text).map Tag.write) := by
  have himages : drawing.images.map (·.markup text drawing.dimensions)
      =
    (drawing.images.map (·.tag text drawing.dimensions)).map Tag.write := by
    rw [List.map_map]
    rfl
  unfold Drawing.markup tags matTags
  dsimp only
  rw [himages]
  simp [Tag.write, String.append_assoc]

/--
Whatever numbers and addresses are written as, a reader finds them as they are.
-/
theorem readTags_markup (drawing : Drawing α)
    : readTags (drawing.markup text) = some (drawing.tags text) := by
  rw [markup_eq_join]
  apply readTags_join
  apply wellNamed_matTags
  intro tag htag
  rcases List.mem_map.1 htag with ⟨image, _, heq⟩
  rw [← heq]
  apply wellNamed_imageTag

end Drawing

end

namespace Style

def address {α : Type} (style : Style α) (key : String) : String :=
  (style.designs.get? key).getD ""

/--
The image element of a tile that lies at the cursor.
-/
def layerTag (d : Dimensions Float) (cursor : Float) (orientation : Orientation) (href : String)
    : Tag :=
  let place := d.place cursor orientation
  .empty "image" <|
    [("href", href), ("x", coordinate place.x), ("y", coordinate place.y),
      ("width", coordinate d.tileWidth), ("height", coordinate d.tileHeight)] ++
    (if orientation = .upright then [] else [("transform", "rotate(-90)")])

/--
The image elements of a row of instructions from the cursor on: two for each tile, one below the
other, and none for a gap.
-/
def layerTags (style : Style Float) (cursor : Float) : List Instruction → List Tag
  | [] => []
  | .gap :: rest => style.layerTags (cursor + style.dimensions.spaceWidth) rest
  | .tile key orientation :: rest =>
    layerTag style.dimensions cursor orientation (style.address baseKey) ::
    layerTag style.dimensions cursor orientation (style.address key) ::
    style.layerTags (cursor + style.dimensions.advance (.tile key orientation)) rest

/--
The tags of a hand: a mat, a vector image on it and the image elements in that.
-/
def tags (style : Style Float) (instructions : List Instruction) : List Tag :=
  matTags (coordinate style.dimensions.canvasHeight) (style.layerTags Length.zero instructions)

theorem tag_layer (d : Dimensions Float) (cursor : Float) (orientation : Orientation)
    (key : String) (design : Option String)
    : Image.tag coordinate d ⟨key, design, d.place cursor orientation⟩
        =
      layerTag d cursor orientation (design.getD "") := by
  cases orientation <;> rfl

theorem map_tag_images (style : Style Float) (cursor : Float) (instructions : List Instruction)
    : (style.images cursor instructions).map (·.tag coordinate style.dimensions)
        =
      style.layerTags cursor instructions := by
  induction instructions generalizing cursor with
  | nil => rfl
  | cons i rest ih =>
    rw [images_cons, List.map_append, ih]
    cases i with
    | gap => rfl
    | tile key orientation =>
      simp only [layers, List.map_cons, List.map_nil, tag_layer]
      rfl

theorem tags_draw (style : Style Float) (instructions : List Instruction)
    : (style.draw instructions).tags coordinate = style.tags instructions := by
  unfold Drawing.tags tags
  rw [images_draw, ← map_tag_images]
  rfl

theorem readTags_draw (style : Style Float) (instructions : List Instruction)
    : readTags (style.render instructions) = some (style.tags instructions) := by
  rw [← tags_draw]
  apply Drawing.readTags_markup

/--
Take away what a tag says about addresses.
-/
def eraseAddress : Tag → Tag
  | .opening name items => .opening name (items.filter (·.1 ≠ "href"))
  | .empty name items => .empty name (items.filter (·.1 ≠ "href"))
  | .closing name => .closing name

theorem map_eraseAddress_layerTags (style : Style Float) (designs : SortedMap String)
    (cursor : Float) (instructions : List Instruction)
    : (layerTags ⟨designs, style.dimensions⟩ cursor instructions).map eraseAddress
        =
      (style.layerTags cursor instructions).map eraseAddress := by
  induction instructions generalizing cursor with
  | nil => rfl
  | cons i rest ih =>
    cases i with
    | gap =>
      unfold layerTags
      apply ih
    | tile key orientation =>
      unfold layerTags
      rw [List.map_cons, List.map_cons, ih]
      rfl

theorem tags_eq_tags_iff (style other : Style Float) (instructions others : List Instruction)
    : style.tags instructions = other.tags others
        ↔
      coordinate style.dimensions.canvasHeight = coordinate other.dimensions.canvasHeight ∧
      style.layerTags Length.zero instructions = other.layerTags Length.zero others := by
  unfold tags matTags
  rw [List.append_left_inj]
  simp

/--
A reader finds the mat, the vector image and the image elements of all tiles in the markup of a
hand, each with the address that the style has for it, and nothing else. Other designs change
nothing but the addresses, and hands with different image elements have different markup.
-/
theorem readTags_render (style : Style Float) (instructions : List Instruction)
    : readTags (style.render instructions) = some (style.tags instructions)
        ∧
      (∀ designs : SortedMap String,
        (tags ⟨designs, style.dimensions⟩ instructions).map eraseAddress
          =
        (style.tags instructions).map eraseAddress)
        ∧
      (∀ (other : Style Float) (others : List Instruction),
        style.render instructions = other.render others
          ↔
        coordinate style.dimensions.canvasHeight = coordinate other.dimensions.canvasHeight ∧
        style.layerTags Length.zero instructions = other.layerTags Length.zero others) := by
  refine ⟨?_, ?_, ?_⟩
  . apply readTags_draw
  . intro designs
    unfold tags matTags
    simp only [List.map_append]
    rw [map_eraseAddress_layerTags]
  . intro other others
    rw [← tags_eq_tags_iff]
    constructor
    . intro h
      have hboth := readTags_draw style instructions
      rw [h, readTags_draw other others] at hboth
      exact (Option.some.inj hboth).symm
    . intro h
      unfold render
      rw [Drawing.markup_eq_join, Drawing.markup_eq_join, tags_draw, tags_draw, h]

end Style

/--
Numbers stand in markup as they are, since there is nothing in them to escape.
-/
theorem escapeAttribute_coordinate (x : Float)
    : escapeAttribute (coordinate x) = coordinate x := by
  apply escapeAttribute_of_ne
  have hnumber : ∀ c, Decimal.IsNumberChar c → c ≠ '&' ∧ c ≠ '"' ∧ c ≠ '<' ∧ c ≠ '>' := by
    intro c hc
    refine ⟨?_, ?_, ?_, ?_⟩
    all_goals
      intro heq
      subst heq
      revert hc
      simp [Decimal.IsNumberChar]
  unfold coordinate Decimal.display
  split
  . simp
  . split
    . rw [String.toList_ofList]
      intro c hc
      apply hnumber
      apply Decimal.isNumberChar_of_mem_writeFinite _ c hc
      simp [Decimal.Format.plain]
    . split
      . simp
      . split
        . simp
        . simp

end Mahjong
