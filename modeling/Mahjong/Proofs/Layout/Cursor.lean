import Mahjong.Proofs.Layout.Canvas
import Mahjong.Proofs.Layout.Markup

/-!
This module contains the agreement of drawing and measuring in exact numbers. The cursor always
stands at the width of the instructions before it, and that width is a sum in which each of them
counts for itself, wherever it stands.
-/

namespace Mahjong

namespace Instruction

def isTile (orientation : Orientation) : Instruction → Bool
  | .tile _ o => o = orientation
  | .gap => false

end Instruction

namespace Placement

/--
The same place further to the right. On a rotated image the horizontal position is `y`.
-/
def moveRight (distance : Rat) (place : Placement Rat) : Placement Rat :=
  if place.rotated then { place with y := place.y + distance }
  else { place with x := place.x + distance }

theorem box_moveRight (d : Dimensions Rat) (distance : Rat) (place : Placement Rat)
    : let box := place.box d
      (place.moveRight distance).box d
        =
      ⟨box.left + distance, box.right + distance, box.top, box.bottom⟩ := by
  unfold moveRight box
  by_cases hrotated : place.rotated
  . simp only [hrotated, ↓reduceIte, Box.mk.injEq, true_and, and_true]
    exact add_right_comm place.y distance d.tileHeight
  . simp only [hrotated, Bool.false_eq_true, ↓reduceIte, Box.mk.injEq, true_and, and_true]
    exact add_right_comm place.x distance d.tileWidth

end Placement

def Image.moveRight (distance : Rat) (image : Image Rat) : Image Rat :=
  { image with placement := image.placement.moveRight distance }

namespace Dimensions

variable (d : Dimensions Rat)

theorem advanceAll_eq_add_sum (cursor : Rat) (instructions : List Instruction)
    : d.advanceAll cursor instructions = cursor + (instructions.map d.advance).sum := by
  induction instructions generalizing cursor with
  | nil => exact (add_zero cursor).symm
  | cons i rest ih =>
    have hstep : d.advanceAll cursor (i :: rest) = d.advanceAll (cursor + d.advance i) rest := by
      rfl
    rw [hstep, ih, List.map_cons, List.sum_cons]
    apply add_assoc

theorem width_measure_eq_sum (instructions : List Instruction)
    : (d.measure instructions).width = (instructions.map d.advance).sum := by
  have hzero : -(Length.zero : Rat) = 0 := by
    rfl
  unfold measure
  rw [advanceAll_eq_add_sum, hzero]
  apply zero_add

theorem advanceAll_eq_width (instructions : List Instruction)
    : d.advanceAll Length.zero instructions = (d.measure instructions).width := by
  rw [advanceAll_eq_add_sum, width_measure_eq_sum]
  apply zero_add

theorem width_measure_append (instructions others : List Instruction)
    : (d.measure (instructions ++ others)).width
        =
      (d.measure instructions).width + (d.measure others).width := by
  rw [width_measure_eq_sum, width_measure_eq_sum, width_measure_eq_sum, List.map_append,
    List.sum_append]

theorem width_measure_perm {instructions others : List Instruction} (h : instructions.Perm others)
    : (d.measure instructions).width = (d.measure others).width := by
  rw [width_measure_eq_sum, width_measure_eq_sum]
  exact (h.map d.advance).sum_eq

theorem advance_eq_count (i : Instruction)
    : d.advance i
        =
      (if i.isTile .upright then 1 else 0) * (d.tileWidth + d.tileGap) +
        (if i.isTile .sideways then 1 else 0) * (d.tileHeight + d.tileGap) +
        (if i == .gap then 1 else 0) * d.spaceWidth := by
  have hzero : (Length.zero : Rat) = 0 := by
    rfl
  cases i with
  | gap => simp [advance, Instruction.isTile]
  | tile key orientation =>
    cases orientation with
    | upright => simp [advance, Instruction.isTile]
    | sideways => simp [advance, Instruction.isTile]
    | stacked => simp [advance, Instruction.isTile, hzero]

theorem width_measure_eq_count (instructions : List Instruction)
    : (d.measure instructions).width
        =
      instructions.countP (·.isTile .upright) * (d.tileWidth + d.tileGap) +
        instructions.countP (·.isTile .sideways) * (d.tileHeight + d.tileGap) +
        instructions.count .gap * d.spaceWidth := by
  rw [width_measure_eq_sum]
  induction instructions with
  | nil => simp
  | cons i rest ih =>
    rw [List.map_cons, List.sum_cons, ih, advance_eq_count, List.countP_cons, List.countP_cons,
      List.count_cons]
    push_cast
    ring

theorem place_add (cursor distance : Rat) (orientation : Orientation)
    : d.place (cursor + distance) orientation = (d.place cursor orientation).moveRight distance := by
  cases orientation with
  | upright => rfl
  | sideways => rfl
  | stacked =>
    unfold place Placement.moveRight
    simp only [↓reduceIte, Placement.mk.injEq, true_and, and_true]
    linarith

end Dimensions

namespace Style

variable (style : Style Rat)

theorem layers_add (cursor distance : Rat) (i : Instruction)
    : style.layers (cursor + distance) i
        =
      (style.layers cursor i).map (·.moveRight distance) := by
  cases i with
  | gap => rfl
  | tile key orientation =>
    unfold layers
    dsimp only
    rw [Dimensions.place_add]
    rfl

theorem images_add (cursor distance : Rat) (instructions : List Instruction)
    : style.images (cursor + distance) instructions
        =
      (style.images cursor instructions).map (·.moveRight distance) := by
  induction instructions generalizing cursor with
  | nil => rfl
  | cons i rest ih =>
    rw [images_cons, images_cons, List.map_append, layers_add, ← ih]
    congr 2
    apply add_right_comm

/--
What is drawn behind some instructions is moved by their width.
-/
theorem images_draw_append (instructions others : List Instruction)
    : (style.draw (instructions ++ others)).images
        =
      (style.draw instructions).images ++
        (style.draw others).images.map
          (·.moveRight (style.dimensions.measure instructions).width) := by
  have hzero : (Length.zero : Rat) + (style.dimensions.measure instructions).width
      =
    (style.dimensions.measure instructions).width := by
    apply zero_add
  rw [images_draw, images_draw, images_draw, images_append, ← images_add, hzero,
    Dimensions.advanceAll_eq_width]

/--
The images of a tile stand between those of the instructions before it and those of the instructions
behind it.
-/
theorem images_draw_of_tile {instructions : List Instruction} {idx : Nat} {key : String}
    {orientation : Orientation} (h : instructions[idx]? = some (.tile key orientation))
    : let d := style.dimensions
      let place := d.place (d.measure (instructions.take idx)).width orientation
      (style.draw instructions).images
        =
      (style.draw (instructions.take idx)).images ++
        [⟨baseKey, style.designs.get? baseKey, place⟩, ⟨key, style.designs.get? key, place⟩] ++
        (style.draw (instructions.drop (idx + 1))).images.map
          (·.moveRight (d.measure (instructions.take (idx + 1))).width) := by
  have htake : (style.draw (instructions.take (idx + 1))).images
      =
    (style.draw (instructions.take idx)).images ++
      style.layers (style.dimensions.measure (instructions.take idx)).width
        (.tile key orientation) := by
    rw [images_draw, images_draw, List.take_add_one, h, Option.toList_some, images_append,
      Dimensions.advanceAll_eq_width, images_cons, images_nil, List.append_nil]
  -- The hand is cut behind the tile, whose images are the last ones of the first part.
  have hsplit := images_draw_append style (instructions.take (idx + 1)) (instructions.drop (idx + 1))
  rw [List.take_append_drop, htake] at hsplit
  exact hsplit

/--
A reader finds both images of a tile where the instructions before it end.
-/
theorem readTags_draw_of_tile (text : Rat → String) {instructions : List Instruction} {idx : Nat}
    {key : String} {orientation : Orientation}
    (h : instructions[idx]? = some (.tile key orientation))
    : let d := style.dimensions
      let place := d.place (d.measure (instructions.take idx)).width orientation
      Text.readTags ((style.draw instructions).markup text)
        =
      some (matTags (text (d.measure instructions).height) <|
        (style.draw (instructions.take idx)).images.map (·.tag text d) ++
          [imageTag text d place (style.address baseKey),
            imageTag text d place (style.address key)] ++
          ((style.draw (instructions.drop (idx + 1))).images.map
            (·.moveRight (d.measure (instructions.take (idx + 1))).width)).map
            (·.tag text d)) := by
  dsimp only
  rw [Drawing.readTags_markup]
  unfold Drawing.tags
  rw [images_draw_of_tile style h, List.map_append, List.map_append]
  rfl

/--
Drawing and measuring agree. Each tile is printed at the width of the instructions before it, the
cursor ends at the width of all of them, and their order has no part in that width, so that a hand
that is drawn behind another one is the same hand further to the right.
-/
theorem draw_follows_measure (instructions : List Instruction) (text : Rat → String)
    : let d := style.dimensions
      let width := fun row => (d.measure row).width
      let tags := fun images : List (Image Rat) => images.map (·.tag text d)
      let read := fun row => Text.readTags ((style.draw row).markup text)
      let mat := matTags (text (d.measure instructions).height)
      (∀ idx key orientation, instructions[idx]? = some (.tile key orientation) →
        let before := (style.draw (instructions.take idx)).images
        let after := (style.draw (instructions.drop (idx + 1))).images.map
          (·.moveRight (width (instructions.take (idx + 1))))
        ∃ place : Placement Rat,
          let image := fun href => Text.Tag.empty "image" <|
            [("href", href), ("x", text place.x), ("y", text place.y),
              ("width", text d.tileWidth), ("height", text d.tileHeight)] ++
            (if place.rotated then [("transform", "rotate(-90)")] else [])
          (style.draw instructions).images
            =
          before ++
            [⟨baseKey, style.designs.get? baseKey, place⟩, ⟨key, style.designs.get? key, place⟩] ++
            after ∧
          read instructions
            =
          some (mat (tags before ++ [image (style.address baseKey), image (style.address key)] ++
            tags after)) ∧
          (place.rotated ↔ orientation ≠ .upright) ∧
          match orientation with
          | .upright => place.x = width (instructions.take idx)
          | .sideways => place.y = width (instructions.take idx)
          | .stacked => place.y = width (instructions.take idx) - d.tileHeight - d.tileGap) ∧
      (style.draw instructions).cursor = width instructions ∧
      read instructions = some (mat (tags (style.draw instructions).images)) ∧
      width instructions
        =
      instructions.countP (·.isTile .upright) * (d.tileWidth + d.tileGap) +
        instructions.countP (·.isTile .sideways) * (d.tileHeight + d.tileGap) +
        instructions.count .gap * d.spaceWidth ∧
      (∀ others, instructions.Perm others → width instructions = width others) ∧
      (∀ others,
        let behind := (style.draw others).images.map (·.moveRight (width instructions))
        width (instructions ++ others) = width instructions + width others ∧
        (style.draw (instructions ++ others)).images = (style.draw instructions).images ++ behind ∧
        read (instructions ++ others)
          =
        some (mat (tags (style.draw instructions).images ++ tags behind))) ∧
      ∀ distance (place : Placement Rat),
        let box := place.box d
        (place.moveRight distance).box d
          =
        ⟨box.left + distance, box.right + distance, box.top, box.bottom⟩ := by
  dsimp only
  refine ⟨?_, ?_, ?_, ?_, ?_, ?_, ?_⟩
  . intro idx key orientation h
    refine ⟨_, images_draw_of_tile style h, readTags_draw_of_tile style text h, ?_⟩
    cases orientation with
    | upright => simp [Dimensions.place]
    | sideways => simp [Dimensions.place]
    | stacked => simp [Dimensions.place]
  . rw [cursor_draw]
    apply Dimensions.advanceAll_eq_width
  . apply Drawing.readTags_markup
  . apply Dimensions.width_measure_eq_count
  . intro others h
    exact Dimensions.width_measure_perm _ h
  . intro others
    refine ⟨?_, ?_, ?_⟩
    . apply Dimensions.width_measure_append
    . apply images_draw_append
    . rw [Drawing.readTags_markup, ← List.map_append, ← images_draw_append]
      rfl
  . intro distance place
    apply Placement.box_moveRight

/--
A stacked call, and a tile behind a gap.
-/
def callHand : List Instruction :=
  [.tile "5p" .sideways, .tile "5p" .stacked, .gap, .tile "1m" .upright]

theorem draw_follows_measure_call
    : let style : Style Rat := ⟨.ofList [("5p", "five.svg")], 30, 40, 2, 12⟩
      let text := fun x : Rat => toString x.num
      let image := fun (x y href : String) (rest : List (String × String)) =>
        Text.Tag.empty "image" <|
          [("href", href), ("x", x), ("y", y), ("width", "30"), ("height", "40")] ++ rest
      (∃ before x after,
        Text.readTags ((style.draw callHand).markup text)
          =
        some (matTags "62" (before ++
          [image x "0" "" [("transform", "rotate(-90)")],
            image x "0" "five.svg" [("transform", "rotate(-90)")]] ++ after))) ∧
      (∃ before y after,
        Text.readTags ((style.draw callHand).markup text)
          =
        some (matTags "62" (before ++ [image "54" y "" [], image "54" y "" []] ++ after))) ∧
      (style.dimensions.measure callHand.reverse).width = 86 := by
  intro style text image
  have hwidth : ∀ n ∈ [(1, 42), (3, 54), (4, 86)],
      (style.dimensions.measure (callHand.take n.1)).width = n.2 := by
    decide +kernel
  have htext : text 0 = "0" ∧ text 54 = "54" ∧ text style.dimensions.tileWidth = "30" ∧
      text style.dimensions.tileHeight = "40" ∧
      text (style.dimensions.measure callHand).height = "62" := by
    decide +kernel
  have haddress : style.address baseKey = "" ∧ style.address "5p" = "five.svg" ∧
      style.address "1m" = "" := by
    decide
  rcases draw_follows_measure style callHand text with ⟨htile, _, _, _, hperm, _, _⟩
  refine ⟨?_, ?_, ?_⟩
  . rcases htile 1 "5p" .stacked rfl with ⟨place, _, hread, hrotated, hplace⟩
    have hrotated : place.rotated = true := by
      simp [hrotated]
    have hy : place.y = 0 := by
      dsimp only at hplace
      rw [hplace, hwidth (1, 42) (by simp)]
      norm_num [style]
    simp only [hrotated, hy, htext, haddress, ↓reduceIte] at hread
    exact ⟨_, _, _, hread⟩
  . rcases htile 3 "1m" .upright rfl with ⟨place, _, hread, hrotated, hplace⟩
    have hrotated : place.rotated = false := by
      simpa using hrotated
    have hx : place.x = 54 := by
      dsimp only at hplace
      rw [hplace, hwidth (3, 54) (by simp)]
    simp only [hrotated, hx, htext, haddress, Bool.false_eq_true, ↓reduceIte] at hread
    exact ⟨_, _, _, hread⟩
  . exact (hperm _ (List.reverse_perm _).symm).symm.trans (hwidth (4, 86) (by simp))

end Style

end Mahjong
