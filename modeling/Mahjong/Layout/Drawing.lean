import Mahjong.Instruction
import Mahjong.Layout.Style

/-!
This module contains the layout of a hand. A cursor goes from left to right over the instructions,
and each tile becomes two images at the cursor, its base and its face. Tiles that lie on their side
are rotated about the origin of the canvas, so that their `x` is a negated height and their `y` the
cursor.
-/

namespace Mahjong

variable {α : Type} [Length α]

namespace Dimensions

/--
The height of the canvas has room for an upright tile and for two sideways tiles with a gap between.
-/
def canvasHeight (d : Dimensions α) : α :=
  Length.larger d.tileHeight (d.tileWidth + d.tileWidth + d.tileGap)

/--
How far an instruction moves the cursor. A stacked tile lies above the one before it and takes no
room.
-/
def advance (d : Dimensions α) : Instruction → α
  | .tile _ .upright => d.tileWidth + d.tileGap
  | .tile _ .sideways => d.tileHeight + d.tileGap
  | .tile _ .stacked => Length.zero
  | .gap => d.spaceWidth

/--
Move the cursor over a row of instructions.
-/
def advanceAll (d : Dimensions α) (cursor : α) (instructions : List Instruction) : α :=
  instructions.foldl (fun cursor i => cursor + d.advance i) cursor

/--
The extent of a hand. The sum of its advances starts at negative zero, the neutral element of the
addition of doubles.
-/
def measure (d : Dimensions α) (instructions : List Instruction) : Extent α where
  width := d.advanceAll (-Length.zero) instructions
  height := d.canvasHeight

end Dimensions

/--
Where an image is drawn, before the rotation if it has one.
-/
structure Placement (α : Type) where
  x : α
  y : α
  rotated : Bool

/--
A design in its place. There is none if the style has no design for the key.
-/
structure Image (α : Type) where
  key : String
  design : Option String
  placement : Placement α

/--
A laid out hand.
-/
structure Drawing (α : Type) where
  /-- The size of every image. -/
  dimensions : Dimensions α
  images : List (Image α)
  /-- Where the cursor stands after the last instruction. -/
  cursor : α

/--
Where a tile is drawn that stands at the cursor.
-/
def Dimensions.place (d : Dimensions α) (cursor : α) : Orientation → Placement α
  | .upright => ⟨cursor, d.canvasHeight - d.tileHeight, false⟩
  | .sideways => ⟨-d.canvasHeight, cursor, true⟩
  | .stacked =>
    ⟨d.tileWidth - d.canvasHeight + d.tileGap, cursor - d.tileHeight - d.tileGap, true⟩

namespace Style

/--
The images of one instruction, the base below the face.
-/
def layers (style : Style α) (cursor : α) : Instruction → List (Image α)
  | .tile key orientation =>
    [baseKey, key].map fun key =>
      ⟨key, style.designs.get? key, style.dimensions.place cursor orientation⟩
  | .gap => []

/--
Go over a row of instructions from the cursor on. The result is their images and where the cursor
stands behind the last of them.
-/
def drawFrom (style : Style α) (cursor : α) : List Instruction → List (Image α) × α
  | [] => ([], cursor)
  | i :: rest =>
    let (images, last) := style.drawFrom (cursor + style.dimensions.advance i) rest
    (style.layers cursor i ++ images, last)

/--
Lay out a hand from the left edge of the canvas.
-/
def draw (style : Style α) (instructions : List Instruction) : Drawing α :=
  let (images, cursor) := style.drawFrom Length.zero instructions
  { dimensions := style.dimensions, images, cursor }

end Style

/--
The keys for which a drawing has no design, in the order of drawing.
-/
def Drawing.missing (drawing : Drawing α) : List String :=
  drawing.images.filterMap fun image => if image.design.isNone then some image.key else none

end Mahjong
