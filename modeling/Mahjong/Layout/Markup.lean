import Mahjong.Decimal.Format
import Mahjong.Layout.Drawing
import Mahjong.Text.Element

/-!
This module contains the markup of a drawing: a green mat with a vector image on it that holds one
image element for each layer of each tile.
-/

namespace Mahjong

variable {α : Type} [Length α]

/--
The looks of the mat around a drawing.
-/
def matStyle : String :=
  "background-color: green; padding: 0.375rem; border-radius: 6px;"

/--
One image element. A missing design leaves the address empty.
-/
def Image.markup (text : α → String) (d : Dimensions α) (image : Image α) : String :=
  let place := image.placement
  Text.emptyTag "image" <|
    [("href", image.design.getD ""), ("x", text place.x), ("y", text place.y),
      ("width", text d.tileWidth), ("height", text d.tileHeight)] ++
    (if place.rotated then [("transform", "rotate(-90)")] else [])

/--
The markup of a drawing, with numbers shown by `text`.
-/
def Drawing.markup (text : α → String) (drawing : Drawing α) : String :=
  let d := drawing.dimensions
  Text.openTag "div" [("style", matStyle)] ++
    Text.openTag "svg"
      [("width", "100%"), ("height", text d.canvasHeight), ("style", "display: block;")] ++
    String.join (drawing.images.map (·.markup text d)) ++
    Text.closeTag "svg" ++ Text.closeTag "div"

/--
Numbers in markup are plain, and zero has no sign.
-/
def coordinate (x : Float) : String :=
  if x == 0 then "0" else Decimal.display x

/--
The markup of a hand in a style.
-/
def Style.render (style : Style Float) (instructions : List Instruction) : String :=
  (style.draw instructions).markup coordinate

end Mahjong
