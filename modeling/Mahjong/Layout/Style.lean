import Mahjong.Layout.Length
import Mahjong.SortedMap

/-!
This module contains what decides the looks of a drawing: the dimensions of tiles and gaps, and the
designs that are drawn on the tiles.
-/

namespace Mahjong

/--
The lengths that a layout is made of.
-/
structure Dimensions (α : Type) where
  tileWidth : α
  tileHeight : α
  tileGap : α
  spaceWidth : α

/--
Dimensions together with the address of the design for each tile key.
-/
structure Style (α : Type) where
  designs : SortedMap String
  dimensions : Dimensions α

/--
The width a hand takes up and the height of the canvas it is drawn on.
-/
structure Extent (α : Type) where
  width : α
  height : α

/--
The key of the design that lies under the face of every tile.
-/
def baseKey : String := "base"

end Mahjong
