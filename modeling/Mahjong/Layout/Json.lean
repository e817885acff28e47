import Mahjong.Json.Data
import Mahjong.Json.Record
import Mahjong.Layout.Style

/-!
This module contains the JSON form of styles and extents.
-/

namespace Mahjong

open Json

/--
A map of designs as an object.
-/
def designsToValue (designs : SortedMap String) : Value :=
  .object (designs.map Value.string).entries

def designsToData (designs : SortedMap String) : Data :=
  .map (designs.entries.map fun entry => (.value (.string entry.1), .value (.string entry.2)))

namespace Dimensions

def toMembers (d : Dimensions Float) : List (String × Value) :=
  [("tileWidth", .float d.tileWidth), ("tileHeight", .float d.tileHeight),
    ("tileGap", .float d.tileGap), ("spaceWidth", .float d.spaceWidth)]

/--
The four fields that hold dimensions. All of them have to be there.
-/
def ofFields? (fields : List (String × Tree)) : Option (Dimensions Float) := do
  return {
    tileWidth := ← required? fields "tileWidth" Tree.float?
    tileHeight := ← required? fields "tileHeight" Tree.float?
    tileGap := ← required? fields "tileGap" Tree.float?
    spaceWidth := ← required? fields "spaceWidth" Tree.float? }

end Dimensions

namespace Style

def toMembers (style : Style Float) : List (String × Value) :=
  ("tileDesigns", designsToValue style.designs) :: style.dimensions.toMembers

def toValue (style : Style Float) : Value :=
  .object style.toMembers

def ofTree? (tree : Tree) : Option (Style Float) := do
  let fields ←
    tree.fields? ["tileDesigns", "tileWidth", "tileHeight", "tileGap", "spaceWidth"]
  return {
    designs := ← required? fields "tileDesigns" Tree.stringMap?
    dimensions := ← Dimensions.ofFields? fields }

end Style

namespace Extent

def toValue (extent : Extent Float) : Value :=
  .object [("width", .float extent.width), ("height", .float extent.height)]

def ofTree? (tree : Tree) : Option (Extent Float) := do
  let fields ← tree.fields? ["width", "height"]
  return {
    width := ← required? fields "width" Tree.float?
    height := ← required? fields "height" Tree.float? }

end Extent

end Mahjong
