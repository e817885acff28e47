import Mahjong.Layout.Json
import Mahjong.Theme.Overrides

/-!
This module contains the JSON form of themes and of overrides.
-/

namespace Mahjong

open Json

namespace Theme

def toMembers (theme : Theme) : List (String × Value) :=
  [("id", .string theme.id), ("name", .string theme.name),
    ("engineMinVersion", .string theme.engineMinVersion),
    ("tileDesigns", designsToValue theme.designs)] ++ theme.dimensions.toMembers

def toValue (theme : Theme) : Value :=
  .object theme.toMembers

/--
A theme from its fields. Only the minimum version may be left out.
-/
def ofTree? (tree : Tree) : Option Theme := do
  let fields ← tree.fields?
    ["id", "name", "engineMinVersion", "tileDesigns", "tileWidth", "tileHeight", "tileGap",
      "spaceWidth"]
  return {
    id := ← required? fields "id" Tree.string?
    name := ← required? fields "name" Tree.string?
    engineMinVersion := ← optional? fields "engineMinVersion" defaultMinVersion Tree.string?
    designs := ← required? fields "tileDesigns" Tree.stringMap?
    dimensions := ← Dimensions.ofFields? fields }

end Theme

namespace Overrides

def toMembers (overrides : Overrides) : List (String × Value) :=
  [("baseUrl", overrides.baseUrl.elim .null .string),
    ("tileDesigns", designsToValue overrides.designs)]

def toValue (overrides : Overrides) : Value :=
  .object overrides.toMembers

def toData (overrides : Overrides) : Data :=
  .record [("baseUrl", .value (overrides.baseUrl.elim .null .string)),
    ("tileDesigns", designsToData overrides.designs)]

/--
Overrides from their fields. Both may be left out.
-/
def ofTree? (tree : Tree) : Option Overrides := do
  let fields ← tree.fields? ["baseUrl", "tileDesigns"]
  return {
    baseUrl := ← optional? fields "baseUrl" none (Tree.nullable? Tree.string?)
    designs := ← optional? fields "tileDesigns" .empty Tree.stringMap? }

end Overrides

end Mahjong
