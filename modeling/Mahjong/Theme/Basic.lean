import Mahjong.Layout.Style

/-!
This module contains themes and the one theme that is built in.
-/

namespace Mahjong

/--
A named set of designs with the dimensions they are drawn in.
-/
structure Theme where
  id : String
  name : String
  /-- The version of the engine that the theme needs at least. -/
  engineMinVersion : String
  designs : SortedMap String
  dimensions : Dimensions Float

/--
The id under which the built-in theme is found.
-/
def defaultThemeId : String := "default"

/--
The minimum version of a theme that does not state one.
-/
def defaultMinVersion : String := "1.0.0"

namespace Theme

/--
The keys of the built-in theme: the base, the tiles `x` and `q`, ten tiles for each of the three
suits, with the red five as zero, and seven honors.
-/
def builtinKeys : List String :=
  [baseKey, "x", "q"] ++
    (['m', 'p', 's'].flatMap fun suit =>
      (List.range 10).map fun rank => String.ofList [rank.digitChar, suit]) ++
    (List.range 7).map fun rank => String.ofList [(rank + 1).digitChar, 'z']

def builtin : Theme where
  id := defaultThemeId
  name := "Default"
  engineMinVersion := defaultMinVersion
  designs := .ofList (builtinKeys.map fun key => (key, "tiles/" ++ key ++ ".svg"))
  dimensions := { tileWidth := 30, tileHeight := 40, tileGap := 2, spaceWidth := 12 }

end Theme

end Mahjong
