import Mahjong.Theme.Basic

/-!
This module contains catalogs, which hold themes by their ids.
-/

namespace Mahjong

/--
The themes that hands can be drawn in.
-/
structure Catalog where
  themes : SortedMap Theme

namespace Catalog

/--
Add a theme. It takes the place of a theme with the same id.
-/
def register (catalog : Catalog) (theme : Theme) : Catalog where
  themes := catalog.themes.insert theme.id theme

/--
The catalog that holds the built-in theme only.
-/
def builtin : Catalog :=
  register ⟨.empty⟩ .builtin

def get? (catalog : Catalog) (id : String) : Option Theme :=
  catalog.themes.get? id

/--
All themes, in the order of their ids.
-/
def list (catalog : Catalog) : List Theme :=
  catalog.themes.values

end Catalog

end Mahjong
