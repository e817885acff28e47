import Mahjong.Theme.Json

/-!
This module contains requests for a drawing.
-/

namespace Mahjong

open Json

/--
A written hand to draw, with the theme to draw it in. Without a theme it is the default one.
-/
structure Request where
  hand : String
  theme : Option String := none
  overrides : Option Overrides := none

namespace Request

def themeId (request : Request) : String :=
  request.theme.getD defaultThemeId

def toMembers (request : Request) : List (String × Value) :=
  [("notation", .string request.hand), ("theme", request.theme.elim .null .string),
    ("overrides", request.overrides.elim .null Overrides.toValue)]

def toValue (request : Request) : Value :=
  .object request.toMembers

def toData (request : Request) : Data :=
  .record [("notation", .value (.string request.hand)),
    ("theme", .value (request.theme.elim .null .string)),
    ("overrides", request.overrides.elim (.value .null) Overrides.toData)]

def ofTree? (tree : Tree) : Option Request := do
  let fields ← tree.fields? ["notation", "theme", "overrides"]
  return {
    hand := ← required? fields "notation" Tree.string?
    theme := ← optional? fields "theme" none (Tree.nullable? Tree.string?)
    overrides := ← optional? fields "overrides" none (Tree.nullable? Overrides.ofTree?) }

end Request

end Mahjong
