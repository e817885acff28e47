import Mahjong.Decimal.Format
import Mahjong.Text.Blank
import Mahjong.Theme.Basic
import Mahjong.Version.Parser

/-!
This module contains the conditions that a theme has to meet, and `Theme.fault?`, the first of them
that it does not.
-/

namespace Mahjong

namespace Theme

/--
What is wrong with a theme.
-/
inductive Fault where
  | emptyId
  | badLength (name : String) (value : Float)
  | badVersion (error : Version.ParseError)

namespace Fault

def message : Fault → String
  | .emptyId => "id must not be empty"
  | .badLength name value =>
    name ++ " must be a non-negative number, got " ++ Decimal.display value
  | .badVersion error => "engineMinVersion: " ++ error.message

end Fault

/--
Whether a number can be a length. Negative zero can.
-/
def isLength (x : Float) : Bool :=
  Decimal.isFinite x && !(x < 0)

/--
The dimensions with the names they have in a theme file, in the order in which they are checked.
-/
def namedDimensions (d : Dimensions Float) : List (String × Float) :=
  [("tileWidth", d.tileWidth), ("tileHeight", d.tileHeight), ("tileGap", d.tileGap),
    ("spaceWidth", d.spaceWidth)]

/--
The first thing that is wrong with a theme: an id of blanks only, a dimension that is not a length,
or a minimum version that is not a version.
-/
def fault? (theme : Theme) : Option Fault :=
  if Text.trim theme.id = "" then
    some .emptyId
  else
    match (namedDimensions theme.dimensions).find? fun (_, x) => !isLength x with
    | some (name, x) => some (.badLength name x)
    | none =>
      match Version.parse theme.engineMinVersion with
      | .error e => some (.badVersion e)
      | .ok _ => none

end Theme

end Mahjong
