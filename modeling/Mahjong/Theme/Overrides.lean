import Mahjong.Theme.Basic

/-!
This module contains the changes that a caller makes to the designs of a theme for one drawing.
-/

namespace Mahjong

/--
Designs that take the place of a theme's own, and the address that relative ones among them are
relative to.
-/
structure Overrides where
  baseUrl : Option String := none
  designs : SortedMap String := .empty

/--
Whether an address stays as it is under any base. An empty one does, since it stands for no design.
-/
def isAbsolute (address : String) : Bool :=
  address.isEmpty || "http://".toList.isPrefixOf address.toList ||
    "https://".toList.isPrefixOf address.toList

/--
A base with a slash at its end.
-/
def closeBase (base : String) : String :=
  if base.toList.getLast? = some '/' then base else base ++ "/"

/--
Put a base before the relative ones of some designs. An empty base changes nothing.
-/
def resolveDesigns (base : Option String) (designs : SortedMap String) : SortedMap String :=
  match base with
  | none => designs
  | some base =>
    if base.isEmpty then designs
    else designs.map fun address =>
      if isAbsolute address then address else closeBase base ++ address

/--
The style of a theme. Overrides win over the theme's designs, which no base applies to.
-/
def Theme.style (theme : Theme) (overrides : Option Overrides) : Style Float where
  designs :=
    match overrides with
    | none => theme.designs
    | some o => theme.designs.insertAll (resolveDesigns o.baseUrl o.designs).entries
  dimensions := theme.dimensions

end Mahjong
