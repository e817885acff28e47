/-!
This module contains versions and their order.
-/

namespace Mahjong

/--
A version such as `1.0.0-rc.1+build.5`. A version without pre-release or build part has no
identifiers there.
-/
structure Version where
  major : Nat
  minor : Nat
  patch : Nat
  preRelease : List String := []
  build : List String := []
deriving DecidableEq

namespace Version

def isNumeric (identifier : String) : Bool :=
  identifier.toList.all Char.isDigit

/--
The number that a row of digits stands for.
-/
def numberOf (digits : List Char) : Nat :=
  digits.foldl (fun n c => 10 * n + (c.toNat - '0'.toNat)) 0

/--
Identifiers of digits are compared as numbers, then by their length, and come before all others. The
others are compared as texts.
-/
def compareIdentifiers (a b : String) : Ordering :=
  match isNumeric a, isNumeric b with
  | true, true =>
    (compare (numberOf a.toList) (numberOf b.toList)).then (compare a.length b.length)
  | true, false => .lt
  | false, true => .gt
  | false, false => compare a b

/--
Identifiers are compared one by one, and a row that ends before the other comes first.
-/
def compareRows : List String → List String → Ordering
  | [], [] => .eq
  | [], _ :: _ => .lt
  | _ :: _, [] => .gt
  | a :: as, b :: bs => (compareIdentifiers a b).then (compareRows as bs)

/--
A version without a pre-release part comes after those that have one.
-/
def comparePreReleases : List String → List String → Ordering
  | [], [] => .eq
  | [], _ :: _ => .gt
  | _ :: _, [] => .lt
  | as, bs => compareRows as bs

/--
The order of versions: by their numbers, then by pre-release, then by build metadata, where none
comes first.
-/
def compare (v w : Version) : Ordering :=
  (Ord.compare v.major w.major).then <|
    (Ord.compare v.minor w.minor).then <|
      (Ord.compare v.patch w.patch).then <|
        (comparePreReleases v.preRelease w.preRelease).then (compareRows v.build w.build)

end Version

/--
The version of this engine, which themes may require a minimum of.
-/
def engineVersion : Version := { major := 1, minor := 0, patch := 0 }

/--
How the engine's version is written.
-/
def engineVersionText : String := "1.0.0"

end Mahjong
