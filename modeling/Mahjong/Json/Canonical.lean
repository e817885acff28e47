import Mahjong.Json.Printer
import Mahjong.SortedMap

/-!
This module contains the canonical form of JSON values. The members of every object stand in the
order of their keys, each key once, so that values that differ only in the order of members have one
text.
-/

namespace Mahjong.Json

mutual

/--
Sort the members of all objects in a value. Of members with the same key the last one counts.
-/
def Value.canonical : Value → Value
  | .array elements => .array (canonicalElements elements)
  | .object members => .object (SortedMap.ofList (canonicalMembers members)).entries
  | v => v

def canonicalElements : List Value → List Value
  | [] => []
  | v :: rest => v.canonical :: canonicalElements rest

def canonicalMembers : List (String × Value) → List (String × Value)
  | [] => []
  | (key, v) :: rest => (key, v.canonical) :: canonicalMembers rest

end

/--
The text of the canonical form of a value.
-/
def Value.canonicalText (v : Value) : String :=
  v.canonical.compact

end Mahjong.Json
