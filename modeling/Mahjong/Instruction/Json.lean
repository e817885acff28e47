import Mahjong.Instruction
import Mahjong.Json.Data
import Mahjong.Json.Record

/-!
This module contains the JSON form of instructions. A tile is an object whose member `type` says so,
or an array that begins with that word; a gap likewise.
-/

namespace Mahjong

open Json

namespace Orientation

def name : Orientation → String
  | .upright => "upright"
  | .sideways => "sideways"
  | .stacked => "sidewaysTop"

def ofName? : String → Option Orientation
  | "upright" => some .upright
  | "sideways" => some .sideways
  | "sidewaysTop" => some .stacked
  | _ => none

def toValue (orientation : Orientation) : Value :=
  .string orientation.name

/--
An orientation that stands alone: its name, or an object whose only key is the name and has no
content.
-/
def ofTree? : Tree → Option Orientation
  | .string (some name) => ofName? name
  | .object [(some name, .null)] => ofName? name
  | _ => none

/--
An orientation within an instruction, where an empty object counts as no content too.
-/
def ofValue? : Value → Option Orientation
  | .string name => ofName? name
  | .object [(name, .null)] => ofName? name
  | .object [(name, .object [])] => ofName? name
  | _ => none

end Orientation

namespace Instruction

def toValue : Instruction → Value
  | .tile key orientation =>
    .object [("type", .string "tile"), ("tileKey", .string key),
      ("tileOrient", orientation.toValue)]
  | .gap => .object [("type", .string "space")]

def listToValue (instructions : List Instruction) : Value :=
  .array (instructions.map toValue)

def listToData (instructions : List Instruction) : Data :=
  .list (instructions.map (.value <| toValue ·))

/--
A tile from its key and orientation.
-/
def tileOfValues? : Value → Value → Option Instruction
  | .string key, orientation => (Orientation.ofValue? orientation).map (.tile key)
  | _, _ => none

/--
An instruction from the members of an object other than `type`. A gap has none of its own.
-/
def ofMembers? (type : String) (members : List (String × Value)) : Option Instruction :=
  match type with
  | "tile" => do
    let fields ← pick? ["tileKey", "tileOrient"] members
    tileOfValues? (← fields.lookup "tileKey") (← fields.lookup "tileOrient")
  | "space" => some .gap
  | _ => none

def ofValue? : Value → Option Instruction
  | .object members =>
    match members.filter (·.1 == "type") with
    | [(_, .string type)] => ofMembers? type (members.filter (·.1 != "type"))
    | _ => none
  | .array [.string "tile", key, orientation] => tileOfValues? key orientation
  | .array [.string "space"] => some .gap
  | _ => none

/--
An instruction at a place with `room` more levels. All of it is looked at before the member `type`
is found, so that even the members that do not count have to be values.
-/
def ofTree? (room : Nat) (tree : Tree) : Option Instruction := do
  let value ← tree.value? room
  ofValue? value

/--
A row of instructions at a place with `room` more levels.
-/
def listOfTree? (room : Nat) : Tree → Option (List Instruction)
  | .array elements => elements.mapM (ofTree? (room - 1))
  | _ => none

end Instruction

end Mahjong
