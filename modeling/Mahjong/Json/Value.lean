/-!
This module contains the values that JSON texts stand for.
-/

namespace Mahjong.Json

/--
A JSON value. Integers and floats are told apart, and an object keeps its members in the order and
number in which they were written.
-/
inductive Value where
  | null
  | bool (b : Bool)
  | int (n : Int)
  | float (x : Float)
  | string (s : String)
  | array (elements : List Value)
  | object (members : List (String × Value))

end Mahjong.Json
