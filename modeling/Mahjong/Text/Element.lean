import Mahjong.Text.Attribute

/-!
This module contains the tags of markup elements.
-/

namespace Mahjong.Text

/--
Attributes in the order given, each after a space.
-/
def attributes (items : List (String × String)) : String :=
  String.join (items.map fun (name, value) => " " ++ name ++ "=\"" ++ escapeAttribute value ++ "\"")

/--
The tag that opens an element.
-/
def openTag (name : String) (items : List (String × String)) : String :=
  "<" ++ name ++ attributes items ++ ">"

def closeTag (name : String) : String :=
  "</" ++ name ++ ">"

/--
The tag of an element without content.
-/
def emptyTag (name : String) (items : List (String × String)) : String :=
  "<" ++ name ++ attributes items ++ " />"

end Mahjong.Text
