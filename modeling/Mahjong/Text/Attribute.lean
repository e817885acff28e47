/-!
This module contains the escaping of text in a double-quoted attribute of a markup element.
-/

namespace Mahjong.Text

/--
The characters that could end an attribute or a tag, or begin an entity, are written as entities.
-/
def escapeAttributeChar : Char → List Char
  | '&' => ['&', 'a', 'm', 'p', ';']
  | '"' => ['&', 'q', 'u', 'o', 't', ';']
  | '<' => ['&', 'l', 't', ';']
  | '>' => ['&', 'g', 't', ';']
  | c => [c]

/--
A text as it stands between the quotes of an attribute.
-/
def escapeAttribute (text : String) : String :=
  String.ofList (text.toList.flatMap escapeAttributeChar)

end Mahjong.Text
