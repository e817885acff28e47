import Mahjong.File.Error

/-!
This module contains what is found at the paths of files and directories.
-/

namespace Mahjong

/--
What reading a file yields.
-/
abbrev FileContent := Except FileError ByteArray

/--
The text in a file.
-/
def FileContent.text (content : FileContent) : Except FileError String := do
  let bytes ← content
  match String.fromUTF8? bytes with
  | some text => .ok text
  | none => .error .notUtf8

/--
What stands at the path of a directory.
-/
inductive Directory where
  | missing
  | unreadable (error : FileError)
  /-- The names in a directory, each with what reading it as a file yields. -/
  | listing (entries : List (String × FileContent))

end Mahjong
