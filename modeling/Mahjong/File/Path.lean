/-!
This module contains the writing of paths and file names.
-/

namespace Mahjong.Path

/--
The path of a name in a directory.
-/
def join (directory name : String) : String :=
  if directory.isEmpty ∨ directory.toList.getLast? = some '/' then directory ++ name
  else directory ++ "/" ++ name

/--
Whether a file name has the extension `json` after a stem that is not empty.
-/
def hasJsonExtension (name : String) : Bool :=
  ".json".toList.isSuffixOf name.toList && 5 < name.length

end Mahjong.Path
