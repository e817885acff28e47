/-!
This module contains the division of a row of characters at every occurrence of a separator.
-/

namespace Mahjong.Text

/--
The parts between the separators. There is always one part more than there are separators.
-/
def splitAt (separator : Char) : List Char → List (List Char)
  | [] => [[]]
  | c :: rest =>
    if c = separator then
      [] :: splitAt separator rest
    else
      match splitAt separator rest with
      | [] => [[c]]
      | part :: parts => (c :: part) :: parts

/--
What stands before and after the first occurrence of a separator, if there is one.
-/
def splitFirst? (separator : Char) : List Char → Option (List Char × List Char)
  | [] => none
  | c :: rest =>
    if c = separator then
      some ([], rest)
    else
      (splitFirst? separator rest).map fun (before, after) => (c :: before, after)

end Mahjong.Text
