/-!
This module contains the reasons for which a file cannot be read as text.
-/

namespace Mahjong

/--
Why a file cannot be read. What the operating system reports has a text and a number.
-/
inductive FileError where
  | system (text : String) (number : Nat)
  | notUtf8
deriving DecidableEq

namespace FileError

def notFound : FileError := .system "No such file or directory" 2

def notADirectory : FileError := .system "Not a directory" 20

def isADirectory : FileError := .system "Is a directory" 21

def message : FileError → String
  | .system text number => text ++ " (os error " ++ toString number ++ ")"
  | .notUtf8 => "stream did not contain valid UTF-8"

/--
The words for an error of which it is not said what was to be read.
-/
def report (error : FileError) : String :=
  "I/O error: " ++ error.message

end FileError

end Mahjong
