import Mahjong.File.Directory
import Mahjong.Text.Split

/-!
This module contains trees of files held as values, so that what a program reads from a directory
can be stated and tested without one.
-/

namespace Mahjong

/--
Files and directories below a root, each with the names on the way to it. Directories on the way are
there even when they are not listed.
-/
structure FileTree where
  files : List (List String × ByteArray) := []
  directories : List (List String) := []

namespace FileTree

/--
The names in a path that is written with slashes. Empty names come from slashes that follow each
other or stand at an end.
-/
def names (path : String) : List String :=
  (Text.splitAt '/' path.toList).map String.ofList

def addFile (tree : FileTree) (path : String) (bytes : ByteArray) : FileTree :=
  let place := (names path).filter (!·.isEmpty)
  { tree with files := (place, bytes) :: tree.files.filter (·.1 != place) }

def addDirectory (tree : FileTree) (path : String) : FileTree :=
  { tree with directories := (names path).filter (!·.isEmpty) :: tree.directories }

def isFile (tree : FileTree) (place : List String) : Bool :=
  tree.files.any (·.1 == place)

/--
A place is a directory if it is the root or listed as one, or if something is below it.
-/
def isDirectory (tree : FileTree) (place : List String) : Bool :=
  place.isEmpty || tree.directories.any (place.isPrefixOf ·) ||
    tree.files.any fun (file, _) => place.isPrefixOf file && file != place

/--
Follow names from a place on. Every name but the last has to lead to a directory, and so has the
name before a slash at the end.
-/
def follow (tree : FileTree) (place : List String) : List String → Except FileError (List String)
  | [] => .ok place
  | name :: rest =>
    if !tree.isDirectory place then
      .error (if tree.isFile place then .notADirectory else .notFound)
    else if name.isEmpty ∨ name = "." then tree.follow place rest
    else if name = ".." then tree.follow place.dropLast rest
    else
      let next := place ++ [name]
      if tree.isFile next ∨ tree.isDirectory next then tree.follow next rest
      else .error .notFound

/--
The place that a path leads to. Paths from the root of the whole system lead nowhere in a tree, and
so does the empty path.
-/
def find (tree : FileTree) (path : String) : Except FileError (List String) :=
  match path.toList with
  | [] | '/' :: _ => .error .notFound
  | _ => tree.follow [] (names path)

/--
What reading a place as a file yields.
-/
def contentAt (tree : FileTree) (place : List String) : FileContent :=
  match tree.files.lookup place with
  | some bytes => .ok bytes
  | none => .error .isADirectory

/--
What reading a path as a file yields.
-/
def read (tree : FileTree) (path : String) : FileContent := do
  tree.contentAt (← tree.find path)

/--
The names directly below a place.
-/
def namesBelow (tree : FileTree) (place : List String) : List String :=
  let below := (tree.files.map (·.1) ++ tree.directories).filterMap fun other =>
    if place.isPrefixOf other then (other.drop place.length).head? else none
  below.eraseDups

/--
What stands at the path of a directory. Whatever keeps the path from being followed, nothing is
there.
-/
def directory (tree : FileTree) (path : String) : Directory :=
  match tree.find path with
  | .error _ => .missing
  | .ok place =>
    if tree.isDirectory place then
      .listing ((tree.namesBelow place).map fun name => (name, tree.contentAt (place ++ [name])))
    else .unreadable .notADirectory

end FileTree

end Mahjong
