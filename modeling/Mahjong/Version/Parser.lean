import Mahjong.Text.Quoted
import Mahjong.Text.Split
import Mahjong.Version.Basic

/-!
This module contains the reading of versions, `Version.parse`, and the reasons for which a text is
not a version.
-/

namespace Mahjong.Version

/--
The parts of a version, in their order.
-/
inductive Part where
  | major
  | minor
  | patch
  | preRelease
  | build
deriving DecidableEq

namespace Part

def name : Part → String
  | .major => "major version number"
  | .minor => "minor version number"
  | .patch => "patch version number"
  | .preRelease => "pre-release identifier"
  | .build => "build metadata"

end Part

/--
Why a text is not a version.
-/
inductive ParseError where
  | empty
  | unexpectedEnd (part : Part)
  | unexpectedChar (part : Part) (c : Char)
  | unexpectedCharAfter (part : Part) (c : Char)
  | leadingZero (part : Part)
  | overflow (part : Part)
  | emptySegment (part : Part)
deriving DecidableEq

namespace ParseError

def message : ParseError → String
  | .empty => "empty string, expected a semver version"
  | .unexpectedEnd part => "unexpected end of input while parsing " ++ part.name
  | .unexpectedChar part c =>
    "unexpected character " ++ Text.quotedSingle c ++ " while parsing " ++ part.name
  | .unexpectedCharAfter part c =>
    "unexpected character " ++ Text.quotedSingle c ++ " after " ++ part.name
  | .leadingZero part => "invalid leading zero in " ++ part.name
  | .overflow part => "value of " ++ part.name ++ " exceeds u64::MAX"
  | .emptySegment part => "empty identifier segment in " ++ part.name

end ParseError

/--
Read a number of at most 64 bits, which has no zero before other digits.
-/
def parseNumber (part : Part) (text : List Char) : Except ParseError (Nat × List Char) :=
  let digits := text.takeWhile Char.isDigit
  let rest := text.dropWhile Char.isDigit
  match digits, rest with
  | [], [] => .error (.unexpectedEnd part)
  | [], c :: _ => .error (.unexpectedChar part c)
  | '0' :: _ :: _, _ => .error (.leadingZero part)
  | digits, rest =>
    let n := numberOf digits
    if n < 0x10000000000000000 then .ok (n, rest) else .error (.overflow part)

/--
Read the dot after a number.
-/
def parseDot (part : Part) : List Char → Except ParseError (List Char)
  | '.' :: rest => .ok rest
  | c :: _ => .error (.unexpectedCharAfter part c)
  | [] => .error (.unexpectedEnd part)

def isIdentifierChar (c : Char) : Bool :=
  c.isAlphanum || c = '-'

/--
Check one identifier. Numbers in a pre-release have no zero before other digits.
-/
def parseIdentifier (part : Part) (identifier : List Char) : Except ParseError String :=
  match identifier with
  | [] => .error (.emptySegment part)
  | '0' :: _ :: _ =>
    if part = .preRelease ∧ identifier.all Char.isDigit then .error (.leadingZero part)
    else .ok (String.ofList identifier)
  | _ => .ok (String.ofList identifier)

/--
Read identifiers with dots between them, as far as they go.
-/
def parseIdentifiers (part : Part) (text : List Char) :
    Except ParseError (List String × List Char) := do
  let belongs := fun c => isIdentifierChar c || c = '.'
  let identifiers ← (Text.splitAt '.' (text.takeWhile belongs)).mapM (parseIdentifier part)
  return (identifiers, text.dropWhile belongs)

/--
Read identifiers if the mark that announces them is there.
-/
def parseMarked (mark : Char) (part : Part) :
    List Char → Except ParseError (List String × List Char)
  | [] => .ok ([], [])
  | c :: rest => if c = mark then parseIdentifiers part rest else .ok ([], c :: rest)

/--
Read a version. A character that is left over is reported after the last part that is there.
-/
def parse (text : String) : Except ParseError Version := do
  if text = "" then
    throw .empty
  let (major, rest) ← parseNumber .major text.toList
  let rest ← parseDot .major rest
  let (minor, rest) ← parseNumber .minor rest
  let rest ← parseDot .minor rest
  let (patch, rest) ← parseNumber .patch rest
  let (preRelease, rest) ← parseMarked '-' .preRelease rest
  let (build, rest) ← parseMarked '+' .build rest
  match rest with
  | [] => return { major, minor, patch, preRelease, build }
  | c :: _ =>
    let last : Part :=
      if build ≠ [] then .build
      else if preRelease ≠ [] then .preRelease
      else .patch
    throw (.unexpectedCharAfter last c)

theorem parse_engineVersionText : parse engineVersionText = .ok engineVersion := by
  rfl

end Mahjong.Version
