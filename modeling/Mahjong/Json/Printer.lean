import Mahjong.Decimal.Format
import Mahjong.Json.Value
import Mahjong.Text.Hex

/-!
This module contains the text of JSON values, in a compact form on one line and in a form that is
indented by two spaces at each level. Both are one function with a different `Spacing`.
-/

namespace Mahjong.Json

/--
A character inside a string. Quotes, backslashes and controls are escaped, all else stands for
itself.
-/
def escapeChar (c : Char) : List Char :=
  if c = '"' then ['\\', '"']
  else if c = '\\' then ['\\', '\\']
  else if c = '\n' then ['\\', 'n']
  else if c = '\r' then ['\\', 'r']
  else if c = '\t' then ['\\', 't']
  else if c.toNat = 8 then ['\\', 'b']
  else if c.toNat = 12 then ['\\', 'f']
  else if c.toNat < 32 then '\\' :: 'u' :: Text.hexPadded 4 c.toNat
  else [c]

def writeString (s : String) : List Char :=
  '"' :: s.toList.flatMap escapeChar ++ ['"']

def writeInt (n : Int) : List Char :=
  let digits := Nat.toDigits 10 n.natAbs
  if n < 0 then '-' :: digits else digits

/--
JSON has no words for infinity and for what is not a number, so `null` stands for them.
-/
def writeFloat (x : Float) : List Char :=
  if Decimal.isFinite x then Decimal.writeFinite .scientific x else ['n', 'u', 'l', 'l']

/--
The blanks between the parts of a text.
-/
structure Spacing where
  /-- What begins the line of an element, by its depth. -/
  newLine : Nat → List Char
  /-- What follows a colon. -/
  afterColon : List Char

namespace Spacing

def compact : Spacing where
  newLine := fun _ => []
  afterColon := []

def indented : Spacing where
  newLine := fun depth => '\n' :: List.replicate (2 * depth) ' '
  afterColon := [' ']

end Spacing

mutual

/--
The text of a value whose first line stands at some depth.
-/
def Value.write (spacing : Spacing) (depth : Nat) : Value → List Char
  | .null => ['n', 'u', 'l', 'l']
  | .bool true => ['t', 'r', 'u', 'e']
  | .bool false => ['f', 'a', 'l', 's', 'e']
  | .int n => writeInt n
  | .float x => writeFloat x
  | .string s => writeString s
  | .array [] => ['[', ']']
  | .array (v :: rest) =>
    '[' :: spacing.newLine (depth + 1) ++ v.write spacing (depth + 1) ++
      writeElements spacing (depth + 1) rest ++ spacing.newLine depth ++ [']']
  | .object [] => ['{', '}']
  | .object ((key, v) :: rest) =>
    '{' :: spacing.newLine (depth + 1) ++ writeString key ++ ':' :: spacing.afterColon ++
      v.write spacing (depth + 1) ++
      writeMembers spacing (depth + 1) rest ++ spacing.newLine depth ++ ['}']

/--
The elements after the first one.
-/
def writeElements (spacing : Spacing) (depth : Nat) : List Value → List Char
  | [] => []
  | v :: rest =>
    ',' :: spacing.newLine depth ++ v.write spacing depth ++ writeElements spacing depth rest

/--
The members after the first one.
-/
def writeMembers (spacing : Spacing) (depth : Nat) : List (String × Value) → List Char
  | [] => []
  | (key, v) :: rest =>
    ',' :: spacing.newLine depth ++ writeString key ++ ':' :: spacing.afterColon ++
      v.write spacing depth ++ writeMembers spacing depth rest

end

namespace Value

/--
The text of a value on one line.
-/
def compact (v : Value) : String :=
  String.ofList (v.write .compact 0)

/--
The text of a value with one line for each element.
-/
def indented (v : Value) : String :=
  String.ofList (v.write .indented 0)

end Value

end Mahjong.Json
