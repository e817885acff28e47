import Mahjong.Json.Token

/-!
This module contains the structure of JSON texts. A `Tree` holds what a text says, with its literals
as they are written: whether a string names a text and a number is in range is asked only by those
who use them, so that parts of a text that nobody reads may hold any literal and be nested without
limit.
-/

namespace Mahjong.Json

/--
The structure of a JSON text.
-/
inductive Tree where
  | null
  | bool (b : Bool)
  | number (n : Numeral)
  | string (s : Option String)
  | array (elements : List Tree)
  | object (members : List (Option String × Tree))

namespace Tree

/--
An array or object that has begun and waits for one of its parts. What stands before that part is
held with the latest first.
-/
inductive Frame where
  | array (before : List Tree)
  | object (before : List (Option String × Tree)) (key : Option String)

/--
What may come next.
-/
inductive Expected where
  | value
  /-- The first element of an array, or its end. -/
  | firstElement
  /-- The first key of an object, or its end. -/
  | firstKey
  /-- A key after some members of an object, the latest first. -/
  | key (before : List (Option String × Tree))
  | colon (before : List (Option String × Tree)) (key : Option String)
  /-- What follows a part that is complete. -/
  | afterPart (part : Tree)

/--
The state between two tokens, with the innermost open frame first.
-/
structure Scan where
  frames : List Frame := []
  expected : Expected := .value

namespace Scan

/--
Read the first token of a value.
-/
def value? (frames : List Frame) : Token → Option Scan
  | .null => some ⟨frames, .afterPart .null⟩
  | .bool b => some ⟨frames, .afterPart (.bool b)⟩
  | .number n => some ⟨frames, .afterPart (.number n)⟩
  | .string s => some ⟨frames, .afterPart (.string s)⟩
  | .openArray => some ⟨.array [] :: frames, .firstElement⟩
  | .openObject => some ⟨frames, .firstKey⟩
  | _ => none

/--
Read the token after a complete part. It either makes room for the next part of the innermost frame
or ends that frame.
-/
def afterPart? (part : Tree) : List Frame → Token → Option Scan
  | .array before :: frames, .comma => some ⟨.array (part :: before) :: frames, .value⟩
  | .array before :: frames, .closeArray =>
    some ⟨frames, .afterPart (.array (part :: before).reverse)⟩
  | .object before key :: frames, .comma => some ⟨frames, .key ((key, part) :: before)⟩
  | .object before key :: frames, .closeObject =>
    some ⟨frames, .afterPart (.object ((key, part) :: before).reverse)⟩
  | _, _ => none

/--
Read one token.
-/
def step? (scan : Scan) (token : Token) : Option Scan :=
  match scan.expected, token with
  | .value, token => value? scan.frames token
  | .firstElement, .closeArray =>
    match scan.frames with
    | .array _ :: frames => some ⟨frames, .afterPart (.array [])⟩
    | _ => none
  | .firstElement, token => value? scan.frames token
  | .firstKey, .closeObject => some ⟨scan.frames, .afterPart (.object [])⟩
  | .firstKey, .string key => some ⟨scan.frames, .colon [] key⟩
  | .key before, .string key => some ⟨scan.frames, .colon before key⟩
  | .colon before key, .colon => some ⟨.object before key :: scan.frames, .value⟩
  | .afterPart part, token => afterPart? part scan.frames token
  | _, _ => none

/--
The tree of a text that ends here.
-/
def finish? : Scan → Option Tree
  | ⟨[], .afterPart tree⟩ => some tree
  | _ => none

end Scan

def ofTokens? (tokens : List Token) : Option Tree := do
  let scan ← tokens.foldlM Scan.step? {}
  scan.finish?

/--
The structure of a text, or `none` if it is not JSON.
-/
def ofText? (text : String) : Option Tree := do
  let tokens ← Token.ofText? text
  ofTokens? tokens

mutual

/--
The value of a tree that is nested at most `room` levels deep, all of whose strings name texts and
whose numbers are in range.
-/
def value? (room : Nat) : Tree → Option Value
  | .null => some .null
  | .bool b => some (.bool b)
  | .number n => n.toValue?
  | .string s => s.map .string
  | .array elements =>
    match room with
    | 0 => none
    | room + 1 => (values? room elements).map .array
  | .object members =>
    match room with
    | 0 => none
    | room + 1 => (memberValues? room members).map .object

def values? (room : Nat) : List Tree → Option (List Value)
  | [] => some []
  | tree :: rest => do
    let v ← value? room tree
    let vs ← values? room rest
    return v :: vs

def memberValues? (room : Nat) : List (Option String × Tree) → Option (List (String × Value))
  | [] => some []
  | (key, tree) :: rest => do
    let key ← key
    let v ← value? room tree
    let vs ← memberValues? room rest
    return (key, v) :: vs

end

end Tree

/--
How deep a value may be nested.
-/
def maxDepth : Nat := 127

/--
The value that a text stands for.
-/
def Value.ofText? (text : String) : Option Value := do
  let tree ← Tree.ofText? text
  tree.value? maxDepth

end Mahjong.Json
