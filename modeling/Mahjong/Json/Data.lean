import Mahjong.Json.Canonical

/-!
This module contains what is handed over to be written as JSON, and the ways in which writing fails.
The fields of a record have names, but the keys of a map are data themselves, and few data can stand
where JSON wants a text. Besides, a part may refuse to be written.
-/

namespace Mahjong.Json

/--
What is handed over to be written.
-/
inductive Data where
  | value (v : Value)
  | list (elements : List Data)
  | record (fields : List (String × Data))
  | map (entries : List (Data × Data))
  /-- A part that reports an error of its own. -/
  | refusal (reason : String)

/--
Why data cannot be written.
-/
inductive WriteError where
  | keyNotText
  | keyNotFinite
  | refused (reason : String)
deriving DecidableEq

namespace WriteError

def message : WriteError → String
  | .keyNotText => "key must be a string"
  | .keyNotFinite => "float key must be finite"
  | .refused reason => reason

end WriteError

namespace Data

/--
A record all of whose fields are values.
-/
def ofMembers (members : List (String × Value)) : Data :=
  .record (members.map fun member => (member.1, .value member.2))

/--
The key that data are written as. Single truth values and numbers are put in quotes.
-/
def toKey : Data → Except WriteError String
  | .value (.string s) => .ok s
  | .value (.bool b) => .ok (if b then "true" else "false")
  | .value (.int n) => .ok (String.ofList (writeInt n))
  | .value (.float x) =>
    if Decimal.isFinite x then .ok (String.ofList (writeFloat x)) else .error .keyNotFinite
  | .refusal reason => .error (.refused reason)
  | _ => .error .keyNotText

mutual

/--
The value that data are written as, or the first error among their parts.
-/
def toValue : Data → Except WriteError Value
  | .value v => .ok v
  | .list elements => (elementValues elements).map .array
  | .record fields => (fieldValues fields).map .object
  | .map entries => (entryValues entries).map .object
  | .refusal reason => .error (.refused reason)

def elementValues : List Data → Except WriteError (List Value)
  | [] => .ok []
  | d :: rest => do
    let v ← d.toValue
    let others ← elementValues rest
    return v :: others

def fieldValues : List (String × Data) → Except WriteError (List (String × Value))
  | [] => .ok []
  | (name, d) :: rest => do
    let v ← d.toValue
    let others ← fieldValues rest
    return (name, v) :: others

def entryValues : List (Data × Data) → Except WriteError (List (String × Value))
  | [] => .ok []
  | (key, d) :: rest => do
    let name ← key.toKey
    let v ← d.toValue
    let others ← entryValues rest
    return (name, v) :: others

end

/--
The text of data on one line.
-/
def compact (d : Data) : Except WriteError String :=
  d.toValue.map Value.compact

/--
The text of data on indented lines.
-/
def indented (d : Data) : Except WriteError String :=
  d.toValue.map Value.indented

/--
The text of the canonical form of data. They are turned into a value first, which is then written.
-/
def canonicalText (d : Data) : Except WriteError String := do
  let v ← d.toValue
  compact (.value v.canonical)

end Data

end Mahjong.Json
