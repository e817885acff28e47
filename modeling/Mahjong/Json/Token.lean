import Mahjong.Json.Numeral
import Mahjong.Text.Hex

/-!
This module contains the tokens of JSON texts and their recognition, `Token.ofText?`, which goes
over the characters once. Between tokens there may be spaces, tabs and line ends.
-/

namespace Mahjong.Json

/--
The least parts of a JSON text that have a meaning. A string literal may name no text, if it holds
the number of half a surrogate pair.
-/
inductive Token where
  | openArray
  | closeArray
  | openObject
  | closeObject
  | comma
  | colon
  | null
  | bool (b : Bool)
  | number (n : Numeral)
  | string (s : Option String)
deriving DecidableEq

/--
The characters that a row of code points stands for. Two halves of a surrogate pair are one
character, and one half alone is none.
-/
def decodeCodePoints : List Nat → Option (List Char)
  | [] => some []
  | [n] => if 0xD800 ≤ n ∧ n < 0xE000 then none else some [Char.ofNat n]
  | n :: m :: rest =>
    if 0xD800 ≤ n ∧ n < 0xDC00 then
      if 0xDC00 ≤ m ∧ m < 0xE000 then
        (decodeCodePoints rest).map
          (Char.ofNat (0x10000 + (n - 0xD800) * 0x400 + (m - 0xDC00)) :: ·)
      else none
    else if 0xDC00 ≤ n ∧ n < 0xE000 then none
    else (decodeCodePoints (m :: rest)).map (Char.ofNat n :: ·)

namespace Token

/--
What the characters read last belong to.
-/
inductive Mode where
  | blank
  /-- A word, with the letters that have to follow. -/
  | word (rest : List Char) (token : Token)
  | number (scan : Numeral.Scan)
  /-- A string, with its code points so far, the last one first. -/
  | string (before : List Nat)
  /-- A string after a backslash. -/
  | escape (before : List Nat)
  /-- A string in the middle of a code point that is given by its number. -/
  | codePoint (before : List Nat) (digitsLeft : Nat) (value : Nat)

namespace Mode

/--
Read the first character after a token or a blank.
-/
def start? (c : Char) : Option (Mode × List Token) :=
  match c with
  | ' ' | '\t' | '\n' | '\r' => some (.blank, [])
  | '[' => some (.blank, [.openArray])
  | ']' => some (.blank, [.closeArray])
  | '{' => some (.blank, [.openObject])
  | '}' => some (.blank, [.closeObject])
  | ',' => some (.blank, [.comma])
  | ':' => some (.blank, [.colon])
  | '"' => some (.string [], [])
  | 'n' => some (.word ['u', 'l', 'l'] .null, [])
  | 't' => some (.word ['r', 'u', 'e'] (.bool true), [])
  | 'f' => some (.word ['a', 'l', 's', 'e'] (.bool false), [])
  | c => (Numeral.Scan.begin? c).map fun scan => (.number scan, [])

/--
The code point for the letter of a short escape.
-/
def escaped? (c : Char) : Option Nat :=
  match c with
  | '"' | '\\' | '/' => some c.toNat
  | 'b' => some 8
  | 't' => some 9
  | 'n' => some 10
  | 'f' => some 12
  | 'r' => some 13
  | _ => none

/--
Read one character. It yields the tokens that end with it or right before it.
-/
def step? (mode : Mode) (c : Char) : Option (Mode × List Token) :=
  match mode with
  | .blank => start? c
  | .word [] _ => none
  | .word [last] token => if c = last then some (.blank, [token]) else none
  | .word (next :: rest) token => if c = next then some (.word rest token, []) else none
  | .number scan =>
    match scan.next? c with
    | some scan => some (.number scan, [])
    | none => do
      let numeral ← scan.finish?
      let (mode, tokens) ← start? c
      return (mode, .number numeral :: tokens)
  | .string before =>
    if c = '"' then
      some (.blank, [.string ((decodeCodePoints before.reverse).map String.ofList)])
    else if c = '\\' then some (.escape before, [])
    else if c.toNat < 32 then none
    else some (.string (c.toNat :: before), [])
  | .escape before =>
    if c = 'u' then some (.codePoint before 4 0, [])
    else (escaped? c).map fun n => (.string (n :: before), [])
  | .codePoint before digitsLeft value =>
    (Text.hexValue? c).map fun digit =>
      let value := 16 * value + digit
      if digitsLeft ≤ 1 then (.string (value :: before), [])
      else (.codePoint before (digitsLeft - 1) value, [])

/--
The tokens that end with the text, or `none` if it ends in the middle of one.
-/
def finish? : Mode → Option (List Token)
  | .blank => some []
  | .number scan => scan.finish?.map fun numeral => [.number numeral]
  | _ => none

end Mode

/--
The tokens of a text that begins in some mode.
-/
def scan? (mode : Mode) : List Char → Option (List Token)
  | [] => mode.finish?
  | c :: rest => do
    let (mode, tokens) ← mode.step? c
    return tokens ++ (← scan? mode rest)

/--
The tokens of a text.
-/
def ofText? (text : String) : Option (List Token) :=
  scan? .blank text.toList

end Token

end Mahjong.Json
