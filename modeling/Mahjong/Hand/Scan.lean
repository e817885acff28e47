import Mahjong.Hand.Mark
import Mahjong.Instruction

/-!
This module contains the reader of written hands, `parse`. It goes over the marks once, from left to
right, and never fails: a `Scan` holds what has been put out so far, the ranks that still wait for
their suit letter, and the tile that a quote may still turn.
-/

namespace Mahjong.Hand

/--
A rank with the quotes written after it, in the order of writing.
-/
structure Piece where
  rank : Rank
  quotes : List Quote := []
deriving DecidableEq

namespace Piece

def addQuote (piece : Piece) (q : Quote) : Piece :=
  { piece with quotes := piece.quotes ++ [q] }

/--
How a piece lies, by its quotes: a double quote stands for a sideways tile with another one stacked
on it. Any other row of quotes has no meaning.
-/
def orientations? (piece : Piece) : Option (List Orientation) :=
  match piece.quotes with
  | [] => some [.upright]
  | [.single] => some [.sideways]
  | [.single, .single] => some [.stacked]
  | [.double] => some [.sideways, .stacked]
  | _ => none

/--
What a piece draws once its suit is known. Quotes without a meaning leave the tile upright.
-/
def tiles (piece : Piece) (suit : Suit) : List Instruction :=
  (piece.orientations?.getD [.upright]).map (.tile (piece.rank.key suit))

end Piece

/--
The last tile of a group, kept open so that quotes written right after the suit letter still turn
it. What it drew stands in the output from `start` on.
-/
structure OpenTile where
  piece : Piece
  suit : Suit
  start : Nat
deriving DecidableEq

/--
The state between two characters. The pieces that wait for a suit are held with the latest first.
-/
structure Scan where
  output : Array Instruction := #[]
  waiting : List Piece := []
  reopen : Option OpenTile := none
deriving DecidableEq

namespace Scan

/--
A quote belongs to the latest waiting piece. With none waiting it turns the open tile, whose output
is withdrawn and drawn anew; with neither it stands for a piece of rank `q`.
-/
def quote (scan : Scan) (q : Quote) : Scan :=
  match scan.waiting, scan.reopen with
  | piece :: earlier, _ => { scan with waiting := piece.addQuote q :: earlier }
  | [], some last =>
    let piece := last.piece.addQuote q
    { scan with
      output := scan.output.shrink last.start ++ piece.tiles last.suit
      reopen := some { last with piece } }
  | [], none => { scan with waiting := [{ rank := .q, quotes := [q] }] }

/--
A suit letter draws all waiting pieces, or one tile of its own if none waits. The last piece stays
open if it has no quotes yet.
-/
def close (scan : Scan) (suit : Suit) : Scan :=
  match scan.waiting with
  | [] => { scan with output := scan.output.push (.tile suit.bareKey .upright), reopen := none }
  | last :: earlier =>
    let output := scan.output ++ earlier.reverse.flatMap (·.tiles suit)
    { output := output ++ last.tiles suit
      waiting := []
      reopen := if last.quotes = [] then some ⟨last, suit, output.size⟩ else none }

/--
Read one mark. Every mark but a quote ends the time in which the last tile can be turned, and a gap
is put out at once, before the pieces that wait.
-/
def step (scan : Scan) : Mark → Scan
  | .quote q => scan.quote q
  | .suit s => scan.close s
  | .rank r => { scan with waiting := { rank := r } :: scan.waiting, reopen := none }
  | .gap => { scan with output := scan.output.push .gap, reopen := none }
  | .stray => { scan with reopen := none }

/--
Read on over a row of characters.
-/
def run (scan : Scan) (text : List Char) : Scan :=
  text.foldl (fun scan c => scan.step (.ofChar c)) scan

/--
The state after a whole text.
-/
def ofText (text : String) : Scan :=
  run {} text.toList

end Scan

/--
The instructions that draw a written hand. Pieces that never meet a suit letter are dropped.
-/
def parse (text : String) : List Instruction :=
  (Scan.ofText text).output.toList

end Mahjong.Hand
