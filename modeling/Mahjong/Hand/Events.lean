import Mahjong.Event
import Mahjong.Hand.Scan

/-!
This module contains the events of reading a hand, in the order in which they occur.
-/

namespace Mahjong.Hand

/--
A piece is reported when it is drawn with quotes that have no meaning.
-/
def Piece.events (piece : Piece) (suit : Suit) : List Event :=
  match piece.orientations? with
  | some _ => []
  | none => [.quotesWithoutMeaning piece.quotes (piece.rank.key suit)]

/--
The events of one mark. A quote after the suit letter draws its tile anew.
-/
def Scan.stepEvents (scan : Scan) : Mark → List Event
  | .suit s => scan.waiting.reverse.flatMap (·.events s)
  | .quote q =>
    match scan.waiting, scan.reopen with
    | [], some last => (last.piece.addQuote q).events last.suit
    | _, _ => []
  | _ => []

/--
The events of a row of characters.
-/
def Scan.runEvents (scan : Scan) : List Char → List Event
  | [] => []
  | c :: rest => scan.stepEvents (.ofChar c) ++ (scan.step (.ofChar c)).runEvents rest

/--
The events of reading a hand.
-/
def parseEvents (text : String) : List Event :=
  let waiting := (Scan.ofText text).waiting
  Scan.runEvents {} text.toList ++
    (if waiting.isEmpty then [] else [.ranksDropped waiting.length]) ++
    [.handParsed text (parse text).length]

end Mahjong.Hand
