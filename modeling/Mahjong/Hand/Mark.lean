/-!
This module contains the alphabet of a written hand: `Mark.ofChar` says what each character of the
text means. Ranks are collected until a suit letter names them, quotes turn a tile, a hyphen leaves
a gap, and every other character is stray.
-/

namespace Mahjong.Hand

/--
What is written before a suit letter: the number of a tile, or one of the two letters that name a
tile of their own.
-/
inductive Rank where
  | number (n : Fin 10)
  | x
  | q
deriving DecidableEq

/--
The letter that ends a group of ranks.
-/
inductive Suit where
  | characters
  | circles
  | bamboo
  | honors
  | q
  | x
deriving DecidableEq

/--
A mark that turns the tile it is written after.
-/
inductive Quote where
  | single
  | double
deriving DecidableEq

/--
The meaning of one character of a written hand.
-/
inductive Mark where
  | rank (r : Rank)
  | suit (s : Suit)
  | quote (q : Quote)
  | gap
  | stray
deriving DecidableEq

namespace Rank

def ofChar? : Char → Option Rank
  | '0' => some (.number 0)
  | '1' => some (.number 1)
  | '2' => some (.number 2)
  | '3' => some (.number 3)
  | '4' => some (.number 4)
  | '5' => some (.number 5)
  | '6' => some (.number 6)
  | '7' => some (.number 7)
  | '8' => some (.number 8)
  | '9' => some (.number 9)
  | 'X' => some .x
  | 'Q' => some .q
  | _ => none

end Rank

namespace Suit

def ofChar? : Char → Option Suit
  | 'm' => some .characters
  | 'p' => some .circles
  | 's' => some .bamboo
  | 'z' => some .honors
  | 'q' => some .q
  | 'x' => some .x
  | _ => none

def letter : Suit → Char
  | .characters => 'm'
  | .circles => 'p'
  | .bamboo => 's'
  | .honors => 'z'
  | .q => 'q'
  | .x => 'x'

/--
The key of the tile that a suit letter stands for when no rank precedes it.
-/
def bareKey : Suit → String
  | .x => "x"
  | _ => "q"

end Suit

namespace Quote

def ofChar? : Char → Option Quote
  | '\'' => some .single
  | '"' => some .double
  | _ => none

def char : Quote → Char
  | .single => '\''
  | .double => '"'

end Quote

namespace Rank

/--
The key of the tile with this rank in a suit. The ranks `x` and `q` keep their own tile in every
suit, and the suits `x` and `q` theirs for every number.
-/
def key : Rank → Suit → String
  | .x, _ => "x"
  | .q, _ => "q"
  | .number _, .x => "x"
  | .number _, .q => "q"
  | .number n, s => String.ofList [n.val.digitChar, s.letter]

end Rank

/--
Classify one character. No character has two meanings.
-/
def Mark.ofChar (c : Char) : Mark :=
  if let some r := Rank.ofChar? c then .rank r
  else if let some s := Suit.ofChar? c then .suit s
  else if let some q := Quote.ofChar? c then .quote q
  else if c = '-' then .gap
  else .stray

end Mahjong.Hand
