import Mahjong.Proofs.Hand.Simulation

/-!
This module contains the writing of hands and the proof that it undoes reading: the instructions that
are read from some text are those whose tiles have one of `tileKeys`, and each row of them is read
from what `write` puts down for it, one instruction after the other.
-/

namespace Mahjong.Hand

/--
The keys of the tiles that can be written: `x`, `q`, and each digit in each of the four suits.
-/
def tileKeys : List String :=
  ["x", "q"] ++
    (List.range 10).flatMap fun n =>
      ['m', 'p', 's', 'z'].map fun suit => String.ofList [n.digitChar, suit]

def IsDrawable (instructions : List Instruction) : Prop :=
  ∀ key orientation, .tile key orientation ∈ instructions → key ∈ tileKeys

def writeOrientation : Orientation → List Char
  | .upright => []
  | .sideways => [Quote.single.char]
  | .stacked => [Quote.single.char, Quote.single.char]

/--
A tile is written as a group of its own. Its quotes stand before the suit letter, and a key without
a suit gets an arbitrary one, since its rank decides alone.
-/
def writeTile (key : String) (orientation : Orientation) : List Char :=
  match key.toList with
  | [rank, suit] => rank :: writeOrientation orientation ++ [suit]
  | [letter] => letter.toUpper :: writeOrientation orientation ++ ['m']
  | _ => []

def writeInstruction : Instruction → List Char
  | .tile key orientation => writeTile key orientation
  | .gap => ['-']

def write (instructions : List Instruction) : String :=
  String.ofList (instructions.flatMap writeInstruction)

theorem write_append (instructions others : List Instruction)
    : write (instructions ++ others) = write instructions ++ write others := by
  unfold write
  rw [List.flatMap_append, String.ofList_append]

theorem isDrawable_nil : IsDrawable [] := by
  intro key orientation h
  contradiction

theorem isDrawable_append (instructions others : List Instruction)
    : IsDrawable (instructions ++ others) ↔ IsDrawable instructions ∧ IsDrawable others := by
  constructor
  . intro h
    constructor
    . intro key orientation hmem
      apply h key orientation
      apply List.mem_append_left
      assumption
    . intro key orientation hmem
      apply h key orientation
      apply List.mem_append_right
      assumption
  . intro h key orientation hmem
    rcases List.mem_append.1 hmem with hmem | hmem
    . apply h.1
      assumption
    . apply h.2
      assumption

theorem isDrawable_tile (key : String) (orientation : Orientation)
    : IsDrawable [.tile key orientation] ↔ key ∈ tileKeys := by
  simp [IsDrawable]

theorem isDrawable_gap : IsDrawable [.gap] := by
  simp [IsDrawable]

theorem number_mem_tileKeys (n : Fin 10) {suit : Char} (hsuit : suit ∈ ['m', 'p', 's', 'z'])
    : String.ofList [n.val.digitChar, suit] ∈ tileKeys := by
  unfold tileKeys
  apply List.mem_append_right
  apply List.mem_flatMap.2
  refine ⟨n.val, ?_, ?_⟩
  . simp
  . apply List.mem_map.2
    exact ⟨suit, hsuit, rfl⟩

theorem bareKey_mem_tileKeys (suit : Suit) : suit.bareKey ∈ tileKeys := by
  cases suit <;> decide

theorem key_mem_tileKeys (rank : Rank) (suit : Suit) : rank.key suit ∈ tileKeys := by
  have hletters : "x" ∈ tileKeys ∧ "q" ∈ tileKeys := by
    decide
  cases rank with
  | x => exact hletters.1
  | q => exact hletters.2
  | number n =>
    cases suit with
    | x => exact hletters.1
    | q => exact hletters.2
    | _ =>
      apply number_mem_tileKeys
      decide

theorem isDrawable_tiles (piece : Piece) (suit : Suit) : IsDrawable (piece.tiles suit) := by
  intro key orientation hmem
  rcases List.mem_map.1 hmem with ⟨_, _, heq⟩
  rw [Instruction.tile.injEq] at heq
  rw [← heq.1]
  apply key_mem_tileKeys

namespace Scan

theorem isDrawable_quote {scan : Scan} (h : IsDrawable scan.output.toList) (q : Quote)
    : IsDrawable (scan.quote q).output.toList := by
  unfold quote
  split
  . assumption
  . next last _ _ =>
    -- What stays of the output was there before.
    simp only [Array.toList_appendList, Array.toList_shrink, isDrawable_append]
    constructor
    . intro key orientation hmem
      apply h key orientation
      apply List.mem_of_mem_take
      assumption
    . apply isDrawable_tiles
  . assumption

theorem isDrawable_close {scan : Scan} (h : IsDrawable scan.output.toList) (suit : Suit)
    : IsDrawable (scan.close suit).output.toList := by
  unfold close
  split
  . simp only [Array.toList_push, isDrawable_append, isDrawable_tile]
    constructor
    . assumption
    . apply bareKey_mem_tileKeys
  . simp only [Array.toList_appendList, isDrawable_append]
    refine ⟨⟨h, ?_⟩, ?_⟩
    . intro key orientation hmem
      rcases List.mem_flatMap.1 hmem with ⟨piece, _, hmem⟩
      apply isDrawable_tiles piece suit key orientation
      assumption
    . apply isDrawable_tiles

theorem isDrawable_step {scan : Scan} (h : IsDrawable scan.output.toList) (mark : Mark)
    : IsDrawable (scan.step mark).output.toList := by
  cases mark with
  | rank r => assumption
  | suit s =>
    apply isDrawable_close
    assumption
  | quote q =>
    apply isDrawable_quote
    assumption
  | gap =>
    simp only [step, Array.toList_push, isDrawable_append]
    constructor
    . assumption
    . apply isDrawable_gap
  | stray => assumption

theorem isDrawable_run {scan : Scan} (h : IsDrawable scan.output.toList) (text : List Char)
    : IsDrawable (scan.run text).output.toList := by
  induction text generalizing scan with
  | nil => assumption
  | cons c rest ih =>
    rw [run_cons]
    apply ih
    apply isDrawable_step
    assumption

end Scan

theorem isDrawable_parse (text : String) : IsDrawable (parse text) := by
  apply Scan.isDrawable_run
  apply isDrawable_nil

/--
The text of a tile is a rank, quotes and a suit letter that together have its key.
-/
theorem exists_writeTile {key : String} (h : key ∈ tileKeys)
    : ∃ c rank suit,
        Mark.ofChar c = .rank rank ∧
        rank.key suit = key ∧
        ∀ orientation, writeTile key orientation
          =
        c :: writeOrientation orientation ++ [suit.letter] := by
  rcases List.mem_append.1 h with h | h
  . rcases List.mem_cons.1 h with h | h
    . subst h
      refine ⟨'X', .x, .characters, rfl, rfl, ?_⟩
      intro orientation
      rfl
    . have h := List.mem_singleton.1 h
      subst h
      refine ⟨'Q', .q, .characters, rfl, rfl, ?_⟩
      intro orientation
      rfl
  . rcases List.mem_flatMap.1 h with ⟨n, hn, h⟩
    rcases List.mem_map.1 h with ⟨letter, hletter, h⟩
    have hmark : ∀ n : Fin 10, Mark.ofChar n.val.digitChar = .rank (.number n) := by
      decide
    have hsuit : ∃ suit : Suit, suit.letter = letter ∧ ∀ n, Rank.key (.number n) suit
        =
      String.ofList [n.val.digitChar, suit.letter] := by
      simp only [List.mem_cons, List.not_mem_nil, or_false] at hletter
      rcases hletter with hletter | hletter | hletter | hletter
      . exact ⟨.characters, hletter.symm, fun _ => rfl⟩
      . exact ⟨.circles, hletter.symm, fun _ => rfl⟩
      . exact ⟨.bamboo, hletter.symm, fun _ => rfl⟩
      . exact ⟨.honors, hletter.symm, fun _ => rfl⟩
    rcases hsuit with ⟨suit, hletter, hkey⟩
    subst hletter h
    refine ⟨n.digitChar, .number ⟨n, List.mem_range.1 hn⟩, suit, hmark ⟨n, _⟩, hkey _, ?_⟩
    intro orientation
    unfold writeTile
    rw [String.toList_ofList]

namespace Scan

/--
A group with one piece of a known orientation draws one tile, whatever stood before it.
-/
theorem run_tile {scan : Scan} (hwaiting : scan.waiting = []) {c : Char} {rank : Rank}
    (hc : Mark.ofChar c = .rank rank) (suit : Suit) (orientation : Orientation)
    : let next := scan.run (c :: writeOrientation orientation ++ [suit.letter])
      next.output = scan.output.push (.tile (rank.key suit) orientation) ∧ next.waiting = [] := by
  have hquote : Mark.ofChar Quote.single.char = .quote .single := by
    rfl
  cases orientation with
  | upright => simp [writeOrientation, hc, step, close, hwaiting, Piece.tiles, Piece.orientations?]
  | sideways =>
    simp [writeOrientation, hc, hquote, step, quote, close, hwaiting, Piece.addQuote, Piece.tiles,
      Piece.orientations?]
  | stacked =>
    simp [writeOrientation, hc, hquote, step, quote, close, hwaiting, Piece.addQuote, Piece.tiles,
      Piece.orientations?]

theorem run_writeInstruction {scan : Scan} (hwaiting : scan.waiting = []) {i : Instruction}
    (h : IsDrawable [i])
    : let next := scan.run (writeInstruction i)
      next.output = scan.output.push i ∧ next.waiting = [] := by
  cases i with
  | tile key orientation =>
    rw [isDrawable_tile] at h
    rcases exists_writeTile h with ⟨c, rank, suit, hc, hkey, htext⟩
    unfold writeInstruction
    dsimp only
    rw [htext orientation, ← hkey]
    apply run_tile
    . assumption
    . assumption
  | gap =>
    have hgap : Mark.ofChar '-' = .gap := by
      rfl
    simp [writeInstruction, hgap, step, hwaiting]

theorem run_flatMap_writeInstruction {scan : Scan} (hwaiting : scan.waiting = [])
    {instructions : List Instruction} (h : IsDrawable instructions)
    : (scan.run (instructions.flatMap writeInstruction)).output
        =
      scan.output ++ instructions := by
  induction instructions generalizing scan with
  | nil => simp
  | cons i rest ih =>
    rw [← List.singleton_append, isDrawable_append] at h
    -- Between two instructions no rank waits, so that the next one is read like the first.
    rcases run_writeInstruction hwaiting h.1 with ⟨houtput, hwaiting⟩
    rw [List.flatMap_cons, run_append, ih hwaiting h.2, houtput]
    simp

end Scan

theorem parse_write {instructions : List Instruction} (h : IsDrawable instructions)
    : parse (write instructions) = instructions := by
  have hwaiting : ({} : Scan).waiting = [] := by
    rfl
  unfold parse write Scan.ofText
  rw [String.toList_ofList, Scan.run_flatMap_writeInstruction hwaiting h]
  simp

/--
A row of instructions is read from some text if and only if its tiles have written keys, and then
the text that is put down for it instruction by instruction is one that it is read from.
-/
theorem exists_parse_eq_iff (instructions : List Instruction)
    : ((∃ text, parse text = instructions) ↔ IsDrawable instructions) ∧
      (parse (write instructions) = instructions ↔ IsDrawable instructions) ∧
      ∀ others, write (instructions ++ others) = write instructions ++ write others := by
  refine ⟨⟨?_, ?_⟩, ⟨?_, ?_⟩, ?_⟩
  . rintro ⟨text, htext⟩
    rw [← htext]
    apply isDrawable_parse
  . intro h
    exact ⟨write instructions, parse_write h⟩
  . intro h
    rw [← h]
    apply isDrawable_parse
  . apply parse_write
  . apply write_append

example : write [.tile "1p" .stacked, .gap, .tile "x" .upright] = "1''p-Xm" := by
  rfl

end Mahjong.Hand
