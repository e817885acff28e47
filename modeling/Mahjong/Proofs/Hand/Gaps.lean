import Mahjong.Proofs.Hand.Composition

/-!
This module contains the independence of gaps and tiles. A scan that reads a blank for each hyphen
goes along with the one that reads the hyphens: it holds the same pieces and puts out the same
tiles, although what its open tile drew stands elsewhere in the output.
-/

namespace Mahjong.Hand

def tilesOf (instructions : List Instruction) : List Instruction :=
  instructions.filter (· ≠ .gap)

@[simp]
theorem tilesOf_append (instructions others : List Instruction)
    : tilesOf (instructions ++ others) = tilesOf instructions ++ tilesOf others := by
  apply List.filter_append

@[simp]
theorem tilesOf_tile (key : String) (orientation : Orientation)
    : tilesOf [.tile key orientation] = [.tile key orientation] := by
  rfl

@[simp]
theorem tilesOf_gap : tilesOf [.gap] = [] := by
  rfl

/--
The tiles of a first part of the instructions are the first of all tiles.
-/
theorem take_tilesOf (instructions : List Instruction) (n : Nat)
    : (tilesOf instructions).take (tilesOf (instructions.take n)).length
        =
      tilesOf (instructions.take n) := by
  conv =>
    lhs
    rw [← List.take_append_drop n instructions, tilesOf_append]
  simp

theorem gap_not_mem_tiles (piece : Piece) (suit : Suit) : .gap ∉ piece.tiles suit := by
  intro h
  rcases eq_tile_of_mem_tiles h with ⟨_, heq⟩
  contradiction

theorem gap_not_mem_flatMap_tiles (pieces : List Piece) (suit : Suit)
    : .gap ∉ pieces.flatMap (·.tiles suit) := by
  intro h
  rcases List.mem_flatMap.1 h with ⟨piece, _, hmem⟩
  exact gap_not_mem_tiles piece suit hmem

theorem tilesOf_of_not_mem {instructions : List Instruction} (h : .gap ∉ instructions)
    : tilesOf instructions = instructions := by
  apply List.filter_eq_self.2
  intro i hi
  simp only [decide_not, Bool.not_eq_true', decide_eq_false_iff_not]
  intro hgap
  rw [hgap] at hi
  contradiction

@[simp]
theorem tilesOf_tiles (piece : Piece) (suit : Suit)
    : tilesOf (piece.tiles suit) = piece.tiles suit := by
  apply tilesOf_of_not_mem
  apply gap_not_mem_tiles

@[simp]
theorem tilesOf_flatMap_tiles (pieces : List Piece) (suit : Suit)
    : tilesOf (pieces.flatMap (·.tiles suit)) = pieces.flatMap (·.tiles suit) := by
  apply tilesOf_of_not_mem
  apply gap_not_mem_flatMap_tiles

@[simp]
theorem count_gap_tiles (piece : Piece) (suit : Suit) : (piece.tiles suit).count .gap = 0 := by
  apply List.count_eq_zero.2
  apply gap_not_mem_tiles

@[simp]
theorem count_gap_flatMap_tiles (pieces : List Piece) (suit : Suit)
    : (pieces.flatMap (·.tiles suit)).count .gap = 0 := by
  apply List.count_eq_zero.2
  apply gap_not_mem_flatMap_tiles

/--
A hyphen becomes a blank.
-/
def blankGap (c : Char) : Char :=
  if c = '-' then ' ' else c

namespace Mark

def withoutGap : Mark → Mark
  | .gap => .stray
  | mark => mark

theorem ofChar_blankGap (c : Char) : ofChar (blankGap c) = (ofChar c).withoutGap := by
  have hgap := eq_hyphen_iff c
  unfold blankGap
  split
  . next hc =>
    rw [hgap.1 hc]
    rfl
  . next hc =>
    cases hmark : ofChar c with
    | gap => exact absurd (hgap.2 hmark) hc
    | _ => rfl

end Mark

namespace Scan

/--
The same scan with the tiles of its output only. The open tile starts behind the tiles before it.
-/
def withoutGaps (scan : Scan) : Scan where
  output := (tilesOf scan.output.toList).toArray
  waiting := scan.waiting
  reopen := scan.reopen.map fun last =>
    { last with start := (tilesOf (scan.output.toList.take last.start)).length }

theorem withoutGaps_open (output : Array Instruction) (piece : Piece) (suit : Suit)
    : withoutGaps ⟨output ++ piece.tiles suit, [], some ⟨piece, suit, output.size⟩⟩
        =
      ⟨(tilesOf output.toList).toArray ++ piece.tiles suit, [],
        some ⟨piece, suit, (tilesOf output.toList).toArray.size⟩⟩ := by
  simp [withoutGaps]

theorem withoutGaps_quote {scan : Scan} (h : scan.IsConsistent) (q : Quote)
    : (scan.quote q).withoutGaps = scan.withoutGaps.quote q := by
  rcases scan with ⟨output, waiting, reopen⟩
  cases waiting with
  | cons piece earlier =>
    cases reopen with
    | none => rfl
    | some last => cases h.waiting_eq_nil last rfl
  | nil =>
    cases reopen with
    | none => rfl
    | some last =>
      have hstart : last.start ≤ output.size := h.start_le_size last rfl
      have hsize : (output.shrink last.start).size = last.start := by
        simp
        omega
      have hopen := withoutGaps_open (output.shrink last.start) (last.piece.addQuote q) last.suit
      rw [hsize] at hopen
      dsimp only [quote]
      rw [hopen]
      simp [withoutGaps, take_tilesOf]

theorem withoutGaps_close (scan : Scan) (suit : Suit)
    : (scan.close suit).withoutGaps = scan.withoutGaps.close suit := by
  rcases scan with ⟨output, waiting, reopen⟩
  cases waiting with
  | nil => simp [withoutGaps, close]
  | cons last earlier =>
    by_cases hquotes : last.quotes = []
    . simp only [close, hquotes, ↓reduceIte, withoutGaps_open]
      simp [withoutGaps, hquotes]
    . simp [withoutGaps, close, hquotes]

theorem withoutGaps_step {scan : Scan} (h : scan.IsConsistent) (mark : Mark)
    : (scan.step mark).withoutGaps = scan.withoutGaps.step mark.withoutGap := by
  cases mark with
  | rank r => rfl
  | suit s => apply withoutGaps_close
  | quote q =>
    apply withoutGaps_quote
    assumption
  | gap => simp [withoutGaps, step, Mark.withoutGap]
  | stray => rfl

theorem withoutGaps_run {scan : Scan} (h : scan.IsConsistent) (text : List Char)
    : (scan.run text).withoutGaps = scan.withoutGaps.run (text.map blankGap) := by
  induction text generalizing scan with
  | nil => rfl
  | cons c rest ih =>
    rw [run_cons, ih (isConsistent_step h _), withoutGaps_step h, List.map_cons, run_cons,
      Mark.ofChar_blankGap]

theorem count_gap_quote {scan : Scan} (h : scan.IsConsistent) (q : Quote)
    : (scan.quote q).output.toList.count .gap = scan.output.toList.count .gap := by
  unfold quote
  split
  . rfl
  . next last _ hreopen =>
    -- What is withdrawn are tiles, as is what is drawn in its place.
    conv =>
      rhs
      rw [← List.take_append_drop last.start scan.output.toList, h.drop_start last hreopen]
    simp
  . rfl

theorem count_gap_close (scan : Scan) (suit : Suit)
    : (scan.close suit).output.toList.count .gap = scan.output.toList.count .gap := by
  unfold close
  split <;> simp

theorem count_gap_step {scan : Scan} (h : scan.IsConsistent) (mark : Mark)
    : (scan.step mark).output.toList.count .gap
        =
      scan.output.toList.count .gap + if mark = .gap then 1 else 0 := by
  cases mark with
  | rank r => rfl
  | suit s => apply count_gap_close
  | quote q => apply count_gap_quote h
  | gap => simp [step]
  | stray => rfl

theorem count_gap_run {scan : Scan} (h : scan.IsConsistent) (text : List Char)
    : (scan.run text).output.toList.count .gap
        =
      scan.output.toList.count .gap + text.count '-' := by
  induction text generalizing scan with
  | nil => rfl
  | cons c rest ih =>
    have hgap := Mark.eq_hyphen_iff c
    rw [run_cons, ih (isConsistent_step h _), count_gap_step h, List.count_cons]
    simp only [beq_iff_eq, hgap]
    omega

end Scan

/--
Each hyphen leaves one gap, and the tiles are those of the text that has blanks in place of its
hyphens.
-/
theorem parse_gaps (text : String)
    : (parse text).count .gap = text.toList.count '-' ∧
      tilesOf (parse text) = parse (text.map blankGap) := by
  have hstart : ({} : Scan).IsConsistent := by
    apply Scan.IsConsistent.of_closed
    rfl
  unfold parse Scan.ofText
  constructor
  . rw [Scan.count_gap_run hstart]
    simp
  . have hrun := Scan.withoutGaps_run hstart text.toList
    have hempty : ({} : Scan).withoutGaps = {} := by
      rfl
    rw [hempty] at hrun
    rw [String.toList_map, ← hrun]
    rfl

-- The gap keeps the quote from the tile before it, as a blank does.
example : parse "1-2p-'s"
    =
  [.gap, .tile "1p" .upright, .tile "2p" .upright, .gap, .tile "q" .sideways] := by
  decide

end Mahjong.Hand
