import Mahjong.Proofs.Hand.Composition

/-!
This module contains the bound on the length of a drawn hand: it has at most one instruction for
each character of the text. Each piece draws no more tiles than it has characters, save for the one
piece of a group that has quotes only. That one draws up to one tile more, which its suit letter
pays for.
-/

namespace Mahjong.Hand

/--
The characters of a piece that has a rank of its own.
-/
def Piece.weight (piece : Piece) : Nat :=
  piece.quotes.length + 1

@[simp]
theorem weight_addQuote (piece : Piece) (q : Quote)
    : (piece.addQuote q).weight = piece.weight + 1 := by
  simp [Piece.weight, Piece.addQuote]

def weightOf : List Piece → Nat
  | [] => 0
  | piece :: earlier => piece.weight + weightOf earlier

@[simp]
theorem weightOf_nil : weightOf [] = 0 := by
  rfl

@[simp]
theorem weightOf_cons (piece : Piece) (earlier : List Piece)
    : weightOf (piece :: earlier) = piece.weight + weightOf earlier := by
  rfl

theorem length_tiles_le_weight (piece : Piece) (suit : Suit)
    : (piece.tiles suit).length ≤ piece.weight := by
  unfold Piece.tiles Piece.orientations? Piece.weight
  split <;> simp_all

theorem length_flatMap_tiles_le (pieces : List Piece) (suit : Suit)
    : (pieces.reverse.flatMap (·.tiles suit)).length ≤ weightOf pieces := by
  induction pieces with
  | nil => simp
  | cons piece earlier ih =>
    have hpiece := length_tiles_le_weight piece suit
    rw [List.reverse_cons, List.flatMap_append, List.length_append, List.flatMap_singleton,
      weightOf_cons]
    omega

/--
What is borrowed from the suit letter that waiting pieces have yet to meet.
-/
def borrowed : List Piece → Nat
  | [] => 0
  | _ :: _ => 1

@[simp]
theorem borrowed_nil : borrowed [] = 0 := by
  rfl

@[simp]
theorem borrowed_cons (piece : Piece) (pieces : List Piece) : borrowed (piece :: pieces) = 1 := by
  rfl

theorem borrowed_le (pieces : List Piece)
    : borrowed pieces ≤ 1 ∧ borrowed pieces ≤ weightOf pieces := by
  cases pieces with
  | nil => simp
  | cons piece rest =>
    simp only [borrowed_cons, weightOf_cons, Piece.weight]
    omega

namespace Scan

/--
What a scan has put out and holds after `n` characters. One of the waiting pieces may have no
character for its rank.
-/
structure IsBounded (scan : Scan) (n : Nat) : Prop where
  size_add_le : scan.output.size + weightOf scan.waiting ≤ n + borrowed scan.waiting
  start_add_le : ∀ last, scan.reopen = some last → last.start + last.piece.weight ≤ n

theorem isBounded_empty : IsBounded {} 0 := by
  constructor
  . simp
  . intro last h
    contradiction

theorem isBounded_quote {scan : Scan} {n : Nat} (h : scan.IsBounded n) (q : Quote)
    : (scan.quote q).IsBounded (n + 1) := by
  have hsize := h.size_add_le
  unfold quote
  split
  . next piece earlier hwaiting =>
    constructor
    . simp only [hwaiting, weightOf_cons, borrowed_cons, weight_addQuote] at hsize ⊢
      omega
    . intro last hlast
      have := h.start_add_le last hlast
      omega
  . next last hwaiting hreopen =>
    have hstart := h.start_add_le last hreopen
    have hlen := length_tiles_le_weight (last.piece.addQuote q) last.suit
    rw [weight_addQuote] at hlen
    constructor
    . simp only [hwaiting, size_appendList, Array.size_shrink, weightOf_nil, borrowed_nil]
      omega
    . intro last' hlast
      cases hlast
      simp only [weight_addQuote]
      omega
  . next hwaiting hreopen =>
    constructor
    . simp only [hwaiting, weightOf_nil, borrowed_nil] at hsize
      simp only [weightOf_cons, weightOf_nil, borrowed_cons, Piece.weight, List.length_singleton]
      omega
    . intro last hlast
      rw [hreopen] at hlast
      contradiction

theorem isBounded_close {scan : Scan} {n : Nat} (h : scan.IsBounded n) (suit : Suit)
    : (scan.close suit).IsBounded (n + 1) := by
  have hsize := h.size_add_le
  unfold close
  split
  . next hwaiting =>
    constructor
    . simp only [hwaiting, weightOf_nil, borrowed_nil, Array.size_push] at hsize ⊢
      omega
    . intro last hlast
      contradiction
  . next last earlier hwaiting =>
    have hearlier := length_flatMap_tiles_le earlier suit
    have hlast := length_tiles_le_weight last suit
    simp only [hwaiting, weightOf_cons, borrowed_cons] at hsize
    constructor
    . simp only [size_appendList, weightOf_nil, borrowed_nil]
      omega
    . intro last' hlast'
      dsimp only at hlast'
      split at hlast'
      . cases hlast'
        simp only [size_appendList]
        omega
      . contradiction

theorem isBounded_step {scan : Scan} {n : Nat} (h : scan.IsBounded n) (mark : Mark)
    : (scan.step mark).IsBounded (n + 1) := by
  have hsize := h.size_add_le
  cases mark with
  | rank r =>
    constructor
    . have hborrowed := borrowed_le scan.waiting
      simp only [step, weightOf_cons, borrowed_cons, Piece.weight, List.length_nil]
      omega
    . intro last hlast
      contradiction
  | suit s => apply isBounded_close h
  | quote q => apply isBounded_quote h
  | gap =>
    constructor
    . simp only [step, Array.size_push]
      omega
    . intro last hlast
      contradiction
  | stray =>
    constructor
    . simp only [step]
      omega
    . intro last hlast
      contradiction

theorem isBounded_run {scan : Scan} {n : Nat} (h : scan.IsBounded n) (text : List Char)
    : (scan.run text).IsBounded (n + text.length) := by
  induction text generalizing scan n with
  | nil => assumption
  | cons c rest ih =>
    have hrun := ih (isBounded_step h (.ofChar c))
    rw [run_cons, List.length_cons, Nat.add_comm rest.length 1, ← Nat.add_assoc]
    exact hrun

theorem IsBounded.size_le {scan : Scan} {n : Nat} (h : scan.IsBounded n)
    : scan.output.size ≤ n := by
  have hsize := h.size_add_le
  -- What the waiting pieces weigh makes up for what they have borrowed.
  have hborrowed := borrowed_le scan.waiting
  omega

end Scan

/--
A drawn hand has no more instructions than its text has characters. A double quote in front of a
suit letter is enough to reach that bound.
-/
theorem length_parse_le (text : String)
    : (parse text).length ≤ text.length ∧
      ∀ suit : Suit,
        let group := String.ofList [Quote.double.char, suit.letter]
        (parse group).length = group.length := by
  constructor
  . have hrun := (Scan.isBounded_run Scan.isBounded_empty text.toList).size_le
    rw [Nat.zero_add, String.length_toList] at hrun
    exact hrun
  . intro suit
    cases suit <;> rfl

end Mahjong.Hand
