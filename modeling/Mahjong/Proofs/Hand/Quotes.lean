import Mahjong.Proofs.Hand.Composition

/-!
This module contains the proof that quotes right after a suit letter mean what they mean right
before it. Before the letter they are collected on a piece that waits, after it they turn the tile
that was drawn from the piece, one at a time.
-/

namespace Mahjong.Hand

def isSuit (c : Char) : Bool :=
  (Suit.ofChar? c).isSome

theorem exists_mark_rank {c : Char} (h : isRank c) : ∃ r, Mark.ofChar c = .rank r := by
  unfold isRank at h
  rw [Mark.rank_ofChar?_eq] at h
  cases hmark : Mark.ofChar c with
  | rank r => exact ⟨r, rfl⟩
  | _ => simp [hmark, Mark.rank?] at h

theorem exists_mark_suit {c : Char} (h : isSuit c) : ∃ s, Mark.ofChar c = .suit s := by
  unfold isSuit at h
  rw [Mark.suit_ofChar?_eq] at h
  cases hmark : Mark.ofChar c with
  | suit s => exact ⟨s, rfl⟩
  | _ => simp [hmark, Mark.suit?] at h

theorem leadingQuotes_append {quotes rest : List Char} (hquotes : ∀ c ∈ quotes, isQuote c)
    (hrest : ¬rest.head?.any isQuote)
    : leadingQuotes (quotes ++ rest) = quotes.filterMap Quote.ofChar? := by
  unfold leadingQuotes
  rw [Text.takeWhile_append hquotes hrest]

namespace Scan

theorem run_leadingQuotes_of_waiting (text : List Char) (output : Array Instruction) (piece : Piece)
    (earlier : List Piece) (reopen : Option OpenTile)
    : run ⟨output, piece :: earlier, reopen⟩ text
        =
      run ⟨output, piece.addQuotes (leadingQuotes text) :: earlier, reopen⟩
        (text.dropWhile isQuote) := by
  induction text generalizing piece with
  | nil => simp [leadingQuotes]
  | cons c rest ih =>
    rw [leadingQuotes_cons, dropWhile_isQuote_cons]
    cases hmark : Mark.ofChar c with
    | quote q =>
      rw [run_cons, hmark]
      simp only [step, quote]
      rw [ih]
      simp
    | rank r => simp
    | suit s => simp
    | gap => simp
    | stray => simp

theorem close_of_cons (output : Array Instruction) (last : Piece) (earlier : List Piece)
    (reopen : Option OpenTile) (suit : Suit)
    : close ⟨output, last :: earlier, reopen⟩ suit
        =
      let output := output ++ earlier.reverse.flatMap (·.tiles suit)
      ⟨output ++ last.tiles suit, [],
        if last.quotes = [] then some ⟨last, suit, output.size⟩ else none⟩ := by
  rfl

/--
The last piece before a suit letter is open behind the letter if it has no quotes there, and has
those that follow at the next character.
-/
theorem run_suit_quotes (output : Array Instruction) {piece : Piece} (hpiece : piece.quotes = [])
    (earlier : List Piece) (reopen : Option OpenTile) {suit : Char} {s : Suit}
    {quotes rest : List Char} (hsuit : Mark.ofChar suit = .suit s)
    (hquotes : ∀ c ∈ quotes, isQuote c) (hrest : ¬rest.head?.any isQuote)
    : run ⟨output, piece :: earlier, reopen⟩ (suit :: (quotes ++ rest))
        =
      let kept := output ++ earlier.reverse.flatMap (·.tiles s)
      let turned := piece.addQuotes (quotes.filterMap Quote.ofChar?)
      run ⟨kept ++ turned.tiles s, [], some ⟨turned, s, kept.size⟩⟩ rest := by
  rw [run_cons, hsuit]
  dsimp only [step]
  rw [close_of_cons]
  dsimp only
  rw [if_pos hpiece, run_leadingQuotes, leadingQuotes_append hquotes hrest,
    Text.dropWhile_append hquotes hrest]

section

variable (scan : Scan) {rank suit : Char} {r : Rank} {s : Suit} {quotes rest : List Char}
  (hrank : Mark.ofChar rank = .rank r) (hsuit : Mark.ofChar suit = .suit s)
  (hquotes : ∀ c ∈ quotes, isQuote c) (hrest : ¬rest.head?.any isQuote)
include hrank hsuit hquotes hrest

theorem output_run_quotes_before
    : (scan.run (rank :: (quotes ++ suit :: rest))).output
        =
      (run ⟨scan.output ++ scan.waiting.reverse.flatMap (·.tiles s) ++
          (Piece.mk r (quotes.filterMap Quote.ofChar?)).tiles s, [], none⟩ rest).output := by
  have hletter : ¬(suit :: rest).head?.any isQuote := by
    have hquote := Mark.quote_ofChar?_eq suit
    rw [hsuit] at hquote
    simp [isQuote, hquote, Mark.quote?]
  rw [run_cons, hrank]
  dsimp only [step]
  rw [run_leadingQuotes_of_waiting, leadingQuotes_append hquotes hletter,
    Text.dropWhile_append hquotes hletter, run_cons, hsuit]
  dsimp only [step]
  rw [close_of_cons, output_run_eq_of_closed _ hrest]
  simp [Piece.addQuotes]

theorem output_run_quotes_after
    : (scan.run (rank :: suit :: (quotes ++ rest))).output
        =
      (run ⟨scan.output ++ scan.waiting.reverse.flatMap (·.tiles s) ++
          (Piece.mk r (quotes.filterMap Quote.ofChar?)).tiles s, [], none⟩ rest).output := by
  rw [run_cons, hrank]
  dsimp only [step]
  rw [run_suit_quotes _ rfl _ _ hsuit hquotes hrest, output_run_eq_of_closed _ hrest]
  simp [Piece.addQuotes]

end

end Scan

/--
Quotes can be moved from before a suit letter to after it, whether they have a meaning or not.
-/
theorem parse_quotes_after_suit (before : String) {rank suit : Char} {quotes rest : String}
    (hrank : isRank rank) (hsuit : isSuit suit) (hquotes : ∀ c ∈ quotes.toList, isQuote c)
    (hrest : ¬startsWithQuote rest)
    : parse ((before.push rank ++ quotes).push suit ++ rest)
        =
      parse ((before.push rank).push suit ++ quotes ++ rest) := by
  rcases exists_mark_rank hrank with ⟨r, hr⟩
  rcases exists_mark_suit hsuit with ⟨s, hs⟩
  have hbefore : (before.push rank ++ quotes).push suit ++ rest
      =
    before ++ String.ofList (rank :: (quotes.toList ++ suit :: rest.toList)) := by
    apply String.toList_inj.1
    simp
  have hafter : (before.push rank).push suit ++ quotes ++ rest
      =
    before ++ String.ofList (rank :: suit :: (quotes.toList ++ rest.toList)) := by
    apply String.toList_inj.1
    simp
  rw [hbefore, hafter, parse_append_eq, parse_append_eq, String.toList_ofList,
    String.toList_ofList, Scan.output_run_quotes_before _ hr hs hquotes hrest,
    Scan.output_run_quotes_after _ hr hs hquotes hrest]

theorem parse_quotes_after_suit_call
    : parse "9s'1'2\"'p-3z" = parse "9s'1'2p\"'-3z" ∧ parse "9s'1'2''p" = parse "9s'1'2p''" := by
  constructor
  . refine @parse_quotes_after_suit "9s'1'" '2' 'p' "\"'" "-3z" ?_ ?_ ?_ ?_
    . decide
    . decide
    . simp [isQuote, Quote.ofChar?]
    . decide
  . refine @parse_quotes_after_suit "9s'1'" '2' 'p' "''" "" ?_ ?_ ?_ ?_
    . decide
    . decide
    . simp [isQuote, Quote.ofChar?]
    . decide

-- A quote that stands behind the moved ones would join them.
example : parse "1'p'" ≠ parse "1p''" := by
  decide

end Mahjong.Hand
