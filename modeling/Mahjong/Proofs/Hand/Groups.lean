import Mahjong.Hand.Scan
import Mahjong.Proofs.Hand.Alphabet

/-!
This module contains a second description of what a written hand draws. It does not read from left
to right but cuts the text at its suit letters and decides by position which rank a quote belongs
to, so that nothing is put out before it is final.
-/

namespace Mahjong.Hand

/--
Cut a text at its suit letters: what stands before the first one, and for each suit letter what
stands between it and the next one.
-/
def cut : List Char → List Char × List (Suit × List Char)
  | [] => ([], [])
  | c :: rest =>
    let (body, groups) := cut rest
    match Suit.ofChar? c with
    | some suit => ([], (suit, body) :: groups)
    | none => (c :: body, groups)

namespace Piece

def addQuotes (piece : Piece) (quotes : List Quote) : Piece :=
  { piece with quotes := piece.quotes ++ quotes }

@[simp]
theorem addQuotes_nil (piece : Piece) : piece.addQuotes [] = piece := by
  simp [addQuotes]

@[simp]
theorem addQuotes_addQuote (piece : Piece) (q : Quote) (quotes : List Quote)
    : (piece.addQuote q).addQuotes quotes = piece.addQuotes (q :: quotes) := by
  simp [addQuote, addQuotes]

end Piece

def isQuote (c : Char) : Bool :=
  (Quote.ofChar? c).isSome

def isRank (c : Char) : Bool :=
  (Rank.ofChar? c).isSome

/--
The quotes at the very start of a row of characters.
-/
def leadingQuotes (text : List Char) : List Quote :=
  (text.takeWhile isQuote).filterMap Quote.ofChar?

/--
All quotes before the first rank, with whatever stands between them.
-/
def quotesBeforeRank (text : List Char) : List Quote :=
  (text.takeWhile (!isRank ·)).filterMap Quote.ofChar?

/--
One piece for each rank, with the quotes between it and the next rank.
-/
def rankPieces : List Char → List Piece
  | [] => []
  | c :: rest =>
    match Rank.ofChar? c with
    | some rank => ⟨rank, quotesBeforeRank rest⟩ :: rankPieces rest
    | none => rankPieces rest

/--
The pieces of a group. Quotes before its first rank are a piece of rank `q`.
-/
def groupPieces (body : List Char) : List Piece :=
  match quotesBeforeRank body with
  | [] => rankPieces body
  | quotes => ⟨.q, quotes⟩ :: rankPieces body

/--
Whether quotes right after the suit letter belong to the last piece before it.
-/
def staysOpen (body : List Char) : Bool :=
  (groupPieces body).getLast?.any (·.quotes = [])

def gaps (body : List Char) : List Instruction :=
  List.replicate (body.count '-') .gap

/--
What a group draws whose last piece has some quotes after the suit letter.
-/
def drawGroup (body : List Char) (suit : Suit) (after : List Quote) : List Instruction :=
  gaps body ++
    match (groupPieces body).getLast? with
    | none => [.tile (if suit = .x then "x" else "q") .upright]
    | some last =>
      (groupPieces body).dropLast.flatMap (·.tiles suit) ++
        (last.addQuotes after).tiles suit

/--
Draw a body and the groups after it. Quotes that belong to the group before are taken away from the
body that begins with them. What stands after the last suit letter draws its gaps only.
-/
def drawGroups (body : List Char) : List (Suit × List Char) → List Instruction
  | [] => gaps body
  | (suit, next) :: rest =>
    if staysOpen body then
      drawGroup body suit (leadingQuotes next) ++ drawGroups (next.dropWhile isQuote) rest
    else
      drawGroup body suit [] ++ drawGroups next rest

def parseByGroups (text : String) : List Instruction :=
  drawGroups (cut text.toList).1 (cut text.toList).2

theorem quotesBeforeRank_cons (c : Char) (rest : List Char)
    : quotesBeforeRank (c :: rest)
        =
      match Mark.ofChar c with
      | .rank _ => []
      | .quote q => q :: quotesBeforeRank rest
      | _ => quotesBeforeRank rest := by
  have hrank := Mark.rank_ofChar?_eq c
  have hquote := Mark.quote_ofChar?_eq c
  unfold quotesBeforeRank isRank
  cases h : Mark.ofChar c <;> simp [h, hrank, hquote, Mark.rank?, Mark.quote?]

theorem rankPieces_cons (c : Char) (rest : List Char)
    : rankPieces (c :: rest)
        =
      match Mark.ofChar c with
      | .rank r => ⟨r, quotesBeforeRank rest⟩ :: rankPieces rest
      | _ => rankPieces rest := by
  rw [rankPieces, Mark.rank_ofChar?_eq]
  cases Mark.ofChar c <;> rfl

theorem char_mem_of_mem_quotesBeforeRank {text : List Char} {q : Quote}
    (h : q ∈ quotesBeforeRank text)
    : q.char ∈ text := by
  rcases List.mem_filterMap.1 h with ⟨c, hc, hq⟩
  rw [← Quote.eq_char_of_ofChar? hq]
  exact (List.takeWhile_sublist _).mem hc

theorem char_mem_of_mem_rankPieces {text : List Char} {piece : Piece} (h : piece ∈ rankPieces text)
    : piece.rank.char ∈ text ∧ ∀ q ∈ piece.quotes, q.char ∈ text := by
  induction text with
  | nil => contradiction
  | cons c rest ih =>
    have hrest : piece ∈ rankPieces rest →
        piece.rank.char ∈ c :: rest ∧ ∀ q ∈ piece.quotes, q.char ∈ c :: rest := by
      intro hmem
      refine ⟨List.mem_cons_of_mem c (ih hmem).1, ?_⟩
      intro q hq
      exact List.mem_cons_of_mem c ((ih hmem).2 q hq)
    rw [rankPieces] at h
    split at h
    . next rank hrank =>
      rcases List.mem_cons.1 h with h | h
      . subst h
        refine ⟨?_, ?_⟩
        . rw [← Rank.eq_char_of_ofChar? hrank]
          apply List.mem_cons_self
        . intro q hq
          apply List.mem_cons_of_mem
          exact char_mem_of_mem_quotesBeforeRank hq
      . exact hrest h
    . exact hrest h

/--
A piece of a group is written in its body, where quotes with no rank before them need none.
-/
theorem char_mem_of_mem_groupPieces {body : List Char} {piece : Piece}
    (h : piece ∈ groupPieces body)
    : (piece.rank.char ∈ body ∨ piece.rank = .q ∧ piece.quotes ≠ []) ∧
      ∀ q ∈ piece.quotes, q.char ∈ body := by
  unfold groupPieces at h
  split at h
  . rcases char_mem_of_mem_rankPieces h with ⟨hrank, hquotes⟩
    exact ⟨.inl hrank, hquotes⟩
  . next hne =>
    rcases List.mem_cons.1 h with h | h
    . subst h
      refine ⟨.inr ⟨rfl, hne⟩, ?_⟩
      intro q hq
      exact char_mem_of_mem_quotesBeforeRank hq
    . rcases char_mem_of_mem_rankPieces h with ⟨hrank, hquotes⟩
      exact ⟨.inl hrank, hquotes⟩

theorem gaps_cons (c : Char) (rest : List Char)
    : gaps (c :: rest)
        =
      match Mark.ofChar c with
      | .gap => .gap :: gaps rest
      | _ => gaps rest := by
  have hgap := Mark.eq_hyphen_iff c
  unfold gaps
  cases h : Mark.ofChar c <;> simp [h] at hgap <;> simp [hgap, List.replicate_succ]

theorem leadingQuotes_cons (c : Char) (rest : List Char)
    : leadingQuotes (c :: rest)
        =
      match Mark.ofChar c with
      | .quote q => q :: leadingQuotes rest
      | _ => [] := by
  have hquote := Mark.quote_ofChar?_eq c
  unfold leadingQuotes isQuote
  cases h : Mark.ofChar c <;> simp [h, hquote, Mark.quote?]

theorem dropWhile_isQuote_cons (c : Char) (rest : List Char)
    : (c :: rest).dropWhile isQuote
        =
      match Mark.ofChar c with
      | .quote _ => rest.dropWhile isQuote
      | _ => c :: rest := by
  have hquote := Mark.quote_ofChar?_eq c
  unfold isQuote
  cases h : Mark.ofChar c <;> simp [h, hquote, Mark.quote?]

def joinGroups (body : List Char) (groups : List (Suit × List Char)) : List Char :=
  body ++ groups.flatMap fun (suit, next) => suit.letter :: next

@[simp]
theorem joinGroups_nil (body : List Char) : joinGroups body [] = body := by
  simp [joinGroups]

@[simp]
theorem joinGroups_cons (body : List Char) (suit : Suit) (next : List Char)
    (rest : List (Suit × List Char))
    : joinGroups body ((suit, next) :: rest) = body ++ suit.letter :: joinGroups next rest := by
  simp [joinGroups]

theorem joinGroups_cut (text : List Char) : joinGroups (cut text).1 (cut text).2 = text := by
  induction text with
  | nil => rfl
  | cons c rest ih =>
    unfold cut
    cases h : Suit.ofChar? c with
    | none =>
      dsimp
      unfold joinGroups at ih ⊢
      rw [List.cons_append, ih]
    | some suit =>
      dsimp
      rw [joinGroups_cons, ih, Suit.eq_letter_of_ofChar? h]
      rfl

def SuitFree (text : List Char) : Prop :=
  ∀ c ∈ text, Suit.ofChar? c = none

theorem SuitFree.of_cons {c : Char} {rest : List Char} (h : SuitFree (c :: rest))
    : Suit.ofChar? c = none ∧ SuitFree rest := by
  constructor
  . apply h
    simp
  . intro d hd
    apply h
    simp [hd]

theorem suitFree_cut (text : List Char)
    : SuitFree (cut text).1 ∧ ∀ group ∈ (cut text).2, SuitFree group.2 := by
  induction text with
  | nil => simp [cut, SuitFree]
  | cons c rest ih =>
    rcases ih with ⟨ihbody, ihgroups⟩
    unfold cut
    cases h : Suit.ofChar? c with
    | none =>
      dsimp
      constructor
      . intro d hd
        rcases List.mem_cons.1 hd with hd | hd
        . rw [hd, h]
        . exact ihbody d hd
      . exact ihgroups
    | some suit =>
      dsimp
      constructor
      . simp [SuitFree]
      . intro group hgroup
        rcases List.mem_cons.1 hgroup with hgroup | hgroup
        . rw [hgroup]
          exact ihbody
        . exact ihgroups group hgroup

end Mahjong.Hand
