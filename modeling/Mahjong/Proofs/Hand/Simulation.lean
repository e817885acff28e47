import Mahjong.Proofs.Hand.Groups

/-!
This module contains the proof that reading from left to right draws what the groups of a hand draw.
Between two suit letters a scan does nothing but collect the pieces of one group, so that it can be
followed from suit letter to suit letter.
-/

namespace Mahjong.Hand

theorem groupPieces_cons (c : Char) (rest : List Char)
    : groupPieces (c :: rest)
        =
      match Mark.ofChar c with
      | .rank r => ⟨r, quotesBeforeRank rest⟩ :: rankPieces rest
      | .quote q => ⟨.q, q :: quotesBeforeRank rest⟩ :: rankPieces rest
      | _ => groupPieces rest := by
  unfold groupPieces
  rw [quotesBeforeRank_cons, rankPieces_cons]
  cases Mark.ofChar c <;> rfl

theorem leadingQuotes_joinGroups (body : List Char) (groups : List (Suit × List Char))
    : leadingQuotes (joinGroups body groups) = leadingQuotes body := by
  induction body with
  | nil =>
    cases groups with
    | nil => rfl
    | cons group rest =>
      rw [joinGroups_cons, List.nil_append, leadingQuotes_cons, Mark.ofChar_letter]
      rfl
  | cons c body ih =>
    unfold joinGroups at ih ⊢
    rw [List.cons_append, leadingQuotes_cons, leadingQuotes_cons, ih]

theorem dropWhile_joinGroups (body : List Char) (groups : List (Suit × List Char))
    : (joinGroups body groups).dropWhile isQuote
        =
      joinGroups (body.dropWhile isQuote) groups := by
  induction body with
  | nil =>
    cases groups with
    | nil => rfl
    | cons group rest =>
      rw [List.dropWhile_nil, joinGroups_cons, List.nil_append, dropWhile_isQuote_cons,
        Mark.ofChar_letter]
  | cons c body ih =>
    unfold joinGroups at ih ⊢
    rw [List.cons_append, dropWhile_isQuote_cons, dropWhile_isQuote_cons, ih]
    cases Mark.ofChar c <;> rfl

namespace Scan

@[simp]
theorem run_nil (scan : Scan) : scan.run [] = scan := by
  rfl

@[simp]
theorem run_cons (scan : Scan) (c : Char) (rest : List Char)
    : scan.run (c :: rest) = (scan.step (.ofChar c)).run rest := by
  rfl

theorem run_append (scan : Scan) (text rest : List Char)
    : scan.run (text ++ rest) = (scan.run text).run rest := by
  unfold run
  rw [List.foldl_append]

theorem run_body_of_waiting {body : List Char} (hbody : SuitFree body) (output : Array Instruction)
    (piece : Piece) (earlier : List Piece)
    : run ⟨output, piece :: earlier, none⟩ body
        =
      ⟨output ++ gaps body,
        (rankPieces body).reverse ++ piece.addQuotes (quotesBeforeRank body) :: earlier, none⟩ := by
  induction body generalizing output piece earlier with
  | nil => simp [gaps, rankPieces, quotesBeforeRank]
  | cons c rest ih =>
    rcases hbody.of_cons with ⟨hc, hrest⟩
    rw [Mark.suit_ofChar?_eq] at hc
    rw [run_cons, gaps_cons, rankPieces_cons, quotesBeforeRank_cons]
    cases hmark : Mark.ofChar c with
    | rank r =>
      simp only [step]
      rw [ih hrest]
      simp [Piece.addQuotes]
    | suit s =>
      rw [hmark] at hc
      contradiction
    | quote q =>
      simp only [step, quote]
      rw [ih hrest]
      simp
    | gap =>
      simp only [step]
      rw [ih hrest]
      simp
    | stray =>
      simp only [step]
      rw [ih hrest]

theorem run_body {body : List Char} (hbody : SuitFree body) (output : Array Instruction)
    : run ⟨output, [], none⟩ body = ⟨output ++ gaps body, (groupPieces body).reverse, none⟩ := by
  induction body generalizing output with
  | nil => simp [gaps, groupPieces, rankPieces, quotesBeforeRank]
  | cons c rest ih =>
    rcases hbody.of_cons with ⟨hc, hrest⟩
    rw [Mark.suit_ofChar?_eq] at hc
    rw [run_cons, gaps_cons, groupPieces_cons]
    cases hmark : Mark.ofChar c with
    | rank r =>
      simp only [step]
      rw [run_body_of_waiting hrest]
      simp [Piece.addQuotes]
    | suit s =>
      rw [hmark] at hc
      contradiction
    | quote q =>
      simp only [step, quote]
      rw [run_body_of_waiting hrest]
      simp [Piece.addQuotes]
    | gap =>
      simp only [step]
      rw [ih hrest]
      simp
    | stray =>
      simp only [step]
      rw [ih hrest]

theorem close_of_nil (output : Array Instruction) (suit : Suit)
    : close ⟨output, [], none⟩ suit = ⟨output.push (.tile suit.bareKey .upright), [], none⟩ := by
  rfl

theorem close_of_concat (output : Array Instruction) (earlier : List Piece) (last : Piece)
    (suit : Suit)
    : close ⟨output, (earlier ++ [last]).reverse, none⟩ suit
        =
      let output := output ++ earlier.flatMap (·.tiles suit)
      ⟨output ++ last.tiles suit, [],
        if last.quotes = [] then some ⟨last, suit, output.size⟩ else none⟩ := by
  simp [close]

theorem run_leadingQuotes (text : List Char) (output : Array Instruction) (piece : Piece)
    (suit : Suit)
    : run ⟨output ++ piece.tiles suit, [], some ⟨piece, suit, output.size⟩⟩ text
        =
      let turned := piece.addQuotes (leadingQuotes text)
      run ⟨output ++ turned.tiles suit, [], some ⟨turned, suit, output.size⟩⟩
        (text.dropWhile isQuote) := by
  induction text generalizing piece with
  | nil => simp [leadingQuotes]
  | cons c rest ih =>
    rw [leadingQuotes_cons, dropWhile_isQuote_cons]
    cases hmark : Mark.ofChar c with
    | quote q =>
      -- Each further quote withdraws what the open piece drew before.
      have hshrink : (output ++ piece.tiles suit).shrink output.size = output := by
        apply Array.ext'
        simp
      rw [run_cons, hmark]
      simp only [step, quote, hshrink]
      rw [ih]
      simp
    | rank r => simp
    | suit s => simp
    | gap => simp
    | stray => simp

theorem output_run_dropWhile (scan : Scan) (text : List Char)
    : (scan.run (text.dropWhile isQuote)).output
        =
      ({ scan with reopen := none }.run (text.dropWhile isQuote)).output := by
  induction text with
  | nil => rfl
  | cons c rest ih =>
    rw [dropWhile_isQuote_cons]
    cases hmark : Mark.ofChar c with
    | quote q =>
      dsimp
      rw [ih]
    | rank r =>
      dsimp
      rw [run_cons, run_cons, hmark]
      rfl
    | suit s =>
      dsimp
      rw [run_cons, run_cons, hmark]
      rfl
    | gap =>
      dsimp
      rw [run_cons, run_cons, hmark]
      rfl
    | stray =>
      dsimp
      rw [run_cons, run_cons, hmark]
      rfl

theorem output_run_joinGroups {body : List Char} (hbody : SuitFree body)
    {groups : List (Suit × List Char)} (hgroups : ∀ group ∈ groups, SuitFree group.2)
    (output : Array Instruction)
    : (run ⟨output, [], none⟩ (joinGroups body groups)).output.toList
        =
      output.toList ++ drawGroups body groups := by
  induction groups generalizing body output with
  | nil =>
    rw [joinGroups_nil, run_body hbody]
    simp [drawGroups]
  | cons group rest ih =>
    rcases group with ⟨suit, next⟩
    have hnext : SuitFree next := by
      apply hgroups ⟨suit, next⟩
      simp
    have hrest : ∀ group ∈ rest, SuitFree group.2 := by
      intro group hgroup
      apply hgroups
      simp [hgroup]
    rw [joinGroups_cons, run_append, run_body hbody, run_cons, Mark.ofChar_letter]
    unfold drawGroups drawGroup staysOpen
    dsimp only [step]
    rcases List.eq_nil_or_concat (groupPieces body) with hpieces | ⟨earlier, last, hpieces⟩
    . rw [hpieces, List.reverse_nil, close_of_nil, ih hnext hrest]
      cases suit <;> simp [Suit.bareKey]
    . rw [List.concat_eq_append] at hpieces
      rw [hpieces, close_of_concat]
      by_cases hquotes : last.quotes = []
      . have hdrop : SuitFree (next.dropWhile isQuote) := by
          intro c hc
          apply hnext
          exact (List.dropWhile_sublist isQuote).mem hc
        simp only [hquotes, ↓reduceIte]
        rw [run_leadingQuotes, leadingQuotes_joinGroups, output_run_dropWhile,
          dropWhile_joinGroups, ih hdrop hrest]
        simp [hquotes]
      . simp only [hquotes, ↓reduceIte]
        rw [ih hnext hrest]
        simp [hquotes]

end Scan

/--
Reading a hand from left to right draws its groups one after the other.
-/
theorem parse_eq_parseByGroups (text : String) : parse text = parseByGroups text := by
  rcases suitFree_cut text.toList with ⟨hbody, hgroups⟩
  have hrun := Scan.output_run_joinGroups hbody hgroups #[]
  rw [joinGroups_cut] at hrun
  unfold parse parseByGroups Scan.ofText
  rw [hrun]
  simp

example : parseByGroups "1p'2s-" = [.tile "1p" .sideways, .tile "2s" .upright, .gap] := by
  decide

end Mahjong.Hand
