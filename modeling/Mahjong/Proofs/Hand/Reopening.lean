import Mahjong.Proofs.Hand.Stray

/-!
This module contains what holds after every first part of a text. What the open tile drew last is the
end of the output, so that a quote withdraws exactly that, and the pieces that wait are those of the
group that has yet to meet its suit letter.
-/

namespace Mahjong.Hand

/--
How a tile comes to be open: it was drawn from the last piece before a suit letter, which had no
quotes there and has all those that were read since. The tiles before it are those of the text
before that letter and of the other pieces of its group.
-/
def OpenTile.IsDrawnFrom (last : OpenTile) (text : List Char) : Prop :=
  ∃ before suit quotes piece earlier,
    text = before ++ suit :: quotes ∧
    Suit.ofChar? suit = some last.suit ∧
    (∀ c ∈ quotes, isQuote c) ∧
    (Scan.run {} before).waiting = piece :: earlier ∧
    piece.quotes = [] ∧
    last.piece = piece.addQuotes (quotes.filterMap Quote.ofChar?) ∧
    (Scan.run {} text).output.toList.take last.start
      =
    (Scan.run {} before).output.toList ++ earlier.reverse.flatMap (·.tiles last.suit)

namespace Scan

theorem isDrawnFrom_of_reopen {text : List Char} {last : OpenTile}
    (h : (run {} text).reopen = some last)
    : last.IsDrawnFrom text := by
  have hsome : (run {} text).reopen.isSome := by
    rw [h]
    rfl
  rcases exists_of_isSome_reopen hsome
    with ⟨before, suit, quotes, htext, hsuit, hquotes, piece, earlier, hwaiting, hpiece⟩
  rcases exists_mark_suit hsuit with ⟨s, hs⟩
  have hrun : run {} text
      =
    let kept := (run {} before).output ++ earlier.reverse.flatMap (·.tiles s)
    let turned := piece.addQuotes (quotes.filterMap Quote.ofChar?)
    ⟨kept ++ turned.tiles s, [], some ⟨turned, s, kept.size⟩⟩ := by
    have hnone : ¬([] : List Char).head?.any isQuote := by
      simp
    have hletter := run_suit_quotes (run {} before).output hpiece earlier (run {} before).reopen hs
      hquotes hnone
    rw [List.append_nil, ← hwaiting, run_nil] at hletter
    rw [htext, run_append]
    exact hletter
  rw [hrun] at h
  dsimp only at h
  injection h with h
  refine ⟨before, suit, quotes, piece, earlier, htext, ?_, hquotes, hwaiting, hpiece, ?_, ?_⟩
  . rw [← h, Mark.suit_ofChar?_eq, hs]
    rfl
  . rw [← h]
  . rw [hrun, ← h]
    dsimp only
    rw [Array.toList_appendList, ← Array.length_toList, List.take_left, Array.toList_appendList]

theorem waiting_close (scan : Scan) (suit : Suit) : (scan.close suit).waiting = [] := by
  unfold close
  split
  . assumption
  . rfl

/--
What waits after a step depends on the open tile only when a quote meets it, and then nothing waits.
-/
theorem waiting_step (scan : Scan) (output : Array Instruction) {mark : Mark}
    (h : (scan.step mark).waiting ≠ [])
    : (step ⟨output, scan.waiting, none⟩ mark).waiting = (scan.step mark).waiting := by
  rcases scan with ⟨_, waiting, reopen⟩
  cases mark with
  | suit s => exact absurd (waiting_close _ s) h
  | quote q =>
    cases waiting with
    | cons piece earlier => rfl
    | nil =>
      cases reopen with
      | none => rfl
      | some last => exact absurd rfl h
  | rank r => rfl
  | gap => rfl
  | stray => rfl

theorem waiting_step_of_suitFree {scan : Scan} {body : List Char}
    (hwaiting : scan.waiting.reverse = groupPieces body) {c : Char} (hbody : SuitFree (body ++ [c]))
    (hne : (scan.step (.ofChar c)).waiting ≠ [])
    : (scan.step (.ofChar c)).waiting.reverse = groupPieces (body ++ [c]) := by
  have hinit : SuitFree body := by
    intro d hd
    apply hbody
    exact List.mem_append_left _ hd
  have hrun := run_body hbody scan.output
  rw [run_append, run_body hinit, run_cons, run_nil, ← hwaiting, List.reverse_reverse] at hrun
  rw [← waiting_step scan (scan.output ++ gaps body) hne, hrun, List.reverse_reverse]

/--
The pieces that wait are those of what was read since the last suit letter, or of a shorter row when
quotes after that letter belong to the group before.
-/
theorem exists_waiting_eq (text : List Char)
    : ∃ before body,
        text = before ++ body ∧
        SuitFree body ∧
        (run {} text).waiting.reverse = groupPieces body := by
  induction text using List.reverseRecOn with
  | nil => exact ⟨[], [], rfl, by simp [SuitFree], rfl⟩
  | append_singleton text c ih =>
    rw [run_append, run_cons, run_nil]
    by_cases hnil : ((run {} text).step (.ofChar c)).waiting = []
    . refine ⟨text ++ [c], [], by simp, by simp [SuitFree], ?_⟩
      rw [hnil]
      rfl
    . rcases ih with ⟨before, body, htext, hbody, hwaiting⟩
      have hc : Suit.ofChar? c = none := by
        cases hmark : Mark.ofChar c with
        | suit s =>
          rw [hmark] at hnil
          exact absurd (waiting_close _ s) hnil
        | _ => rw [Mark.suit_ofChar?_eq, hmark]; rfl
      have hsnoc : SuitFree (body ++ [c]) := by
        intro d hd
        rcases List.mem_append.1 hd with hd | hd
        . exact hbody d hd
        . rw [List.mem_singleton.1 hd, hc]
      refine ⟨before, body ++ [c], by rw [htext, List.append_assoc], hsnoc, ?_⟩
      exact waiting_step_of_suitFree hwaiting hsnoc hnil

theorem char_mem_of_mem_waiting {text : List Char} {piece : Piece}
    (h : piece ∈ (run {} text).waiting)
    : (piece.rank.char ∈ text ∨ piece.rank = .q ∧ piece.quotes ≠ []) ∧
      ∀ q ∈ piece.quotes, q.char ∈ text := by
  rcases exists_waiting_eq text with ⟨before, body, htext, _, hwaiting⟩
  have hpiece : piece ∈ groupPieces body := by
    rw [← hwaiting]
    exact List.mem_reverse.2 h
  rcases char_mem_of_mem_groupPieces hpiece with ⟨hrank, hquotes⟩
  rw [htext]
  refine ⟨hrank.imp_left (List.mem_append_right before), ?_⟩
  intro q hq
  exact List.mem_append_right before (hquotes q hq)

/--
Output is taken back only when a quote meets an open tile.
-/
theorem output_prefix_step_of_not_turned (scan : Scan) {mark : Mark}
    (h : scan.reopen = none ∨ mark.quote? = none)
    : scan.output.toList <+: (scan.step mark).output.toList := by
  cases hmark : mark.quote? with
  | none => exact (output_prefix_step scan hmark).trans (settled_prefix_output _)
  | some q =>
    have hclosed : scan.reopen = none := by
      simpa [hmark] using h
    have hsettled := settled_prefix_step scan mark
    rw [settled_of_closed hclosed] at hsettled
    exact hsettled.trans (settled_prefix_output _)

/--
While a tile is open nothing waits and the output ends with what it drew last, one or two tiles with
its key. A quote withdraws these and draws the tile anew, and nothing else withdraws anything. The
pieces that wait are those of the group that is being written.
-/
theorem withdraws_last_drawn (text : String) (n : Nat)
    : let before := text.toList.take n
      let scan := run {} before
      (∀ last, scan.reopen = some last →
        let drawn := last.piece.tiles last.suit
        scan.waiting = [] ∧
        last.start < scan.output.size ∧
        scan.output.toList.drop last.start = drawn ∧
        drawn ≠ [] ∧
        drawn.length ≤ 2 ∧
        (∀ i ∈ drawn, ∃ orientation, i = .tile (last.piece.rank.key last.suit) orientation) ∧
        last.IsDrawnFrom before ∧
        ∀ q, (scan.step (.quote q)).output.toList
          =
        scan.output.toList.take last.start ++ (last.piece.addQuote q).tiles last.suit) ∧
      (∀ mark, scan.reopen = none ∨ mark.quote? = none →
        scan.output.toList <+: (scan.step mark).output.toList) ∧
      (∃ earlier body,
        before = earlier ++ body ∧
        SuitFree body ∧
        scan.waiting.reverse = groupPieces body) ∧
      ∀ piece ∈ scan.waiting,
        Rank.ofChar? piece.rank.char = some piece.rank ∧
        (piece.rank.char.isDigit ∨ piece.rank.char = 'X' ∨ piece.rank.char = 'Q') ∧
        (piece.rank.char ∈ before ∨ piece.rank = .q ∧ piece.quotes ≠ []) ∧
        ∀ q ∈ piece.quotes, q.char ∈ before ∧ (q.char = '\'' ∨ q.char = '"') := by
  intro before scan
  have hconsistent : scan.IsConsistent := by
    apply isConsistent_run
    exact IsConsistent.of_closed rfl
  refine ⟨?_, ?_, exists_waiting_eq before, ?_⟩
  . intro last hlast
    refine ⟨hconsistent.waiting_eq_nil last hlast, hconsistent.start_lt_size hlast,
      hconsistent.drop_start last hlast, tiles_ne_nil _ _, length_tiles_le _ _, ?_,
      isDrawnFrom_of_reopen hlast, ?_⟩
    . intro i hi
      exact eq_tile_of_mem_tiles hi
    . intro q
      simp [step, quote, hconsistent.waiting_eq_nil last hlast, hlast]
  . intro mark h
    exact output_prefix_step_of_not_turned scan h
  . intro piece hpiece
    rcases char_mem_of_mem_waiting hpiece with ⟨hrank, hquotes⟩
    refine ⟨Rank.ofChar?_char piece.rank, Rank.char_cases piece.rank, hrank, ?_⟩
    intro q hq
    exact ⟨hquotes q hq, Quote.char_cases q⟩

theorem withdraws_last_drawn_call
    : let scan := run {} ("1'2p\"3'".toList.take 5)
      let last : OpenTile := ⟨⟨.number 2, [.double]⟩, .circles, 1⟩
      scan.reopen = some last ∧
      scan.waiting = [] ∧
      last.start < scan.output.size ∧
      last.IsDrawnFrom ("1'2p\"3'".toList.take 5) ∧
      (scan.step (.quote .single)).output.toList
        =
      scan.output.toList.take 1 ++ [.tile "2p" .upright] ∧
      scan.output.toList <+: (scan.step .gap).output.toList ∧
      ⟨.number 3, [.single]⟩ ∈ (run {} ("1'2p\"3'".toList.take 7)).waiting ∧
      Quote.char .single ∈ "1'2p\"3'".toList.take 7 := by
  intro scan last
  have hreopen : scan.reopen = some last := by
    decide
  have hwaiting : ⟨.number 3, [.single]⟩ ∈ (run {} ("1'2p\"3'".toList.take 7)).waiting := by
    decide
  rcases withdraws_last_drawn "1'2p\"3'" 5 with ⟨hopen, hkept, _, _⟩
  rcases hopen last hreopen with ⟨hnil, hstart, _, _, _, _, hfrom, hturn⟩
  rcases withdraws_last_drawn "1'2p\"3'" 7 with ⟨_, _, _, hpieces⟩
  rcases hpieces _ hwaiting with ⟨_, _, _, hquotes⟩
  exact ⟨hreopen, hnil, hstart, hfrom, hturn .single, hkept .gap (.inr rfl), hwaiting,
    (hquotes .single (List.mem_singleton_self _)).1⟩

end Scan

end Mahjong.Hand
