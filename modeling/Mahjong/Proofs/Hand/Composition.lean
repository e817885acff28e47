import Mahjong.Proofs.Hand.Simulation
import Mahjong.Proofs.Text.Split

/-!
This module contains what becomes of a drawn hand when more is written behind it. Only the tile that
is held open can still be withdrawn. All before it is settled, and a text that does not begin with a
quote leaves that tile alone as well.
-/

namespace Mahjong.Hand

def startsWithQuote (text : String) : Bool :=
  text.toList.head?.any isQuote

theorem size_appendList (output : Array Instruction) (row : List Instruction)
    : (output ++ row).size = output.size + row.length := by
  rw [← Array.length_toList, Array.toList_appendList, List.length_append, Array.length_toList]

theorem append_appendList (before output : Array Instruction) (row : List Instruction)
    : before ++ output ++ row = before ++ (output ++ row) := by
  apply Array.ext'
  simp

theorem length_tiles_le (piece : Piece) (suit : Suit) : (piece.tiles suit).length ≤ 2 := by
  unfold Piece.tiles Piece.orientations?
  split <;> simp

theorem tiles_ne_nil (piece : Piece) (suit : Suit) : piece.tiles suit ≠ [] := by
  unfold Piece.tiles Piece.orientations?
  split <;> simp

theorem eq_tile_of_mem_tiles {piece : Piece} {suit : Suit} {i : Instruction}
    (h : i ∈ piece.tiles suit)
    : ∃ orientation, i = .tile (piece.rank.key suit) orientation := by
  rcases List.mem_map.1 h with ⟨orientation, _, heq⟩
  exact ⟨orientation, heq.symm⟩

namespace Scan

/--
What a scan knows about its open tile: no piece waits while it is open, and from its start on the
output is what the tile drew last.
-/
structure IsConsistent (scan : Scan) : Prop where
  waiting_eq_nil : ∀ last, scan.reopen = some last → scan.waiting = []
  start_le_size : ∀ last, scan.reopen = some last → last.start ≤ scan.output.size
  drop_start : ∀ last, scan.reopen = some last →
    scan.output.toList.drop last.start = last.piece.tiles last.suit

theorem IsConsistent.of_closed {scan : Scan} (h : scan.reopen = none) : scan.IsConsistent := by
  constructor
  all_goals
    intro last hlast
    rw [h] at hlast
    contradiction

theorem isConsistent_open (output : Array Instruction) (piece : Piece) (suit : Suit)
    : IsConsistent ⟨output ++ piece.tiles suit, [], some ⟨piece, suit, output.size⟩⟩ := by
  constructor
  all_goals
    intro last hlast
    cases hlast
  . rfl
  . simp [size_appendList]
  . simp

theorem isConsistent_quote {scan : Scan} (h : scan.IsConsistent) (q : Quote)
    : (scan.quote q).IsConsistent := by
  unfold quote
  split
  . next piece earlier hwaiting =>
    -- While a piece waits, no tile is open.
    apply IsConsistent.of_closed
    apply Option.eq_none_iff_forall_ne_some.2
    intro last hlast
    have := h.waiting_eq_nil last hlast
    simp [hwaiting] at this
  . next last hwaiting hreopen =>
    have hstart := h.start_le_size last hreopen
    have hsize : (scan.output.shrink last.start).size = last.start := by
      simp
      omega
    have hopen := isConsistent_open (scan.output.shrink last.start) (last.piece.addQuote q)
      last.suit
    rw [hsize] at hopen
    dsimp only
    rw [hwaiting]
    exact hopen
  . next hreopen =>
    apply IsConsistent.of_closed
    assumption

theorem isConsistent_close (scan : Scan) (suit : Suit) : (scan.close suit).IsConsistent := by
  unfold close
  split
  . exact IsConsistent.of_closed rfl
  . next last earlier _ =>
    dsimp only
    split
    . apply isConsistent_open
    . exact IsConsistent.of_closed rfl

theorem isConsistent_step {scan : Scan} (h : scan.IsConsistent) (mark : Mark)
    : (scan.step mark).IsConsistent := by
  cases mark with
  | rank r => exact IsConsistent.of_closed rfl
  | suit s => apply isConsistent_close
  | quote q =>
    apply isConsistent_quote
    assumption
  | gap => exact IsConsistent.of_closed rfl
  | stray => exact IsConsistent.of_closed rfl

theorem isConsistent_run {scan : Scan} (h : scan.IsConsistent) (text : List Char)
    : (scan.run text).IsConsistent := by
  induction text generalizing scan with
  | nil => assumption
  | cons c rest ih =>
    rw [run_cons]
    apply ih
    apply isConsistent_step
    assumption

theorem isConsistent_ofText (text : String) : (ofText text).IsConsistent := by
  apply isConsistent_run
  exact IsConsistent.of_closed rfl

theorem IsConsistent.start_lt_size {scan : Scan} (h : scan.IsConsistent) {last : OpenTile}
    (hlast : scan.reopen = some last)
    : last.start < scan.output.size := by
  apply Nat.lt_of_not_le
  intro hle
  apply tiles_ne_nil last.piece last.suit
  rw [← h.drop_start last hlast]
  apply List.drop_eq_nil_of_le
  rw [Array.length_toList]
  assumption

/--
The part of the output that no mark can withdraw any more.
-/
def settled (scan : Scan) : List Instruction :=
  match scan.reopen with
  | some last => scan.output.toList.take last.start
  | none => scan.output.toList

theorem settled_of_closed {scan : Scan} (h : scan.reopen = none)
    : scan.settled = scan.output.toList := by
  unfold settled
  rw [h]

theorem settled_open (output : Array Instruction) (piece : Piece) (suit : Suit)
    : settled ⟨output ++ piece.tiles suit, [], some ⟨piece, suit, output.size⟩⟩
        =
      output.toList := by
  simp [settled]

theorem settled_prefix_output (scan : Scan) : scan.settled <+: scan.output.toList := by
  unfold settled
  split
  . apply List.take_prefix
  . apply List.prefix_rfl

theorem settled_prefix_quote (scan : Scan) (q : Quote)
    : scan.settled <+: (scan.quote q).settled := by
  unfold quote
  split
  . apply List.prefix_rfl
  . next last _ hreopen =>
    -- The tile keeps its start, however often it is drawn anew.
    unfold settled
    simp only [hreopen, Array.toList_appendList, Array.toList_shrink, List.take_append,
      List.take_take, Nat.min_self]
    apply List.prefix_append
  . unfold settled
    apply List.prefix_rfl

theorem output_prefix_close (scan : Scan) (suit : Suit)
    : scan.output.toList <+: (scan.close suit).settled := by
  unfold close
  split
  . rw [settled_of_closed rfl]
    simp
  . next last earlier _ =>
    dsimp only
    split
    . rw [settled_open]
      simp
    . rw [settled_of_closed rfl]
      simp

theorem output_prefix_step (scan : Scan) {mark : Mark} (h : mark.quote? = none)
    : scan.output.toList <+: (scan.step mark).settled := by
  cases mark with
  | rank r => apply List.prefix_rfl
  | suit s => apply output_prefix_close
  | quote q => contradiction
  | gap =>
    rw [settled_of_closed rfl]
    simp [step]
  | stray => apply List.prefix_rfl

theorem settled_prefix_step (scan : Scan) (mark : Mark)
    : scan.settled <+: (scan.step mark).settled := by
  -- What is settled is a part of the output, so that only quotes have to be looked at.
  cases h : mark.quote? with
  | none => exact (settled_prefix_output scan).trans (output_prefix_step scan h)
  | some q =>
    cases mark with
    | quote q => apply settled_prefix_quote
    | _ => contradiction

theorem settled_prefix_run (scan : Scan) (text : List Char)
    : scan.settled <+: (scan.run text).settled := by
  induction text generalizing scan with
  | nil => apply List.prefix_rfl
  | cons c rest ih =>
    rw [run_cons]
    exact (settled_prefix_step scan (.ofChar c)).trans (ih (scan.step (.ofChar c)))

theorem settled_prefix_output_run (scan : Scan) (text : List Char)
    : scan.settled <+: (scan.run text).output.toList := by
  exact (settled_prefix_run scan text).trans (settled_prefix_output (scan.run text))

theorem output_prefix_run (scan : Scan) {text : List Char} (h : ¬text.head?.any isQuote)
    : scan.output.toList <+: (scan.run text).output.toList := by
  cases text with
  | nil => apply List.prefix_rfl
  | cons c rest =>
    have hmark : (Mark.ofChar c).quote? = none := by
      rw [← Mark.quote_ofChar?_eq]
      simpa [isQuote] using h
    rw [run_cons]
    exact (output_prefix_step scan hmark).trans (settled_prefix_output_run _ rest)

theorem IsConsistent.exists_withdrawn {scan : Scan} (h : scan.IsConsistent)
    : ∃ withdrawn key,
        scan.output.toList = scan.settled ++ withdrawn ∧
        withdrawn.length ≤ 2 ∧
        ∀ i ∈ withdrawn, ∃ orientation, i = .tile key orientation := by
  cases hreopen : scan.reopen with
  | none =>
    refine ⟨[], "", ?_, by simp, by simp⟩
    rw [settled_of_closed hreopen, List.append_nil]
  | some last =>
    refine ⟨last.piece.tiles last.suit, last.piece.rank.key last.suit, ?_, ?_, ?_⟩
    . unfold settled
      rw [hreopen, ← h.drop_start last hreopen, List.take_append_drop]
    . apply length_tiles_le
    . intro i hi
      apply eq_tile_of_mem_tiles hi

/--
The same scan with some output before its own.
-/
def behind (scan : Scan) (before : Array Instruction) : Scan where
  output := before ++ scan.output
  waiting := scan.waiting
  reopen := scan.reopen.map fun last => { last with start := before.size + last.start }

theorem quote_behind (scan : Scan) (before : Array Instruction) (q : Quote)
    : (scan.behind before).quote q = (scan.quote q).behind before := by
  rcases scan with ⟨output, waiting, reopen⟩
  cases waiting with
  | cons piece earlier => rfl
  | nil =>
    cases reopen with
    | none => rfl
    | some last =>
      have hshrink : (before ++ output).shrink (before.size + last.start)
          =
        before ++ output.shrink last.start := by
        apply Array.ext'
        rw [Array.toList_shrink, Array.toList_append, ← Array.length_toList,
          List.take_length_add_append, Array.toList_append, Array.toList_shrink]
      simp only [behind, quote, Option.map_some, hshrink, append_appendList]

theorem close_behind (scan : Scan) (before : Array Instruction) (suit : Suit)
    : (scan.behind before).close suit = (scan.close suit).behind before := by
  rcases scan with ⟨output, waiting, reopen⟩
  cases waiting with
  | nil => simp [behind, close]
  | cons last earlier =>
    by_cases hquotes : last.quotes = []
    . simp [behind, close, hquotes, append_appendList, size_appendList]
    . simp [behind, close, hquotes, append_appendList]

theorem step_behind (scan : Scan) (before : Array Instruction) (mark : Mark)
    : (scan.behind before).step mark = (scan.step mark).behind before := by
  cases mark with
  | rank r => rfl
  | suit s => apply close_behind
  | quote q => apply quote_behind
  | gap => simp [behind, step]
  | stray => rfl

theorem run_behind (scan : Scan) (before : Array Instruction) (text : List Char)
    : (scan.behind before).run text = (scan.run text).behind before := by
  induction text generalizing scan with
  | nil => rfl
  | cons c rest ih => rw [run_cons, run_cons, step_behind, ih]

/--
An open tile makes no difference to a text that does not begin with a quote.
-/
theorem output_run_eq_of_closed (scan : Scan) {text : List Char} (h : ¬text.head?.any isQuote)
    : (scan.run text).output = ({ scan with reopen := none }.run text).output := by
  have houtput := output_run_dropWhile scan text
  rw [Text.dropWhile_eq_self h] at houtput
  exact houtput

/--
With nothing waiting and nothing open, a scan differs from a new one in its output only.
-/
theorem closed_eq_behind {scan : Scan} (h : scan.waiting = [])
    : { scan with reopen := none } = ({} : Scan).behind scan.output := by
  simp [behind, h]

end Scan

theorem parse_append_eq (text rest : String)
    : parse (text ++ rest) = ((Scan.ofText text).run rest.toList).output.toList := by
  unfold parse Scan.ofText
  rw [String.toList_append, Scan.run_append]

theorem parse_append_of_waiting {text rest : String} (hwaiting : (Scan.ofText text).waiting = [])
    (hrest : ¬startsWithQuote rest)
    : parse (text ++ rest) = parse text ++ parse rest := by
  rw [parse_append_eq, Scan.output_run_eq_of_closed _ hrest, Scan.closed_eq_behind hwaiting,
    Scan.run_behind]
  simp [Scan.behind, parse, Scan.ofText]

/--
What is drawn for a text stays when more is written behind it, up to the one tile that a quote may
still turn.
-/
theorem parse_append (text rest : String)
    : (¬startsWithQuote rest → parse text <+: parse (text ++ rest)) ∧
      (startsWithQuote rest →
        ∃ kept withdrawn key,
          parse text = kept ++ withdrawn ∧
          withdrawn.length ≤ 2 ∧
          (∀ i ∈ withdrawn, ∃ orientation, i = .tile key orientation) ∧
          kept <+: parse (text ++ rest)) ∧
      ((Scan.ofText text).waiting = [] → ¬startsWithQuote rest →
        parse (text ++ rest) = parse text ++ parse rest) := by
  refine ⟨?_, ?_, ?_⟩
  . intro hrest
    rw [parse_append_eq]
    apply Scan.output_prefix_run
    assumption
  . intro _
    rcases (Scan.isConsistent_ofText text).exists_withdrawn with ⟨withdrawn, key, heq, hlen, htiles⟩
    refine ⟨(Scan.ofText text).settled, withdrawn, key, heq, hlen, htiles, ?_⟩
    rw [parse_append_eq]
    apply Scan.settled_prefix_output_run
  . apply parse_append_of_waiting

theorem parse_append_call
    : parse "1p-2p\"" <+: parse ("1p-2p\"" ++ "3s'") ∧
      (∃ kept withdrawn key,
        parse "1p-2p\"" = kept ++ withdrawn ∧
        withdrawn.length ≤ 2 ∧
        (∀ i ∈ withdrawn, ∃ orientation, i = .tile key orientation) ∧
        kept <+: parse ("1p-2p\"" ++ "'3s")) ∧
      parse ("1p-2p\"" ++ "3s'") = parse "1p-2p\"" ++ parse "3s'" := by
  have hrank : ¬startsWithQuote "3s'" := by
    decide
  have hquote : startsWithQuote "'3s" := by
    decide
  have hwaiting : (Scan.ofText "1p-2p\"").waiting = [] := by
    decide
  rcases parse_append "1p-2p\"" "3s'" with ⟨hkept, _, hsplit⟩
  exact ⟨hkept hrank, (parse_append "1p-2p\"" "'3s").2.1 hquote, hsplit hwaiting hrank⟩

example : parse "1p-2p\"'3s" = [.tile "1p" .upright, .gap, .tile "2p" .upright, .tile "3s" .upright]
    := by
  decide

end Mahjong.Hand
