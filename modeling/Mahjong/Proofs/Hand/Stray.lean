import Mathlib.Data.List.Induction
import Mahjong.Proofs.Hand.Quotes
import Mahjong.Proofs.Text.Blank

/-!
This module contains what a stray character can change. It ends the time in which the last tile can
be turned and does nothing else, so that it counts only between a tile that is held open and a
quote, and never at the ends of a text.
-/

namespace Mahjong.Hand

def isStray (c : Char) : Bool :=
  !isRank c && !isQuote c && !isSuit c && c != '-'

theorem mark_of_isStray {c : Char} (h : isStray c) : Mark.ofChar c = .stray := by
  have hgap := Mark.eq_hyphen_iff c
  unfold isStray isRank isQuote isSuit at h
  rw [Mark.rank_ofChar?_eq, Mark.quote_ofChar?_eq, Mark.suit_ofChar?_eq] at h
  cases hmark : Mark.ofChar c with
  | stray => rfl
  | gap => simp [hgap.2 hmark] at h
  | _ => simp [hmark, Mark.rank?, Mark.suit?, Mark.quote?] at h

theorem exists_mark_quote {c : Char} (h : isQuote c) : ∃ q, Mark.ofChar c = .quote q := by
  unfold isQuote at h
  rw [Mark.quote_ofChar?_eq] at h
  cases hmark : Mark.ofChar c with
  | quote q => exact ⟨q, rfl⟩
  | _ => simp [hmark, Mark.quote?] at h

/--
A text that ends in a group whose last piece had no quotes before the suit letter, with any quotes
after that letter.
-/
def HoldsOpen (text : String) : Prop :=
  ∃ (before : String) (suit : Char) (quotes : String),
    text = before.push suit ++ quotes ∧
    isSuit suit ∧
    (∀ c ∈ quotes.toList, isQuote c) ∧
    ∃ last earlier, (Scan.ofText before).waiting = last :: earlier ∧ last.quotes = []

namespace Scan

theorem isSome_reopen_quote (scan : Scan) (q : Quote)
    : (scan.quote q).reopen.isSome = scan.reopen.isSome := by
  unfold quote
  split
  . rfl
  . next hreopen =>
    rw [hreopen]
    rfl
  . rfl

theorem isSome_reopen_close (scan : Scan) (suit : Suit)
    : (scan.close suit).reopen.isSome
        ↔
      ∃ last earlier, scan.waiting = last :: earlier ∧ last.quotes = [] := by
  unfold close
  split
  . next hwaiting => simp [hwaiting]
  . next last earlier hwaiting =>
    by_cases hquotes : last.quotes = []
    . simp [hwaiting, hquotes]
    . simp [hwaiting, hquotes]

theorem isSome_reopen_run_quotes (scan : Scan) {quotes : List Char} (h : ∀ c ∈ quotes, isQuote c)
    : (scan.run quotes).reopen.isSome = scan.reopen.isSome := by
  induction quotes generalizing scan with
  | nil => rfl
  | cons c rest ih =>
    rcases List.forall_mem_cons.1 h with ⟨hc, hrest⟩
    rcases exists_mark_quote hc with ⟨q, hq⟩
    rw [run_cons, hq, ih _ hrest]
    apply isSome_reopen_quote

theorem exists_of_isSome_reopen {text : List Char} (h : (run {} text).reopen.isSome)
    : ∃ before suit quotes,
        text = before ++ suit :: quotes ∧
        isSuit suit ∧
        (∀ c ∈ quotes, isQuote c) ∧
        ∃ last earlier, (run {} before).waiting = last :: earlier ∧ last.quotes = [] := by
  -- The last character decides: only a suit letter opens a tile and only quotes keep it open.
  induction text using List.reverseRecOn with
  | nil => contradiction
  | append_singleton text c ih =>
    rw [run_append, run_cons, run_nil] at h
    cases hmark : Mark.ofChar c with
    | suit s =>
      rw [hmark] at h
      refine ⟨text, c, [], rfl, ?_, by simp, (isSome_reopen_close _ s).1 h⟩
      simp [isSuit, Mark.suit_ofChar?_eq, hmark, Mark.suit?]
    | quote q =>
      rw [hmark] at h
      dsimp only [step] at h
      rw [isSome_reopen_quote] at h
      rcases ih h with ⟨before, suit, quotes, htext, hsuit, hquotes, hlast⟩
      refine ⟨before, suit, quotes ++ [c], ?_, hsuit, ?_, hlast⟩
      . rw [htext]
        simp
      . rw [List.forall_mem_append, List.forall_mem_singleton]
        refine ⟨hquotes, ?_⟩
        simp [isQuote, Mark.quote_ofChar?_eq, hmark, Mark.quote?]
    | rank r =>
      rw [hmark] at h
      contradiction
    | gap =>
      rw [hmark] at h
      contradiction
    | stray =>
      rw [hmark] at h
      contradiction

theorem isSome_reopen_iff (text : String) : (ofText text).reopen.isSome ↔ HoldsOpen text := by
  constructor
  . intro h
    rcases exists_of_isSome_reopen h with ⟨before, suit, quotes, htext, hsuit, hquotes, hlast⟩
    refine ⟨String.ofList before, suit, String.ofList quotes, ?_, hsuit, ?_, ?_⟩
    . apply String.toList_inj.1
      simp [htext]
    . simpa using hquotes
    . simpa [ofText] using hlast
  . rintro ⟨before, suit, quotes, htext, hsuit, hquotes, hlast⟩
    rcases exists_mark_suit hsuit with ⟨s, hs⟩
    subst htext
    unfold ofText
    rw [String.toList_append, String.toList_push, run_append, run_append,
      isSome_reopen_run_quotes _ hquotes, run_cons, hs]
    exact (isSome_reopen_close _ s).2 hlast

end Scan

theorem parse_push_append_eq (text rest : String) {c : Char} (hc : isStray c)
    : parse (text.push c ++ rest)
        =
      ({ Scan.ofText text with reopen := none }.run rest.toList).output.toList := by
  rw [parse_append_eq]
  unfold Scan.ofText
  rw [String.toList_push, Scan.run_append, Scan.run_cons, mark_of_isStray hc]
  rfl

theorem parse_stray_of_open {text rest : String} (hopen : HoldsOpen text) {c : Char}
    (hc : isStray c)
    : parse (text.push c ++ rest) = parse text ++ parse rest := by
  rcases Option.isSome_iff_exists.1 ((Scan.isSome_reopen_iff text).2 hopen) with ⟨last, hlast⟩
  have hwaiting := (Scan.isConsistent_ofText text).waiting_eq_nil last hlast
  rw [parse_push_append_eq text rest hc, Scan.closed_eq_behind hwaiting, Scan.run_behind]
  simp [Scan.behind, parse, Scan.ofText]

theorem parse_stray_of_not_open {text rest : String}
    (h : ¬(HoldsOpen text ∧ startsWithQuote rest)) {c : Char} (hc : isStray c)
    : parse (text.push c ++ rest) = parse (text ++ rest) := by
  rw [parse_push_append_eq text rest hc, parse_append_eq]
  by_cases hrest : startsWithQuote rest
  . have hreopen : (Scan.ofText text).reopen = none := by
      apply Option.not_isSome_iff_eq_none.1
      rw [Scan.isSome_reopen_iff]
      intro hopen
      exact h ⟨hopen, hrest⟩
    rw [← hreopen]
  . rw [← Scan.output_run_eq_of_closed _ hrest]

/--
A stray character counts only where it stands between an open tile and a quote. There the text falls
into two hands. It does not matter which character it is, nor whether another one follows.
-/
theorem parse_stray (text rest : String) {c : Char} (hc : isStray c)
    : (¬(HoldsOpen text ∧ startsWithQuote rest) →
        parse (text.push c ++ rest) = parse (text ++ rest)) ∧
      (HoldsOpen text ∧ startsWithQuote rest →
        parse (text.push c ++ rest) = parse text ++ parse rest) ∧
      (∀ d, isStray d →
        parse (text.push d ++ rest) = parse (text.push c ++ rest) ∧
        parse ((text.push c).push d ++ rest) = parse (text.push c ++ rest)) ∧
      ((Scan.ofText text).reopen.isSome ↔ HoldsOpen text) := by
  refine ⟨?_, ?_, ?_, ?_⟩
  . intro h
    exact parse_stray_of_not_open h hc
  . intro h
    exact parse_stray_of_open h.1 hc
  . intro d hd
    constructor
    . rw [parse_push_append_eq text rest hc, parse_push_append_eq text rest hd]
    . apply parse_stray_of_not_open _ hd
      -- No tile is open behind a stray character.
      rintro ⟨hopen, _⟩
      rw [← Scan.isSome_reopen_iff] at hopen
      unfold Scan.ofText at hopen
      rw [String.toList_push, Scan.run_append, Scan.run_cons, mark_of_isStray hc] at hopen
      contradiction
  . apply Scan.isSome_reopen_iff

theorem parse_stray_call
    : isStray ' ' ∧ isStray 'M' ∧
      HoldsOpen "12p'" ∧ startsWithQuote "\"3s" ∧
      parse ("12p'".push ' ' ++ "\"3s") = parse "12p'" ++ parse "\"3s" ∧
      parse (("12p'".push ' ').push 'M' ++ "\"3s") = parse ("12p'".push 'M' ++ "\"3s") ∧
      ¬HoldsOpen "1'p'" ∧
      parse ("1'p'".push ' ' ++ "\"3s") = parse ("1'p'" ++ "\"3s") := by
  have hblank : isStray ' ' := by
    decide
  have hcapital : isStray 'M' := by
    decide
  have hopen : HoldsOpen "12p'" := by
    rw [← Scan.isSome_reopen_iff]
    decide
  have hnot : ¬HoldsOpen "1'p'" := by
    rw [← Scan.isSome_reopen_iff]
    decide
  have hquote : startsWithQuote "\"3s" := by
    decide
  rcases parse_stray "12p'" "\"3s" hblank with ⟨_, hsplit, hany, _⟩
  rcases hany 'M' hcapital with ⟨hother, htwo⟩
  refine ⟨hblank, hcapital, hopen, hquote, hsplit ⟨hopen, hquote⟩, htwo.trans hother.symm, hnot, ?_⟩
  apply (parse_stray "1'p'" "\"3s" hblank).1
  rintro ⟨h, _⟩
  contradiction

example : parse "12p'\"3s" ≠ parse "12p' \"3s" := by
  decide

namespace Scan

variable {strays : List Char} (hstrays : ∀ c ∈ strays, isStray c)
include hstrays

theorem output_run_strays (scan : Scan) : (scan.run strays).output = scan.output := by
  induction strays generalizing scan with
  | nil => rfl
  | cons c rest ih =>
    rcases List.forall_mem_cons.1 hstrays with ⟨hc, hrest⟩
    rw [run_cons, mark_of_isStray hc, ih hrest]
    rfl

theorem run_strays_of_closed {scan : Scan} (hclosed : scan.reopen = none)
    : scan.run strays = scan := by
  induction strays with
  | nil => rfl
  | cons c rest ih =>
    rcases List.forall_mem_cons.1 hstrays with ⟨hc, hrest⟩
    have hstep : scan.step .stray = scan := by
      unfold step
      rw [← hclosed]
    rw [run_cons, mark_of_isStray hc, hstep, ih hrest]

end Scan

theorem isStray_of_isBlank {c : Char} (h : Text.isBlank c) : isStray c := by
  have hrank : Rank.ofChar? c = none := by
    unfold Rank.ofChar?
    split <;> first | contradiction | rfl
  have hsuit : Suit.ofChar? c = none := by
    unfold Suit.ofChar?
    split <;> first | contradiction | rfl
  have hquote : Quote.ofChar? c = none := by
    unfold Quote.ofChar?
    split <;> first | contradiction | rfl
  have hgap : c ≠ '-' := by
    rintro rfl
    contradiction
  simp [isStray, isRank, isQuote, isSuit, hrank, hsuit, hquote, hgap]

/--
Nothing is open before a text and nothing is turned behind it, so that blanks there draw nothing.
-/
theorem parse_trim (text : String) : parse (Text.trim text) = parse text := by
  rcases Text.exists_trimBlanks text.toList with ⟨before, after, heq, hbefore, hafter⟩
  have hbefore : ∀ c ∈ before, isStray c := fun c hc => isStray_of_isBlank (hbefore c hc)
  have hafter : ∀ c ∈ after, isStray c := fun c hc => isStray_of_isBlank (hafter c hc)
  unfold parse Scan.ofText Text.trim
  rw [String.toList_ofList]
  conv =>
    rhs
    rw [heq, Scan.run_append, Scan.run_append, Scan.run_strays_of_closed hbefore rfl,
      Scan.output_run_strays hafter]

end Mahjong.Hand
