import Mahjong.Hand.Mark

/-!
This module contains the relation between the meaning of a character and the three tables it is
looked up in. The tables do not overlap, so that each of them can be read off the mark.
-/

namespace Mahjong.Hand

namespace Suit

@[simp]
theorem ofChar?_letter (s : Suit) : ofChar? s.letter = some s := by
  cases s <;> rfl

theorem eq_letter_of_ofChar? {c : Char} {s : Suit} (h : ofChar? c = some s) : c = s.letter := by
  unfold ofChar? at h
  split at h <;> simp at h <;> subst h <;> rfl

@[simp]
theorem rank_ofChar?_letter (s : Suit) : Rank.ofChar? s.letter = none := by
  cases s <;> rfl

end Suit

namespace Quote

theorem char_cases (q : Quote) : q.char = '\'' ∨ q.char = '"' := by
  cases q with
  | single => exact .inl rfl
  | double => exact .inr rfl

@[simp]
theorem ofChar?_char (q : Quote) : ofChar? q.char = some q := by
  cases q <;> rfl

theorem eq_char_of_ofChar? {c : Char} {q : Quote} (h : ofChar? c = some q) : c = q.char := by
  unfold ofChar? at h
  split at h <;> simp at h <;> subst h <;> rfl

@[simp]
theorem rank_ofChar?_char (q : Quote) : Rank.ofChar? q.char = none := by
  cases q <;> rfl

@[simp]
theorem suit_ofChar?_char (q : Quote) : Suit.ofChar? q.char = none := by
  cases q <;> rfl

end Quote

namespace Rank

def char : Rank → Char
  | .number n => n.val.digitChar
  | .x => 'X'
  | .q => 'Q'

@[simp]
theorem ofChar?_char (r : Rank) : ofChar? r.char = some r := by
  cases r with
  | number n =>
    revert n
    decide
  | x => rfl
  | q => rfl

theorem eq_char_of_ofChar? {c : Char} {r : Rank} (h : ofChar? c = some r) : c = r.char := by
  unfold ofChar? at h
  split at h <;> simp at h <;> subst h <;> rfl

theorem char_cases (r : Rank) : r.char.isDigit ∨ r.char = 'X' ∨ r.char = 'Q' := by
  cases r with
  | number n =>
    left
    revert n
    decide
  | x => exact .inr (.inl rfl)
  | q => exact .inr (.inr rfl)

end Rank

namespace Mark

def rank? : Mark → Option Rank
  | .rank r => some r
  | _ => none

def suit? : Mark → Option Suit
  | .suit s => some s
  | _ => none

def quote? : Mark → Option Quote
  | .quote q => some q
  | _ => none

theorem rank_ofChar?_eq (c : Char) : Rank.ofChar? c = (ofChar c).rank? := by
  unfold ofChar
  split
  . assumption
  . next hrank =>
    have hrank : Rank.ofChar? c = none := by
      apply Option.eq_none_iff_forall_ne_some.2
      exact hrank
    rw [hrank]
    split
    . rfl
    . split
      . rfl
      . split <;> rfl

theorem suit_ofChar?_eq (c : Char) : Suit.ofChar? c = (ofChar c).suit? := by
  cases h : Suit.ofChar? c with
  | some s =>
    have := Suit.eq_letter_of_ofChar? h
    subst this
    simp [ofChar, suit?]
  | none =>
    unfold ofChar
    rw [h]
    split
    . rfl
    . split
      . contradiction
      . split
        . rfl
        . split <;> rfl

theorem quote_ofChar?_eq (c : Char) : Quote.ofChar? c = (ofChar c).quote? := by
  cases h : Quote.ofChar? c with
  | some q =>
    have := Quote.eq_char_of_ofChar? h
    subst this
    simp [ofChar, quote?]
  | none =>
    unfold ofChar
    rw [h]
    split
    . rfl
    . split
      . rfl
      . split
        . contradiction
        . split <;> rfl

@[simp]
theorem ofChar_letter (s : Suit) : ofChar s.letter = .suit s := by
  simp [ofChar]

theorem eq_hyphen_iff (c : Char) : c = '-' ↔ ofChar c = .gap := by
  constructor
  . intro h
    subst h
    rfl
  . intro h
    unfold ofChar at h
    split at h
    . contradiction
    . split at h
      . contradiction
      . split at h
        . contradiction
        . split at h
          . assumption
          . contradiction

end Mark

end Mahjong.Hand
