import Mahjong.Decimal.Format

/-!
This module contains facts about the digits of natural numbers and the characters of written
decimals.
-/

namespace Mahjong.Decimal

theorem isDigit_of_mem_toDigits {n : Nat} {c : Char} (h : c ∈ Nat.toDigits 10 n) : c.isDigit := by
  apply Nat.isDigit_of_mem_toDigits _ _ h
  . omega
  . omega

theorem head_toDigits_ne {n : Nat} (hn : 0 < n) {c : Char} {rest : List Char}
    (h : Nat.toDigits 10 n = c :: rest)
    : c ≠ '0' := by
  induction n using Nat.strongRecOn generalizing c rest with
  | _ n ih =>
    rw [Nat.toDigits_eq_if (by omega)] at h
    split at h
    . have hdigit : ∀ m < 10, 0 < m → m.digitChar ≠ '0' := by
        decide
      simp only [List.cons.injEq] at h
      rw [← h.1]
      apply hdigit
      . assumption
      . exact hn
    . cases hinit : Nat.toDigits 10 (n / 10) with
      | nil =>
        have := @Nat.toDigits_ne_nil (n / 10) 10
        contradiction
      | cons d init =>
        rw [hinit, List.cons_append, List.cons.injEq] at h
        rw [← h.1]
        apply ih (n / 10)
        . omega
        . omega
        . exact hinit

theorem exists_digitChar {c : Char} (h : c.isDigit) : ∃ d < 10, c = d.digitChar := by
  have hbound : c.toNat < 58 := by
    simp only [Char.isDigit, Bool.and_eq_true, decide_eq_true_eq] at h
    exact Nat.lt_succ_of_le h.2
  have hall : ∀ n < 58, (Char.ofNat n).isDigit → ∃ d < 10, Char.ofNat n = d.digitChar := by
    decide
  rw [← Char.ofNat_toNat c] at h ⊢
  exact hall c.toNat hbound h

theorem toDigits_ofDigitChars_of_pos {n : Nat} (hn : 0 < n) {digits : List Char}
    (hdigits : ∀ c ∈ digits, c.isDigit)
    : Nat.toDigits 10 (Nat.ofDigitChars 10 digits n) = Nat.toDigits 10 n ++ digits := by
  induction digits generalizing n with
  | nil => simp
  | cons c rest ih =>
    rcases List.forall_mem_cons.1 hdigits with ⟨hc, hrest⟩
    rcases exists_digitChar hc with ⟨d, hd, hc⟩
    subst hc
    rw [Nat.ofDigitChars_cons_digitChar_of_lt_ten hd, ih (by omega) hrest,
      ← Nat.toDigits_append_toDigits (by omega) hn hd, Nat.toDigits_of_lt_base hd,
      List.append_assoc, List.singleton_append]

/--
Digits are those of the number they stand for, unless there is a zero before others.
-/
theorem toDigits_ofDigitChars {digits : List Char} (hne : digits ≠ [])
    (hdigits : ∀ c ∈ digits, c.isDigit) (hzero : digits.head? = some '0' → digits = ['0'])
    : Nat.toDigits 10 (Nat.ofDigitChars 10 digits 0) = digits := by
  cases digits with
  | nil => contradiction
  | cons c rest =>
    rcases List.forall_mem_cons.1 hdigits with ⟨hc, hrest⟩
    rcases exists_digitChar hc with ⟨d, hd, hc⟩
    subst hc
    by_cases hd0 : d = 0
    . subst hd0
      rw [hzero rfl]
      rfl
    . rw [Nat.ofDigitChars_cons_digitChar_of_lt_ten hd, Nat.mul_zero, Nat.zero_add,
        toDigits_ofDigitChars_of_pos (by omega) hrest, Nat.toDigits_of_lt_base hd,
        List.singleton_append]

def IsNumberChar (c : Char) : Prop :=
  c.isDigit ∨ c = '-' ∨ c = '+' ∨ c = '.' ∨ c = 'e'

theorem isNumberChar_of_mem_positional {wholeEnd digits : List Char} {exponent : Int}
    (hend : ∀ c ∈ wholeEnd, IsNumberChar c) (hdigits : ∀ c ∈ digits, c.isDigit)
    : ∀ c ∈ positional wholeEnd digits exponent, IsNumberChar c := by
  have hzeros : ∀ count, ∀ c ∈ List.replicate count '0', IsNumberChar c := by
    intro count c hc
    rw [List.eq_of_mem_replicate hc]
    exact .inl rfl
  have hdigits' : ∀ c ∈ digits, IsNumberChar c := by
    intro c hc
    exact .inl (hdigits c hc)
  have hpoint : IsNumberChar '.' := by
    exact .inr (.inr (.inr (.inl rfl)))
  unfold positional
  cases exponent with
  | ofNat e =>
    dsimp only
    simp only [List.forall_mem_append]
    exact ⟨⟨hdigits', hzeros e⟩, hend⟩
  | negSucc e =>
    dsimp only
    split
    . simp only [List.forall_mem_append, List.forall_mem_cons]
      refine ⟨?_, hpoint, ?_⟩
      . intro c hc
        exact hdigits' c (List.mem_of_mem_take hc)
      . intro c hc
        exact hdigits' c (List.mem_of_mem_drop hc)
    . simp only [List.cons_append, List.forall_mem_append, List.forall_mem_cons]
      exact ⟨.inl rfl, hpoint, hzeros _, hdigits'⟩

theorem isNumberChar_of_mem_withExponent {digits : List Char} {power : Int}
    (hdigits : ∀ c ∈ digits, c.isDigit)
    : ∀ c ∈ withExponent digits power, IsNumberChar c := by
  have hpower : ∀ c ∈ Nat.toDigits 10 power.natAbs, IsNumberChar c := by
    intro c hc
    exact .inl (isDigit_of_mem_toDigits hc)
  have hsign : IsNumberChar (if power < 0 then '-' else '+') := by
    split
    . exact .inr (.inl rfl)
    . exact .inr (.inr (.inl rfl))
  have hmark : IsNumberChar 'e' := by
    exact .inr (.inr (.inr (.inr rfl)))
  have hpoint : IsNumberChar '.' := by
    exact .inr (.inr (.inr (.inl rfl)))
  unfold withExponent
  dsimp only
  simp only [List.forall_mem_append, List.forall_mem_cons]
  refine ⟨?_, hmark, hsign, hpower⟩
  split
  . next d e rest =>
    simp only [List.forall_mem_cons] at hdigits ⊢
    refine ⟨.inl hdigits.1, hpoint, .inl hdigits.2.1, ?_⟩
    intro c hc
    exact .inl (hdigits.2.2 c hc)
  . intro c hc
    exact .inl (hdigits c hc)

theorem isNumberChar_of_mem_writeFinite {format : Format} {x : Float}
    (hend : ∀ c ∈ format.wholeEnd, IsNumberChar c)
    : ∀ c ∈ writeFinite format x, IsNumberChar c := by
  have hwrite : ∀ d : Decimal, ∀ c ∈ write format d, IsNumberChar c := by
    intro d
    have hdigits : ∀ c ∈ Nat.toDigits 10 d.significand, c.isDigit := by
      intro c hc
      exact isDigit_of_mem_toDigits hc
    unfold write
    dsimp only
    split
    . exact isNumberChar_of_mem_positional hend hdigits
    . exact isNumberChar_of_mem_withExponent hdigits
  unfold writeFinite
  dsimp only
  split
  . exact List.forall_mem_cons.2 ⟨.inr (.inl rfl), hwrite _⟩
  . exact hwrite _

end Mahjong.Decimal
