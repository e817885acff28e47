import Mathlib.Algebra.Group.Nat.Defs
import Mahjong.Decimal.Shortest

/-!
This module contains the proof that the digits chosen for a double read as that double. A search
for few digits only stops at digits that do, and the exact value of a code is rounded to the code.
-/

namespace Mahjong.Decimal

theorem codesPerExponent_eq : codesPerExponent = 2 ^ 52 := by
  rfl

theorem shift_units (code : Nat)
    : ∃ shift mantissa,
        units code = mantissa * 2 ^ shift ∧
        (units code).log2 - 52 = shift ∧
        code = shift * codesPerExponent + mantissa := by
  have hcode : code / 2 ^ 52 * 2 ^ 52 + code % 2 ^ 52 = code := Nat.div_add_mod' code (2 ^ 52)
  have hfraction : code % 2 ^ 52 < 2 ^ 52 := Nat.mod_lt _ (Nat.two_pow_pos 52)
  unfold units
  dsimp only
  rw [codesPerExponent_eq]
  by_cases hexp : code / 2 ^ 52 = 0
  . have hlog : (code % 2 ^ 52).log2 - 52 = 0 := by
      by_cases hzero : code % 2 ^ 52 = 0
      . rw [hzero]
        rfl
      . have := (Nat.log2_lt hzero).2 hfraction
        omega
    refine ⟨0, code % 2 ^ 52, ?_, ?_, ?_⟩
    . rw [if_pos hexp, Nat.pow_zero, Nat.mul_one]
    . simp only [hexp, ↓reduceIte]
      exact hlog
    . rw [hexp] at hcode
      exact hcode.symm
  . have hlog : ((2 ^ 52 + code % 2 ^ 52) * 2 ^ (code / 2 ^ 52 - 1)).log2
        =
      52 + (code / 2 ^ 52 - 1) := by
      have hpos : (2 ^ 52 + code % 2 ^ 52) * 2 ^ (code / 2 ^ 52 - 1) ≠ 0 := by
        apply Nat.mul_ne_zero
        . omega
        . exact Nat.ne_of_gt (Nat.two_pow_pos _)
      refine (Nat.log2_eq_iff hpos).2 ⟨?_, ?_⟩
      . rw [Nat.pow_add]
        apply Nat.mul_le_mul_right
        omega
      . rw [Nat.add_right_comm, Nat.pow_add]
        apply Nat.mul_lt_mul_of_pos_right
        . omega
        . apply Nat.two_pow_pos
    refine ⟨code / 2 ^ 52 - 1, 2 ^ 52 + code % 2 ^ 52, ?_, ?_, ?_⟩
    . rw [if_neg hexp, Nat.pow_eq]
    . simp only [hexp, ↓reduceIte, Nat.pow_eq]
      rw [hlog]
      omega
    . rcases Nat.exists_eq_succ_of_ne_zero hexp with ⟨e, he⟩
      rw [he, Nat.succ_mul, Nat.add_assoc] at hcode
      rw [he]
      exact hcode.symm

theorem nearestCode_of_exact {num den code : Nat} (hden : 0 < den)
    (h : num * unitsPerOne = units code * den)
    : nearestCode num den = code := by
  rcases shift_units code with ⟨shift, mantissa, hunits, hshift, hcode⟩
  have hstep : 0 < den * 2 ^ shift := by
    apply Nat.mul_pos hden
    apply Nat.two_pow_pos
  have hscaled : num * unitsPerOne = mantissa * (den * 2 ^ shift) := by
    rw [h, hunits, Nat.mul_assoc, Nat.mul_comm (2 ^ shift)]
  have hquotient : num * unitsPerOne / den = units code := by
    rw [h]
    apply Nat.mul_div_cancel _ hden
  unfold nearestCode
  dsimp only
  rw [hquotient, hshift, Nat.pow_eq, hscaled, Nat.mul_div_cancel _ hstep, Nat.mul_mod_left]
  have hup : ¬(den * 2 ^ shift < 2 * 0 ∨ 2 * 0 = den * 2 ^ shift ∧ mantissa % 2 = 1) := by
    omega
  rw [if_neg hup, hcode]

theorem nearestCode_mul {num den k : Nat} (hk : 0 < k)
    : nearestCode (num * k) (den * k) = nearestCode num den := by
  have hscaled : num * k * unitsPerOne = num * unitsPerOne * k := by
    rw [Nat.mul_right_comm]
  have hstep : ∀ p, den * k * p = den * p * k := by
    intro p
    rw [Nat.mul_right_comm]
  have hlt : ∀ a b : Nat, a * k < 2 * (b * k) ↔ a < 2 * b := by
    intro a b
    rw [← Nat.mul_assoc, Nat.mul_lt_mul_right hk]
  have heq : ∀ a b : Nat, 2 * (b * k) = a * k ↔ 2 * b = a := by
    intro a b
    rw [← Nat.mul_assoc, Nat.mul_left_inj (by omega)]
  unfold nearestCode
  dsimp only
  rw [hscaled, Nat.mul_div_mul_right _ _ hk]
  rw [hstep, Nat.mul_div_mul_right _ _ hk, Nat.mul_mod_mul_right]
  simp only [hlt, heq]

theorem units_pos {code : Nat} (h : 0 < code) : 0 < units code := by
  unfold units
  dsimp only
  rw [codesPerExponent_eq]
  split
  . omega
  . apply Nat.mul_pos
    . omega
    . apply Nat.two_pow_pos

theorem lt_of_toCode? {d : Decimal} {code : Nat} (h : d.toCode? = some code)
    : code < infinityCode := by
  have hzero : 0 < infinityCode := by
    decide
  have hfinite : ∀ n, (if n < infinityCode then some n else none) = some code →
      code < infinityCode := by
    intro n hn
    rw [Option.ite_none_right_eq_some] at hn
    rw [← Option.some.inj hn.2]
    exact hn.1
  unfold toCode? at h
  split at h
  . rw [← Option.some.inj h]
    exact hzero
  . split at h
    . contradiction
    . split at h
      . rw [← Option.some.inj h]
        exact hzero
      . exact hfinite _ h

theorem toCode?_neg {significand places : Nat} (hpos : 0 < significand) (hplaces : 0 < places)
    (hroom : places ≤ 400 + (significand.log2 + 1))
    : toCode? ⟨significand, -places⟩
        =
      let code := nearestCode significand (10 ^ places)
      if code < infinityCode then some code else none := by
  rcases Nat.exists_eq_succ_of_ne_zero (Nat.ne_of_gt hplaces) with ⟨e, he⟩
  subst he
  unfold toCode?
  dsimp only
  rw [if_neg (by omega), if_neg (by omega), if_neg (by omega)]
  rfl

theorem toCode?_ofNat {significand e : Nat} (hpos : 0 < significand) (he : e ≤ 400)
    : toCode? ⟨significand, e⟩
        =
      let code := nearestCode (significand * 10 ^ e) 1
      if code < infinityCode then some code else none := by
  unfold toCode?
  dsimp only
  rw [if_neg (by omega), if_neg (by omega), if_neg (by omega)]
  rfl

theorem toCode?_mul_pow (significand : Nat) {e : Nat} (he : e ≤ 400)
    : toCode? ⟨significand * 10 ^ (e + 1), -1⟩ = toCode? ⟨significand, e⟩ := by
  rcases Nat.eq_zero_or_pos significand with hzero | hpos
  . subst hzero
    simp [toCode?]
  . have hshift := @nearestCode_mul (significand * 10 ^ e) 1 10 (by omega)
    have hpos' : 0 < significand * 10 ^ (e + 1) := by
      apply Nat.mul_pos hpos
      apply Nat.pow_pos
      omega
    rw [toCode?_ofNat hpos he]
    refine (@toCode?_neg _ 1 hpos' (by omega) (by omega)).trans ?_
    rw [Nat.pow_succ, ← Nat.mul_assoc, Nat.pow_one, ← hshift]

theorem le_log2_mul_five_pow {n : Nat} (hn : 0 < n) (k : Nat) : k ≤ (n * 5 ^ k).log2 := by
  have hfive : 2 ^ k ≤ 5 ^ k := Nat.pow_le_pow_left (by omega) k
  have hle : 5 ^ k ≤ n * 5 ^ k := Nat.le_mul_of_pos_left _ hn
  have hpos : 0 < 2 ^ k := Nat.two_pow_pos k
  apply (Nat.le_log2 (by omega)).2
  exact Nat.le_trans hfive hle

theorem nearestCode_five_pow (code : Nat) {k : Nat} (hk : unitsPerOne = Nat.pow 2 k)
    : nearestCode (units code * 5 ^ k) (10 ^ k) = code := by
  apply nearestCode_of_exact
  . apply Nat.pow_pos
    omega
  . rw [hk, Nat.pow_eq, Nat.mul_assoc, ← Nat.mul_pow]

theorem toCode?_five_pow {code k : Nat} (hunit : unitsPerOne = Nat.pow 2 k) (hk : 0 < k)
    (hpos : 0 < code) (hfinite : code < infinityCode)
    : toCode? ⟨units code * Nat.pow 5 k, -k⟩ = some code := by
  have hunits := units_pos hpos
  have hsignificand : 0 < units code * 5 ^ k := by
    apply Nat.mul_pos hunits
    apply Nat.pow_pos
    omega
  have hroom := le_log2_mul_five_pow hunits k
  rw [Nat.pow_eq, toCode?_neg hsignificand hk (by omega), nearestCode_five_pow code hunit]
  exact if_pos hfinite

theorem toCode?_exact {code : Nat} (hpos : 0 < code) (hfinite : code < infinityCode)
    : (exact code).toCode? = some code := by
  have hunit : unitsPerOne = Nat.pow 2 1074 := by
    unfold unitsPerOne
    exact Eq.refl _
  -- The exponent is made a variable, so that no tactic computes a power of it.
  unfold exact
  revert hunit
  generalize hk : 1074 = k
  intro hunit
  have hexponent : (-1074 : Int) = -k := by omega
  rw [hexponent]
  apply toCode?_five_pow hunit
  . omega
  . exact hpos
  . exact hfinite

theorem toCode?_of_onGrid? {tie : Tie} {code : Nat} {exponent : Int} {d : Decimal}
    (h : onGrid? tie code exponent = some d)
    : d.toCode? = some code := by
  unfold onGrid? at h
  dsimp only at h
  split at h
  . contradiction
  . next hbelow _ =>
    rw [← Option.some.inj h]
    simpa using hbelow
  . next _ habove =>
    rw [← Option.some.inj h]
    simpa using habove
  . next hbelow habove =>
    split at h
    . rw [← Option.some.inj h]
      simpa using hbelow
    . rw [← Option.some.inj h]
      simpa using habove
    . rw [← Option.some.inj h]
      simpa using habove
    . rw [← Option.some.inj h]
      split
      . simpa using hbelow
      . simpa using habove

theorem toCode?_of_coarsest? {tie : Tie} {code : Nat} {exponent : Int} {grids : Nat} {d : Decimal}
    (h : coarsest? tie code exponent grids = some d)
    : d.toCode? = some code := by
  induction grids generalizing exponent with
  | zero => contradiction
  | succ grids ih =>
    unfold coarsest? at h
    split at h
    . next hgrid =>
      rw [← Option.some.inj h]
      exact toCode?_of_onGrid? hgrid
    . exact ih h

/--
The digits that are chosen for a finite double read as that double.
-/
theorem toCode?_shortest (tie : Tie) {code : Nat} (hfinite : code < infinityCode)
    : (shortest tie code).toCode? = some code := by
  unfold shortest
  split
  . next hzero =>
    subst hzero
    rfl
  . next hpos =>
    cases h : coarsest? tie code (exponentAbove code) 20 with
    | none => exact toCode?_exact (Nat.pos_of_ne_zero hpos) hfinite
    | some d => exact toCode?_of_coarsest? h

end Mahjong.Decimal
