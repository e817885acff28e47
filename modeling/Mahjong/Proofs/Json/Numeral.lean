import Mahjong.Json.Numeral
import Mahjong.Json.Printer
import Mahjong.Proofs.Decimal.Bits
import Mahjong.Proofs.Decimal.Digits
import Mahjong.Proofs.Decimal.Rounding
import Mahjong.Proofs.Run

/-!
This module contains the proof that a number that was written reads as the same number: integers
digit by digit, and floats because the digits that were chosen for them read as them.
-/

namespace Mahjong.Json.Numeral

namespace Scan

theorem run?_whole (scan : Scan) (hphase : scan.phase = .whole) (digits : List Char)
    (hdigits : ∀ c ∈ digits, c.isDigit)
    : run? next? scan digits
        =
      some { scan with significand := Nat.ofDigitChars 10 digits scan.significand } := by
  induction digits generalizing scan with
  | nil => simp
  | cons c digits ih =>
    rcases List.forall_mem_cons.1 hdigits with ⟨hc, hrest⟩
    have hnext : scan.next? c
        =
      some { scan with
        phase := .whole
        significand := 10 * scan.significand + digitValue c } := by
      unfold next?
      rw [hphase]
      simp [addWholeDigit?, hc]
    rw [run?_cons, hnext, Option.bind_some, ih _ rfl hrest, Nat.ofDigitChars_cons, ← hphase]
    rfl

theorem run?_fraction (scan : Scan) (hphase : scan.phase = .point ∨ scan.phase = .fraction)
    (digits : List Char) (hne : digits ≠ []) (hdigits : ∀ c ∈ digits, c.isDigit)
    : run? next? scan digits
        =
      some { scan with
        phase := .fraction
        significand := Nat.ofDigitChars 10 digits scan.significand
        places := scan.places + digits.length } := by
  induction digits generalizing scan with
  | nil => contradiction
  | cons c digits ih =>
    rcases List.forall_mem_cons.1 hdigits with ⟨hc, hrest⟩
    have hnext : scan.next? c
        =
      some { scan with
        phase := .fraction
        significand := 10 * scan.significand + digitValue c
        places := scan.places + 1 } := by
      unfold next?
      rcases hphase with hphase | hphase
      . rw [hphase]
        simp [addFractionDigit?, hc]
      . rw [hphase]
        simp [addFractionDigit?, hc]
    rw [run?_cons, hnext, Option.bind_some, Nat.ofDigitChars_cons]
    cases digits with
    | nil => rfl
    | cons d digits =>
      rw [ih _ (.inr rfl) (by simp) hrest]
      simp [digitValue]
      omega

theorem run?_exponent (scan : Scan)
    (hphase : scan.phase = .exponentSign ∨ scan.phase = .exponent)
    (digits : List Char) (hne : digits ≠ []) (hdigits : ∀ c ∈ digits, c.isDigit)
    : run? next? scan digits
        =
      some { scan with
        phase := .exponent
        exponent := Nat.ofDigitChars 10 digits scan.exponent } := by
  induction digits generalizing scan with
  | nil => contradiction
  | cons c digits ih =>
    rcases List.forall_mem_cons.1 hdigits with ⟨hc, hrest⟩
    have hnext : scan.next? c
        =
      some { scan with
        phase := .exponent
        exponent := 10 * scan.exponent + digitValue c } := by
      unfold next?
      rcases hphase with hphase | hphase
      . rw [hphase]
        simp [addExponentDigit?, hc]
      . rw [hphase]
        simp [addExponentDigit?, hc]
    rw [run?_cons, hnext, Option.bind_some, Nat.ofDigitChars_cons]
    cases digits with
    | nil => rfl
    | cons d digits =>
      rw [ih _ (.inr rfl) (by simp) hrest]
      rfl

theorem next?_point (scan : Scan) (hphase : scan.phase = .zero ∨ scan.phase = .whole)
    : scan.next? '.' = some { scan with phase := .point } := by
  unfold next?
  rcases hphase with hphase | hphase
  . rw [hphase]
    simp [beginFraction?]
  . rw [hphase]
    simp [addWholeDigit?, beginFraction?]

theorem next?_mark (scan : Scan)
    (hphase : scan.phase = .zero ∨ scan.phase = .whole ∨ scan.phase = .fraction)
    : scan.next? 'e' = some { scan with phase := .exponentMark } := by
  unfold next?
  rcases hphase with hphase | hphase | hphase
  . rw [hphase]
    simp [beginFraction?, beginExponent?]
  . rw [hphase]
    simp [addWholeDigit?, beginFraction?, beginExponent?]
  . rw [hphase]
    simp [addFractionDigit?, beginExponent?]

theorem run?_power (scan : Scan)
    (hphase : scan.phase = .zero ∨ scan.phase = .whole ∨ scan.phase = .fraction)
    (hsign : scan.exponentNegative = false) (hexponent : scan.exponent = 0) (power : Int)
    : run? next? scan ('e' :: (if power < 0 then '-' else '+') :: Nat.toDigits 10 power.natAbs)
        =
      some { scan with
        phase := .exponent
        exponentNegative := decide (power < 0)
        exponent := power.natAbs } := by
  have hdigits : ∀ c ∈ Nat.toDigits 10 power.natAbs, c.isDigit := by
    intro c hc
    exact Decimal.isDigit_of_mem_toDigits hc
  rw [run?_cons, next?_mark scan hphase, Option.bind_some, run?_cons]
  by_cases hneg : power < 0
  . rw [if_pos hneg]
    refine (run?_exponent { scan with phase := .exponentSign, exponentNegative := true } (.inl rfl)
      _ Nat.toDigits_ne_nil hdigits).trans ?_
    simp [hexponent, hneg]
  . rw [if_neg hneg]
    refine (run?_exponent { scan with phase := .exponentSign } (.inl rfl)
      _ Nat.toDigits_ne_nil hdigits).trans ?_
    simp [hexponent, hneg, hsign]

theorem finish?_run?_power (scan : Scan)
    (hphase : scan.phase = .zero ∨ scan.phase = .whole ∨ scan.phase = .fraction)
    (hsign : scan.exponentNegative = false) (hexponent : scan.exponent = 0) (power : Int)
    : (run? next? scan
        ('e' :: (if power < 0 then '-' else '+') :: Nat.toDigits 10 power.natAbs)).bind finish?
        =
      some ⟨scan.negative, ⟨scan.significand, power - scan.places⟩, false⟩ := by
  have habs : (if power < 0 then -(power.natAbs : Int) else power.natAbs) = power := by
    split <;> omega
  rw [run?_power scan hphase hsign hexponent, Option.bind_some]
  simp only [finish?, decide_eq_true_eq, habs]

def ofText? : List Char → Option Scan
  | [] => none
  | c :: rest => (begin? c).bind (run? next? · rest)

end Scan

def ofText? (text : List Char) : Option Numeral :=
  (Scan.ofText? text).bind Scan.finish?

/--
Whether digits can be the whole part of a numeral: they begin with zero only if that is all.
-/
structure IsWhole (digits : List Char) : Prop where
  ne_nil : digits ≠ []
  isDigit : ∀ c ∈ digits, c.isDigit
  head : ∀ rest, digits = '0' :: rest → rest = []

namespace Scan

theorem beginWhole?_run? (scan : Scan) (hsignificand : scan.significand = 0) {c : Char}
    {digits : List Char} (hdigits : IsWhole (c :: digits)) (rest : List Char)
    : ∃ phase, (phase = .zero ∨ phase = .whole) ∧
        (scan.beginWhole? c).bind (run? next? · (digits ++ rest))
          =
        run? next?
          { scan with phase, significand := Nat.ofDigitChars 10 (c :: digits) 0 } rest := by
  unfold beginWhole?
  by_cases hzero : c = '0'
  . subst hzero
    refine ⟨.zero, .inl rfl, ?_⟩
    rw [hdigits.head digits rfl, if_pos rfl, Option.bind_some, List.nil_append, hsignificand]
    rfl
  . rcases List.forall_mem_cons.1 hdigits.isDigit with ⟨hc, hrest⟩
    refine ⟨.whole, .inr rfl, ?_⟩
    rw [if_neg hzero, if_pos hc, Option.bind_some, run?_append, run?_whole _ rfl digits hrest,
      Option.bind_some, Nat.ofDigitChars_cons]
    simp [digitValue]

end Scan

def sign (negative : Bool) : List Char :=
  if negative then ['-'] else []

namespace Scan

theorem ofText?_whole (negative : Bool) {digits : List Char} (hdigits : IsWhole digits)
    (rest : List Char)
    : ∃ phase, (phase = .zero ∨ phase = .whole) ∧
        ofText? (sign negative ++ digits ++ rest)
          =
        run? next? { phase, negative, significand := Nat.ofDigitChars 10 digits 0 } rest := by
  rcases List.exists_cons_of_ne_nil hdigits.ne_nil with ⟨c, tail, hcons⟩
  subst hcons
  rcases beginWhole?_run? { phase := .sign, negative } rfl hdigits rest with ⟨phase, hphase, hrun⟩
  refine ⟨phase, hphase, ?_⟩
  rw [← hrun]
  cases negative with
  | false =>
    have hminus : c ≠ '-' := by
      intro hc
      subst hc
      have := hdigits.isDigit '-' (by simp)
      contradiction
    simp [sign, ofText?, begin?, hminus]
  | true =>
    simp [sign, ofText?, begin?, run?_cons, next?]

theorem ofText?_fraction (negative : Bool) {digits : List Char} (hdigits : IsWhole digits)
    {fraction : List Char} (hne : fraction ≠ []) (hfraction : ∀ c ∈ fraction, c.isDigit)
    (rest : List Char)
    : ofText? (sign negative ++ digits ++ '.' :: fraction ++ rest)
        =
      run? next?
        { phase := .fraction
          negative
          significand := Nat.ofDigitChars 10 (digits ++ fraction) 0
          places := fraction.length }
        rest := by
  rcases ofText?_whole negative hdigits ('.' :: fraction ++ rest) with ⟨phase, hphase, htext⟩
  rw [List.append_assoc, htext, List.cons_append, run?_cons, next?_point _ hphase,
    Option.bind_some, run?_append, run?_fraction _ (.inl rfl) fraction hne hfraction,
    Option.bind_some, Nat.ofDigitChars_append]
  simp

end Scan

theorem isWhole_toDigits (n : Nat) : IsWhole (Nat.toDigits 10 n) where
  ne_nil := Nat.toDigits_ne_nil
  isDigit := by
    intro c hc
    exact Decimal.isDigit_of_mem_toDigits hc
  head := by
    intro rest hrest
    rcases Nat.eq_zero_or_pos n with hzero | hpos
    . subst hzero
      simpa using hrest
    . have := Decimal.head_toDigits_ne hpos hrest
      contradiction

theorem ofText?_writeInt (n : Int)
    : ofText? (writeInt n) = some ⟨decide (n < 0), ⟨n.natAbs, 0⟩, true⟩ := by
  have hsign : writeInt n = sign (decide (n < 0)) ++ Nat.toDigits 10 n.natAbs ++ [] := by
    unfold writeInt sign
    by_cases hneg : n < 0
    . simp [hneg]
    . simp [hneg]
  rcases Scan.ofText?_whole (decide (n < 0)) (isWhole_toDigits n.natAbs) []
    with ⟨phase, hphase, htext⟩
  unfold ofText?
  rw [hsign, htext, run?_nil, Option.bind_some, Nat.ofDigitChars_ten_toDigits]
  rcases hphase with hphase | hphase
  . subst hphase
    rfl
  . subst hphase
    rfl

theorem ofText?_point (negative : Bool) {digits : List Char} (hdigits : IsWhole digits)
    {fraction : List Char} (hne : fraction ≠ []) (hfraction : ∀ c ∈ fraction, c.isDigit)
    : ofText? (sign negative ++ (digits ++ '.' :: fraction))
        =
      some ⟨negative, ⟨Nat.ofDigitChars 10 (digits ++ fraction) 0, -fraction.length⟩, false⟩ := by
  have htext := Scan.ofText?_fraction negative hdigits hne hfraction []
  rw [List.append_nil, List.append_assoc] at htext
  unfold ofText?
  rw [htext]
  simp [Scan.finish?]

theorem IsWhole.take {digits : List Char} (h : IsWhole digits) {k : Nat} (hk : 0 < k)
    : IsWhole (digits.take k) := by
  rcases Nat.exists_eq_succ_of_ne_zero (Nat.ne_of_gt hk) with ⟨k, hsucc⟩
  rcases List.exists_cons_of_ne_nil h.ne_nil with ⟨c, tail, hcons⟩
  subst hsucc hcons
  constructor
  . simp
  . intro d hd
    apply h.isDigit
    exact List.mem_of_mem_take hd
  . intro rest hrest
    rw [List.take_succ_cons, List.cons.injEq] at hrest
    rcases hrest with ⟨hc, htail⟩
    subst hc
    rw [h.head tail rfl] at htail
    rw [← htail, List.take_nil]

theorem isWhole_zeros {significand : Nat} (hpos : 0 < significand) (zeros : Nat)
    : IsWhole (Nat.toDigits 10 significand ++ List.replicate zeros '0') := by
  have hwhole := isWhole_toDigits significand
  constructor
  . simp [hwhole.ne_nil]
  . intro c hc
    rcases List.mem_append.1 hc with hc | hc
    . exact hwhole.isDigit c hc
    . rw [List.eq_of_mem_replicate hc]
      rfl
  . intro rest hrest
    rcases List.exists_cons_of_ne_nil hwhole.ne_nil with ⟨c, tail, hcons⟩
    rw [hcons, List.cons_append, List.cons.injEq] at hrest
    have := Decimal.head_toDigits_ne hpos hcons
    exact absurd hrest.1 this

theorem ofText?_positional_ofNat (negative : Bool) {significand : Nat} (hpos : 0 < significand)
    (e : Nat)
    : ofText? (sign negative ++ Decimal.positional ['.', '0'] (Nat.toDigits 10 significand) e)
        =
      some ⟨negative, ⟨significand * 10 ^ (e + 1), -1⟩, false⟩ := by
  have htext := ofText?_point negative (isWhole_zeros hpos e) (List.cons_ne_nil '0' [])
    (by simp)
  have hvalue : Nat.ofDigitChars 10 (Nat.toDigits 10 significand ++ List.replicate e '0' ++ ['0']) 0
      =
    significand * 10 ^ (e + 1) := by
    rw [Nat.ofDigitChars_append, Nat.ofDigitChars_append, Nat.ofDigitChars_ten_toDigits,
      Nat.ofDigitChars_replicate_zero, Nat.ofDigitChars_cons, Nat.pow_succ]
    simp [Nat.mul_comm, Nat.mul_left_comm]
  rw [hvalue] at htext
  exact htext

theorem ofText?_positional_negSucc (negative : Bool) (significand e : Nat)
    : ofText?
        (sign negative ++
          Decimal.positional ['.', '0'] (Nat.toDigits 10 significand) (Int.negSucc e))
        =
      some ⟨negative, ⟨significand, Int.negSucc e⟩, false⟩ := by
  have hwhole := isWhole_toDigits significand
  have hvalue : Nat.ofDigitChars 10 (Nat.toDigits 10 significand) 0 = significand :=
    Nat.ofDigitChars_ten_toDigits
  generalize Nat.toDigits 10 significand = digits at *
  unfold Decimal.positional
  dsimp only
  by_cases hlt : e + 1 < digits.length
  . have hplaces : digits.length - (digits.length - (e + 1)) = e + 1 := by
      omega
    rw [if_pos hlt, ofText?_point negative (hwhole.take (by omega))]
    . rw [List.take_append_drop, hvalue, List.length_drop, hplaces]
      rfl
    . simp
      omega
    . intro c hc
      apply hwhole.isDigit
      exact List.mem_of_mem_drop hc
  . have hlength : (List.replicate (e + 1 - digits.length) '0' ++ digits).length = e + 1 := by
      rw [List.length_append, List.length_replicate]
      omega
    have hdigits : ∀ c ∈ List.replicate (e + 1 - digits.length) '0' ++ digits, c.isDigit := by
      intro c hc
      rcases List.mem_append.1 hc with hc | hc
      . rw [List.eq_of_mem_replicate hc]
        rfl
      . exact hwhole.isDigit c hc
    have htext := ofText?_point negative (isWhole_toDigits 0) (by simp [hwhole.ne_nil]) hdigits
    have hzeros : Nat.ofDigitChars 10
        (Nat.toDigits 10 0 ++ (List.replicate (e + 1 - digits.length) '0' ++ digits)) 0
        =
      significand := by
      rw [Nat.ofDigitChars_append, Nat.ofDigitChars_append, Nat.ofDigitChars_ten_toDigits,
        Nat.ofDigitChars_replicate_zero, Nat.mul_zero, hvalue]
    rw [hlength, hzeros] at htext
    rw [if_neg hlt]
    exact htext

theorem ofText?_withExponent (negative : Bool) (significand : Nat) (power : Int)
    : ofText? (sign negative ++ Decimal.withExponent (Nat.toDigits 10 significand) power)
        =
      some ⟨negative,
        ⟨significand, power - ((Nat.toDigits 10 significand).length - 1 : Nat)⟩, false⟩ := by
  have hwhole := isWhole_toDigits significand
  have hvalue : Nat.ofDigitChars 10 (Nat.toDigits 10 significand) 0 = significand :=
    Nat.ofDigitChars_ten_toDigits
  generalize Nat.toDigits 10 significand = digits at *
  unfold Decimal.withExponent ofText?
  match digits with
  | [] => exact absurd rfl hwhole.ne_nil
  | [d] =>
    rcases Scan.ofText?_whole negative hwhole
      ('e' :: (if power < 0 then '-' else '+') :: Nat.toDigits 10 power.natAbs)
      with ⟨phase, hphase, htext⟩
    rw [List.append_assoc] at htext
    dsimp only
    have hphase : phase = .zero ∨ phase = .whole ∨ phase = .fraction := by
      rcases hphase with hphase | hphase
      . exact .inl hphase
      . exact .inr (.inl hphase)
    rw [htext, Scan.finish?_run?_power _ hphase rfl rfl, hvalue]
    rfl
  | d :: d' :: rest =>
    have hfirst : IsWhole [d] := hwhole.take Nat.one_pos
    have hrest : ∀ c ∈ d' :: rest, c.isDigit := (List.forall_mem_cons.1 hwhole.isDigit).2
    have htext := Scan.ofText?_fraction negative hfirst (List.cons_ne_nil d' rest) hrest
      ('e' :: (if power < 0 then '-' else '+') :: Nat.toDigits 10 power.natAbs)
    rw [List.append_assoc, List.append_assoc] at htext
    dsimp only
    refine (congrArg (·.bind Scan.finish?) htext).trans ?_
    rw [Scan.finish?_run?_power _ (.inr (.inr rfl)) rfl rfl, List.singleton_append, hvalue]
    rfl

theorem ofText?_write (negative : Bool) {d : Decimal} (hd : 0 < d.significand ∨ d = ⟨0, 0⟩)
    : ∃ magnitude,
        ofText? (sign negative ++ d.write .scientific) = some ⟨negative, magnitude, false⟩ ∧
        magnitude.toCode? = d.toCode? := by
  rcases hd with hpos | hzero
  . rcases d with ⟨significand, exponent⟩
    have hlength : 0 < (Nat.toDigits 10 significand).length := Nat.length_toDigits_pos
    unfold Decimal.write
    dsimp only at hpos ⊢
    split
    . next hpower =>
      have hpower : -5 ≤ exponent + (Nat.toDigits 10 significand).length - 1 ∧
          exponent + (Nat.toDigits 10 significand).length - 1 ≤ 15 := of_decide_eq_true hpower
      cases exponent with
      | ofNat e =>
        have he : e ≤ 400 := by
          have : Int.ofNat e = (e : Int) := rfl
          omega
        refine ⟨⟨significand * 10 ^ (e + 1), -1⟩, ofText?_positional_ofNat negative hpos e, ?_⟩
        exact Decimal.toCode?_mul_pow significand he
      | negSucc e =>
        exact ⟨_, ofText?_positional_negSucc negative significand e, rfl⟩
    . have hexponent : exponent + (Nat.toDigits 10 significand).length - 1 -
          ((Nat.toDigits 10 significand).length - 1 : Nat) = exponent := by
        omega
      have htext := ofText?_withExponent negative significand
        (exponent + (Nat.toDigits 10 significand).length - 1)
      rw [hexponent] at htext
      exact ⟨_, htext, rfl⟩
  . subst hzero
    refine ⟨⟨0, -1⟩, ?_, by simp [Decimal.toCode?]⟩
    cases negative with
    | false => rfl
    | true => rfl

theorem significand_shortest {tie : Decimal.Tie} {code : Nat}
    (hfinite : code < Decimal.infinityCode)
    : 0 < (Decimal.shortest tie code).significand ∨ Decimal.shortest tie code = ⟨0, 0⟩ := by
  rcases Nat.eq_zero_or_pos (Decimal.shortest tie code).significand with hzero | hpos
  . have hcode := Decimal.toCode?_shortest tie hfinite
    unfold Decimal.toCode? at hcode
    rw [if_pos hzero] at hcode
    rw [← Option.some.inj hcode]
    exact .inr rfl
  . exact .inl hpos

theorem ofText?_writeFinite {x : Float} (hfinite : Decimal.isFinite x)
    : ∃ numeral,
        ofText? (Decimal.writeFinite .scientific x) = some numeral ∧
        numeral.toValue? = some (.float x) := by
  have hcode : Decimal.codeOf x < Decimal.infinityCode := by
    simpa [Decimal.isFinite] using hfinite
  have hsign : Decimal.writeFinite .scientific x
      =
    sign (Decimal.isNegative x) ++
      (Decimal.shortest .toEven (Decimal.codeOf x)).write .scientific := by
    unfold Decimal.writeFinite sign
    cases Decimal.isNegative x with
    | false => rfl
    | true => rfl
  rcases ofText?_write (Decimal.isNegative x) (significand_shortest hcode)
    with ⟨magnitude, htext, hvalue⟩
  refine ⟨_, hsign ▸ htext, ?_⟩
  unfold toValue? toInt? toFloat?
  simp [hvalue, Decimal.toCode?_shortest .toEven hcode, Decimal.ofCode_codeOf]

def InRange (n : Int) : Prop :=
  -0x8000000000000000 ≤ n ∧ n < 0x10000000000000000

theorem toValue?_int {n : Int} (hrange : InRange n)
    : toValue? ⟨decide (n < 0), ⟨n.natAbs, 0⟩, true⟩ = some (.int n) := by
  rcases hrange with ⟨hlow, hhigh⟩
  unfold toValue? toInt?
  by_cases hneg : n < 0
  . have hroom : 0 < n.natAbs ∧ n.natAbs ≤ 0x8000000000000000 := by
      omega
    have habs : -(n.natAbs : Int) = n := by
      omega
    generalize n.natAbs = magnitude at *
    simp [hneg, hroom, habs]
  . have hroom : n.natAbs < 0x10000000000000000 := by
      omega
    have habs : (n.natAbs : Int) = n := by
      omega
    generalize n.natAbs = magnitude at *
    simp [hneg, hroom, habs]

theorem toValue?_cases {numeral : Numeral} {v : Value} (h : numeral.toValue? = some v)
    : (∃ n, v = .int n ∧ InRange n) ∨ ∃ x, v = .float x ∧ Decimal.isFinite x := by
  unfold toValue? at h
  split at h
  . next n hint =>
    refine .inl ⟨n, (Option.some.inj h).symm, ?_⟩
    unfold toInt? at hint
    unfold InRange
    dsimp only at hint
    split at hint
    . contradiction
    . split at hint
      . split at hint
        . have := Option.some.inj hint
          omega
        . contradiction
      . split at hint
        . have := Option.some.inj hint
          omega
        . contradiction
  . unfold toFloat? at h
    cases hcode : numeral.magnitude.toCode? with
    | none => simp [hcode] at h
    | some code =>
      rw [hcode] at h
      refine .inr ⟨_, (Option.some.inj h).symm, ?_⟩
      apply Decimal.isFinite_ofCode
      exact Decimal.lt_of_toCode? hcode

end Mahjong.Json.Numeral
