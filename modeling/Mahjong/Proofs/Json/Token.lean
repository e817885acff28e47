import Mahjong.Json.Token
import Mahjong.Json.Printer
import Mahjong.Proofs.Json.Numeral

/-!
This module contains the proof that literals are recognized in the text that is written for them:
words, numbers by the character that ends them, and strings character by character.
-/

namespace Mahjong.Json

theorem decodeCodePoints_map_toNat (chars : List Char)
    : decodeCodePoints (chars.map Char.toNat) = some chars := by
  have hscalar : ∀ c : Char, c.toNat < 0xD800 ∨ 0xE000 ≤ c.toNat := by
    intro c
    have hvalid : c.toNat < 0xD800 ∨ 0xDFFF < c.toNat ∧ c.toNat < 0x110000 := c.valid
    omega
  induction chars with
  | nil => rfl
  | cons c rest ih =>
    have hc := hscalar c
    cases rest with
    | nil =>
      unfold List.map decodeCodePoints
      rw [List.map_nil]
      dsimp only
      rw [if_neg (by omega), Char.ofNat_toNat]
    | cons d rest =>
      rw [List.map_cons, List.map_cons] at *
      unfold decodeCodePoints
      rw [if_neg (by omega), if_neg (by omega), ih, Char.ofNat_toNat]
      rfl

theorem hexValue?_digitChar {n : Nat} (hn : n < 16) : Text.hexValue? n.digitChar = some n := by
  have hall : ∀ n < 16, Text.hexValue? n.digitChar = some n := by
    decide
  exact hall n hn

theorem escapeChar_cases (c : Char)
    : (∃ letter,
        escapeChar c = ['\\', letter] ∧
        letter ≠ 'u' ∧
        Token.Mode.escaped? letter = some c.toNat) ∨
      (c.toNat < 32 ∧ escapeChar c = '\\' :: 'u' :: Text.hexPadded 4 c.toNat) ∨
      (c ≠ '"' ∧ c ≠ '\\' ∧ ¬c.toNat < 32 ∧ escapeChar c = [c]) := by
  unfold escapeChar
  split
  . next hc =>
    subst hc
    exact .inl ⟨'"', rfl, by decide, rfl⟩
  split
  . next hc =>
    subst hc
    exact .inl ⟨'\\', rfl, by decide, rfl⟩
  split
  . next hc => exact .inl ⟨'n', rfl, by decide, hc ▸ rfl⟩
  split
  . next hc => exact .inl ⟨'r', rfl, by decide, hc ▸ rfl⟩
  split
  . next hc => exact .inl ⟨'t', rfl, by decide, hc ▸ rfl⟩
  split
  . next hc => exact .inl ⟨'b', rfl, by decide, hc ▸ rfl⟩
  split
  . next hc => exact .inl ⟨'f', rfl, by decide, hc ▸ rfl⟩
  split
  . next hcontrol => exact .inr (.inl ⟨hcontrol, rfl⟩)
  . next hquote hbackslash _ _ _ _ _ hcontrol =>
    exact .inr (.inr ⟨hquote, hbackslash, hcontrol, rfl⟩)

namespace Token

theorem scan?_cons {mode next : Mode} {c : Char} {tokens : List Token}
    (h : mode.step? c = some (next, tokens)) (rest : List Char)
    : scan? mode (c :: rest) = (scan? next rest).map (tokens ++ ·) := by
  simp only [scan?, h, Option.bind_eq_bind, Option.bind_some]
  cases scan? next rest with
  | none => rfl
  | some later => rfl

theorem scan?_cons_of_silent {mode next : Mode} {c : Char} (h : mode.step? c = some (next, []))
    (rest : List Char)
    : scan? mode (c :: rest) = scan? next rest := by
  rw [scan?_cons h]
  simp

theorem scan?_word (token : Token) {letters : List Char} (hne : letters ≠ []) (rest : List Char)
    : scan? (.word letters token) (letters ++ rest) = (scan? .blank rest).map (token :: ·) := by
  induction letters with
  | nil => contradiction
  | cons c letters ih =>
    cases letters with
    | nil =>
      have hstep : Mode.step? (.word [c] token) c = some (.blank, [token]) := by
        simp [Mode.step?]
      rw [List.cons_append, scan?_cons hstep]
      rfl
    | cons d letters =>
      have hstep : Mode.step? (.word (c :: d :: letters) token) c
          =
        some (.word (d :: letters) token, []) := by
        simp [Mode.step?]
      rw [List.cons_append, scan?_cons_of_silent hstep, ih (by simp)]

theorem scan?_null (rest : List Char)
    : scan? .blank (['n', 'u', 'l', 'l'] ++ rest) = (scan? .blank rest).map (.null :: ·) := by
  have hstep : Mode.step? .blank 'n' = some (.word ['u', 'l', 'l'] .null, []) := by
    rfl
  rw [List.cons_append, scan?_cons_of_silent hstep, scan?_word .null (by simp)]

theorem scan?_true (rest : List Char)
    : scan? .blank (['t', 'r', 'u', 'e'] ++ rest) = (scan? .blank rest).map (.bool true :: ·) := by
  have hstep : Mode.step? .blank 't' = some (.word ['r', 'u', 'e'] (.bool true), []) := by
    rfl
  rw [List.cons_append, scan?_cons_of_silent hstep, scan?_word (.bool true) (by simp)]

theorem scan?_false (rest : List Char)
    : scan? .blank (['f', 'a', 'l', 's', 'e'] ++ rest)
        =
      (scan? .blank rest).map (.bool false :: ·) := by
  have hstep : Mode.step? .blank 'f' = some (.word ['a', 'l', 's', 'e'] (.bool false), []) := by
    rfl
  rw [List.cons_append, scan?_cons_of_silent hstep, scan?_word (.bool false) (by simp)]

theorem scan?_hexPadded (before : List Nat) {n : Nat} (hn : n < 32) (rest : List Char)
    : scan? (.codePoint before 4 0) (Text.hexPadded 4 n ++ rest)
        =
      scan? (.string (n :: before)) rest := by
  have hstep : ∀ digitsLeft value digit, digit < 16 → 1 < digitsLeft →
      Mode.step? (.codePoint before digitsLeft value) digit.digitChar
        =
      some (.codePoint before (digitsLeft - 1) (16 * value + digit), []) := by
    intro digitsLeft value digit hdigit hleft
    unfold Mode.step?
    simp [hexValue?_digitChar hdigit]
    omega
  have hlast : ∀ value digit, digit < 16 →
      Mode.step? (.codePoint before 1 value) digit.digitChar
        =
      some (.string ((16 * value + digit) :: before), []) := by
    intro value digit hdigit
    unfold Mode.step?
    simp [hexValue?_digitChar hdigit]
  have hmod : ∀ m, m % 16 < 16 := by
    intro m
    omega
  have hvalue : 16 * (16 * (16 * (16 * 0 + n / 16 / 16 / 16 % 16) + n / 16 / 16 % 16) + n / 16 % 16)
      + n % 16 = n := by
    omega
  simp only [Text.hexPadded, List.nil_append, List.cons_append]
  rw [scan?_cons_of_silent (hstep 4 _ _ (hmod _) (by omega)),
    scan?_cons_of_silent (hstep 3 _ _ (hmod _) (by omega)),
    scan?_cons_of_silent (hstep 2 _ _ (hmod _) (by omega)),
    scan?_cons_of_silent (hlast _ _ (hmod _)), hvalue]

theorem scan?_escapeChar (before : List Nat) (c : Char) (rest : List Char)
    : scan? (.string before) (escapeChar c ++ rest) = scan? (.string (c.toNat :: before)) rest := by
  have hbackslash : Mode.step? (.string before) '\\' = some (.escape before, []) := by
    simp [Mode.step?]
  rcases escapeChar_cases c with ⟨letter, heq, hletter, hescaped⟩ | ⟨hcontrol, heq⟩ |
    ⟨hquote, hother, hcontrol, heq⟩
  . have hstep : Mode.step? (.escape before) letter = some (.string (c.toNat :: before), []) := by
      unfold Mode.step?
      simp [hletter, hescaped]
    rw [heq, List.cons_append, scan?_cons_of_silent hbackslash, List.cons_append,
      scan?_cons_of_silent hstep, List.nil_append]
  . have hletter : Mode.step? (.escape before) 'u' = some (.codePoint before 4 0, []) := by
      simp [Mode.step?]
    rw [heq, List.cons_append, scan?_cons_of_silent hbackslash, List.cons_append,
      scan?_cons_of_silent hletter, scan?_hexPadded before hcontrol]
  . have hstep : Mode.step? (.string before) c = some (.string (c.toNat :: before), []) := by
      unfold Mode.step?
      simp [hquote, hother, hcontrol]
    rw [heq, List.cons_append, scan?_cons_of_silent hstep, List.nil_append]

theorem scan?_writeString (s : String) (rest : List Char)
    : scan? .blank (writeString s ++ rest)
        =
      (scan? .blank rest).map (.string (some s) :: ·) := by
  have hbody : ∀ (chars : List Char) (before : List Nat) (rest : List Char),
      scan? (.string before) (chars.flatMap escapeChar ++ rest)
        =
      scan? (.string ((chars.map Char.toNat).reverse ++ before)) rest := by
    intro chars
    induction chars with
    | nil =>
      intro before rest
      rfl
    | cons c chars ih =>
      intro before rest
      rw [List.flatMap_cons, List.append_assoc, scan?_escapeChar, ih]
      simp
  have hopen : Mode.step? .blank '"' = some (.string [], []) := by
    rfl
  have hclose : Mode.step? (.string (s.toList.map Char.toNat).reverse) '"'
      =
    some (.blank, [.string (some s)]) := by
    unfold Mode.step?
    simp [decodeCodePoints_map_toNat]
  unfold writeString
  rw [List.cons_append, List.cons_append, scan?_cons_of_silent hopen, List.append_assoc, hbody,
    List.append_nil, List.cons_append, scan?_cons hclose]
  rfl

def IsSpace (c : Char) : Prop :=
  c = ' ' ∨ c = '\t' ∨ c = '\n' ∨ c = '\r'

theorem scan?_spaces {spaces : List Char} (h : ∀ c ∈ spaces, IsSpace c) (rest : List Char)
    : scan? .blank (spaces ++ rest) = scan? .blank rest := by
  induction spaces with
  | nil => rfl
  | cons c spaces ih =>
    rcases List.forall_mem_cons.1 h with ⟨hc, hspaces⟩
    have hstep : Mode.step? .blank c = some (.blank, []) := by
      rcases hc with hc | hc | hc | hc
      . exact hc ▸ rfl
      . exact hc ▸ rfl
      . exact hc ▸ rfl
      . exact hc ▸ rfl
    rw [List.cons_append, scan?_cons_of_silent hstep, ih hspaces]

/--
The characters that may follow a value, none of which continues a number.
-/
def IsDelimiter (c : Char) : Prop :=
  c = ',' ∨ c = ']' ∨ c = '}' ∨ IsSpace c

theorem next?_of_isDelimiter {c : Char} (h : IsDelimiter c) (scan : Numeral.Scan)
    : scan.next? c = none := by
  have hdigit : c.isDigit = false ∧ c ≠ '.' ∧ c ≠ 'e' ∧ c ≠ 'E' ∧ c ≠ '+' ∧ c ≠ '-' ∧ c ≠ '0' := by
    rcases h with h | h | h | h | h | h | h
    all_goals
      subst h
      decide
  unfold Numeral.Scan.next?
  cases scan.phase with
  | _ =>
    simp [Numeral.Scan.beginWhole?, Numeral.Scan.beginFraction?, Numeral.Scan.beginExponent?,
      Numeral.Scan.addWholeDigit?, Numeral.Scan.addFractionDigit?,
      Numeral.Scan.addExponentDigit?, hdigit]

def Ends (rest : List Char) : Prop :=
  ∀ c ∈ rest.head?, IsDelimiter c

theorem scan?_number {scan last : Numeral.Scan} {numeral : Numeral} {text rest : List Char}
    (hrun : run? Numeral.Scan.next? scan text = some last)
    (hfinish : last.finish? = some numeral) (hends : Ends rest)
    : scan? (.number scan) (text ++ rest) = (scan? .blank rest).map (.number numeral :: ·) := by
  induction text generalizing scan with
  | nil =>
    -- The delimiter both ends the number and is read as what it is.
    have := Option.some.inj hrun
    subst this
    cases rest with
    | nil => simp [scan?, Mode.finish?, hfinish]
    | cons c rest =>
      have hnext : scan.next? c = none := next?_of_isDelimiter (hends c rfl) scan
      simp only [List.nil_append, scan?, Mode.step?, hnext, hfinish, Option.bind_eq_bind,
        Option.bind_some]
      cases Mode.start? c with
      | none => rfl
      | some next =>
        cases h : scan? next.1 rest with
        | none => simp [h]
        | some tokens => simp [h]
  | cons c text ih =>
    rw [run?_cons] at hrun
    rcases Option.bind_eq_some_iff.1 hrun with ⟨next, hnext, hrun⟩
    have hstep : Mode.step? (.number scan) c = some (.number next, []) := by
      unfold Mode.step?
      simp only [hnext]
    rw [List.cons_append, scan?_cons_of_silent hstep, ih hrun]

theorem step?_blank_of_begin? {c : Char} {scan : Numeral.Scan}
    (h : Numeral.Scan.begin? c = some scan)
    : Mode.step? .blank c = some (.number scan, []) := by
  unfold Mode.step? Mode.start?
  dsimp only
  split
  all_goals first
    | contradiction
    | simp [h]

theorem scan?_numeral {text rest : List Char} {numeral : Numeral}
    (h : Numeral.ofText? text = some numeral) (hends : Ends rest)
    : scan? .blank (text ++ rest) = (scan? .blank rest).map (.number numeral :: ·) := by
  rcases Option.bind_eq_some_iff.1 h with ⟨last, hlast, hfinish⟩
  cases text with
  | nil => contradiction
  | cons c text =>
    rcases Option.bind_eq_some_iff.1 hlast with ⟨scan, hscan, hrun⟩
    rw [List.cons_append, scan?_cons_of_silent (step?_blank_of_begin? hscan),
      scan?_number hrun hfinish hends]

end Token

end Mahjong.Json
