import Mahjong.Proofs.Decimal.Digits
import Mahjong.Proofs.Text.Split
import Mahjong.Version.Parser

/-!
This module contains the writing of versions and the proof that reading undoes it: the texts that
are read as versions are those that are written for well-formed ones, and each is read as the
version that it was written for.
-/

namespace Mahjong

theorem bind_eq_ok_iff {ε α β : Type} {x : Except ε α} {f : α → Except ε β} {b : β}
    : x >>= f = .ok b ↔ ∃ a, x = .ok a ∧ f a = .ok b := by
  cases x with
  | error e => simp [bind, Except.bind]
  | ok a => simp [bind, Except.bind]

namespace Version

/--
An identifier has letters, digits and hyphens. In a pre-release, a number does not begin with a zero
that other digits follow.
-/
structure IsIdentifier (part : Part) (identifier : String) : Prop where
  ne_empty : identifier ≠ ""
  isIdentifierChar : ∀ c ∈ identifier.toList, isIdentifierChar c
  leadingZero : part = .preRelease → isNumeric identifier →
    identifier.toList.head? = some '0' → identifier = "0"

/--
The versions that can be written. Their numbers have at most 64 bits.
-/
structure IsWellFormed (v : Version) : Prop where
  major_lt : v.major < 0x10000000000000000
  minor_lt : v.minor < 0x10000000000000000
  patch_lt : v.patch < 0x10000000000000000
  preRelease : ∀ identifier ∈ v.preRelease, IsIdentifier .preRelease identifier
  build : ∀ identifier ∈ v.build, IsIdentifier .build identifier

def writeRow (identifiers : List String) : List Char :=
  ['.'].intercalate (identifiers.map String.toList)

/--
A row of identifiers with the mark that announces it, if there are any.
-/
def writeMarked (mark : Char) : List String → List Char
  | [] => []
  | identifiers => mark :: writeRow identifiers

@[simp]
theorem writeMarked_nil (mark : Char) : writeMarked mark [] = [] := by
  rfl

@[simp]
theorem writeMarked_cons (mark : Char) (identifier : String) (rest : List String)
    : writeMarked mark (identifier :: rest) = mark :: writeRow (identifier :: rest) := by
  rfl

def write (v : Version) : String :=
  String.ofList
    (Nat.toDigits 10 v.major ++ '.' ::
      (Nat.toDigits 10 v.minor ++ '.' ::
        (Nat.toDigits 10 v.patch ++
          (writeMarked '-' v.preRelease ++ writeMarked '+' v.build))))

/--
Digits in which no zero stands before others.
-/
def IsNumeral (digits : List Char) : Prop :=
  digits ≠ [] ∧ (digits.head? = some '0' → digits = ['0'])

theorem isNumeral_toDigits (n : Nat) : IsNumeral (Nat.toDigits 10 n) := by
  constructor
  . apply Nat.toDigits_ne_nil
  . intro h
    by_cases hn : 0 < n
    . rcases List.head?_eq_some_iff.1 h with ⟨rest, heq⟩
      exact absurd rfl (Decimal.head_toDigits_ne hn heq)
    . have hzero : n = 0 := by
        omega
      subst hzero
      rfl

theorem numberOf_eq_ofDigitChars (digits : List Char)
    : numberOf digits = Nat.ofDigitChars 10 digits 0 := by
  rw [Nat.ofDigitChars_eq_foldl]
  rfl

theorem numberOf_toDigits (n : Nat) : numberOf (Nat.toDigits 10 n) = n := by
  rw [numberOf_eq_ofDigitChars, Nat.ofDigitChars_ten_toDigits]

theorem toDigits_numberOf {digits : List Char} (h : IsNumeral digits)
    (hdigits : ∀ c ∈ digits, c.isDigit)
    : Nat.toDigits 10 (numberOf digits) = digits := by
  rw [numberOf_eq_ofDigitChars, Decimal.toDigits_ofDigitChars h.1 hdigits h.2]

theorem parseNumber_eq_ok_iff_digits (part : Part) (text : List Char) (n : Nat) (rest : List Char)
    : parseNumber part text = .ok (n, rest)
        ↔
      let digits := text.takeWhile Char.isDigit
      IsNumeral digits ∧
      numberOf digits < 0x10000000000000000 ∧
      numberOf digits = n ∧
      text.dropWhile Char.isDigit = rest := by
  unfold parseNumber
  dsimp only
  generalize text.takeWhile Char.isDigit = digits
  generalize text.dropWhile Char.isDigit = after
  unfold IsNumeral
  split
  . simp
  . simp
  . simp
  . next hzero hend hchar =>
    have hne : digits ≠ [] := by
      intro h
      cases after with
      | nil => exact hend h rfl
      | cons c tail => exact hchar c tail h rfl
    have hhead : digits.head? = some '0' → digits = ['0'] := by
      intro h
      rcases List.head?_eq_some_iff.1 h with ⟨tail, heq⟩
      cases tail with
      | nil => exact heq
      | cons c tail => cases hzero c tail heq
    split
    . next hlt =>
      rw [Except.ok.injEq, Prod.mk.injEq]
      exact ⟨fun h => ⟨⟨hne, hhead⟩, hlt, h⟩, fun h => h.2.2⟩
    . next hlt =>
      constructor
      . intro h
        contradiction
      . rintro ⟨_, h, _⟩
        contradiction

theorem parseNumber_eq_ok_iff (part : Part) (text : List Char) (n : Nat) (rest : List Char)
    : parseNumber part text = .ok (n, rest)
        ↔
      n < 0x10000000000000000 ∧
      text = Nat.toDigits 10 n ++ rest ∧
      ¬rest.head?.any Char.isDigit := by
  rw [parseNumber_eq_ok_iff_digits]
  dsimp only
  constructor
  . rintro ⟨hnumeral, hlt, hn, hrest⟩
    subst hn hrest
    refine ⟨hlt, ?_, Text.not_any_head?_dropWhile Char.isDigit text⟩
    rw [toDigits_numberOf hnumeral (Text.forall_mem_takeWhile Char.isDigit text),
      List.takeWhile_append_dropWhile]
  . rintro ⟨hlt, htext, hrest⟩
    have hdigits : ∀ c ∈ Nat.toDigits 10 n, c.isDigit := by
      intro c hc
      exact Decimal.isDigit_of_mem_toDigits hc
    rw [htext, Text.takeWhile_append hdigits hrest, Text.dropWhile_append hdigits hrest,
      numberOf_toDigits]
    exact ⟨isNumeral_toDigits n, hlt, rfl, rfl⟩

theorem parseDot_eq_ok_iff (part : Part) (text rest : List Char)
    : parseDot part text = .ok rest ↔ text = '.' :: rest := by
  unfold parseDot
  split
  . simp
  . next c after hdot =>
    simp only [reduceCtorEq, List.cons.injEq, false_iff, not_and]
    intro hc
    exact absurd hc hdot
  . simp

theorem parseIdentifier_eq_ok_iff (part : Part) {text : List Char}
    (htext : ∀ c ∈ text, isIdentifierChar c) (identifier : String)
    : parseIdentifier part text = .ok identifier
        ↔
      String.ofList text = identifier ∧ IsIdentifier part (String.ofList text) := by
  have hchars : ∀ c ∈ (String.ofList text).toList, isIdentifierChar c := by
    rw [String.toList_ofList]
    exact htext
  unfold parseIdentifier
  split
  . constructor
    . intro h
      cases h
    . rintro ⟨_, h⟩
      exact absurd rfl h.ne_empty
  . next d rest =>
    have hne : String.ofList ('0' :: d :: rest) ≠ "" := by
      simp
    split
    . next hnumeric =>
      constructor
      . intro h
        contradiction
      . rintro ⟨_, h⟩
        have heq := h.leadingZero hnumeric.1 (by simpa [isNumeric] using hnumeric.2) (by simp)
        simp [← String.toList_inj] at heq
    . next hnumeric =>
      rw [Except.ok.injEq, iff_self_and]
      intro _
      refine ⟨hne, hchars, ?_⟩
      intro hpart hall _
      refine absurd ⟨hpart, ?_⟩ hnumeric
      simpa [isNumeric] using hall
  . next hempty hzero =>
    rw [Except.ok.injEq, iff_self_and]
    intro _
    refine ⟨?_, hchars, ?_⟩
    . intro h
      rw [← String.toList_inj, String.toList_ofList] at h
      exact hempty h
    . intro _ _ hhead
      rw [String.toList_ofList] at hhead
      rcases List.head?_eq_some_iff.1 hhead with ⟨tail, heq⟩
      cases tail with
      | nil => rw [heq]
      | cons c tail => cases hzero c tail heq

theorem mapM_parseIdentifier_eq_ok_iff (part : Part) {parts : List (List Char)}
    (hparts : ∀ text ∈ parts, ∀ c ∈ text, isIdentifierChar c) (identifiers : List String)
    : parts.mapM (parseIdentifier part) = .ok identifiers
        ↔
      parts = identifiers.map String.toList ∧
      ∀ identifier ∈ identifiers, IsIdentifier part identifier := by
  induction parts generalizing identifiers with
  | nil =>
    rw [List.mapM_nil]
    cases identifiers with
    | nil => simp [pure, Except.pure]
    | cons identifier rest => simp [pure, Except.pure]
  | cons text parts ih =>
    rcases List.forall_mem_cons.1 hparts with ⟨htext, hrest⟩
    simp only [List.mapM_cons, bind_eq_ok_iff, parseIdentifier_eq_ok_iff part htext, ih hrest]
    constructor
    . rintro ⟨identifier, ⟨hfirst, hidentifier⟩, rest, ⟨hparts, hall⟩, h⟩
      cases h
      subst hfirst
      rw [List.map_cons, String.toList_ofList, hparts, List.forall_mem_cons]
      exact ⟨rfl, hidentifier, hall⟩
    . rintro ⟨heq, hall⟩
      cases identifiers with
      | nil => contradiction
      | cons identifier rest =>
        rw [List.map_cons, List.cons.injEq] at heq
        rw [List.forall_mem_cons] at hall
        rw [heq.1, String.ofList_toList]
        exact ⟨identifier, ⟨rfl, hall.1⟩, rest, ⟨heq.2, hall.2⟩, rfl⟩

/--
What may stand in a row of identifiers.
-/
def isRowChar (c : Char) : Bool :=
  isIdentifierChar c || c = '.'

theorem dot_not_mem_identifier {part : Part} {identifier : String}
    (h : IsIdentifier part identifier)
    : '.' ∉ identifier.toList := by
  intro hdot
  have := h.isIdentifierChar '.' hdot
  contradiction

theorem writeRow_singleton (identifier : String) : writeRow [identifier] = identifier.toList := by
  simp [writeRow]

theorem writeRow_cons_cons (identifier next : String) (rest : List String)
    : writeRow (identifier :: next :: rest)
        =
      identifier.toList ++ '.' :: writeRow (next :: rest) := by
  simp [writeRow, List.intercalate_cons_cons]

theorem isRowChar_of_mem_writeRow {part : Part} {identifiers : List String}
    (h : ∀ identifier ∈ identifiers, IsIdentifier part identifier)
    : ∀ c ∈ writeRow identifiers, isRowChar c := by
  induction identifiers with
  | nil =>
    intro c hc
    contradiction
  | cons identifier rest ih =>
    rcases List.forall_mem_cons.1 h with ⟨hidentifier, hrest⟩
    have hchars : ∀ c ∈ identifier.toList, isRowChar c := by
      intro c hc
      simp [isRowChar, hidentifier.isIdentifierChar c hc]
    cases rest with
    | nil =>
      rw [writeRow_singleton]
      exact hchars
    | cons next rest =>
      rw [writeRow_cons_cons, List.forall_mem_append, List.forall_mem_cons]
      exact ⟨hchars, rfl, ih hrest⟩

theorem parseIdentifiers_eq (part : Part) (text : List Char)
    : parseIdentifiers part text
        =
      (Text.splitAt '.' (text.takeWhile isRowChar)).mapM (parseIdentifier part) >>=
        fun identifiers => .ok (identifiers, text.dropWhile isRowChar) := by
  rfl

theorem parseIdentifiers_eq_ok_iff (part : Part) (text : List Char) (identifiers : List String)
    (rest : List Char)
    : parseIdentifiers part text = .ok (identifiers, rest)
        ↔
      identifiers ≠ [] ∧
      (∀ identifier ∈ identifiers, IsIdentifier part identifier) ∧
      text = writeRow identifiers ++ rest ∧
      ¬rest.head?.any isRowChar := by
  have hparts : ∀ row ∈ Text.splitAt '.' (text.takeWhile isRowChar), ∀ c ∈ row,
      isIdentifierChar c := by
    intro row hrow c hc
    rcases Text.mem_part hrow hc with ⟨hmem, hne⟩
    have hchar := Text.forall_mem_takeWhile isRowChar text c hmem
    simpa [isRowChar, hne] using hchar
  rw [parseIdentifiers_eq, bind_eq_ok_iff]
  simp only [mapM_parseIdentifier_eq_ok_iff part hparts, Except.ok.injEq, Prod.mk.injEq]
  constructor
  . rintro ⟨_, ⟨hsplit, hall⟩, heq, hrest⟩
    subst heq hrest
    refine ⟨?_, hall, ?_, Text.not_any_head?_dropWhile isRowChar text⟩
    . intro h
      rw [h] at hsplit
      exact Text.splitAt_ne_nil '.' _ hsplit
    . unfold writeRow
      rw [← hsplit, Text.intercalate_splitAt, List.takeWhile_append_dropWhile]
  . rintro ⟨hne, hall, htext, hrest⟩
    have hrow := isRowChar_of_mem_writeRow hall
    rw [htext, Text.takeWhile_append hrow hrest, Text.dropWhile_append hrow hrest]
    refine ⟨identifiers, ⟨?_, hall⟩, rfl, rfl⟩
    apply Text.splitAt_intercalate
    . simpa using hne
    . simp only [List.forall_mem_map]
      intro identifier hidentifier
      exact dot_not_mem_identifier (hall identifier hidentifier)

theorem parseMarked_eq_ok_iff (mark : Char) (part : Part) (text : List Char)
    (identifiers : List String) (rest : List Char)
    : parseMarked mark part text = .ok (identifiers, rest)
        ↔
      (∀ identifier ∈ identifiers, IsIdentifier part identifier) ∧
      text = writeMarked mark identifiers ++ rest ∧
      (if identifiers = [] then rest.head? ≠ some mark else ¬rest.head?.any isRowChar) := by
  cases text with
  | nil =>
    cases identifiers with
    | nil => cases rest <;> simp [parseMarked]
    | cons identifier others => simp [parseMarked]
  | cons c text =>
    unfold parseMarked
    dsimp only
    by_cases hc : c = mark
    . rw [if_pos hc, parseIdentifiers_eq_ok_iff]
      subst hc
      cases identifiers with
      | nil =>
        simp only [ne_eq, not_true_eq_false, false_and, ↓reduceIte, false_iff, writeMarked_nil,
          List.nil_append]
        rintro ⟨_, hrest, hhead⟩
        rw [← hrest] at hhead
        exact hhead rfl
      | cons identifier others => simp
    . rw [if_neg hc]
      cases identifiers with
      | nil =>
        simp only [writeMarked_nil, List.nil_append, ↓reduceIte, Except.ok.injEq, Prod.mk.injEq,
          true_and, List.not_mem_nil, false_implies, implies_true]
        constructor
        . intro h
          subst h
          exact ⟨rfl, by simpa using hc⟩
        . intro h
          exact h.1
      | cons identifier others => simp [hc]

/--
A marked row begins with its mark, so that it cannot be taken for a part of what stands before it.
-/
theorem not_any_head?_writeMarked {p : Char → Bool} {mark : Char} (h : ¬p mark)
    (identifiers : List String)
    : ¬(writeMarked mark identifiers).head?.any p := by
  cases identifiers with
  | nil => simp
  | cons identifier rest => simpa using h

theorem parse_eq_ok_iff_parts (text : String) (v : Version)
    : parse text = .ok v
        ↔
      ∃ afterMajor minorOn afterMinor patchOn afterPatch buildOn,
        parseNumber .major text.toList = .ok (v.major, afterMajor) ∧
        parseDot .major afterMajor = .ok minorOn ∧
        parseNumber .minor minorOn = .ok (v.minor, afterMinor) ∧
        parseDot .minor afterMinor = .ok patchOn ∧
        parseNumber .patch patchOn = .ok (v.patch, afterPatch) ∧
        parseMarked '-' .preRelease afterPatch = .ok (v.preRelease, buildOn) ∧
        parseMarked '+' .build buildOn = .ok (v.build, []) := by
  unfold parse
  split
  . next hempty =>
    subst hempty
    constructor
    . intro h
      contradiction
    . rintro ⟨_, _, _, _, _, _, h, _⟩
      contradiction
  . simp only [bind_eq_ok_iff, Prod.exists]
    constructor
    . rintro ⟨_, _, hmajor, _, hminorOn, _, _, hminor, _, hpatchOn, _, _, hpatch, _, _, hpre,
        _, rest, hbuild, h⟩
      cases rest with
      | nil =>
        cases h
        exact ⟨_, _, _, _, _, _, hmajor, hminorOn, hminor, hpatchOn, hpatch, hpre, hbuild⟩
      | cons c tail => contradiction
    . rintro ⟨_, _, _, _, _, _, hmajor, hminorOn, hminor, hpatchOn, hpatch, hpre, hbuild⟩
      exact ⟨_, _, hmajor, _, hminorOn, _, _, hminor, _, hpatchOn, _, _, hpatch, _, _, hpre, _, _,
        hbuild, rfl⟩

/--
A text is read as a version if and only if that version is well-formed and written so.
-/
theorem parse_eq_ok_iff (text : String) (v : Version)
    : parse text = .ok v ↔ v.IsWellFormed ∧ v.write = text := by
  rw [parse_eq_ok_iff_parts]
  simp only [parseNumber_eq_ok_iff, parseDot_eq_ok_iff, parseMarked_eq_ok_iff]
  constructor
  . rintro ⟨_, _, _, _, _, _, ⟨hmajor, htext, _⟩, hminorOn, ⟨hminor, hafterMinor, _⟩, hpatchOn,
      ⟨hpatch, hafterPatch, _⟩, ⟨hpre, hbuildOn, _⟩, hbuild, hend, _⟩
    -- What each part leaves over is put together from the end.
    subst hend hbuildOn hafterPatch hpatchOn hafterMinor hminorOn
    refine ⟨⟨hmajor, hminor, hpatch, hpre, hbuild⟩, ?_⟩
    apply String.toList_inj.1
    rw [htext]
    simp [write]
  . rintro ⟨h, htext⟩
    subst htext
    have hdot : ∀ rest : List Char, ¬('.' :: rest).head?.any Char.isDigit := by
      intro rest
      simp
    have hmarks : ¬(writeMarked '-' v.preRelease ++ writeMarked '+' v.build).head?.any Char.isDigit
        := by
      cases v.preRelease with
      | nil =>
        apply not_any_head?_writeMarked
        decide
      | cons identifier rest => simp
    have hplus : if v.preRelease = [] then (writeMarked '+' v.build).head? ≠ some '-'
        else ¬(writeMarked '+' v.build).head?.any isRowChar := by
      split
      . cases v.build with
        | nil => simp
        | cons identifier rest => simp
      . apply not_any_head?_writeMarked
        decide
    refine ⟨_, _, _, _, _, _, ⟨h.major_lt, ?_, hdot _⟩, rfl, ⟨h.minor_lt, rfl, hdot _⟩, rfl,
      ⟨h.patch_lt, rfl, hmarks⟩, ⟨h.preRelease, rfl, hplus⟩, h.build, ?_, by simp⟩
    . simp [write]
    . simp

example : write ⟨1, 0, 0, ["rc", "1"], ["5"]⟩ = "1.0.0-rc.1+5" := by
  rfl

end Version

end Mahjong
