import Mahjong.Proofs.Json.Token
import Mahjong.Text.Blank

/-!
This module contains a scan of texts that only tells what stands inside of strings and how deep it
is nested. A compact text is passed over from any depth, it has no blanks outside of strings, and it
cannot be divided at a colon so that what follows is a compact text as well.
-/

namespace Mahjong.Json

/--
Where a character stands.
-/
inductive Region where
  | outside
  | inside
  /-- Inside, right after a backslash. -/
  | escaped
deriving DecidableEq

def Region.next (region : Region) (c : Char) : Region :=
  match region with
  | .outside => if c = '"' then .inside else .outside
  | .inside => if c = '"' then .outside else if c = '\\' then .escaped else .inside
  | .escaped => .inside

/--
The characters of a text that stand outside of strings.
-/
def outsideStrings (region : Region) : List Char → List Char
  | [] => []
  | c :: rest =>
    let others := outsideStrings (region.next c) rest
    if region = .outside then c :: others else others

/--
What is open after some characters of a text.
-/
structure Outline where
  region : Region := .outside
  depth : Nat := 0

namespace Outline

/--
The depth after a character outside of strings. A colon stands inside of some brackets.
-/
def nextDepth? (depth : Nat) (c : Char) : Option Nat :=
  if c = '[' ∨ c = '{' then some (depth + 1)
  else if c = ']' ∨ c = '}' then if depth = 0 then none else some (depth - 1)
  else if c = ':' ∧ depth = 0 then none
  else if c = '\\' ∨ Text.isBlank c then none
  else some depth

def next? (outline : Outline) (c : Char) : Option Outline :=
  if outline.region = .outside then
    (nextDepth? outline.depth c).map fun depth => { region := outline.region.next c, depth }
  else
    some { outline with region := outline.region.next c }

theorem run?_cons_inside (c : Char) (region : Region) (hregion : region ≠ .outside) (depth : Nat)
    (rest : List Char)
    : run? next? ⟨region, depth⟩ (c :: rest) = run? next? ⟨region.next c, depth⟩ rest := by
  rw [run?_cons]
  unfold next?
  rw [if_neg hregion]
  rfl

/--
Characters that mean nothing here. Among them are those of numbers and words, and the comma.
-/
def IsPlain (c : Char) : Prop :=
  43 ≤ c.toNat ∧ c.toNat ≤ 57 ∨ 97 ≤ c.toNat ∧ c.toNat ≤ 122

theorem isPlain_of_isDigit {c : Char} (h : c.isDigit) : IsPlain c := by
  rw [Char.isDigit_iff_toNat] at h
  have hlow : '0'.toNat = 48 := by rfl
  have hhigh : '9'.toNat = 57 := by rfl
  unfold IsPlain
  omega

theorem isPlain_of_isNumberChar {c : Char} (h : Decimal.IsNumberChar c) : IsPlain c := by
  rcases h with h | h | h | h | h
  . exact isPlain_of_isDigit h
  . exact h ▸ .inl (by decide)
  . exact h ▸ .inl (by decide)
  . exact h ▸ .inl (by decide)
  . exact h ▸ .inr (by decide)

theorem next?_of_isPlain {c : Char} (h : IsPlain c) (depth : Nat)
    : next? ⟨.outside, depth⟩ c = some ⟨.outside, depth⟩ := by
  have hne : ∀ d : Char, d.toNat < 43 ∨ 57 < d.toNat ∧ d.toNat < 97 ∨ 122 < d.toNat → c ≠ d := by
    intro d hd hc
    subst hc
    unfold IsPlain at h
    omega
  have hblank : Text.isBlank c = false := by
    unfold IsPlain at h
    simp [Text.isBlank]
    omega
  have hquote := hne '"' (by decide)
  have hdepth : nextDepth? depth c = some depth := by
    unfold nextDepth?
    simp [hblank, hne '[' (by decide), hne '{' (by decide), hne ']' (by decide),
      hne '}' (by decide), hne ':' (by decide), hne '\\' (by decide)]
  simp [next?, hdepth, Region.next, hquote]

theorem run?_plain {text : List Char} (h : ∀ c ∈ text, IsPlain c) (depth : Nat)
    : run? next? ⟨.outside, depth⟩ text = some ⟨.outside, depth⟩ := by
  apply run?_of_fixed
  intro c hc
  exact next?_of_isPlain (h c hc) depth

theorem run?_unescaped {text : List Char} (h : ∀ c ∈ text, c ≠ '"' ∧ c ≠ '\\') (depth : Nat)
    : run? next? ⟨.inside, depth⟩ text = some ⟨.inside, depth⟩ := by
  apply run?_of_fixed
  intro c hc
  simp [next?, Region.next, h c hc]

theorem run?_hexPadded (width n depth : Nat)
    : run? next? ⟨.inside, depth⟩ (Text.hexPadded width n) = some ⟨.inside, depth⟩ := by
  have hdigit : ∀ m < 16, m.digitChar ≠ '"' ∧ m.digitChar ≠ '\\' := by
    decide
  induction width generalizing n with
  | zero => rfl
  | succ width ih =>
    unfold Text.hexPadded
    rw [run?_append, ih, Option.bind_some]
    apply run?_unescaped
    simp [hdigit (n % 16) (by omega)]

theorem run?_escapeChar (c : Char) (depth : Nat)
    : run? next? ⟨.inside, depth⟩ (escapeChar c) = some ⟨.inside, depth⟩ := by
  have hescaped : ∀ letter rest, run? next? ⟨.inside, depth⟩ ('\\' :: letter :: rest)
      =
    run? next? ⟨.inside, depth⟩ rest := by
    intro letter rest
    rw [run?_cons_inside _ _ (by decide), run?_cons_inside _ _ (by decide)]
    rfl
  rcases escapeChar_cases c with ⟨letter, heq, _⟩ | ⟨_, heq⟩ | ⟨hquote, hbackslash, _, heq⟩
  . rw [heq, hescaped, run?_nil]
  . rw [heq, hescaped, run?_hexPadded]
  . rw [heq]
    apply run?_unescaped
    simp [hquote, hbackslash]

theorem run?_writeString (s : String) (depth : Nat)
    : run? next? ⟨.outside, depth⟩ (writeString s) = some ⟨.outside, depth⟩ := by
  have hbody : ∀ chars : List Char, run? next? ⟨.inside, depth⟩ (chars.flatMap escapeChar)
      =
    some ⟨.inside, depth⟩ := by
    intro chars
    induction chars with
    | nil => rfl
    | cons c chars ih =>
      rw [List.flatMap_cons, run?_append, run?_escapeChar, Option.bind_some, ih]
  have hquote : ∀ region, next? ⟨region, depth⟩ '"' = some ⟨region.next '"', depth⟩ := by
    intro region
    cases region with
    | outside => rfl
    | inside => rfl
    | escaped => rfl
  unfold writeString
  rw [List.cons_append, run?_cons, hquote, Option.bind_some, run?_append]
  simp only [Region.next, if_true, hbody, Option.bind_some, run?_cons, hquote]
  rfl

theorem isPlain_of_mem_writeInt (n : Int) : ∀ c ∈ writeInt n, IsPlain c := by
  have hdigits : ∀ c ∈ Nat.toDigits 10 n.natAbs, IsPlain c := by
    intro c hc
    exact isPlain_of_isDigit (Decimal.isDigit_of_mem_toDigits hc)
  unfold writeInt
  dsimp only
  split
  . exact List.forall_mem_cons.2 ⟨.inl (by decide), hdigits⟩
  . exact hdigits

theorem run?_writeInt (n : Int) (depth : Nat)
    : run? next? ⟨.outside, depth⟩ (writeInt n) = some ⟨.outside, depth⟩ := by
  exact run?_plain (isPlain_of_mem_writeInt n) depth

theorem isPlain_of_mem_writeFloat (x : Float) : ∀ c ∈ writeFloat x, IsPlain c := by
  have hend : ∀ c ∈ Decimal.Format.scientific.wholeEnd, Decimal.IsNumberChar c := by
    intro c hc
    rcases List.mem_cons.1 hc with hc | hc
    . exact hc ▸ .inr (.inr (.inr (.inl rfl)))
    . rw [List.mem_singleton.1 hc]
      exact .inl rfl
  unfold writeFloat
  split
  . intro c hc
    exact isPlain_of_isNumberChar (Decimal.isNumberChar_of_mem_writeFinite hend c hc)
  . simp [IsPlain]

theorem run?_writeFloat (x : Float) (depth : Nat)
    : run? next? ⟨.outside, depth⟩ (writeFloat x) = some ⟨.outside, depth⟩ := by
  exact run?_plain (isPlain_of_mem_writeFloat x) depth

mutual

theorem run?_write (depth level : Nat) (v : Value)
    : run? next? ⟨.outside, depth⟩ (v.write .compact level) = some ⟨.outside, depth⟩ := by
  cases v with
  | null => rfl
  | bool b =>
    cases b with
    | false => rfl
    | true => rfl
  | int n =>
    unfold Value.write
    exact run?_writeInt n depth
  | float x =>
    unfold Value.write
    exact run?_writeFloat x depth
  | string s =>
    unfold Value.write
    exact run?_writeString s depth
  | array elements =>
    cases elements with
    | nil => rfl
    | cons v rest =>
      have htext : Value.write .compact level (.array (v :: rest))
          =
        '[' :: (v.write .compact (level + 1) ++
          (writeElements .compact (level + 1) rest ++ [']'])) := by
        simp [Value.write, Spacing.compact]
      have hopen : next? ⟨.outside, depth⟩ '[' = some ⟨.outside, depth + 1⟩ := by
        rfl
      have hclose : run? next? ⟨.outside, depth + 1⟩ [']'] = some ⟨.outside, depth⟩ := by
        rfl
      rw [htext, run?_cons, hopen, Option.bind_some, run?_append, run?_write, Option.bind_some,
        run?_append, run?_writeElements, Option.bind_some, hclose]
  | object members =>
    cases members with
    | nil => rfl
    | cons member rest =>
      rcases member with ⟨key, v⟩
      have htext : Value.write .compact level (.object ((key, v) :: rest))
          =
        '{' :: (writeString key ++ ':' :: (v.write .compact (level + 1) ++
          (writeMembers .compact (level + 1) rest ++ ['}']))) := by
        simp [Value.write, Spacing.compact]
      have hopen : next? ⟨.outside, depth⟩ '{' = some ⟨.outside, depth + 1⟩ := by
        rfl
      have hcolon : next? ⟨.outside, depth + 1⟩ ':' = some ⟨.outside, depth + 1⟩ := by
        rfl
      have hclose : run? next? ⟨.outside, depth + 1⟩ ['}'] = some ⟨.outside, depth⟩ := by
        rfl
      rw [htext, run?_cons, hopen, Option.bind_some, run?_append, run?_writeString,
        Option.bind_some, run?_cons, hcolon, Option.bind_some, run?_append, run?_write,
        Option.bind_some, run?_append, run?_writeMembers, Option.bind_some, hclose]

theorem run?_writeElements (depth level : Nat) (elements : List Value)
    : run? next? ⟨.outside, depth + 1⟩ (writeElements .compact level elements)
        =
      some ⟨.outside, depth + 1⟩ := by
  cases elements with
  | nil => rfl
  | cons v rest =>
    have htext : writeElements .compact level (v :: rest)
        =
      ',' :: (v.write .compact level ++ writeElements .compact level rest) := by
      simp [writeElements, Spacing.compact]
    have hcomma : next? ⟨.outside, depth + 1⟩ ',' = some ⟨.outside, depth + 1⟩ := by
      rfl
    rw [htext, run?_cons, hcomma, Option.bind_some, run?_append, run?_write, Option.bind_some,
      run?_writeElements]

theorem run?_writeMembers (depth level : Nat) (members : List (String × Value))
    : run? next? ⟨.outside, depth + 1⟩ (writeMembers .compact level members)
        =
      some ⟨.outside, depth + 1⟩ := by
  cases members with
  | nil => rfl
  | cons member rest =>
    rcases member with ⟨key, v⟩
    have htext : writeMembers .compact level ((key, v) :: rest)
        =
      ',' :: (writeString key ++ ':' :: (v.write .compact level ++
        writeMembers .compact level rest)) := by
      simp [writeMembers, Spacing.compact]
    have hcomma : next? ⟨.outside, depth + 1⟩ ',' = some ⟨.outside, depth + 1⟩ := by
      rfl
    have hcolon : next? ⟨.outside, depth + 1⟩ ':' = some ⟨.outside, depth + 1⟩ := by
      rfl
    rw [htext, run?_cons, hcomma, Option.bind_some, run?_append, run?_writeString,
      Option.bind_some, run?_cons, hcolon, Option.bind_some, run?_append, run?_write,
      Option.bind_some, run?_writeMembers]

end

theorem region_of_next? {outline next : Outline} {c : Char} (h : outline.next? c = some next)
    : next.region = outline.region.next c := by
  unfold next? at h
  split at h
  . rcases Option.map_eq_some_iff.1 h with ⟨depth, _, heq⟩
    rw [← heq]
  . rw [← Option.some.inj h]

theorem nextDepth?_of_next? {outline next : Outline} {c : Char} (h : outline.next? c = some next)
    (houtside : outline.region = .outside)
    : nextDepth? outline.depth c = some next.depth := by
  unfold next? at h
  rw [if_pos houtside] at h
  rcases Option.map_eq_some_iff.1 h with ⟨depth, hdepth, heq⟩
  rw [hdepth, ← heq]

theorem isBlank_of_mem_outsideStrings {outline last : Outline} {text : List Char}
    (h : run? next? outline text = some last)
    : ∀ c ∈ outsideStrings outline.region text, Text.isBlank c = false := by
  induction text generalizing outline with
  | nil =>
    intro c hc
    contradiction
  | cons c text ih =>
    rw [run?_cons] at h
    rcases Option.bind_eq_some_iff.1 h with ⟨next, hnext, hrun⟩
    have hrest := ih hrun
    rw [region_of_next? hnext] at hrest
    unfold outsideStrings
    dsimp only
    split
    . next houtside =>
      refine List.forall_mem_cons.2 ⟨?_, hrest⟩
      have hdepth := nextDepth?_of_next? hnext houtside
      unfold nextDepth? at hdepth
      split at hdepth
      . next hc =>
        rcases hc with hc | hc
        . exact hc ▸ rfl
        . exact hc ▸ rfl
      split at hdepth
      . next hc =>
        rcases hc with hc | hc
        . exact hc ▸ rfl
        . exact hc ▸ rfl
      split at hdepth
      . contradiction
      split at hdepth
      . contradiction
      . next hc =>
        rw [not_or] at hc
        simpa using hc.2
    . exact hrest

def Opposite (a b : Outline) : Prop :=
  (a.region = .outside ∧ b.region = .inside) ∨ (a.region = .inside ∧ b.region = .outside)

theorem ne_backslash_of_next? {outline next : Outline} {c : Char}
    (h : outline.next? c = some next) (houtside : outline.region = .outside)
    : c ≠ '\\' := by
  intro hc
  subst hc
  have hdepth := nextDepth?_of_next? h houtside
  simp [nextDepth?] at hdepth

theorem opposite_of_next? {a b a' b' : Outline} (h : Opposite a b) {c : Char}
    (ha : a.next? c = some a') (hb : b.next? c = some b')
    : Opposite a' b' := by
  unfold Opposite
  rw [region_of_next? ha, region_of_next? hb]
  -- A quote changes the sides, and a backslash would be outside of strings for one of the scans.
  rcases h with ⟨houtside, hinside⟩ | ⟨hinside, houtside⟩
  . have hc := ne_backslash_of_next? ha houtside
    rw [houtside, hinside]
    by_cases hquote : c = '"'
    . simp [Region.next, hquote]
    . simp [Region.next, hquote, hc]
  . have hc := ne_backslash_of_next? hb houtside
    rw [houtside, hinside]
    by_cases hquote : c = '"'
    . simp [Region.next, hquote]
    . simp [Region.next, hquote, hc]

theorem opposite_of_run? {a b a' b' : Outline} (h : Opposite a b) {text : List Char}
    (ha : run? next? a text = some a') (hb : run? next? b text = some b')
    : Opposite a' b' := by
  induction text generalizing a b with
  | nil =>
    rw [← Option.some.inj ha, ← Option.some.inj hb]
    exact h
  | cons c text ih =>
    rw [run?_cons] at ha hb
    rcases Option.bind_eq_some_iff.1 ha with ⟨na, hna, ha⟩
    rcases Option.bind_eq_some_iff.1 hb with ⟨nb, hnb, hb⟩
    exact ih (opposite_of_next? h hna hnb) ha hb

theorem not_run?_append_colon {before rest : List Char}
    (hrest : ∀ depth, run? next? ⟨.outside, depth⟩ rest = some ⟨.outside, depth⟩)
    : run? next? {} (before ++ ':' :: rest) ≠ some {} := by
  intro h
  rw [run?_append] at h
  rcases Option.bind_eq_some_iff.1 h with ⟨⟨region, depth⟩, _, hcolon⟩
  rw [run?_cons] at hcolon
  rcases Option.bind_eq_some_iff.1 hcolon with ⟨next, hnext, hrun⟩
  -- A colon outside of strings is deeper than the end. One inside has `rest` end outside of strings
  -- from both sides of a quote.
  by_cases houtside : region = .outside
  . subst houtside
    cases depth with
    | zero => contradiction
    | succ depth =>
      have hsame : next? ⟨.outside, depth + 1⟩ ':' = some ⟨.outside, depth + 1⟩ := by
        rfl
      rw [hsame, Option.some.injEq] at hnext
      rw [← hnext, hrest, Option.some.injEq, Outline.mk.injEq] at hrun
      exact Nat.succ_ne_zero depth hrun.2
  . have hregion := region_of_next? hnext
    have hinside : next.region = .inside := by
      cases region with
      | outside => contradiction
      | inside => exact hregion
      | escaped => exact hregion
    have hopposite : Opposite {} next := .inl ⟨rfl, hinside⟩
    have hend := opposite_of_run? hopposite (hrest 0) hrun
    rcases hend with ⟨_, hend⟩ | ⟨hend, _⟩
    . contradiction
    . contradiction

end Outline

end Mahjong.Json
