import Mahjong.SortedMap.Lemmas
import Mahjong.Theme.Overrides

/-!
This module contains what the designs of a theme become under overrides, key by key, and what a base
does to designs: it acts on each address alone, and a base that has a scheme itself acts only once.
-/

namespace Mahjong

def schemes : List String := ["http://", "https://"]

/--
Whether an address says how it is reached, so that it is complete.
-/
def HasScheme (address : String) : Prop :=
  ∃ scheme ∈ schemes, ∃ rest, address = scheme ++ rest

def EndsInSlash (base : String) : Prop :=
  ∃ start, base = start ++ "/"

theorem isPrefixOf_toList_iff (start text : String)
    : start.toList.isPrefixOf text.toList ↔ ∃ rest, text = start ++ rest := by
  rw [List.isPrefixOf_iff_prefix]
  constructor
  . rintro ⟨rest, heq⟩
    refine ⟨String.ofList rest, String.toList_inj.1 ?_⟩
    simp [heq]
  . rintro ⟨rest, heq⟩
    rw [heq, String.toList_append]
    apply List.prefix_append

instance (address : String) : Decidable (HasScheme address) :=
  decidable_of_iff (∃ scheme ∈ schemes, scheme.toList.isPrefixOf address.toList) <| by
    simp only [isPrefixOf_toList_iff, HasScheme]

theorem isAbsolute_iff (address : String)
    : isAbsolute address ↔ address = "" ∨ HasScheme address := by
  unfold isAbsolute
  rw [Bool.or_eq_true, Bool.or_eq_true, isPrefixOf_toList_iff, isPrefixOf_toList_iff, or_assoc,
    String.isEmpty_iff]
  simp [HasScheme, schemes]

theorem getLast?_eq_slash_iff (base : String)
    : base.toList.getLast? = some '/' ↔ EndsInSlash base := by
  rw [List.getLast?_eq_some_iff]
  constructor
  . rintro ⟨start, heq⟩
    refine ⟨String.ofList start, String.toList_inj.1 ?_⟩
    simp [heq]
  . rintro ⟨start, heq⟩
    exact ⟨start.toList, by simp [heq]⟩

instance (base : String) : Decidable (EndsInSlash base) :=
  decidable_of_iff _ (getLast?_eq_slash_iff base)

theorem closeBase_of_endsInSlash {base : String} (h : EndsInSlash base)
    : closeBase base = base := by
  unfold closeBase
  rw [if_pos ((getLast?_eq_slash_iff base).2 h)]

theorem closeBase_of_not_endsInSlash {base : String} (h : ¬EndsInSlash base)
    : closeBase base = base ++ "/" := by
  unfold closeBase
  rw [if_neg]
  rw [getLast?_eq_slash_iff]
  exact h

/--
What becomes of one address behind a base. An empty base stands for none.
-/
def resolveAddress (base address : String) : String :=
  if base = "" ∨ isAbsolute address then address else closeBase base ++ address

theorem resolveAddress_empty (address : String) : resolveAddress "" address = address := by
  unfold resolveAddress
  rw [if_pos (.inl rfl)]

theorem resolveAddress_of_isAbsolute (base : String) {address : String} (h : isAbsolute address)
    : resolveAddress base address = address := by
  unfold resolveAddress
  rw [if_pos (.inr h)]

theorem resolveAddress_of_relative {base address : String} (hbase : base ≠ "")
    (h : ¬isAbsolute address)
    : resolveAddress base address = closeBase base ++ address := by
  unfold resolveAddress
  rw [if_neg]
  rintro (hempty | habsolute)
  . contradiction
  . contradiction

theorem resolveDesigns_eq_map (base : Option String) (designs : SortedMap String)
    : resolveDesigns base designs = designs.map (resolveAddress (base.getD "")) := by
  have hempty : designs = designs.map (resolveAddress "") := by
    apply SortedMap.ext_get?
    intro key
    rw [SortedMap.get?_map, funext resolveAddress_empty, Option.map_id']
  unfold resolveDesigns
  cases base with
  | none => exact hempty
  | some base =>
    dsimp only [Option.getD_some]
    split
    . next h =>
      rw [String.isEmpty_iff.1 h]
      exact hempty
    . next h =>
      rw [String.isEmpty_iff] at h
      unfold resolveAddress
      simp only [h, false_or]

/--
The design that overrides hold for a key, as it is written in them.
-/
def givenDesign? (overrides : Option Overrides) (key : String) : Option String :=
  overrides.bind (·.designs.get? key)

/--
The base of overrides, empty if they have none.
-/
def givenBase (overrides : Option Overrides) : String :=
  (overrides.bind (·.baseUrl)).getD ""

theorem get?_style (theme : Theme) (overrides : Option Overrides) (key : String)
    : (theme.style overrides).designs.get? key
        =
      ((givenDesign? overrides key).map (resolveAddress (givenBase overrides))).or
        (theme.designs.get? key) := by
  cases overrides with
  | none => rfl
  | some o =>
    dsimp only [Theme.style]
    -- No key is twice among the overrides, so that the order in which they are set does not count.
    rw [SortedMap.get?_insertAll, SortedMap.lookup_reverse (SortedMap.ascending _),
      resolveDesigns_eq_map]
    congr 1
    apply SortedMap.get?_map

section

variable {theme : Theme} {overrides : Option Overrides} {key : String}

theorem get?_style_of_none (h : givenDesign? overrides key = none)
    : (theme.style overrides).designs.get? key = theme.designs.get? key := by
  rw [get?_style, h]
  rfl

theorem get?_style_of_some {address : String} (h : givenDesign? overrides key = some address)
    : (theme.style overrides).designs.get? key
        =
      some (resolveAddress (givenBase overrides) address) := by
  rw [get?_style, h]
  rfl

end

theorem style_eq_of_get? {theme other : Theme} {overrides others : Option Overrides}
    (hdesigns : ∀ key,
      (theme.style overrides).designs.get? key = (other.style others).designs.get? key)
    (hdimensions : theme.dimensions = other.dimensions)
    : theme.style overrides = other.style others := by
  have hmaps := SortedMap.ext_get? hdesigns
  unfold Theme.style at hmaps ⊢
  dsimp only at hmaps
  rw [hmaps, hdimensions]

/--
The style of a theme, key by key. Overrides win over the theme, only their designs are put behind
their base, and to apply them again changes nothing.
-/
theorem Theme.style_designs (theme : Theme) (overrides : Option Overrides)
    : let style := theme.style overrides
      let base := givenBase overrides
      (∀ key,
        style.designs.contains key
          ↔
        theme.designs.contains key ∨ (givenDesign? overrides key).isSome) ∧
      (∀ key,
        givenDesign? overrides key = none → style.designs.get? key = theme.designs.get? key) ∧
      (∀ key address,
        givenDesign? overrides key = some address →
        (base = "" ∨ address = "" ∨ HasScheme address →
          style.designs.get? key = some address) ∧
        (base ≠ "" → address ≠ "" → ¬HasScheme address →
          (EndsInSlash base → style.designs.get? key = some (base ++ address)) ∧
          (¬EndsInSlash base → style.designs.get? key = some (base ++ "/" ++ address)))) ∧
      style.dimensions = theme.dimensions ∧
      ((∀ key, givenDesign? overrides key = none) →
        style.designs = theme.designs ∧ style = theme.style none) ∧
      ∀ other : Theme,
        other.designs = style.designs → other.dimensions = theme.dimensions →
        other.style overrides = style := by
  intro style base
  refine ⟨?_, ?_, ?_, rfl, ?_, ?_⟩
  . intro key
    unfold SortedMap.contains
    rw [get?_style]
    cases givenDesign? overrides key <;> simp
  . intro key hnone
    apply get?_style_of_none hnone
  . intro key address hsome
    rw [get?_style_of_some hsome]
    constructor
    . rintro (hbase | habsolute)
      . rw [show givenBase overrides = "" from hbase, resolveAddress_empty]
      . rw [resolveAddress_of_isAbsolute _ ((isAbsolute_iff address).2 habsolute)]
    . intro hbase hempty hscheme
      have hrelative : ¬isAbsolute address := by
        rw [isAbsolute_iff, not_or]
        exact ⟨hempty, hscheme⟩
      rw [resolveAddress_of_relative hbase hrelative]
      constructor
      . intro hslash
        rw [closeBase_of_endsInSlash hslash]
      . intro hslash
        rw [closeBase_of_not_endsInSlash hslash]
  . intro hnone
    constructor
    . apply SortedMap.ext_get?
      intro key
      exact get?_style_of_none (hnone key)
    . apply style_eq_of_get? _ rfl
      intro key
      rw [get?_style_of_none (hnone key)]
      rfl
  . intro other hdesigns hdimensions
    apply style_eq_of_get? _ hdimensions
    intro key
    rw [get?_style other, hdesigns, get?_style, ← Option.or_assoc, Option.or_self]

/--
Overrides with one address that is relative to their base and one that is not.
-/
def Overrides.mirror : Overrides where
  baseUrl := some "https://tiles"
  designs := .ofList [("1m", "man.svg"), ("x", "http://back")]

theorem Theme.style_designs_mirror
    : let theme := { Theme.builtin with designs := .ofList [("1m", "1m.svg"), ("base", "b.svg")] }
      let style := theme.style (some .mirror)
      style.designs.get? "1m" = some "https://tiles/man.svg" ∧
      style.designs.get? "x" = some "http://back" ∧
      style.designs.get? "base" = some "b.svg" ∧
      { theme with designs := style.designs }.style (some .mirror) = style ∧
      theme.style (some { baseUrl := some "https://tiles" }) = theme.style none := by
  intro theme style
  rcases theme.style_designs (some .mirror) with ⟨_, hnone, hsome, _, _, hagain⟩
  refine ⟨?_, ?_, ?_, ?_, ?_⟩
  . apply ((hsome "1m" "man.svg" rfl).2 (by decide) (by decide) (by decide)).2
    decide
  . apply (hsome "x" "http://back" rfl).1
    decide
  . exact hnone "base" rfl
  . exact hagain _ rfl rfl
  . apply ((theme.style_designs (some { baseUrl := some "https://tiles" })).2.2.2.2.1 _).2
    intro key
    rfl

theorem HasScheme.ne_empty {address : String} (h : HasScheme address) : address ≠ "" := by
  rcases h with ⟨scheme, hscheme, rest, heq⟩
  rw [heq]
  simp only [schemes, List.mem_cons, List.not_mem_nil, or_false] at hscheme
  rcases hscheme with heq | heq <;> simp [heq]

theorem HasScheme.append {address : String} (h : HasScheme address) (rest : String)
    : HasScheme (address ++ rest) := by
  rcases h with ⟨scheme, hscheme, start, heq⟩
  exact ⟨scheme, hscheme, start ++ rest, by rw [heq, String.append_assoc]⟩

theorem hasScheme_of_push {text : String} {c : Char} (h : HasScheme (text.push c))
    (hne : text.push c ∉ schemes)
    : HasScheme text := by
  rcases h with ⟨scheme, hscheme, hrest⟩
  refine ⟨scheme, hscheme, ?_⟩
  rw [← isPrefixOf_toList_iff, List.isPrefixOf_iff_prefix] at hrest ⊢
  -- What begins a text and one more character begins the text, if it is not all of it.
  rw [String.toList_push, List.prefix_concat_iff, ← String.toList_push, String.toList_inj] at hrest
  rcases hrest with heq | hprefix
  . rw [← heq] at hne
    contradiction
  . exact hprefix

/--
Schemes end in two slashes.
-/
theorem endsInSlash_of_push_mem_schemes {text : String} {c : Char} (h : text.push c ∈ schemes)
    : EndsInSlash text ∧ c = '/' := by
  have hschemes : schemes = [("http:" ++ "/").push '/', ("https:" ++ "/").push '/'] := by
    rfl
  simp only [hschemes, List.mem_cons, List.not_mem_nil, or_false, String.push_inj] at h
  rcases h with ⟨heq, hc⟩ | ⟨heq, hc⟩
  . exact ⟨⟨_, heq⟩, hc⟩
  . exact ⟨⟨_, heq⟩, hc⟩

/--
The slash that closes a base does not make a scheme of it.
-/
theorem hasScheme_closeBase_iff (base : String) : HasScheme (closeBase base) ↔ HasScheme base := by
  by_cases hslash : EndsInSlash base
  . rw [closeBase_of_endsInSlash hslash]
  . rw [closeBase_of_not_endsInSlash hslash]
    constructor
    . intro h
      apply @hasScheme_of_push base '/' h
      intro hmem
      exact hslash (endsInSlash_of_push_mem_schemes hmem).1
    . intro h
      exact h.append "/"

/--
An address that a base with a scheme was put before stays as it is under any other base.
-/
theorem resolveAddress_resolveAddress {base : String} (hbase : HasScheme base)
    (again address : String)
    : resolveAddress again (resolveAddress base address) = resolveAddress base address := by
  apply resolveAddress_of_isAbsolute
  by_cases habsolute : isAbsolute address
  . rw [resolveAddress_of_isAbsolute base habsolute]
    exact habsolute
  . rw [resolveAddress_of_relative hbase.ne_empty habsolute, isAbsolute_iff]
    exact .inr (((hasScheme_closeBase_iff base).2 hbase).append address)

theorem resolveAddress_slash {base : String} (hbase : base ≠ "") (hslash : ¬EndsInSlash base)
    (address : String)
    : resolveAddress (base ++ "/") address = resolveAddress base address := by
  have hne : base ++ "/" ≠ "" := by
    simp
  have hclose : closeBase (base ++ "/") = closeBase base := by
    rw [closeBase_of_endsInSlash ⟨base, rfl⟩, closeBase_of_not_endsInSlash hslash]
  unfold resolveAddress
  simp only [hbase, hne, hclose]

/--
Under a base without a scheme, an address that ends in a letter stays relative, so that another base
is put before it.
-/
theorem resolveAddress_resolveAddress_ne {base : String} (hbase : ¬HasScheme base)
    : resolveAddress "b" (resolveAddress base "a") ≠ resolveAddress base "a" := by
  have hletter : ¬isAbsolute "a" := by
    decide
  have hrelative : ¬isAbsolute (resolveAddress base "a") := by
    by_cases hempty : base = ""
    . rw [hempty, resolveAddress_empty]
      exact hletter
    . rw [resolveAddress_of_relative hempty hletter, isAbsolute_iff]
      rintro (heq | hscheme)
      . simp at heq
      . rw [show closeBase base ++ "a" = (closeBase base).push 'a' from rfl] at hscheme
        apply hbase
        rw [← hasScheme_closeBase_iff]
        apply hasScheme_of_push hscheme
        intro hmem
        have hc := (endsInSlash_of_push_mem_schemes hmem).2
        contradiction
  rw [resolveAddress_of_relative (by decide) hrelative]
  intro heq
  have := congrArg String.length heq
  simp [closeBase] at this

/--
The laws of a base: the keys stay, its slash may be left out, and it acts once and for all if and
only if it has a scheme.
-/
theorem resolveDesigns_laws
    : (∀ base designs, (resolveDesigns base designs).keys = designs.keys) ∧
      (∀ base designs,
        base ≠ "" → ¬EndsInSlash base →
        resolveDesigns (some base) designs = resolveDesigns (some (base ++ "/")) designs) ∧
      ∀ base,
        HasScheme base
          ↔
        ∀ again designs,
          resolveDesigns again (resolveDesigns (some base) designs)
            =
          resolveDesigns (some base) designs := by
  refine ⟨?_, ?_, ?_⟩
  . intro base designs
    rw [resolveDesigns_eq_map]
    simp [SortedMap.keys, SortedMap.map]
  . intro base designs hbase hslash
    rw [resolveDesigns_eq_map, resolveDesigns_eq_map]
    dsimp only [Option.getD_some]
    rw [funext (resolveAddress_slash hbase hslash)]
  . intro base
    simp only [resolveDesigns_eq_map, Option.getD_some]
    constructor
    . intro hbase again designs
      apply SortedMap.ext_get?
      intro key
      rw [SortedMap.get?_map, SortedMap.get?_map, Option.map_map]
      congr 1
      funext address
      apply resolveAddress_resolveAddress hbase
    . intro h
      apply Decidable.byContradiction
      intro hbase
      apply resolveAddress_resolveAddress_ne hbase
      -- One relative address is enough to tell.
      have hget := congrArg (·.get? "x") (h (some "b") (SortedMap.empty.insert "x" "a"))
      simpa [SortedMap.get?_map] using hget

theorem resolveDesigns_laws_mirror
    : let designs := Overrides.mirror.designs
      let resolved := resolveDesigns (some "https://tiles") designs
      resolved = resolveDesigns (some "https://tiles/") designs ∧
      resolveDesigns (some "http://other") resolved = resolved ∧
      resolveDesigns none resolved = resolved ∧
      ∃ again others,
        resolveDesigns again (resolveDesigns (some "tiles") others)
          ≠
        resolveDesigns (some "tiles") others := by
  intro designs resolved
  rcases resolveDesigns_laws with ⟨_, hslash, honce⟩
  refine ⟨?_, ?_, ?_, ?_⟩
  . apply hslash
    . decide
    . decide
  . apply (honce "https://tiles").1
    decide
  . apply (honce "https://tiles").1
    decide
  . have hnot := mt (honce "tiles").2 (by decide)
    simpa only [Classical.not_forall] using hnot

end Mahjong
