import Mahjong.Proofs.Json.Token
import Mahjong.Proofs.Json.Tree

/-!
This module contains the proof that the text of a value, with any blanks between its parts, reads as
the value.
-/

namespace Mahjong.Json

/--
Spacing between the parts of a text that means nothing.
-/
structure Spacing.IsBlank (spacing : Spacing) : Prop where
  newLine : ∀ depth, ∀ c ∈ spacing.newLine depth, Token.IsSpace c
  afterColon : ∀ c ∈ spacing.afterColon, Token.IsSpace c

namespace Spacing

theorem isBlank_compact : compact.IsBlank where
  newLine := by simp [compact]
  afterColon := by simp [compact]

theorem isBlank_indented : indented.IsBlank where
  newLine := by simp [indented, Token.IsSpace]
  afterColon := by simp [indented, Token.IsSpace]

end Spacing

namespace Token

theorem ends_cons {c : Char} (h : IsDelimiter c) (rest : List Char) : Ends (c :: rest) := by
  intro d hd
  rw [← Option.some.inj hd]
  exact h

theorem ends_spaces {spaces rest : List Char} (h : ∀ c ∈ spaces, IsSpace c) (hends : Ends rest)
    : Ends (spaces ++ rest) := by
  cases spaces with
  | nil => exact hends
  | cons c spaces =>
    apply ends_cons
    exact .inr (.inr (.inr (h c (by simp))))

theorem ends_writeElements (spacing : Spacing) (depth : Nat) (elements : List Value)
    {rest : List Char} (hends : Ends rest)
    : Ends (writeElements spacing depth elements ++ rest) := by
  unfold writeElements
  cases elements with
  | nil => exact hends
  | cons v elements =>
    apply ends_cons
    exact .inl rfl

theorem ends_writeMembers (spacing : Spacing) (depth : Nat) (members : List (String × Value))
    {rest : List Char} (hends : Ends rest)
    : Ends (writeMembers spacing depth members ++ rest) := by
  unfold writeMembers
  cases members with
  | nil => exact hends
  | cons member members =>
    apply ends_cons
    exact .inl rfl

theorem scan?_writeFloat (x : Float) {rest : List Char} (hends : Ends rest)
    : scan? .blank (writeFloat x ++ rest)
        =
      (scan? .blank rest).map ((Value.float x).tree.tokens ++ ·) := by
  unfold Value.tree
  cases hnumeral : Numeral.ofText? (writeFloat x) with
  | some numeral => exact scan?_numeral hnumeral hends
  | none =>
    have hnull : writeFloat x = ['n', 'u', 'l', 'l'] := by
      unfold writeFloat at *
      split at hnumeral
      . next hfinite =>
        rcases Numeral.ofText?_writeFinite hfinite with ⟨numeral, htext, _⟩
        rw [htext] at hnumeral
        contradiction
      . next hfinite => rw [if_neg hfinite]
    rw [hnull]
    exact scan?_null rest

section

variable {spacing : Spacing} (hspacing : spacing.IsBlank)
include hspacing

mutual

theorem scan?_write (depth : Nat) (v : Value) {rest : List Char} (hends : Ends rest)
    : scan? .blank (v.write spacing depth ++ rest)
        =
      (scan? .blank rest).map (v.tree.tokens ++ ·) := by
  cases v with
  | null =>
    unfold Value.write Value.tree
    exact scan?_null rest
  | bool b =>
    cases b with
    | false =>
      unfold Value.write Value.tree
      exact scan?_false rest
    | true =>
      unfold Value.write Value.tree
      exact scan?_true rest
  | int n =>
    unfold Value.write Value.tree
    exact scan?_numeral (Numeral.ofText?_writeInt n) hends
  | float x =>
    unfold Value.write
    exact scan?_writeFloat x hends
  | string s =>
    unfold Value.write Value.tree
    exact scan?_writeString s rest
  | array elements =>
    have hopen := fun rest => @scan?_cons .blank .blank '[' [.openArray] rfl rest
    have hclose := @scan?_cons .blank .blank ']' [.closeArray] rfl rest
    cases elements with
    | nil =>
      simp [Value.write, Value.tree, elementTrees, Tree.tokens, hopen, hclose, Function.comp_def]
    | cons v elements =>
      have hend : Ends (spacing.newLine depth ++ ']' :: rest) := by
        apply ends_spaces (hspacing.newLine depth)
        apply ends_cons
        exact .inr (.inl rfl)
      have htext : Value.write spacing depth (.array (v :: elements)) ++ rest
          =
        '[' :: (spacing.newLine (depth + 1) ++ (v.write spacing (depth + 1) ++
          (writeElements spacing (depth + 1) elements ++
            (spacing.newLine depth ++ ']' :: rest)))) := by
        simp [Value.write]
      rw [htext, hopen, scan?_spaces (hspacing.newLine (depth + 1)),
        scan?_write (depth + 1) v (ends_writeElements spacing (depth + 1) elements hend),
        scan?_writeElements (depth + 1) elements hend, scan?_spaces (hspacing.newLine depth),
        hclose]
      simp [Value.tree, elementTrees, Tree.tokens, Function.comp_def]
  | object members =>
    have hopen := fun rest => @scan?_cons .blank .blank '{' [.openObject] rfl rest
    have hclose := @scan?_cons .blank .blank '}' [.closeObject] rfl rest
    cases members with
    | nil =>
      simp [Value.write, Value.tree, memberTrees, Tree.tokens, hopen, hclose, Function.comp_def]
    | cons member members =>
      rcases member with ⟨key, v⟩
      have hend : Ends (spacing.newLine depth ++ '}' :: rest) := by
        apply ends_spaces (hspacing.newLine depth)
        apply ends_cons
        exact .inr (.inr (.inl rfl))
      have htext : Value.write spacing depth (.object ((key, v) :: members)) ++ rest
          =
        '{' :: (spacing.newLine (depth + 1) ++ (writeString key ++ ':' :: (spacing.afterColon ++
          (v.write spacing (depth + 1) ++ (writeMembers spacing (depth + 1) members ++
            (spacing.newLine depth ++ '}' :: rest)))))) := by
        simp [Value.write]
      rw [htext, hopen, scan?_spaces (hspacing.newLine (depth + 1)), scan?_writeString,
        @scan?_cons .blank .blank ':' [.colon] rfl, scan?_spaces hspacing.afterColon,
        scan?_write (depth + 1) v (ends_writeMembers spacing (depth + 1) members hend),
        scan?_writeMembers (depth + 1) members hend, scan?_spaces (hspacing.newLine depth),
        hclose]
      simp [Value.tree, memberTrees, Tree.tokens, Function.comp_def]

theorem scan?_writeElements (depth : Nat) (elements : List Value) {rest : List Char}
    (hends : Ends rest)
    : scan? .blank (writeElements spacing depth elements ++ rest)
        =
      (scan? .blank rest).map (Tree.elementTokens (elementTrees elements) ++ ·) := by
  cases elements with
  | nil => simp [writeElements, elementTrees, Tree.elementTokens]
  | cons v elements =>
    have hcomma := fun rest => @scan?_cons .blank .blank ',' [.comma] rfl rest
    have htext : writeElements spacing depth (v :: elements) ++ rest
        =
      ',' :: (spacing.newLine depth ++ (v.write spacing depth ++
        (writeElements spacing depth elements ++ rest))) := by
      simp [writeElements]
    rw [htext, hcomma, scan?_spaces (hspacing.newLine depth),
      scan?_write depth v (ends_writeElements spacing depth elements hends),
      scan?_writeElements depth elements hends]
    simp [elementTrees, Tree.elementTokens, Function.comp_def]

theorem scan?_writeMembers (depth : Nat) (members : List (String × Value)) {rest : List Char}
    (hends : Ends rest)
    : scan? .blank (writeMembers spacing depth members ++ rest)
        =
      (scan? .blank rest).map (Tree.memberTokens (memberTrees members) ++ ·) := by
  cases members with
  | nil => simp [writeMembers, memberTrees, Tree.memberTokens]
  | cons member members =>
    rcases member with ⟨key, v⟩
    have hcomma := fun rest => @scan?_cons .blank .blank ',' [.comma] rfl rest
    have htext : writeMembers spacing depth ((key, v) :: members) ++ rest
        =
      ',' :: (spacing.newLine depth ++ (writeString key ++ ':' :: (spacing.afterColon ++
        (v.write spacing depth ++ (writeMembers spacing depth members ++ rest))))) := by
      simp [writeMembers]
    rw [htext, hcomma, scan?_spaces (hspacing.newLine depth), scan?_writeString,
      @scan?_cons .blank .blank ':' [.colon] rfl, scan?_spaces hspacing.afterColon,
      scan?_write depth v (ends_writeMembers spacing depth members hends),
      scan?_writeMembers depth members hends]
    simp [memberTrees, Tree.memberTokens, Function.comp_def]

end

end

end Token

theorem Tree.ofText?_write {spacing : Spacing} (hspacing : spacing.IsBlank) (depth : Nat)
    (v : Value)
    : Tree.ofText? (String.ofList (v.write spacing depth)) = some v.tree := by
  have hends : Token.Ends [] := by
    intro c hc
    contradiction
  have hscan := Token.scan?_write hspacing depth v hends
  unfold Tree.ofText? Token.ofText?
  rw [List.append_nil] at hscan
  rw [String.toList_ofList, hscan]
  simp [Token.scan?, Token.Mode.finish?, Tree.ofTokens?_tokens]

namespace Value

theorem ofText?_write {spacing : Spacing} (hspacing : spacing.IsBlank) {v : Value}
    (h : v.IsReadable maxDepth)
    : ofText? (String.ofList (v.write spacing 0)) = some v := by
  unfold ofText?
  rw [Tree.ofText?_write hspacing]
  exact Tree.value?_tree h

theorem ofText?_compact {v : Value} (h : v.IsReadable maxDepth) : ofText? v.compact = some v := by
  exact ofText?_write Spacing.isBlank_compact h

theorem ofText?_indented {v : Value} (h : v.IsReadable maxDepth)
    : ofText? v.indented = some v := by
  exact ofText?_write Spacing.isBlank_indented h

theorem isReadable_of_ofText? {text : String} {v : Value} (h : ofText? text = some v)
    : v.IsReadable maxDepth := by
  rcases Option.bind_eq_some_iff.1 h with ⟨tree, _, hvalue⟩
  exact Tree.isReadable_of_value? hvalue

end Value

end Mahjong.Json
