import Mahjong.Proofs.Text.Split
import Mahjong.Text.Blank

/-!
This module contains what is left of a text without the blanks at its ends: the one part of it that
neither begins nor ends with a blank and has nothing but blanks before and behind it.
-/

namespace Mahjong.Text

def IsTrimmed (text : List Char) : Prop :=
  ¬text.head?.any isBlank ∧ ¬text.getLast?.any isBlank

theorem trimBlanks_append_takeWhile (text : List Char)
    : trimBlanks text ++ ((text.dropWhile isBlank).reverse.takeWhile isBlank).reverse
        =
      text.dropWhile isBlank := by
  unfold trimBlanks
  rw [← List.reverse_append, List.takeWhile_append_dropWhile, List.reverse_reverse]

theorem exists_trimBlanks (text : List Char)
    : ∃ before after,
        text = before ++ trimBlanks text ++ after ∧
        (∀ c ∈ before, isBlank c) ∧
        ∀ c ∈ after, isBlank c := by
  refine ⟨text.takeWhile isBlank, ((text.dropWhile isBlank).reverse.takeWhile isBlank).reverse, ?_,
    forall_mem_takeWhile isBlank text, ?_⟩
  . rw [List.append_assoc, trimBlanks_append_takeWhile, List.takeWhile_append_dropWhile]
  . intro c hc
    exact forall_mem_takeWhile isBlank _ c (List.mem_reverse.1 hc)

theorem isTrimmed_trimBlanks (text : List Char) : IsTrimmed (trimBlanks text) := by
  constructor
  . have hhead := not_any_head?_dropWhile isBlank text
    rw [← trimBlanks_append_takeWhile] at hhead
    cases htrim : trimBlanks text with
    | nil => simp
    | cons c rest =>
      rw [htrim] at hhead
      exact hhead
  . unfold trimBlanks
    rw [List.getLast?_reverse]
    apply not_any_head?_dropWhile

theorem trimBlanks_append {before core after : List Char} (hbefore : ∀ c ∈ before, isBlank c)
    (hcore : IsTrimmed core) (hafter : ∀ c ∈ after, isBlank c)
    : trimBlanks (before ++ core ++ after) = core := by
  unfold trimBlanks
  cases core with
  | nil =>
    -- Nothing stops the blanks here, so that they are all taken from the front.
    rw [List.append_nil, List.dropWhile_append_of_pos hbefore,
      ← List.append_nil after, dropWhile_append hafter (by simp)]
    rfl
  | cons c rest =>
    have hreverse : ∀ d ∈ after.reverse, isBlank d := by
      intro d hd
      exact hafter d (List.mem_reverse.1 hd)
    have hhead : ¬(c :: rest ++ after).head?.any isBlank := hcore.1
    have hlast : ¬(c :: rest).reverse.head?.any isBlank := by
      rw [List.head?_reverse]
      exact hcore.2
    rw [List.append_assoc, dropWhile_append hbefore hhead, List.reverse_append,
      dropWhile_append hreverse hlast, List.reverse_reverse]

theorem trimBlanks_of_isTrimmed {text : List Char} (h : IsTrimmed text)
    : trimBlanks text = text := by
  have heq := @trimBlanks_append [] text [] (by simp) h (by simp)
  simpa using heq

/--
Blanks behind a text do not count.
-/
theorem trimBlanks_append_blanks (text : List Char) {blanks : List Char}
    (hblanks : ∀ c ∈ blanks, isBlank c)
    : trimBlanks (text ++ blanks) = trimBlanks text := by
  rcases exists_trimBlanks text with ⟨before, after, heq, hbefore, hafter⟩
  conv =>
    lhs
    rw [heq, List.append_assoc]
  apply trimBlanks_append hbefore (isTrimmed_trimBlanks text)
  rw [List.forall_mem_append]
  exact ⟨hafter, hblanks⟩

end Mahjong.Text
