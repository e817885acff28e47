import Mahjong.Text.Split

/-!
This module contains facts about the parts of a divided text: put together with the separator
between them they are the text again, and none of them contains it. The same holds of what stands
before the first separator. It also contains what is read of a text as far as its characters have a
property.
-/

namespace Mahjong.Text

theorem splitAt_eq_splitOn (separator : Char) (text : List Char)
    : splitAt separator text = text.splitOn separator := by
  induction text with
  | nil => rfl
  | cons c rest ih =>
    have hne := List.splitOn_ne_nil separator rest
    rw [splitAt, List.splitOn_cons_eq_if_modifyHead, ih]
    simp only [beq_iff_eq]
    cases hparts : rest.splitOn separator with
    | nil => contradiction
    | cons part parts => rfl

theorem splitAt_ne_nil (separator : Char) (text : List Char) : splitAt separator text ≠ [] := by
  rw [splitAt_eq_splitOn]
  apply List.splitOn_ne_nil

theorem intercalate_splitAt (separator : Char) (text : List Char)
    : [separator].intercalate (splitAt separator text) = text := by
  rw [splitAt_eq_splitOn, List.intercalate_splitOn]

theorem splitAt_intercalate {separator : Char} {parts : List (List Char)} (hne : parts ≠ [])
    (hparts : ∀ part ∈ parts, separator ∉ part)
    : splitAt separator ([separator].intercalate parts) = parts := by
  rw [splitAt_eq_splitOn, List.splitOn_intercalate separator hparts hne]

theorem splitAt_append_cons (separator : Char) (text rest : List Char)
    : splitAt separator (text ++ separator :: rest)
        =
      splitAt separator text ++ splitAt separator rest := by
  simp only [splitAt_eq_splitOn]
  apply List.splitOn_append_cons_self

theorem splitAt_of_not_mem {separator : Char} {part : List Char} (h : separator ∉ part)
    : splitAt separator part = [part] := by
  rw [splitAt_eq_splitOn, List.splitOn_eq_singleton h]

/--
Induction on a text part by part.
-/
theorem parts_induction {separator : Char} {motive : List Char → Prop}
    (last : ∀ part, separator ∉ part → motive part)
    (cons : ∀ part rest, separator ∉ part → motive rest → motive (part ++ separator :: rest))
    (text : List Char)
    : motive text := by
  -- What was read of the first part stands before the text.
  suffices h : ∀ part, separator ∉ part → motive (part ++ text) from h [] List.not_mem_nil
  induction text with
  | nil =>
    intro part hpart
    rw [List.append_nil]
    exact last part hpart
  | cons c rest ih =>
    intro part hpart
    by_cases hc : c = separator
    . rw [hc]
      exact cons part rest hpart (ih [] List.not_mem_nil)
    . rw [List.append_cons]
      apply ih
      simp [hpart, Ne.symm hc]

/--
The characters of a part are characters of the text other than the separator.
-/
theorem mem_part {separator c : Char} {text part : List Char}
    (hpart : part ∈ splitAt separator text) (hc : c ∈ part)
    : c ∈ text ∧ c ≠ separator := by
  induction text generalizing part with
  | nil =>
    rw [splitAt, List.mem_singleton] at hpart
    rw [hpart] at hc
    contradiction
  | cons d rest ih =>
    rw [splitAt] at hpart
    split at hpart
    . rcases List.mem_cons.1 hpart with hpart | hpart
      . rw [hpart] at hc
        contradiction
      . rcases ih hpart hc with ⟨hmem, hne⟩
        exact ⟨List.mem_cons_of_mem d hmem, hne⟩
    . next hd =>
      split at hpart
      . next hparts => exact absurd hparts (splitAt_ne_nil separator rest)
      . next first parts hparts =>
        rw [hparts] at ih
        rcases List.mem_cons.1 hpart with hpart | hpart
        . rw [hpart] at hc
          rcases List.mem_cons.1 hc with hc | hc
          . rw [hc]
            exact ⟨List.mem_cons_self, hd⟩
          . rcases ih List.mem_cons_self hc with ⟨hmem, hne⟩
            exact ⟨List.mem_cons_of_mem d hmem, hne⟩
        . rcases ih (List.mem_cons_of_mem first hpart) hc with ⟨hmem, hne⟩
          exact ⟨List.mem_cons_of_mem d hmem, hne⟩

theorem splitFirst?_append_cons {separator : Char} {before : List Char} (h : separator ∉ before)
    (after : List Char)
    : splitFirst? separator (before ++ separator :: after) = some (before, after) := by
  induction before with
  | nil => simp [splitFirst?]
  | cons c before ih =>
    rw [List.mem_cons, not_or] at h
    rw [List.cons_append, splitFirst?, if_neg (Ne.symm h.1), ih h.2]
    rfl

theorem eq_append_of_splitFirst? {separator : Char} {text before after : List Char}
    (h : splitFirst? separator text = some (before, after))
    : text = before ++ separator :: after ∧ separator ∉ before := by
  induction text generalizing before with
  | nil => contradiction
  | cons c rest ih =>
    rw [splitFirst?] at h
    split at h
    . next hc =>
      cases h
      simp [hc]
    . next hc =>
      rcases Option.map_eq_some_iff.1 h with ⟨_, hrest, heq⟩
      cases heq
      rcases ih hrest with ⟨htext, hfree⟩
      simp [← htext, hfree, Ne.symm hc]

theorem dropWhile_eq_self {p : Char → Bool} {text : List Char} (h : ¬text.head?.any p)
    : text.dropWhile p = text := by
  cases text with
  | nil => rfl
  | cons c rest =>
    apply List.dropWhile_cons_of_neg
    simpa using h

section

variable {p : Char → Bool} {text rest : List Char} (htext : ∀ c ∈ text, p c)
  (hrest : ¬rest.head?.any p)
include htext hrest

theorem takeWhile_append : (text ++ rest).takeWhile p = text := by
  rw [List.takeWhile_append_of_pos htext]
  cases rest with
  | nil => rw [List.takeWhile_nil, List.append_nil]
  | cons c rest =>
    rw [List.takeWhile_cons_of_neg, List.append_nil]
    simpa using hrest

theorem dropWhile_append : (text ++ rest).dropWhile p = rest := by
  rw [List.dropWhile_append_of_pos htext, dropWhile_eq_self hrest]

end

theorem not_any_head?_dropWhile (p : Char → Bool) (text : List Char)
    : ¬(text.dropWhile p).head?.any p := by
  have hhead := List.head?_dropWhile_not p text
  cases h : (text.dropWhile p).head? with
  | none => simp
  | some c =>
    rw [h] at hhead
    simpa using hhead

theorem forall_mem_takeWhile (p : Char → Bool) (text : List Char)
    : ∀ c ∈ text.takeWhile p, p c := by
  intro c hc
  exact List.all_eq_true.1 List.all_takeWhile c hc

end Mahjong.Text
