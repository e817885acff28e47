import Mahjong.Proofs.Json.Outline

/-!
This module contains that a compact text stands on one line. Control characters are only written as
escapes, whatever is in the strings of a value.
-/

namespace Mahjong.Json

theorem le_toNat_of_mem_hexPadded (width n : Nat)
    : ∀ c ∈ Text.hexPadded width n, 32 ≤ c.toNat := by
  have hdigit : ∀ m < 16, 32 ≤ m.digitChar.toNat := by
    decide
  induction width generalizing n with
  | zero => simp [Text.hexPadded]
  | succ width ih =>
    unfold Text.hexPadded
    rw [List.forall_mem_append, List.forall_mem_singleton]
    exact ⟨ih (n / 16), hdigit (n % 16) (by omega)⟩

theorem le_toNat_of_escaped? {letter : Char} {n : Nat}
    (h : Token.Mode.escaped? letter = some n)
    : 32 ≤ letter.toNat := by
  unfold Token.Mode.escaped? at h
  split at h
  any_goals decide
  contradiction

theorem le_toNat_of_mem_escapeChar (c : Char) : ∀ d ∈ escapeChar c, 32 ≤ d.toNat := by
  rcases escapeChar_cases c with ⟨letter, heq, _, hletter⟩ | ⟨_, heq⟩ | ⟨_, _, hcontrol, heq⟩
  . simp [heq, le_toNat_of_escaped? hletter]
  . simp only [heq, List.forall_mem_cons]
    exact ⟨by decide, by decide, le_toNat_of_mem_hexPadded 4 c.toNat⟩
  . simpa [heq] using hcontrol

theorem le_toNat_of_mem_writeString (s : String) : ∀ c ∈ writeString s, 32 ≤ c.toNat := by
  unfold writeString
  simp only [List.cons_append, List.forall_mem_cons, List.forall_mem_append]
  refine ⟨by decide, ?_, by simp⟩
  intro c hc
  rcases List.mem_flatMap.1 hc with ⟨d, _, hd⟩
  exact le_toNat_of_mem_escapeChar d c hd

theorem Outline.IsPlain.le_toNat {c : Char} (h : IsPlain c) : 32 ≤ c.toNat := by
  unfold IsPlain at h
  omega

mutual

theorem le_toNat_of_mem_write (level : Nat) (v : Value)
    : ∀ c ∈ v.write .compact level, 32 ≤ c.toNat := by
  cases v with
  | null => simp [Value.write]
  | bool b =>
    cases b with
    | false => simp [Value.write]
    | true => simp [Value.write]
  | int n =>
    unfold Value.write
    intro c hc
    exact (Outline.isPlain_of_mem_writeInt n c hc).le_toNat
  | float x =>
    unfold Value.write
    intro c hc
    exact (Outline.isPlain_of_mem_writeFloat x c hc).le_toNat
  | string s =>
    unfold Value.write
    exact le_toNat_of_mem_writeString s
  | array elements =>
    cases elements with
    | nil => simp [Value.write]
    | cons v rest =>
      have hv := le_toNat_of_mem_write (level + 1) v
      have hrest := le_toNat_of_mem_writeElements (level + 1) rest
      simpa [Value.write, Spacing.compact, or_imp, forall_and] using ⟨hv, hrest⟩
  | object members =>
    cases members with
    | nil => simp [Value.write]
    | cons member rest =>
      rcases member with ⟨key, v⟩
      have hkey := le_toNat_of_mem_writeString key
      have hv := le_toNat_of_mem_write (level + 1) v
      have hrest := le_toNat_of_mem_writeMembers (level + 1) rest
      simpa [Value.write, Spacing.compact, or_imp, forall_and] using ⟨hkey, hv, hrest⟩

theorem le_toNat_of_mem_writeElements (level : Nat) (elements : List Value)
    : ∀ c ∈ writeElements .compact level elements, 32 ≤ c.toNat := by
  cases elements with
  | nil => simp [writeElements]
  | cons v rest =>
    have hv := le_toNat_of_mem_write level v
    have hrest := le_toNat_of_mem_writeElements level rest
    simpa [writeElements, Spacing.compact, or_imp, forall_and] using ⟨hv, hrest⟩

theorem le_toNat_of_mem_writeMembers (level : Nat) (members : List (String × Value))
    : ∀ c ∈ writeMembers .compact level members, 32 ≤ c.toNat := by
  cases members with
  | nil => simp [writeMembers]
  | cons member rest =>
    rcases member with ⟨key, v⟩
    have hkey := le_toNat_of_mem_writeString key
    have hv := le_toNat_of_mem_write level v
    have hrest := le_toNat_of_mem_writeMembers level rest
    simpa [writeMembers, Spacing.compact, or_imp, forall_and] using ⟨hkey, hv, hrest⟩

end

theorem newline_not_mem_compact (v : Value) : '\n' ∉ v.compact.toList := by
  unfold Value.compact
  rw [String.toList_ofList]
  intro h
  exact absurd (le_toNat_of_mem_write 0 v '\n' h) (by decide)

end Mahjong.Json
